import ObjectListing.Listing.Walk

/-!
What one turn of a walk comes to, by what is on its stack: one equation for each kind of turn. Proofs about
walks use these and leave `Walk.step` closed.
-/

namespace ObjectListing

namespace Walk

/-- The page that a walk asks for in a frame. -/
def requestFor (w : Walk) (f : Frame) : PageRequest :=
  ⟨w.bucket, f.under, f.resume.token?, w.selection.pageSize w.configured w.emitted⟩

variable {w : Walk} {f : Frame} {e : ObjectEntry} {rest : List ObjectEntry} {outer : List Frame}

/-- Enough is given out, or every prefix is left. -/
theorem step_eq_finished (h : w.selection.reached w.emitted = true ∨ w.stack = []) :
    w.step = .finished := by
  rw [step]
  rcases h with hreached | hstack
  · rw [if_pos hreached]
  · rw [hstack]
    split
    · rfl
    · rfl

theorem step_eq_enter (hreached : w.selection.reached w.emitted = false)
    (hstack : w.stack = f :: outer) (hpending : f.pending = e :: rest)
    (henters : w.selection.enters e = true) :
    w.step = .pass [.descending e.key (outer.length + 1)]
      { w with stack := { under := e.key } :: { f with pending := rest } :: outer } := by
  rw [step, hreached, if_neg Bool.false_ne_true, hstack]
  dsimp only
  rw [hpending]
  dsimp only
  rw [if_pos henters]
  rfl

theorem step_eq_give (hreached : w.selection.reached w.emitted = false)
    (hstack : w.stack = f :: outer) (hpending : f.pending = e :: rest)
    (henters : w.selection.enters e = false) (hemits : w.selection.emits e = true) :
    w.step = .emit e
      { w with stack := { f with pending := rest } :: outer, emitted := w.emitted + 1 } := by
  rw [step, hreached, if_neg Bool.false_ne_true, hstack]
  dsimp only
  rw [hpending]
  dsimp only
  rw [henters, if_neg Bool.false_ne_true, if_pos hemits]

theorem step_eq_skip (hreached : w.selection.reached w.emitted = false)
    (hstack : w.stack = f :: outer) (hpending : f.pending = e :: rest)
    (henters : w.selection.enters e = false) (hemits : w.selection.emits e = false) :
    w.step = .pass [] { w with stack := { f with pending := rest } :: outer } := by
  rw [step, hreached, if_neg Bool.false_ne_true, hstack]
  dsimp only
  rw [hpending]
  dsimp only
  rw [henters, if_neg Bool.false_ne_true, hemits, if_neg Bool.false_ne_true]

theorem step_eq_leave (hreached : w.selection.reached w.emitted = false)
    (hstack : w.stack = f :: outer) (hpending : f.pending = [])
    (hresume : f.resume = .nothingLeft) : w.step = .pass [] { w with stack := outer } := by
  rw [step, hreached, if_neg Bool.false_ne_true, hstack]
  dsimp only
  rw [hpending]
  dsimp only
  rw [hresume]

/-- A walk that has nothing left to look at asks for the next page of its innermost frame. -/
theorem step_eq_ask (hreached : w.selection.reached w.emitted = false)
    (hstack : w.stack = f :: outer) (hpending : f.pending = [])
    (hresume : f.resume ≠ .nothingLeft) : w.step = .ask (w.requestFor f) w := by
  rw [step, hreached, if_neg Bool.false_ne_true, hstack]
  dsimp only
  rw [hpending, requestFor]
  dsimp only
  cases hr : f.resume with
  | nothingLeft => exact absurd hr hresume
  | fromStart => rfl
  | after t => rfl

/-- A walk that asks for a page asks for it in its innermost prefix. -/
theorem exists_frame_of_ask {waiting : Walk} {request : PageRequest}
    (h : w.step = .ask request waiting) :
    ∃ f outer, w.stack = f :: outer ∧ request = w.requestFor f := by
  cases hreached : w.selection.reached w.emitted with
  | true =>
    rw [step_eq_finished (Or.inl hreached)] at h
    cases h
  | false =>
    cases hstack : w.stack with
    | nil =>
      rw [step_eq_finished (Or.inr hstack)] at h
      cases h
    | cons f outer =>
      refine ⟨f, outer, rfl, ?_⟩
      cases hpending : f.pending with
      | cons e rest =>
        cases henters : w.selection.enters e with
        | true =>
          rw [step_eq_enter hreached hstack hpending henters] at h
          cases h
        | false =>
          cases hemits : w.selection.emits e with
          | true =>
            rw [step_eq_give hreached hstack hpending henters hemits] at h
            cases h
          | false =>
            rw [step_eq_skip hreached hstack hpending henters hemits] at h
            cases h
      | nil =>
        by_cases hresume : f.resume = .nothingLeft
        · rw [step_eq_leave hreached hstack hpending hresume] at h
          cases h
        · rw [step_eq_ask hreached hstack hpending hresume] at h
          cases h
          rfl

theorem receive_eq (h : w.stack = f :: outer) (page : Page) : w.receive page =
    { w with stack := ⟨f.under, page.entries, .ofNext page.next⟩ :: outer } := by
  rw [receive, h]

end Walk

end ObjectListing
