import ObjectListing.Proofs.Listing.Course

/-!
Following a walk along its course. A property of the walk and of what it gave out that every turn keeps
(`Walk.Kept`), whatever page a turn brings, holds all along the course, and of the last walk when the
listing is over (`Course.Follows`).
-/

namespace ObjectListing

/-- Whether every turn of a walk keeps `I`, which is about the walk and what it gave out, but for the
turns that bring a page. -/
structure Walk.Kept (I : Walk → List ObjectEntry → Prop) : Prop where
  enter : ∀ {w : Walk} {given : List ObjectEntry} {f : Frame} {e : ObjectEntry}
    {rest : List ObjectEntry} {outer : List Frame}, I w given → w.stack = f :: outer →
    f.pending = e :: rest → w.selection.enters e = true →
    I { w with stack := { under := e.key } :: { f with pending := rest } :: outer } given
  give : ∀ {w : Walk} {given : List ObjectEntry} {f : Frame} {e : ObjectEntry}
    {rest : List ObjectEntry} {outer : List Frame}, I w given →
    w.selection.reached w.emitted = false → w.stack = f :: outer → f.pending = e :: rest →
    w.selection.enters e = false → w.selection.emits e = true →
    I { w with stack := { f with pending := rest } :: outer, emitted := w.emitted + 1 }
      (given ++ [e])
  skip : ∀ {w : Walk} {given : List ObjectEntry} {f : Frame} {e : ObjectEntry}
    {rest : List ObjectEntry} {outer : List Frame}, I w given → w.stack = f :: outer →
    f.pending = e :: rest → w.selection.enters e = false → w.selection.emits e = false →
    I { w with stack := { f with pending := rest } :: outer } given
  leave : ∀ {w : Walk} {given : List ObjectEntry} {f : Frame} {outer : List Frame}, I w given →
    w.stack = f :: outer → f.pending = [] → f.resume = .nothingLeft →
    I { w with stack := outer } given

namespace Course

variable {σ : Type} {l : Lister σ} {signal : StopSignal} {c : Course σ} {walk : Walk}
  {given : List ObjectEntry} {I : Walk → List ObjectEntry → Prop}

/-- Whether a course is at a walk of which `I` holds, or came from there to its end. -/
structure Follows (I : Walk → List ObjectEntry → Prop) (c : Course σ) (walk : Walk)
    (given : List ObjectEntry) : Prop where
  items : c.items = given.map .object
  stage : c.stage = .underway (.walking walk) ∨
    (c.stage = .ended none ∧ (walk.selection.reached walk.emitted = true ∨ walk.stack = [])) ∨
    ∃ e, c.stage = .ended (some e)
  holds : I walk given

/-- What a course follows does not hang on the world around it. -/
theorem Follows.within (h : Follows I c walk given) (change : World σ → World σ) :
    Follows I (c.within change) walk given :=
  ⟨h.items, h.stage, h.holds⟩

theorem Follows.imp {J : Walk → List ObjectEntry → Prop} (h : Follows I c walk given)
    (hIJ : I walk given → J walk given) : Follows J c walk given :=
  ⟨h.items, h.stage, hIJ h.holds⟩

/-- One turn keeps what the turns of a walk keep, if the page that it may bring keeps it. -/
theorem Follows.turn (h : Follows I c walk given) (hkept : Walk.Kept I)
    (hreceive : ∀ {f outer page w}, c.stage = .underway (.walking walk) →
      walk.selection.reached walk.emitted = false → walk.stack = f :: outer → f.pending = [] →
      f.resume ≠ .nothingLeft →
      Listing.pageCall l signal (walk.requestFor f) c.world = (.ok page, w) →
      I { walk with stack := ⟨f.under, page.entries, .ofNext page.next⟩ :: outer } given) :
    ∃ walk' given', Follows I (c.step l signal) walk' given' := by
  rcases h.stage with hstage | ⟨hstage, -⟩ | ⟨e, hstage⟩
  · have hwalked := step_walked l signal hstage
    generalize c.step l signal = next at hwalked ⊢
    cases hwalked with
    | finished hfinished =>
      exact ⟨walk, given, h.items, Or.inr (Or.inl ⟨rfl, hfinished⟩), h.holds⟩
    | enter _ hstack hpending henters =>
      exact ⟨_, given, h.items, Or.inl rfl, hkept.enter h.holds hstack hpending henters⟩
    | give hreached hstack hpending henters hemits =>
      refine ⟨_, _, ?_, Or.inl rfl, hkept.give h.holds hreached hstack hpending henters hemits⟩
      rw [Course.items, List.filterMap_append, List.map_append, ← h.items]
      rfl
    | skip _ hstack hpending henters hemits =>
      exact ⟨_, given, h.items, Or.inl rfl, hkept.skip h.holds hstack hpending henters hemits⟩
    | leave _ hstack hpending hresume =>
      exact ⟨_, given, h.items, Or.inl rfl, hkept.leave h.holds hstack hpending hresume⟩
    | refused _ _ _ _ _ _ =>
      refine ⟨walk, given, ?_, Or.inr (Or.inr ⟨_, rfl⟩), h.holds⟩
      simpa [Course.items] using h.items
    | received hreached hstack hpending hresume hpage _ =>
      refine ⟨_, given, ?_, Or.inl rfl,
        hreceive hstage hreached hstack hpending hresume hpage⟩
      simpa [Course.items] using h.items
  · rw [step_ended hstage]
    exact ⟨walk, given, h⟩
  · rw [step_ended hstage]
    exact ⟨walk, given, h⟩

end Course

end ObjectListing
