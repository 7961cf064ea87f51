import ObjectListing.Proofs.Listing.Walk
import ObjectListing.Proofs.Store.MemoryPages

/-!
Why walks end. A walk through a bucket that does not change comes to its end, whatever is on its stack
(`MemoryBucket.halts`): a prefix that is entered is longer than the one that it is in, and no longer than
some key of the bucket; each page of a prefix leaves fewer of its entries unseen than the page before;
and each turn in between takes an entry from a page or a prefix from the stack.
-/

namespace ObjectListing

namespace Walk

/-- What a walk can go on to that gets its pages from `answer`. -/
inductive Next (answer : PageRequest → Page) (w : Walk) : Walk → Prop
  | enter {f : Frame} {e : ObjectEntry} {rest : List ObjectEntry} {outer : List Frame} :
      w.stack = f :: outer → f.pending = e :: rest →
      Next answer w { w with stack := { under := e.key } :: { f with pending := rest } :: outer }
  | give {f : Frame} {e : ObjectEntry} {rest : List ObjectEntry} {outer : List Frame} :
      w.stack = f :: outer → f.pending = e :: rest →
      Next answer w
        { w with stack := { f with pending := rest } :: outer, emitted := w.emitted + 1 }
  | skip {f : Frame} {e : ObjectEntry} {rest : List ObjectEntry} {outer : List Frame} :
      w.stack = f :: outer → f.pending = e :: rest →
      Next answer w { w with stack := { f with pending := rest } :: outer }
  | leave {f : Frame} {outer : List Frame} :
      w.stack = f :: outer → Next answer w { w with stack := outer }
  | receive {f : Frame} {outer : List Frame} :
      w.stack = f :: outer → f.pending = [] → f.resume ≠ .nothingLeft →
      Next answer w { w with
        stack := ⟨f.under, (answer (w.requestFor f)).entries,
          .ofNext (answer (w.requestFor f)).next⟩ :: outer }

/-- Whether a walk that gets its pages from `answer` comes to an end. -/
def Halts (answer : PageRequest → Page) (w : Walk) : Prop :=
  Acc (fun next w => Next answer w next) w

end Walk

namespace MemoryBucket

variable {b : MemoryBucket} {w : Walk} {outer : List Frame} {f : Frame}

/-- Whether walks with this stack come to an end, however many entries they gave out. -/
def Halting (b : MemoryBucket) (w : Walk) (stack : List Frame) : Prop :=
  ∀ emitted, Walk.Halts b.pageFor { w with stack, emitted }

/-- The number of pages that a frame can still ask for, at most. -/
def unseen (b : MemoryBucket) (f : Frame) : Nat :=
  match f.resume with
  | .nothingLeft => 0
  | resume => (ObjectEntry.after resume.token? (b.folded f.under)).length + 1

theorem unseen_of_ne (h : f.resume ≠ .nothingLeft) :
    b.unseen f = (ObjectEntry.after f.resume.token? (b.folded f.under)).length + 1 := by
  rw [unseen]
  split
  · contradiction
  · rfl

/-- A page leaves less to ask for. -/
theorem unseen_receive_lt {request : PageRequest} (h : f.resume ≠ .nothingLeft)
    (hunder : request.under = f.under) (htoken : request.token = f.resume.token?) :
    b.unseen ⟨f.under, (b.pageFor request).entries, .ofNext (b.pageFor request).next⟩ <
      b.unseen f := by
  rw [unseen_of_ne h, ← htoken, ← hunder]
  cases hnext : (b.pageFor request).next with
  | none => exact Nat.succ_pos _
  | some t => exact Nat.succ_lt_succ (length_after_next_lt hnext)

theorem halting_nil : b.Halting w [] := by
  refine fun emitted => Acc.intro _ ?_
  intro next hnext
  cases hnext with
  | enter hstack _ => cases hstack
  | give hstack _ => cases hstack
  | skip hstack _ => cases hstack
  | leave hstack => cases hstack
  | receive hstack _ _ => cases hstack

/-- A stack comes to its end if it does so after each turn that its innermost frame can make. -/
theorem halting_cons (houter : b.Halting w outer)
    (hrest : ∀ e rest, f.pending = e :: rest →
      b.Halting w ({ f with pending := rest } :: outer))
    (henter : ∀ e rest, f.pending = e :: rest →
      b.Halting w ({ under := e.key } :: { f with pending := rest } :: outer))
    (hreceive : ∀ request : PageRequest, f.pending = [] → f.resume ≠ .nothingLeft →
      request.under = f.under → request.token = f.resume.token? →
      b.Halting w
        (⟨f.under, (b.pageFor request).entries, .ofNext (b.pageFor request).next⟩ :: outer)) :
    b.Halting w (f :: outer) := by
  refine fun emitted => Acc.intro _ ?_
  intro next hnext
  cases hnext with
  | enter hstack hpending => cases hstack; exact henter _ _ hpending emitted
  | give hstack hpending => cases hstack; exact hrest _ _ hpending (emitted + 1)
  | skip hstack hpending => cases hstack; exact hrest _ _ hpending emitted
  | leave hstack => cases hstack; exact houter emitted
  | receive hstack hpending hresume =>
    cases hstack
    exact hreceive _ hpending hresume rfl rfl emitted

/-- A frame comes to its end if everything does that its entries lead into. -/
theorem halting_frame (houter : b.Halting w outer) (hinto : ∀ e : ObjectEntry,
      e ∈ f.pending ∨ e ∈ b.folded f.under → ∀ outer, b.Halting w outer →
      b.Halting w ({ under := e.key } :: outer)) :
    b.Halting w (f :: outer) := by
  -- first by the pages that are left to ask for, then by the entries of the latest page
  induction hn : b.unseen f using Nat.strong_induction_on generalizing f with
  | _ n ihpage =>
    obtain ⟨under, pending, resume⟩ := f
    induction pending with
    | nil =>
      refine halting_cons houter (by simp) (by simp) ?_
      intro request _ hresume hunder htoken
      refine ihpage _ (hn ▸ unseen_receive_lt hresume hunder htoken) (fun e he => ?_) rfl
      rcases he with he | he
      · obtain ⟨hfolded, -⟩ := mem_of_mem_pageFor he
        exact hinto e (Or.inr (mem_folded.mpr (hunder ▸ hfolded)))
      · exact hinto e (Or.inr he)
    | cons e rest ihrest =>
      have hrest : b.Halting w (⟨under, rest, resume⟩ :: outer) :=
        ihrest (fun d hd => hinto d (hd.imp_left (List.mem_cons_of_mem e))) hn
      refine halting_cons houter ?_ ?_ (by simp)
      · rintro _ _ ⟨⟩
        exact hrest
      · rintro _ _ ⟨⟩
        exact hinto e (Or.inl (List.mem_cons_self ..)) _ hrest

/-- A prefix that was just entered is left again: prefixes in it are longer, and they can not be longer
than all keys. -/
theorem halting_enter (n : Nat) : ∀ {under : Text} {outer : List Frame},
    (∀ o ∈ b.objects, o.key.length < under.length + n) → b.Halting w outer →
    b.Halting w ({ under } :: outer) := by
  induction n with
  | zero =>
    intro under outer hlong houter
    refine halting_frame houter ?_
    intro e he
    obtain ⟨o, ho, hfold⟩ := mem_folded.mp (he.resolve_left (by simp))
    have := hlong o ho
    have := hfold.oneLevel.length_lt.trans_le hfold.leadsTo.isPrefix.length_le
    dsimp only at this
    omega
  | succ n ih =>
    intro under outer hlong houter
    refine halting_frame houter fun e he outer' houter' => ih (fun o ho => ?_) houter'
    obtain ⟨p, -, hfold⟩ := mem_folded.mp (he.resolve_left (by simp))
    have := hlong o ho
    have := hfold.oneLevel.length_lt
    dsimp only at this
    omega

theorem exists_length_lt : ∀ objects : List StoredObject, ∃ n, ∀ o ∈ objects, o.key.length < n
  | [] => ⟨0, by simp⟩
  | p :: rest => by
    obtain ⟨n, hn⟩ := exists_length_lt rest
    refine ⟨max (p.key.length + 1) n, ?_⟩
    intro o ho
    rcases List.mem_cons.mp ho with rfl | ho
    · omega
    · have := hn o ho
      omega

/-- Every walk through a bucket that does not change comes to its end. -/
theorem halts (b : MemoryBucket) (w : Walk) : Walk.Halts b.pageFor w := by
  obtain ⟨n, hn⟩ := exists_length_lt b.objects
  have hall : ∀ stack, b.Halting w stack := by
    intro stack
    induction stack with
    | nil => exact halting_nil
    | cons f outer ih =>
      refine halting_frame ih fun e _ outer' houter' => halting_enter n (fun o ho => ?_) houter'
      exact Nat.lt_add_left _ (hn o ho)
  exact hall w.stack w.emitted

end MemoryBucket

end ObjectListing
