import ObjectListing.Proofs.Listing.History
import ObjectListing.Proofs.Listing.SideBySide
import ObjectListing.Proofs.Store.Numbered

/-!
Listings over a store that breaks. The store answers as another one does, until its call number `k` is answered
with a failure for good (`Backend.brokenAt`). A listing that makes fewer calls does not notice; any other
gives out what it would give out before that call, and ends with the failure (`Course.run_brokenAt`). The
calls of a listing of one bucket are all for pages; one of all buckets asks for them alone.
-/

namespace ObjectListing

variable {σ α : Type}

/-- What becomes of a reply when call number `k`, counted from one, is answered with a failure. -/
def breaking (k : Nat) (e : StoreError) (α : Type) (n : Nat) (_ : σ) (r : Reply σ α) : Reply σ α :=
  if n + 1 = k then { r with answer := .error e } else r

/-- A store whose call number `k`, counted from one, is answered with a failure. -/
def Backend.brokenAt (k : Nat) (e : StoreError) (b : Backend σ) : Backend (σ × Nat) :=
  b.numbered (breaking k e)

theorem breaking_store (k : Nat) (e : StoreError) (n : Nat) (s : σ) (r : Reply σ α) :
    (breaking k e α n s r).store = r.store := by
  rw [breaking]
  split <;> rfl

theorem breaking_waits (k : Nat) (e : StoreError) (n : Nat) (s : σ) (r : Reply σ α) :
    (breaking k e α n s r).waits = r.waits := by
  rw [breaking]
  split <;> rfl

namespace World

/-- Worlds around a store and around the same store that is to break at call number `k`. -/
structure Unbroken (base k : Nat) (w : World σ) (v : World (σ × Nat)) : Prop extends
    Beside base w v where
  shared : v.sharedSignal = w.sharedSignal
  ahead : v.store.2 < k

/-- Worlds around a store that had its call number `k`, and around the same store that broke at it. -/
structure Broken (base k : Nat) (e : StoreError) (w : World σ) (e' : StoreError)
    (v : World (σ × Nat)) : Prop where
  failure : e' = e
  passed : base + k ≤ w.callTimes.length
  reached : v.callTimes.length = base + k

namespace Unbroken

variable {base k : Nat} {e : StoreError} {w w' : World σ} {v : World (σ × Nat)} {s : StopSignal}
  {f : σ → Reply σ α} {answer : Except StoreError α}

theorem stopAt_eq (h : Unbroken base k w v) : v.stopAt s = w.stopAt s := by
  rw [stopAt, stopAt, h.shared]

theorem isStopped_eq (h : Unbroken base k w v) : v.isStopped s = w.isStopped s := by
  rw [isStopped, isStopped, h.stopAt_eq, h.clock]

theorem report (h : Unbroken base k w v) (e e' : Event) :
    Unbroken base k (w.report e) (v.report e') :=
  ⟨h.toBeside.report e e', h.shared, h.ahead⟩

theorem draw (h : Unbroken base k w v) (most : Nat) :
    Unbroken base k (w.draw most).2 (v.draw most).2 :=
  ⟨h.toBeside.draw most, h.shared, h.ahead⟩

theorem rest (h : Unbroken base k w v) (p : RetryPolicy) (operation : String) (failed : Nat)
    (e : StoreError) {ended : Bool}
    (hrest : Retry.rest p operation s failed e w = (ended, w')) :
    ∃ v', Retry.rest p operation s failed e v = (ended, v') ∧ Unbroken base k w' v' := by
  obtain ⟨hended, hbeside⟩ := h.toBeside.rest h.stopAt_eq p operation failed e
  rw [hrest] at hended hbeside
  have hrest' : Retry.rest p operation s failed e v =
      (ended, (Retry.rest p operation s failed e v).2) := Prod.ext hended rfl
  refine ⟨_, hrest', hbeside, ?_, ?_⟩
  · rw [Retry.sharedSignal_rest hrest', Retry.sharedSignal_rest hrest, h.shared]
  · rw [Retry.store_rest hrest']
    exact h.ahead

/-- A call before the one at which the store breaks. -/
theorem call (h : Unbroken base k w v) (hcall : w.call f = (answer, w')) (hk : v.store.2 + 1 ≠ k) :
    ∃ v', v.call (numbering (breaking k e) f) = (answer, v') ∧ Unbroken base k w' v' := by
  have hbeside := h.toBeside.call f (breaking_store (α := α) k e) (breaking_waits k e)
  have hreply : numbering (breaking k e) f v.store = (f w.store).counted (v.store.2 + 1) := by
    rw [numbering, breaking, if_neg hk, h.store]
  have hanswer : (f w.store).answer = answer := by rw [← call_fst, hcall]
  have hw' : w' = (w.call f).2 := by rw [hcall]
  rw [← hw'] at hbeside
  refine ⟨(v.call (numbering (breaking k e) f)).2, ?_, hbeside, ?_, ?_⟩
  · refine Prod.ext ?_ rfl
    rw [call_fst, hreply]
    exact hanswer
  · rw [hw', sharedSignal_call, sharedSignal_call, ← hw', hbeside.clock, hreply, h.shared]
    rfl
  · rw [store_call, hreply]
    exact Nat.lt_of_le_of_ne h.ahead hk

/-- The call at which the store breaks. -/
theorem call_breaks (h : Unbroken base k w v) (hk : v.store.2 + 1 = k) :
    ∃ v', v.call (numbering (breaking k e) f) = (.error e, v') ∧
      v'.callTimes.length = base + k := by
  refine ⟨(v.call (numbering (breaking k e) f)).2, ?_, ?_⟩
  · refine Prod.ext ?_ rfl
    rw [call_fst, numbering, breaking, if_pos hk]
    rfl
  · rw [callTimes_call, List.length_cons, h.made, ← hk]
    rfl

end Unbroken

end World

namespace Retry

open World

variable {p : RetryPolicy} {operation : String} {signal : StopSignal} {f : σ → Reply σ α}
  {base k : Nat} {e : StoreError}

/-- A call under retries whose next attempt is the one at which the store breaks. -/
theorem Ran.broken_here (he : e.isTransient = false) {left failed : Nat} {w : World σ}
    {r : Except StoreError α × World σ} (h : Ran p operation signal f left failed w r)
    (hstop : w.isStopped signal = false) {v : World (σ × Nat)} (hv : Unbroken base k w v)
    (hk : v.store.2 + 1 = k) :
    ∃ r', Ran p operation signal (numbering (breaking k e) f) left failed v r' ∧
      SideBySide (Unbroken base k) (Broken base k e) r r' := by
  obtain ⟨v', hcall, hreached⟩ := hv.call_breaks (e := e) (f := f) hk
  refine ⟨_, .refused (hv.isStopped_eq.trans hstop) hcall he, .cut ⟨rfl, ?_, ?_⟩⟩
  · have hmade := h.callTimes_lt hstop
    rw [← hv.calls, hv.made] at hmade
    omega
  · split <;> exact hreached

theorem inStep_unbroken (p : RetryPolicy) (operation : String) (signal : StopSignal) (base k : Nat) :
    InStep (σ := σ) p operation signal signal (Unbroken base k) where
  isStopped hv := hv.isStopped_eq
  report _ hv := hv.report _ _
  rest hv hrest := hv.rest _ _ _ _ hrest

/-- A call under retries comes to the same over a store that breaks, or it ends with the failure. -/
theorem Ran.broken (he : e.isTransient = false) {left failed : Nat} {w : World σ}
    {r : Except StoreError α × World σ} (h : Ran p operation signal f left failed w r)
    {v : World (σ × Nat)} (hv : Unbroken base k w v) :
    ∃ r', Ran p operation signal (numbering (breaking k e) f) left failed v r' ∧
      SideBySide (Unbroken base k) (Broken base k e) r r' := by
  refine h.inStep (inStep_unbroken p operation signal base k) _ .same (fun {w v} hv hstop => ?_) hv
  by_cases hk : v.store.2 + 1 = k
  · exact Or.inr fun _ _ _ hran => hran.broken_here he hstop hv hk
  · exact Or.inl fun _ _ hc => hv.call hc hk

theorem call_broken (he : e.isTransient = false) {w : World σ} {v : World (σ × Nat)}
    (hv : Unbroken base k w v) :
    SideBySide (Unbroken base k) (Broken base k e) (call p operation signal f w)
      (call p operation signal (numbering (breaking k e) f) v) := by
  have hran : Ran p operation signal f (p.attempts - 1) 0 w (call p operation signal f w) :=
    attempt_ran _ _ w
  obtain ⟨r', hran', hpair⟩ := hran.broken he hv
  have hcall : call p operation signal (numbering (breaking k e) f) v = r' := hran'.attempt_eq
  rwa [hcall]

end Retry

namespace Course

open World

/-- How a course over a store that is to break is to the plain one after as many turns: it is the same, or
it ended with the failure, after the calls and the items up to the one at which the store broke. -/
inductive Breaks (base k : Nat) (e : StoreError) (p : Course σ) (q : Course (σ × Nat)) : Prop
  | abreast : q.stage = p.stage → q.deeds = p.deeds → Unbroken base k p.world q.world →
      q.world.store.2 = p.calls.length → Breaks base k e p q
  | broken : q.stage = .ended (some e) → k ≤ p.calls.length →
      q.items = (Deed.untilCall (k - 1) p.deeds).filterMap Deed.item? →
      q.calls = p.calls.take k → Breaks base k e p q

variable {l : Lister σ} {signal : StopSignal} {base k : Nat} {e : StoreError} {p : Course σ}
  {q : Course (σ × Nat)}

theorem heedless_broken (base k : Nat) (e : StoreError) :
    Listing.Heedless (σ := σ) (Unbroken base k) (Broken base k e) where
  both _ _ h := ⟨⟨⟨h.clock, h.epoch, h.first, h.dice, h.calls⟩, h.store, h.made⟩, h.shared, h.ahead⟩
  cut _ h := ⟨h.failure, h.passed, h.reached⟩

/-- A course that ended with the failure stays so beside the plain one, whatever that goes on to do. -/
theorem Breaks.later {p' : Course σ} {more : List Deed} (hstage : q.stage = .ended (some e))
    (hcalls : k ≤ p.calls.length)
    (hitems : q.items = (Deed.untilCall (k - 1) p.deeds).filterMap Deed.item?)
    (hasked : q.calls = p.calls.take k) (hk : 1 ≤ k) (hmore : p'.deeds = p.deeds ++ more) :
    Breaks base k e p' q := by
  have hlater : p'.calls = p.calls ++ more.filterMap Deed.call? := by
    rw [calls, hmore, List.filterMap_append, calls]
  refine .broken hstage ?_ ?_ ?_
  · rw [hlater, List.length_append]
    exact Nat.le_add_right_of_le hcalls
  · have hbefore : k - 1 < (p.deeds.filterMap Deed.call?).length := Nat.sub_one_lt_of_le hk hcalls
    rw [hitems, hmore, Deed.untilCall_append_of_lt hbefore]
  · rw [hasked, hlater, List.take_append_of_le_length hcalls]

/-- The turn in which the store breaks: of the attempts at its call, the plain course makes `m` and the other
one as many as there are up to call number `k`. -/
theorem Breaks.cut {p' : Course σ} {q' : Course (σ × Nat)} {call : StoreCall} {m m' : Nat}
    (hdeeds : q.deeds = p.deeds) (hahead : p.calls.length < k) (hmany : k ≤ p.calls.length + m)
    (hlast : p.calls.length + m' = k) (hstage : q'.stage = .ended (some e))
    (hp : p'.deeds = p.deeds ++ List.replicate m (.asked call))
    (hq : q'.deeds = q.deeds ++ List.replicate m' (.asked call)) : Breaks base k e p' q' := by
  have hplain : p'.calls = p.calls ++ List.replicate m call := by
    rw [calls, hp, List.filterMap_append, filterMap_call?_replicate, calls]
  refine .broken hstage ?_ ?_ ?_
  · rw [hplain, List.length_append, List.length_replicate]
    exact hmany
  · have hbefore : (p.deeds.filterMap Deed.call?).length ≤ k - 1 := Nat.le_sub_one_of_lt hahead
    have hrest : k - 1 - (p.deeds.filterMap Deed.call?).length ≤ m := by
      rw [calls] at hmany
      omega
    rw [hp, Deed.untilCall_append_of_le hbefore, Deed.untilCall_replicate call hrest, items, hq, hdeeds]
    simp only [List.filterMap_append, filterMap_item?_replicate]
  · have hmade : m' = min (k - p.calls.length) m := by omega
    rw [hplain, List.take_append, List.take_of_length_le (Nat.le_of_lt hahead), List.take_replicate,
      ← hmade, calls, hq, hdeeds, List.filterMap_append, filterMap_call?_replicate, calls]

/-- One turn of both. -/
theorem Breaks.step (he : e.isTransient = false) (hk : 1 ≤ k) (h : Breaks base k e p q) :
    Breaks base k e (p.step l signal) (q.step (l.wrapped (Backend.brokenAt k e)) signal) := by
  cases h with
  | broken hstage hcalls hitems hasked =>
    obtain ⟨more, hmore⟩ := step_deeds l signal p
    rw [step_ended hstage]
    exact .later hstage hcalls hitems hasked hk hmore
  | abreast hstage hdeeds hworlds hcount =>
    have hpaired : Paired (Unbroken base k) (Broken base k e) p q (p.step l signal)
        (q.step (l.wrapped (Backend.brokenAt k e)) signal) := by
      refine step_paired (heedless_broken base k e) rfl hstage (fun _ _ => hworlds.moment_eq)
        (fun _ => hworlds) ?_ ?_
      · intro _ journal journal'
        exact Retry.call_broken he ((heedless_broken base k e).both journal journal' hworlds)
      · intro request _
        exact Retry.call_broken he (hworlds.report _ _)
    have hbase : q.world.callTimes.length = base + p.calls.length := by rw [hworlds.made, hcount]
    have hbase' : p.world.callTimes.length = base + p.calls.length := by rw [← hworlds.calls, hbase]
    have hahead : p.calls.length < k := hcount ▸ hworlds.ahead
    generalize p.step l signal = p' at hpaired
    generalize q.step (l.wrapped (Backend.brokenAt k e)) signal = q' at hpaired
    cases hpaired with
    | @same stage w v call m m' given hboth hm hm' hgiven =>
      have hsame : m' = m := by
        rw [hboth.calls, hm] at hm'
        omega
      refine .abreast rfl (by rw [hdeeds, hsame]) hboth ?_
      have hmade := hboth.made
      rw [hm', hbase] at hmade
      simp only [calls, List.filterMap_append, filterMap_call?_replicate, hgiven,
        List.append_nil, List.length_append, List.length_replicate] at hmade ⊢
      omega
    | @cut stage w e' v call m m' hcut hm hm' =>
      have hmany := hcut.passed
      have hfew := hcut.reached
      rw [hm, hbase', Nat.add_assoc] at hmany
      rw [hm', hbase, Nat.add_assoc] at hfew
      exact .cut hdeeds hahead (Nat.le_of_add_le_add_left hmany) (Nat.add_left_cancel hfew)
        (by rw [hcut.failure]) rfl rfl

/-- A course over a store that breaks, and the plain one. -/
theorem run_brokenAt (he : e.isTransient = false) (hk : 1 ≤ k) (l : Lister σ) (signal : StopSignal)
    (request : ListRequest) (w : World σ) (turns : Nat) :
    Breaks w.callTimes.length k e (run l signal turns (start request w))
      (run (l.wrapped (Backend.brokenAt k e)) signal turns (start request w.numbered)) := by
  induction turns with
  | zero => exact .abreast rfl rfl ⟨.numbered w, rfl, hk⟩ rfl
  | succ turns ih =>
    rw [run_succ', run_succ']
    exact ih.step he hk

end Course

/-- What the client lists of a store that breaks at its call number `k`: everything if it makes fewer calls, and
else the items that come before that call, and the failure, whether they are gathered or asked for one by
one, with no call after the one at which the store broke. -/
theorem Client.list_brokenAt (c : Client σ) (uri : Text) (options : ListOptions) (signal : StopSignal)
    (turns : Nat) (w : World σ) {l : Lister σ} {request : ListRequest} {c' : Client σ} {k : Nat}
    {e : StoreError} (hopen : c.openListing uri options = (.ok (l, .opened request), c'))
    (hk : 1 ≤ k) (he : e.isTransient = false) :
    let plain := Course.run l signal turns (.start request w)
    let broken := ((c.wrapped (Backend.brokenAt k e)).list uri options signal turns w.numbered).1
    let asked := Listing.asked (l.wrapped (Backend.brokenAt k e)) signal turns request w.numbered
    (plain.calls.length < k →
      broken.items = (c.list uri options signal turns w).1.items ∧
        broken.ending = (c.list uri options signal turns w).1.ending ∧ asked = plain.calls) ∧
      (k ≤ plain.calls.length →
        let before := (Deed.untilCall (k - 1) plain.deeds).filterMap Deed.item?
        broken.items = before ∧ broken.ending = .failed e ∧ asked = plain.calls.take k ∧
          ∀ count, (Session.pullMany turns count
              ⟨l.wrapped (Backend.brokenAt k e), signal, some (.opened request)⟩ w.numbered).1 =
            (Session.everything before (some e)).take count) := by
  have hbroken := Course.run_brokenAt he hk l signal request w turns
  rw [Client.list, Client.list, Client.openListing_wrapped, hopen]
  dsimp only [Except.map]
  rw [Course.collect_eq_run, Course.collect_eq_run, Listing.asked_eq]
  refine ⟨fun hfew => ?_, fun hmany => ?_⟩
  · cases hbroken with
    | broken _ hcalls _ _ => exact absurd hfew (Nat.not_lt.mpr hcalls)
    | abreast hstage hdeeds _ _ =>
      refine ⟨?_, congrArg Stage.ending hstage, ?_⟩
      · rw [Course.gathered, Course.gathered, Course.items, hdeeds, Course.items]
      · rw [Course.calls, hdeeds, Course.calls]
  · cases hbroken with
    | abreast _ _ hworlds hcount =>
      have hahead := hworlds.ahead
      rw [hcount] at hahead
      exact absurd hmany (Nat.not_le.mpr hahead)
    | broken hstage _ hitems hasked =>
      refine ⟨hitems, congrArg Stage.ending hstage, hasked, fun count => ?_⟩
      have hnothing : (Course.start request w.numbered).items ++
          (Deed.untilCall (k - 1) (Course.run l signal turns (.start request w)).deeds).filterMap
            Deed.item? = _ := List.nil_append _
      exact Session.pullMany_of_ended (c := .start request w.numbered) (Nat.le_refl turns) rfl hstage
        (hitems.trans hnothing.symm)

/-- The second page of the bucket is refused, after the object in the directory and the one on the first
page were given out. -/
theorem Client.list_brokenAt_three :
    let c : Client Unit := { stores := .one (Lister.answering directoryAhead).backend }
    let w : World Unit := { store := () }
    let refusal := StoreError.accessDenied "no"
    let gathered := ((c.wrapped (Backend.brokenAt 3 refusal)).list "s3://b/".toList
      { recursive := true } {} 8 w.numbered).1
    gathered.items = [.object (.object ['a', '/', 'x'] 1 {}), .object (.object ['b'] 5 {})] ∧
      gathered.ending = .failed refusal := by
  obtain ⟨-, hmany⟩ := Client.list_brokenAt
    (k := 3) (e := .accessDenied "no") (l := .answering directoryAhead)
    { stores := .one (Lister.answering directoryAhead).backend } "s3://b/".toList
    { recursive := true } {} 8 { store := () } rfl (by decide) rfl
  obtain ⟨hitems, hending, -⟩ := hmany (by decide +kernel)
  exact ⟨hitems.trans (by decide +kernel), hending⟩

end ObjectListing
