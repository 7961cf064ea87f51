import ObjectListing.Proofs.Listing.Course

/-!
Stores that do not look at the size of pages. `Backend.SizeBlind` says that the answers to a sequence of
requests are the same whatever sizes the requests ask for. Two worlds that differ in what such a store was
asked for, and in the events so far, are alike to a listing (`World.Alike`): its calls get the same
answers, in the same number of attempts (`Listing.pageCall_alike`).
-/

namespace ObjectListing

variable {σ : Type}

/-! ### The answers of a store -/

namespace Backend

/-- The answers to requests made one after another; where time counts, also which of them stop the caller
or let it wait. -/
def replies (b : Backend σ) (timed : Bool) :
    List PageRequest → σ → List (Except StoreError Page × Option (Bool × Bool))
  | [], _ => []
  | request :: rest, s =>
    let r := b.listObjects request s
    (r.answer, if timed then some (r.stops, r.waits) else none) :: b.replies timed rest r.store

/-- Whether two states of a store give the same answers, whatever sizes are asked for. -/
def Same (b : Backend σ) (timed : Bool) (s t : σ) : Prop :=
  ∀ requests requests', requests.map PageRequest.sizeless = requests'.map PageRequest.sizeless →
    b.replies timed requests s = b.replies timed requests' t

/-- A store whose answers do not hang on the sizes that are asked for. -/
def SizeBlind (b : Backend σ) (timed : Bool) : Prop := ∀ s, b.Same timed s s

variable {b : Backend σ} {timed : Bool} {s t : σ} {request request' : PageRequest}

/-- What a call to states comes to that give the same answers. -/
theorem Same.reply (h : b.Same timed s t) (hr : request.sizeless = request'.sizeless) :
    (b.listObjects request s).answer = (b.listObjects request' t).answer ∧
      (timed = true →
        (b.listObjects request s).stops = (b.listObjects request' t).stops ∧
        (b.listObjects request s).waits = (b.listObjects request' t).waits) ∧
      b.Same timed (b.listObjects request s).store (b.listObjects request' t).store := by
  refine ⟨?_, ?_, fun requests requests' hrs => ?_⟩
  · have hone := h [request] [request'] (by rw [List.map_singleton, List.map_singleton, hr])
    exact congrArg Prod.fst (List.cons.inj hone).1
  · rintro rfl
    have hone := h [request] [request'] (by rw [List.map_singleton, List.map_singleton, hr])
    have htime := Option.some.inj (congrArg Prod.snd (List.cons.inj hone).1)
    exact ⟨congrArg Prod.fst htime, congrArg Prod.snd htime⟩
  · have hmore := h (request :: requests) (request' :: requests')
      (by rw [List.map_cons, List.map_cons, hr, hrs])
    exact (List.cons.inj hmore).2

end Backend

/-! ### Worlds that are alike -/

/-- Worlds that a listing can not tell apart: the stores give the same answers, and time and chance are
the same, or the listing is never stopped. -/
structure World.Alike (b : Backend σ) (timed : Bool) (signal : StopSignal) (w v : World σ) : Prop where
  store : b.Same timed w.store v.store
  calls : w.callTimes.length = v.callTimes.length
  time : timed = true → w.clock = v.clock ∧ w.sharedSignal = v.sharedSignal ∧
    w.waitEndsFirst = v.waitEndsFirst ∧ w.dice = v.dice
  unstopped : timed = false → w.stopAt signal = none ∧ v.stopAt signal = none

/-- A store that stops its callers only if time counts. -/
def Backend.Quiet (b : Backend σ) (timed : Bool) : Prop :=
  timed = false → ∀ request s, (b.listObjects request s).stops = false

namespace World.Alike

variable {b : Backend σ} {timed : Bool} {signal : StopSignal} {w v : World σ}
  {request request' : PageRequest}

theorem report (h : Alike b timed signal w v) (e e' : Event) :
    Alike b timed signal (w.report e) (v.report e') :=
  ⟨h.store, h.calls, h.time, h.unstopped⟩

theorem stopAt_eq (h : Alike b timed signal w v) : w.stopAt signal = v.stopAt signal := by
  cases timed with
  | true => rw [World.stopAt, World.stopAt, (h.time rfl).2.1]
  | false => rw [(h.unstopped rfl).1, (h.unstopped rfl).2]

theorem isStopped_eq (h : Alike b timed signal w v) : w.isStopped signal = v.isStopped signal := by
  cases timed with
  | true => rw [World.isStopped, World.isStopped, h.stopAt_eq, (h.time rfl).1]
  | false =>
    rw [isStopped_eq_false (h.unstopped rfl).1, isStopped_eq_false (h.unstopped rfl).2]

/-- Calls that ask for the same get the same answers and leave the worlds alike. -/
theorem call (h : Alike b timed signal w v) (hquiet : b.Quiet timed)
    (hr : request.sizeless = request'.sizeless) :
    (w.call (b.listObjects request)).1 = (v.call (b.listObjects request')).1 ∧
      Alike b timed signal (w.call (b.listObjects request)).2
        (v.call (b.listObjects request')).2 := by
  obtain ⟨hanswer, htime, hstore⟩ := h.store.reply hr
  refine ⟨hanswer, ?_, ?_, ?_, ?_⟩
  · rw [store_call, store_call]
    exact hstore
  · rw [callTimes_call, callTimes_call, List.length_cons, List.length_cons, h.calls]
  · intro htimed
    obtain ⟨hstops, hwaits⟩ := htime htimed
    obtain ⟨hclock, hshared, hfirst, hdice⟩ := h.time htimed
    have hclock' : (w.call (b.listObjects request)).2.clock =
        (v.call (b.listObjects request')).2.clock := by
      rw [clock_call, clock_call, hwaits, hclock]
    refine ⟨hclock', ?_, ?_, ?_⟩
    · rw [sharedSignal_call, sharedSignal_call, hstops, hshared, hclock']
    · rw [waitEndsFirst_call, waitEndsFirst_call, hfirst]
    · rw [dice_call, dice_call, hdice]
  · intro htimed
    rw [stopAt_call (hquiet htimed request w.store), stopAt_call (hquiet htimed request' v.store)]
    exact h.unstopped htimed

/-- Waits of the same length come to the same in worlds that are alike. -/
theorem wait (h : Alike b timed signal w v) {milliseconds milliseconds' : Nat}
    (hlength : timed = true → milliseconds = milliseconds') :
    (w.wait milliseconds signal).1 = (v.wait milliseconds' signal).1 ∧
      Alike b timed signal (w.wait milliseconds signal).2 (v.wait milliseconds' signal).2 := by
  have hstop := h.stopAt_eq
  obtain ⟨clock, hw⟩ := wait_eq milliseconds signal w
  obtain ⟨clock', hv⟩ := wait_eq milliseconds' signal v
  cases htimed : timed with
  | false =>
    obtain ⟨hwstop, hvstop⟩ := h.unstopped htimed
    subst htimed
    refine ⟨by rw [wait_fst hwstop, wait_fst hvstop], ?_⟩
    rw [hw, hv]
    exact ⟨h.store, h.calls, fun hno => absurd hno (by decide), fun _ => ⟨hwstop, hvstop⟩⟩
  | true =>
    subst htimed
    cases hlength rfl
    obtain ⟨hclock, hshared, hfirst, hdice⟩ := h.time rfl
    have hend : w.waitEnd milliseconds = v.waitEnd milliseconds := by
      rw [waitEnd, waitEnd, hclock]
    have hpair : (w.wait milliseconds signal).1 = (v.wait milliseconds signal).1 ∧
        (w.wait milliseconds signal).2.clock = (v.wait milliseconds signal).2.clock := by
      rw [World.wait, World.wait, hstop, hend, hclock, hfirst]
      cases v.stopAt signal with
      | none => exact ⟨rfl, rfl⟩
      | some tick =>
        dsimp only
        split
        · exact ⟨rfl, rfl⟩
        · exact ⟨rfl, rfl⟩
    refine ⟨hpair.1, ?_⟩
    have hclocks := hpair.2
    rw [hw, hv] at hclocks ⊢
    exact ⟨h.store, h.calls, fun _ => ⟨hclocks, hshared, hfirst, hdice⟩,
      fun hno => absurd hno (by decide)⟩

theorem draw (h : Alike b timed signal w v) (most : Nat) :
    (timed = true → (w.draw most).1 = (v.draw most).1) ∧
      Alike b timed signal (w.draw most).2 (v.draw most).2 := by
  refine ⟨fun htimed => ?_, h.store, h.calls, fun htimed => ?_, h.unstopped⟩
  · rw [World.draw, World.draw, (h.time htimed).2.2.2]
  · obtain ⟨hclock, hshared, hfirst, hdice⟩ := h.time htimed
    exact ⟨hclock, hshared, hfirst, congrArg List.tail hdice⟩

/-- Pauses after a failed attempt come to the same in worlds that are alike. -/
theorem rest (h : Alike b timed signal w v) (p : RetryPolicy) (operation : String) (failed : Nat)
    (e : StoreError) :
    (Retry.rest p operation signal failed e w).1 = (Retry.rest p operation signal failed e v).1 ∧
      Alike b timed signal (Retry.rest p operation signal failed e w).2
        (Retry.rest p operation signal failed e v).2 := by
  obtain ⟨hdraw, hdrawn⟩ := h.draw (p.jitterRange failed)
  rw [Retry.rest, Retry.rest]
  refine (hdrawn.report _ _).wait ?_
  intro htimed
  rw [Retry.pause, Retry.pause, hdraw htimed]

end World.Alike

/-! ### Calls under retries -/

namespace Retry

variable {b : Backend σ} {timed : Bool} {signal : StopSignal} {p : RetryPolicy} {operation : String}
  {request request' : PageRequest}

theorem inStep_alike (b : Backend σ) (timed : Bool) (p : RetryPolicy) (operation : String)
    (signal : StopSignal) : InStep p operation signal signal (World.Alike b timed signal) where
  isStopped halike := halike.isStopped_eq.symm
  report _ halike := halike.report _ _
  rest {w w' v failed e ended} halike hrest := by
    obtain ⟨hended, hrested⟩ := halike.rest p operation failed e
    rw [hrest] at hended hrested
    exact ⟨(rest p operation signal failed e v).2, Prod.ext hended.symm rfl, hrested⟩

/-- Calls under retries that ask for the same come to the same. -/
theorem Ran.alike (hquiet : b.Quiet timed) (hr : request.sizeless = request'.sizeless)
    {left failed : Nat} {w : World σ} {r : Except StoreError Page × World σ}
    (h : Ran p operation signal (b.listObjects request) left failed w r) {v : World σ}
    (halike : World.Alike b timed signal w v) :
    ∃ v', Ran p operation signal (b.listObjects request') left failed v (r.1, v') ∧
      World.Alike b timed signal r.2 v' := by
  have hcall {w v : World σ} (halike : World.Alike b timed signal w v) (answer : Except StoreError Page)
      (w' : World σ) (hc : w.call (b.listObjects request) = (answer, w')) :
      ∃ v', v.call (b.listObjects request') = (answer, v') ∧ World.Alike b timed signal w' v' := by
    obtain ⟨hanswer, hcalled⟩ := halike.call hquiet hr
    rw [hc] at hanswer hcalled
    exact ⟨(v.call (b.listObjects request')).2, Prod.ext hanswer.symm rfl, hcalled⟩
  obtain ⟨⟨answer, v'⟩, hran, rfl, hlast⟩ := h.inStep (inStep_alike b timed p operation signal)
    (fun r r' => r'.1 = r.1 ∧ World.Alike b timed signal r.2 r'.2) (fun halike => ⟨rfl, halike⟩)
    (fun halike _ => Or.inl (hcall halike)) halike
  exact ⟨v', hran, hlast⟩

theorem call_alike (hquiet : b.Quiet timed) (hr : request.sizeless = request'.sizeless)
    {w v w' : World σ} {answer : Except StoreError Page} (h : World.Alike b timed signal w v)
    (hcall : call p operation signal (b.listObjects request) w = (answer, w')) :
    ∃ v', call p operation signal (b.listObjects request') v = (answer, v') ∧
      World.Alike b timed signal w' v' := by
  have hran : Ran p operation signal (b.listObjects request) (p.attempts - 1) 0 w (answer, w') :=
    hcall ▸ attempt_ran _ _ w
  obtain ⟨v', hran', halike⟩ := hran.alike hquiet hr h
  exact ⟨v', hran'.attempt_eq, halike⟩

end Retry

/-- Calls for the same page come to the same, in the same number of attempts. -/
theorem Listing.pageCall_alike {l : Lister σ} {timed : Bool} {signal : StopSignal} {w v w' : World σ}
    {request request' : PageRequest} {answer : Except StoreError Page}
    (hquiet : l.backend.Quiet timed) (hr : request.sizeless = request'.sizeless)
    (h : World.Alike l.backend timed signal w v)
    (hpage : pageCall l signal request w = (answer, w')) :
    ∃ v', pageCall l signal request' v = (answer, v') ∧
      World.Alike l.backend timed signal w' v' :=
  Retry.call_alike hquiet hr (h.report _ _) hpage

end ObjectListing
