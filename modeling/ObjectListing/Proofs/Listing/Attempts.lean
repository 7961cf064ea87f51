import ObjectListing.Proofs.Listing.SideBySide
import ObjectListing.Proofs.Listing.Truncation

/-!
The attempts of a listing: in which turn each call to the store is made, and at which tick it starts. They are
as many as the calls, and the milliseconds of their ticks are the ones that the world records
(`Course.callTimes_amid`).
-/

namespace ObjectListing

variable {σ α : Type}

namespace Retry

/-- The ticks at which the attempts at a call start, whose earlier `failed` attempts failed and which has
`left` attempts after this one. -/
def starts (p : RetryPolicy) (operation : String) (signal : StopSignal) (f : σ → Reply σ α) :
    (left failed : Nat) → World σ → List Tick
  | left, failed, w =>
    if w.isStopped signal then []
    else
      w.clock :: match w.call f with
        | (.ok _, _) => []
        | (.error e, w) =>
          if !e.isTransient then []
          else
            match left with
            | 0 => []
            | left + 1 =>
              match rest p operation signal failed e w with
              | (true, w) => starts p operation signal f left (failed + 1) w
              | (false, _) => []
  termination_by structural left => left

section Starts

variable {p : RetryPolicy} {operation : String} {signal : StopSignal} {f : σ → Reply σ α}
  {left failed : Nat} {w w' w'' : World σ} {e : StoreError}

/-- The first attempt is made at once unless it is stopped, and others after it by what it came to. -/
theorem starts_eq (p : RetryPolicy) (operation : String) (signal : StopSignal) (f : σ → Reply σ α)
    (left failed : Nat) (w : World σ) : starts p operation signal f left failed w =
      if w.isStopped signal then []
      else
        w.clock :: match w.call f with
          | (.ok _, _) => []
          | (.error e, w) =>
            if !e.isTransient then []
            else
              match left with
              | 0 => []
              | left + 1 =>
                match rest p operation signal failed e w with
                | (true, w) => starts p operation signal f left (failed + 1) w
                | (false, _) => [] := by
  rw [starts]

theorem starts_stopped (hstop : w.isStopped signal = true) :
    starts p operation signal f left failed w = [] := by
  rw [starts_eq, if_pos hstop]

/-- An attempt is made at once unless it is stopped. -/
theorem exists_starts_eq_cons (p : RetryPolicy) (operation : String) (f : σ → Reply σ α)
    (left failed : Nat) (hstop : w.isStopped signal = false) :
    ∃ later, starts p operation signal f left failed w = w.clock :: later := by
  rw [starts_eq, if_neg (by simp [hstop])]
  exact ⟨_, rfl⟩

theorem starts_answered {value : α} (hstop : w.isStopped signal = false)
    (hcall : w.call f = (.ok value, w')) : starts p operation signal f left failed w = [w.clock] := by
  rw [starts_eq, hstop, hcall]
  rfl

theorem starts_refused (hstop : w.isStopped signal = false) (hcall : w.call f = (.error e, w'))
    (hfinal : e.isTransient = false) : starts p operation signal f left failed w = [w.clock] := by
  rw [starts_eq, hstop, hcall]
  simp [hfinal]

theorem starts_exhausted (hstop : w.isStopped signal = false) (hcall : w.call f = (.error e, w')) :
    starts p operation signal f 0 failed w = [w.clock] := by
  rw [starts_eq, hstop, hcall]
  simp

theorem starts_interrupted (hstop : w.isStopped signal = false) (hcall : w.call f = (.error e, w'))
    (hrest : rest p operation signal failed e w' = (false, w'')) :
    starts p operation signal f (left + 1) failed w = [w.clock] := by
  rw [starts_eq, hstop, hcall]
  simp [hrest]

theorem starts_again (hstop : w.isStopped signal = false) (hcall : w.call f = (.error e, w'))
    (htransient : e.isTransient = true) (hrest : rest p operation signal failed e w' = (true, w'')) :
    starts p operation signal f (left + 1) failed w =
      w.clock :: starts p operation signal f left (failed + 1) w'' := by
  rw [starts_eq, hstop, hcall]
  simp [htransient, hrest]

/-- The attempts start when the world records them. -/
theorem Ran.callTimes_eq {r : Except StoreError α × World σ}
    (h : Ran p operation signal f left failed w r) : r.2.callTimes =
      ((starts p operation signal f left failed w).map Tick.millisecond).reverse ++ w.callTimes := by
  have hone {w w' : World σ} {answer : Except StoreError α} (hc : w.call f = (answer, w')) :
      w'.callTimes = w.now :: w.callTimes := by
    rw [show w' = (w.call f).2 by rw [hc], World.callTimes_call]
  induction h with
  | stopped hstop => rw [starts_stopped hstop]; rfl
  | answered hstop hc => rw [starts_answered hstop hc, hone hc]; rfl
  | refused hstop hc hfinal =>
    have hmade := hone hc
    rw [starts_refused hstop hc hfinal]
    split <;> exact hmade
  | exhausted hstop hc _ => rw [starts_exhausted hstop hc, World.callTimes_report, hone hc]; rfl
  | interrupted hstop hc _ hrest =>
    rw [starts_interrupted hstop hc hrest, callTimes_rest hrest, hone hc]
    rfl
  | again hstop hc htransient hrest _ ih =>
    rw [starts_again hstop hc htransient hrest, ih, callTimes_rest hrest, hone hc, List.map_cons,
      List.reverse_cons, List.append_assoc]
    rfl

theorem callTimes_call_eq (p : RetryPolicy) (operation : String) (signal : StopSignal)
    (f : σ → Reply σ α) (w : World σ) : (call p operation signal f w).2.callTimes =
      ((starts p operation signal f (p.attempts - 1) 0 w).map Tick.millisecond).reverse ++
        w.callTimes :=
  (attempt_ran _ _ w : Ran p operation signal f (p.attempts - 1) 0 w _).callTimes_eq

end Starts

section Journal

variable {p : RetryPolicy} {operation : String} {signal : StopSignal} {f : σ → Reply σ α}

theorem call_journal (f : σ → Reply σ α) (w : World σ) (journal : List Event) :
    ∃ journal', World.call f { w with journal } =
      ((w.call f).1, { (w.call f).2 with journal := journal' }) := by
  rw [World.call, World.call]
  dsimp only
  split
  · exact ⟨_, rfl⟩
  · exact ⟨_, rfl⟩

theorem wait_journal (milliseconds : Nat) (s : StopSignal) (w : World σ) (journal : List Event) :
    World.wait milliseconds s { w with journal } =
      ((w.wait milliseconds s).1, { (w.wait milliseconds s).2 with journal }) := by
  have hstop : World.stopAt { w with journal } s = w.stopAt s := rfl
  have hend : World.waitEnd { w with journal } milliseconds = w.waitEnd milliseconds := rfl
  rw [World.wait, World.wait, hstop, hend]
  cases w.stopAt s with
  | none => rfl
  | some tick =>
    dsimp only
    split
    · rfl
    · rfl

theorem rest_journal (p : RetryPolicy) (operation : String) (signal : StopSignal) (failed : Nat)
    (e : StoreError) (w : World σ) (journal : List Event) :
    ∃ journal', rest p operation signal failed e { w with journal } =
      ((rest p operation signal failed e w).1,
        { (rest p operation signal failed e w).2 with journal := journal' }) := by
  let pausing := (w.draw (p.jitterRange failed)).2.report
    (.backingOff operation (failed + 1) e (pause p failed w))
  let journal' := .backingOff operation (failed + 1) e (pause p failed w) :: journal
  have hrest : rest p operation signal failed e { w with journal } =
      World.wait (pause p failed w) signal { pausing with journal := journal' } := rfl
  rw [hrest, wait_journal]
  exact ⟨journal', rfl⟩

/-- The events so far do not matter to when attempts start. -/
theorem starts_journal : ∀ (left failed : Nat) (w : World σ) (journal : List Event),
    starts p operation signal f left failed { w with journal } =
      starts p operation signal f left failed w
  | left, failed, w, journal => by
    have hstop : World.isStopped { w with journal } signal = w.isStopped signal := rfl
    obtain ⟨journal', hcall⟩ := call_journal f w journal
    rw [starts_eq, starts_eq, hstop, hcall]
    cases w.isStopped signal with
    | true => rfl
    | false =>
      match w.call f with
      | (.ok value, w') => rfl
      | (.error e, w') =>
        match left with
        | 0 => rfl
        | left + 1 =>
          obtain ⟨journal'', hrest⟩ := rest_journal p operation signal failed e w' journal'
          dsimp only
          rw [hrest]
          match rest p operation signal failed e w' with
          | (false, w'') => rfl
          | (true, w'') =>
            dsimp only
            rw [starts_journal left (failed + 1) w'' journal'']

end Journal

end Retry

namespace Listing

/-- The ticks at which the calls of the next turn start. -/
def starts (l : Lister σ) (signal : StopSignal) (listing : Listing) (w : World σ) : List Tick :=
  match listing.call? w.moment with
  | some .listBuckets =>
    Retry.starts l.config.retry "list_buckets" signal l.backend.listBuckets
      (l.config.retry.attempts - 1) 0 w
  | some (.listObjects request) =>
    Retry.starts l.config.retry "list_objects" signal (l.backend.listObjects request)
      (l.config.retry.attempts - 1) 0 w
  | _ => []

variable {l : Lister σ} {signal : StopSignal} {listing : Listing} {w : World σ}

theorem starts_pageCall (request : PageRequest) :
    (pageCall l signal request w).2.callTimes =
      ((Retry.starts l.config.retry "list_objects" signal (l.backend.listObjects request)
        (l.config.retry.attempts - 1) 0 w).map Tick.millisecond).reverse ++ w.callTimes := by
  rw [pageCall, Retry.callTimes_call_eq, World.report, Retry.starts_journal]

theorem starts_opened (request : ListRequest) :
    (begin l signal request w).world.callTimes =
      ((starts l signal (.opened request) w).map Tick.millisecond).reverse ++ w.callTimes := by
  rw [begin_eq_opens, starts, call?_opened l.config.pageSize]
  cases hopens : opens l.config.pageSize request w.moment with
  | refused e => rfl
  | settled filter rest => rfl
  | asking filter =>
    have hopening : opening l request filter w =
        { w with journal := (opening l request filter w).journal } := rfl
    dsimp only
    rw [Turn.world_ofBuckets, bucketCall, Retry.callTimes_call_eq, hopening, Retry.starts_journal]

/-- The calls of a turn start when the world records them. -/
theorem callTimes_turn (l : Lister σ) (signal : StopSignal) (listing : Listing) (w : World σ) :
    (turn l signal listing w).world.callTimes =
      ((starts l signal listing w).map Tick.millisecond).reverse ++ w.callTimes := by
  cases listing with
  | opened request => exact starts_opened request
  | buckets rest selection emitted =>
    cases rest with
    | nil => rfl
    | cons b rest =>
      rw [turn]
      split
      · rfl
      · rfl
  | walking walk =>
    rw [starts, call?]
    cases hstep : walk.step with
    | finished => rw [turn_finished hstep]; rfl
    | emit e rest => rw [turn_emit hstep]; rfl
    | pass events rest => rw [turn_pass hstep]; rfl
    | ask request waiting =>
      rw [turn_ask hstep, Turn.callTimes_ofPage]
      exact starts_pageCall request

end Listing

/-- An attempt at a call of a listing: the turn in which it is made, its number, both counted from zero, and
the tick at which it starts. -/
structure Attempt where
  turn : Nat
  number : Nat
  start : Tick
  deriving DecidableEq

namespace Attempt

/-- Attempts that are made in a turn, one after another. -/
def inTurn (turn : Nat) : (number : Nat) → List Tick → List Attempt
  | _, [] => []
  | number, start :: rest => ⟨turn, number, start⟩ :: inTurn turn (number + 1) rest

theorem map_start_inTurn (turn : Nat) : ∀ (number : Nat) (ticks : List Tick),
    (inTurn turn number ticks).map start = ticks
  | _, [] => rfl
  | number, tick :: rest => congrArg (tick :: ·) (map_start_inTurn turn (number + 1) rest)

@[simp] theorem length_inTurn (turn number : Nat) (ticks : List Tick) :
    (inTurn turn number ticks).length = ticks.length := by
  rw [← List.length_map start, map_start_inTurn]

end Attempt

namespace Course

/-- The ticks at which the calls of the next turn start. -/
def starts (l : Lister σ) (signal : StopSignal) (c : Course σ) : List Tick :=
  match c.stage with
  | .underway listing => listing.starts l signal c.world
  | .ended _ => []

/-- The attempts that are made in so many turns, where the world changes before each of them. -/
def attempts (l : Lister σ) (signal : StopSignal) (change : Nat → World σ → World σ) :
    (turns : Nat) → Course σ → List Attempt
  | 0, _ => []
  | turns + 1, c =>
    let before := attempts l signal change turns c
    before ++ Attempt.inTurn turns before.length
      (starts l signal ((amid l signal change turns c).within (change turns)))

variable {l : Lister σ} {signal : StopSignal} {c : Course σ}

theorem callTimes_step (l : Lister σ) (signal : StopSignal) (c : Course σ) :
    (step l signal c).world.callTimes =
      ((c.starts l signal).map Tick.millisecond).reverse ++ c.world.callTimes := by
  rw [step, starts]
  cases c.stage with
  | ended failure => rfl
  | underway listing =>
    have hturn := Listing.callTimes_turn l signal listing c.world
    dsimp only
    cases h : Listing.turn l signal listing c.world with
    | item item rest w => rwa [h] at hturn
    | going rest w => rwa [h] at hturn
    | failed e w => rwa [h] at hturn
    | ended w => rwa [h] at hturn

/-- The attempts start when the world records the calls. -/
theorem callTimes_amid (l : Lister σ) (signal : StopSignal) {change : Nat → World σ → World σ}
    (hchange : ∀ n w, (change n w).callTimes = w.callTimes) (turns : Nat) (c : Course σ) :
    (amid l signal change turns c).world.callTimes =
      ((attempts l signal change turns c).map fun a => a.start.millisecond).reverse ++
        c.world.callTimes := by
  induction turns with
  | zero => rfl
  | succ turns ih =>
    have hmap (number : Nat) (ticks : List Tick) :
        (Attempt.inTurn turns number ticks).map (fun a => a.start.millisecond) =
          ticks.map Tick.millisecond := by
      rw [← Attempt.map_start_inTurn turns number ticks, List.map_map, Attempt.map_start_inTurn]
      rfl
    have hworld : ((amid l signal change turns c).within (change turns)).world.callTimes =
        (amid l signal change turns c).world.callTimes := hchange _ _
    rw [amid, callTimes_step, hworld, ih, attempts, List.map_append, List.reverse_append, hmap,
      List.append_assoc]

theorem length_calls_step (l : Lister σ) (signal : StopSignal) (c : Course σ) :
    (step l signal c).calls.length = c.calls.length + (c.starts l signal).length := by
  obtain ⟨stage, w, deeds⟩ := c
  cases stage with
  | ended failure => rfl
  | underway listing =>
    obtain ⟨k, hcount, hcalls⟩ := Listing.exists_asks l signal listing w
    have hmade : (Listing.starts l signal listing w).length = k := by
      rw [Listing.callTimes_turn, List.length_append, List.length_reverse, List.length_map] at hcount
      omega
    rw [starts, step]
    dsimp only
    rw [hcalls, hmade]
    cases Listing.turn l signal listing w with
    | item item rest w => simp [calls]
    | going rest w => simp [calls]
    | failed e w => simp [calls]
    | ended w => simp [calls]

/-- There are as many attempts as calls. -/
theorem length_attempts (l : Lister σ) (signal : StopSignal) {change : Nat → World σ → World σ}
    (turns : Nat) (request : ListRequest) (w : World σ) :
    (attempts l signal change turns (start request w)).length =
      (amid l signal change turns (start request w)).calls.length := by
  induction turns with
  | zero => rfl
  | succ turns ih =>
    rw [attempts, amid, length_calls_step, List.length_append, Attempt.length_inTurn, ih]
    rfl

end Course

end ObjectListing
