import Mathlib.Algebra.Order.BigOperators.Group.List
import Mathlib.Algebra.Order.Ring.Nat
import ObjectListing.Proofs.World
import ObjectListing.Proofs.Time.Tick
import ObjectListing.Proofs.Retry
import ObjectListing.Text.Digit

/-!
The lengths of pauses. Products and powers that stop at the largest number of 64 bits do not show in a pause: the
ceiling of the policy is a number of 64 bits, and what saturates is above it (`RetryPolicy.cappedBackoff_eq`). A
call under retries makes its pauses one after another (`Retry.pauses`); they are the ones that it reports
(`Retry.Ran.reported`), it takes no longer than they do (`Retry.Ran.now_le`), and there is one less than there are
attempts at most.
-/

namespace ObjectListing

/-! ### One pause -/

namespace RetryPolicy

variable {p q : RetryPolicy} {a b : Nat}

theorem saturatingPow2_of_lt (h : a < 64) : saturatingPow2 a = 2 ^ a := if_pos h

/-- A power of two that does not fit is above every number that fits. -/
theorem limit64_lt_two_pow (h : 64 ≤ a) : limit64 < 2 ^ a :=
  calc limit64 < 2 ^ 64 := by decide
    _ ≤ 2 ^ a := Nat.pow_le_pow_right Nat.two_pos h

/-- What stops at the largest number of 64 bits stops above every ceiling of 64 bits. -/
theorem min_saturatingMul {ceiling : Nat} (h : ceiling ≤ limit64) (a b : Nat) :
    min (saturatingMul a b) ceiling = min (a * b) ceiling := by
  rw [saturatingMul, Nat.min_assoc]
  exact congrArg (min (a * b)) (Nat.min_eq_right h)

/-- The pause is the exact power of the doubling, up to the ceiling. -/
theorem cappedBackoff_eq (hmax : p.maxBackoff ≤ limit64) (a : Nat) :
    p.cappedBackoff a = min (p.initialBackoff * 2 ^ a) p.maxBackoff := by
  rw [cappedBackoff, min_saturatingMul hmax]
  by_cases ha : a < 64
  · rw [saturatingPow2_of_lt ha]
  · -- both products are zero, or neither is below the ceiling
    rw [saturatingPow2, if_neg ha]
    rcases Nat.eq_zero_or_pos p.initialBackoff with hzero | hpos
    · rw [hzero, Nat.zero_mul, Nat.zero_mul]
    · have hexact : p.maxBackoff ≤ p.initialBackoff * 2 ^ a :=
        calc p.maxBackoff ≤ 2 ^ a := hmax.trans (limit64_lt_two_pow (Nat.le_of_not_lt ha)).le
          _ ≤ p.initialBackoff * 2 ^ a := Nat.le_mul_of_pos_left _ hpos
      have hstopped : p.maxBackoff ≤ p.initialBackoff * (Nat.pow 2 64 - 1) :=
        hmax.trans (Nat.le_mul_of_pos_left _ hpos)
      rw [Nat.min_eq_right hstopped, Nat.min_eq_right hexact]

theorem cappedBackoff_le (p : RetryPolicy) (a : Nat) : p.cappedBackoff a ≤ p.maxBackoff :=
  Nat.min_le_right ..

theorem saturatingPow2_mono (h : a ≤ b) : saturatingPow2 a ≤ saturatingPow2 b := by
  have hpow : 2 ^ a ≤ 2 ^ b := Nat.pow_le_pow_right Nat.two_pos h
  have hlimit (n : Nat) (hn : n < 64) : 2 ^ n ≤ Nat.pow 2 64 - 1 :=
    Nat.le_sub_one_of_lt (Nat.pow_lt_pow_right Nat.one_lt_two hn)
  rw [saturatingPow2, saturatingPow2]
  split <;> split
  · exact hpow
  · exact hlimit a ‹_›
  · omega
  · exact Nat.le_refl _

/-- A longer first pause, a higher ceiling and a later attempt do not make a pause shorter. -/
theorem cappedBackoff_mono (hinitial : p.initialBackoff ≤ q.initialBackoff)
    (hmax : p.maxBackoff ≤ q.maxBackoff) (h : a ≤ b) : p.cappedBackoff a ≤ q.cappedBackoff b := by
  have hproduct : p.initialBackoff * saturatingPow2 a ≤ q.initialBackoff * saturatingPow2 b :=
    Nat.mul_le_mul hinitial (saturatingPow2_mono h)
  rw [cappedBackoff, cappedBackoff, saturatingMul, saturatingMul]
  omega

theorem backoff_of_not_jitter (h : p.jitter = false) (a draw : Nat) :
    p.backoff a draw = p.cappedBackoff a := by
  rw [backoff, if_neg (by simp [h])]

/-- No pause is above the ceiling, whatever is drawn. -/
theorem backoff_le (p : RetryPolicy) (a draw : Nat) : p.backoff a draw ≤ p.maxBackoff := by
  rw [backoff]
  split
  · exact Nat.min_le_right ..
  · exact p.cappedBackoff_le a

/-- Jitter only makes a pause longer. -/
theorem cappedBackoff_le_backoff (hmax : p.maxBackoff ≤ limit64) (a draw : Nat) :
    p.cappedBackoff a ≤ p.backoff a draw := by
  have hcapped := p.cappedBackoff_le a
  rw [backoff]
  split
  · refine Nat.le_min.mpr ⟨Nat.le_min.mpr ⟨Nat.le_add_right .., hcapped.trans hmax⟩, hcapped⟩
  · exact Nat.le_refl _

/-- Jitter makes a pause longer by what is drawn at most. -/
theorem backoff_le_add (p : RetryPolicy) (a draw : Nat) :
    p.backoff a draw ≤ p.cappedBackoff a + draw := by
  rw [backoff]
  split
  · exact (Nat.min_le_left ..).trans (Nat.min_le_left ..)
  · exact Nat.le_add_right ..

end RetryPolicy

/-- The milliseconds of the pause that an event announces. -/
def Event.pause? : Event → Option Nat
  | backingOff _ _ _ milliseconds => some milliseconds
  | _ => none

namespace World

variable {σ α : Type}

theorem draw_le (most : Nat) (w : World σ) : (w.draw most).1 ≤ most := Nat.min_le_right ..

/-- The pauses that were announced so far. -/
def announced (w : World σ) : List Nat := w.events.filterMap Event.pause?

theorem announced_report (e : Event) (w : World σ) :
    (w.report e).announced = w.announced ++ e.pause?.toList := by
  rw [announced, events, report, List.reverse_cons, List.filterMap_append]
  cases h : e.pause? <;> simp [announced, events, h]

theorem announced_wait (milliseconds : Nat) (s : StopSignal) (w : World σ) :
    (w.wait milliseconds s).2.announced = w.announced := by
  obtain ⟨clock, hw⟩ := wait_eq milliseconds s w
  rw [hw]
  rfl

/-- A store that announces no pauses leaves the announced ones as they are. -/
theorem announced_call {f : σ → Reply σ α} (w : World σ)
    (hf : (f w.store).events.filterMap Event.pause? = []) : (w.call f).2.announced = w.announced := by
  have hjournal : (w.call f).2.journal = (f w.store).events.reverse ++ w.journal := by
    rw [call]
    dsimp only
    split <;> rfl
  rw [announced, events, hjournal, List.reverse_append, List.reverse_reverse, List.filterMap_append, hf,
    List.append_nil]
  rfl

/-- A call takes no time. -/
theorem now_call (f : σ → Reply σ α) (w : World σ) : (w.call f).2.now = w.now := by
  rw [now, clock_call]
  split <;> rfl

theorem now_waitEnd_le (milliseconds : Nat) (w : World σ) :
    (w.waitEnd milliseconds).millisecond ≤ w.now + milliseconds := by
  have hle : min milliseconds longestWait ≤ milliseconds := Nat.min_le_left ..
  rw [waitEnd, Tick.after]
  split
  · exact Nat.le_add_right ..
  · exact Nat.add_le_add_left hle _

/-- A wait takes no longer than it says. -/
theorem now_wait_le (milliseconds : Nat) (s : StopSignal) (w : World σ) :
    (w.wait milliseconds s).2.now ≤ w.now + milliseconds := by
  have hend := now_waitEnd_le milliseconds w
  rw [wait]
  split
  · exact hend
  · dsimp only
    split
    · exact hend
    · -- the signal is noticed by the end of the wait
      rename_i tick _ hnot
      rw [Tick.lt_iff] at hnot
      change (tick.later w.clock).millisecond ≤ _
      omega

end World

/-! ### The pauses of a call -/

namespace Retry

variable {σ α : Type}

/-- The pauses, in milliseconds, that a call makes whose earlier `failed` attempts failed and which has `left`
attempts after this one. The last one may be ended early. -/
def pauses (p : RetryPolicy) (operation : String) (signal : StopSignal) (f : σ → Reply σ α) :
    (left failed : Nat) → World σ → List Nat
  | left, failed, w =>
    if w.isStopped signal then []
    else
      match w.call f with
      | (.ok _, _) => []
      | (.error e, w) =>
        if !e.isTransient then []
        else
          match left with
          | 0 => []
          | left + 1 =>
            pause p failed w ::
              match rest p operation signal failed e w with
              | (true, w) => pauses p operation signal f left (failed + 1) w
              | (false, _) => []
  termination_by structural left => left

section Pauses

variable {p : RetryPolicy} {operation : String} {signal : StopSignal} {f : σ → Reply σ α}
  {left failed : Nat} {w w' w'' : World σ} {e : StoreError} {r : Except StoreError α × World σ}

/-- A pause comes after an attempt that failed and is not the last, and others after it by how it ended. -/
theorem pauses_eq (p : RetryPolicy) (operation : String) (signal : StopSignal) (f : σ → Reply σ α)
    (left failed : Nat) (w : World σ) : pauses p operation signal f left failed w =
      if w.isStopped signal then []
      else
        match w.call f with
        | (.ok _, _) => []
        | (.error e, w) =>
          if !e.isTransient then []
          else
            match left with
            | 0 => []
            | left + 1 =>
              pause p failed w ::
                match rest p operation signal failed e w with
                | (true, w) => pauses p operation signal f left (failed + 1) w
                | (false, _) => [] := by
  rw [pauses]

theorem pauses_stopped (hstop : w.isStopped signal = true) :
    pauses p operation signal f left failed w = [] := by
  rw [pauses_eq, if_pos hstop]

theorem pauses_answered {value : α} (hstop : w.isStopped signal = false)
    (hcall : w.call f = (.ok value, w')) : pauses p operation signal f left failed w = [] := by
  rw [pauses_eq, hstop, hcall]
  rfl

theorem pauses_refused (hstop : w.isStopped signal = false) (hcall : w.call f = (.error e, w'))
    (hfinal : e.isTransient = false) : pauses p operation signal f left failed w = [] := by
  rw [pauses_eq, hstop, hcall]
  simp [hfinal]

theorem pauses_exhausted (hstop : w.isStopped signal = false) (hcall : w.call f = (.error e, w')) :
    pauses p operation signal f 0 failed w = [] := by
  rw [pauses_eq, hstop, hcall]
  simp

theorem pauses_interrupted (hstop : w.isStopped signal = false) (hcall : w.call f = (.error e, w'))
    (htransient : e.isTransient = true)
    (hrest : rest p operation signal failed e w' = (false, w'')) :
    pauses p operation signal f (left + 1) failed w = [pause p failed w'] := by
  rw [pauses_eq, hstop, hcall]
  simp [htransient, hrest]

theorem pauses_again (hstop : w.isStopped signal = false) (hcall : w.call f = (.error e, w'))
    (htransient : e.isTransient = true) (hrest : rest p operation signal failed e w' = (true, w'')) :
    pauses p operation signal f (left + 1) failed w =
      pause p failed w' :: pauses p operation signal f left (failed + 1) w'' := by
  rw [pauses_eq, hstop, hcall]
  simp [htransient, hrest]

/-- There is a pause after each attempt but the last, at most. -/
theorem Ran.length_pauses_le (h : Ran p operation signal f left failed w r) :
    (pauses p operation signal f left failed w).length ≤ left := by
  induction h with
  | stopped hstop => rw [pauses_stopped hstop]; exact Nat.zero_le _
  | answered hstop hc => rw [pauses_answered hstop hc]; exact Nat.zero_le _
  | refused hstop hc hfinal => rw [pauses_refused hstop hc hfinal]; exact Nat.zero_le _
  | exhausted hstop hc _ => rw [pauses_exhausted hstop hc]; exact Nat.zero_le _
  | interrupted hstop hc htransient hrest =>
    rw [pauses_interrupted hstop hc htransient hrest]
    exact Nat.succ_le_succ (Nat.zero_le _)
  | again hstop hc htransient hrest _ ih =>
    rw [pauses_again hstop hc htransient hrest]
    exact Nat.succ_le_succ ih

/-- Each pause is the one of its attempt, for something that chance can draw. -/
theorem Ran.pause_eq (h : Ran p operation signal f left failed w r) :
    ∀ i milliseconds, (pauses p operation signal f left failed w)[i]? = some milliseconds →
      ∃ draw ≤ p.jitterRange (failed + i), milliseconds = p.backoff (failed + i) draw := by
  have hfirst (w' : World σ) (failed : Nat) :
      ∃ draw ≤ p.jitterRange failed, pause p failed w' = p.backoff failed draw :=
    ⟨_, World.draw_le _ w', rfl⟩
  induction h with
  | stopped hstop => rw [pauses_stopped hstop]; nofun
  | answered hstop hc => rw [pauses_answered hstop hc]; nofun
  | refused hstop hc hfinal => rw [pauses_refused hstop hc hfinal]; nofun
  | exhausted hstop hc _ => rw [pauses_exhausted hstop hc]; nofun
  | interrupted hstop hc htransient hrest =>
    rw [pauses_interrupted hstop hc htransient hrest]
    rintro (_ | i) milliseconds ⟨⟩
    exact hfirst _ _
  | @again left failed _ _ _ _ _ hstop hc htransient hrest _ ih =>
    rw [pauses_again hstop hc htransient hrest]
    rintro (_ | i) milliseconds hi
    · cases hi
      exact hfirst _ _
    · have hshift : failed + 1 + i = failed + (i + 1) := by omega
      exact hshift ▸ ih i milliseconds hi

/-- The pauses take as long as the ceiling for each attempt but the last, at most. -/
theorem Ran.sum_pauses_le (h : Ran p operation signal f left failed w r) :
    (pauses p operation signal f left failed w).sum ≤ left * p.maxBackoff := by
  have hceiling : ∀ milliseconds ∈ pauses p operation signal f left failed w, milliseconds ≤ p.maxBackoff := by
    intro milliseconds hmem
    obtain ⟨i, hi⟩ := List.mem_iff_getElem?.mp hmem
    obtain ⟨draw, -, rfl⟩ := h.pause_eq i milliseconds hi
    exact p.backoff_le _ draw
  calc (pauses p operation signal f left failed w).sum
    _ ≤ (pauses p operation signal f left failed w).length * p.maxBackoff := by
      rw [← Nat.nsmul_eq_mul]
      exact List.sum_le_card_nsmul _ _ hceiling
    _ ≤ left * p.maxBackoff := Nat.mul_le_mul_right _ h.length_pauses_le

/-- A pause is announced once. -/
theorem announced_of_rest {ended : Bool} (hrest : rest p operation signal failed e w = (ended, w')) :
    w'.announced = w.announced ++ [pause p failed w] := by
  rw [show w' = (rest p operation signal failed e w).2 by rw [hrest], rest, World.announced_wait,
    World.announced_report]
  rfl

/-- A pause takes no longer than it is. -/
theorem now_le_of_rest {ended : Bool} (hrest : rest p operation signal failed e w = (ended, w')) :
    w'.now ≤ w.now + pause p failed w := by
  rw [show w' = (rest p operation signal failed e w).2 by rw [hrest]]
  exact World.now_wait_le ..

/-- The pauses are the ones that the call announces. -/
theorem Ran.reported (hf : ∀ s, (f s).events.filterMap Event.pause? = [])
    (h : Ran p operation signal f left failed w r) :
    r.2.announced = w.announced ++ pauses p operation signal f left failed w := by
  have hone {w w' : World σ} {answer : Except StoreError α} (hc : w.call f = (answer, w')) :
      w'.announced = w.announced := by
    rw [show w' = (w.call f).2 by rw [hc], World.announced_call w (hf w.store)]
  induction h with
  | stopped hstop => rw [pauses_stopped hstop, List.append_nil]
  | answered hstop hc => rw [pauses_answered hstop hc, List.append_nil, hone hc]
  | refused hstop hc hfinal =>
    rw [pauses_refused hstop hc hfinal, List.append_nil, ← hone hc]
    dsimp only
    split
    · exact (World.announced_report ..).trans (List.append_nil _)
    · rfl
  | exhausted hstop hc _ =>
    rw [pauses_exhausted hstop hc, World.announced_report, hone hc]
    rfl
  | interrupted hstop hc htransient hrest =>
    rw [pauses_interrupted hstop hc htransient hrest, announced_of_rest hrest, hone hc]
  | again hstop hc htransient hrest _ ih =>
    rw [pauses_again hstop hc htransient hrest, ih, announced_of_rest hrest, hone hc, List.append_assoc,
      List.singleton_append]

/-- A call takes no longer than its pauses. -/
theorem Ran.now_le (h : Ran p operation signal f left failed w r) :
    r.2.now ≤ w.now + (pauses p operation signal f left failed w).sum := by
  have hone {w w' : World σ} {answer : Except StoreError α} (hc : w.call f = (answer, w')) :
      w'.now = w.now := by
    rw [show w' = (w.call f).2 by rw [hc], World.now_call]
  induction h with
  | stopped _ => exact Nat.le_add_right ..
  | answered _ hc => exact Nat.le_add_right_of_le (hone hc).le
  | refused _ hc _ =>
    dsimp only
    split <;> exact Nat.le_add_right_of_le (hone hc).le
  | exhausted _ hc _ => exact Nat.le_add_right_of_le (hone hc).le
  | interrupted hstop hc htransient hrest =>
    rw [pauses_interrupted hstop hc htransient hrest, List.sum_singleton, ← hone hc]
    exact now_le_of_rest hrest
  | again hstop hc htransient hrest _ ih =>
    have hnow := now_le_of_rest hrest
    rw [hone hc] at hnow
    rw [pauses_again hstop hc htransient hrest, List.sum_cons]
    omega

end Pauses

/-- Pauses are exact, have a ceiling and do not become shorter. Without jitter the pause after an attempt is the
first one, doubled so often, or the ceiling; a longer first pause, a higher ceiling and a later attempt do not make
it shorter. With jitter it is longer by a quarter at most, and not above the ceiling. The pauses of one call under
retries are those of its attempts in turn, one less than the attempts at most and none above the ceiling, and
limit the time that the call takes; they are the ones it announces, if the store announces none. -/
theorem backoff_exact {σ α : Type} (p : RetryPolicy) (hmax : p.maxBackoff ≤ limit64) (operation : String)
    (signal : StopSignal) (f : σ → Reply σ α) (w : World σ) :
    let capped (attempt : Nat) := min (p.initialBackoff * 2 ^ attempt) p.maxBackoff
    let made := pauses p operation signal f (p.attempts - 1) 0 w
    let result := call p operation signal f w
    (p.jitter = false → ∀ attempt draw, p.backoff attempt draw = capped attempt) ∧
      (∀ q : RetryPolicy, p.jitter = false → q.jitter = false → p.initialBackoff ≤ q.initialBackoff →
        p.maxBackoff ≤ q.maxBackoff → ∀ a b, a ≤ b → ∀ draw draw', p.backoff a draw ≤ q.backoff b draw') ∧
      (p.jitter = true → ∀ attempt, p.jitterRange attempt = capped attempt / 4 ∧
        ∀ draw ≤ p.jitterRange attempt, capped attempt ≤ p.backoff attempt draw ∧
          p.backoff attempt draw ≤ min p.maxBackoff (capped attempt + capped attempt / 4)) ∧
      (∀ i milliseconds, made[i]? = some milliseconds →
        ∃ draw ≤ p.jitterRange i, milliseconds = p.backoff i draw) ∧
      made.length ≤ max 1 p.maxAttempts - 1 ∧
      made.sum ≤ (max 1 p.maxAttempts - 1) * p.maxBackoff ∧
      result.2.now ≤ w.now + made.sum ∧
      ((∀ s, (f s).events.filterMap Event.pause? = []) →
        result.2.announced = w.announced ++ made) := by
  intro capped made result
  have hcapped (attempt : Nat) : p.cappedBackoff attempt = capped attempt :=
    RetryPolicy.cappedBackoff_eq hmax attempt
  have hran : Ran p operation signal f (p.attempts - 1) 0 w result := attempt_ran _ _ w
  have hattempts : max 1 p.maxAttempts - 1 = p.attempts - 1 := by rw [Nat.max_comm, RetryPolicy.attempts]
  have hpause (i milliseconds : Nat) (hi : made[i]? = some milliseconds) :
      ∃ draw ≤ p.jitterRange i, milliseconds = p.backoff i draw := by
    have := hran.pause_eq i milliseconds hi
    rwa [Nat.zero_add] at this
  refine ⟨fun hjitter attempt draw => ?_, fun q hp hq hinitial hceiling a b hab draw draw' => ?_,
    fun _ attempt => ⟨?_, fun draw hdraw => ⟨?_, Nat.le_min.mpr ⟨p.backoff_le attempt draw, ?_⟩⟩⟩, hpause,
    hattempts ▸ hran.length_pauses_le, hattempts ▸ hran.sum_pauses_le, hran.now_le, fun hf => hran.reported hf⟩
  · rw [RetryPolicy.backoff_of_not_jitter hjitter, hcapped]
  · rw [RetryPolicy.backoff_of_not_jitter hp, RetryPolicy.backoff_of_not_jitter hq]
    exact RetryPolicy.cappedBackoff_mono hinitial hceiling hab
  · rw [RetryPolicy.jitterRange, hcapped]
  · rw [← hcapped]
    exact RetryPolicy.cappedBackoff_le_backoff hmax attempt draw
  · rw [RetryPolicy.jitterRange] at hdraw
    rw [← hcapped]
    exact (p.backoff_le_add attempt draw).trans (Nat.add_le_add_left hdraw _)

/-- A store that is always busy. -/
def alwaysBusy (asked : Nat) : Reply Nat Nat := ⟨.error (.transient "busy"), asked + 1, [], false, false⟩

/-- Three attempts have two pauses between them, of which the ceiling shortens the second. -/
theorem backoff_exact_alwaysBusy :
    let p : RetryPolicy := { maxAttempts := 3, initialBackoff := 100, maxBackoff := 150, jitter := false }
    p.maxBackoff ≤ limit64 ∧ p.backoff 64 0 = min (100 * 2 ^ 64) 150 ∧
      pauses p "get" {} alwaysBusy 2 0 { store := 0 } = [100, 150] ∧ [100, 150].sum ≤ 2 * 150 ∧
      (call p "get" {} alwaysBusy { store := 0 }).2.announced = [] ++ [100, 150] := by
  intro p
  have hmade : pauses p "get" {} alwaysBusy 2 0 { store := 0 } = [100, 150] := by decide
  obtain ⟨hexact, -, -, -, -, hsum, -, hannounced⟩ :=
    backoff_exact p (by decide) "get" {} alwaysBusy { store := 0 }
  have hpauses : pauses p "get" {} alwaysBusy (p.attempts - 1) 0 { store := 0 } = [100, 150] := hmade
  rw [hpauses] at hsum hannounced
  exact ⟨by decide, hexact rfl 64 0, hmade, hsum, hannounced fun _ => rfl⟩

end Retry

end ObjectListing
