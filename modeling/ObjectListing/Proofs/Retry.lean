import ObjectListing.Proofs.World
import ObjectListing.Retry

/-!
Retries from outside. `Retry.Ran` tells what a call under retries can come to, attempt by attempt; facts
about retries go by induction on it. Such a call keeps every property that single calls keep
(`call_lasting`), and comes to what the last attempt comes to (`Ran.exists_last`). A store that always gives
the same answer is asked once, or, when its answer is a transient failure, as often as the policy allows
(`call_of_constant`).
-/

namespace ObjectListing

/-- The number of attempts at a call that always gets this answer. -/
def RetryPolicy.attemptsFor {α : Type} (p : RetryPolicy) : Except StoreError α → Nat
  | .ok _ => 1
  | .error e => if e.isTransient then p.attempts else 1

namespace Retry

variable {σ α : Type}

/-- The pause after a failed attempt, when chance is drawn in this world. -/
def pause (p : RetryPolicy) (failed : Nat) (w : World σ) : Nat :=
  p.backoff failed (w.draw (p.jitterRange failed)).1

/-- The pause after a failed attempt: whether it comes to its end, and the world after it. -/
def rest (p : RetryPolicy) (operation : String) (signal : StopSignal) (failed : Nat) (e : StoreError)
    (w : World σ) : Bool × World σ :=
  ((w.draw (p.jitterRange failed)).2.report
    (.backingOff operation (failed + 1) e (pause p failed w))).wait (pause p failed w) signal

/-- What a call comes to whose earlier `failed` attempts failed and which has `left` attempts after
this one. -/
inductive Ran (p : RetryPolicy) (operation : String) (signal : StopSignal) (f : σ → Reply σ α) :
    (left failed : Nat) → World σ → Except StoreError α × World σ → Prop
  | stopped {left failed : Nat} {w : World σ} : w.isStopped signal = true →
      Ran p operation signal f left failed w (.error .cancelled, w)
  | answered {left failed : Nat} {w w' : World σ} {value : α} : w.isStopped signal = false →
      w.call f = (.ok value, w') → Ran p operation signal f left failed w (.ok value, w')
  | refused {left failed : Nat} {w w' : World σ} {e : StoreError} : w.isStopped signal = false →
      w.call f = (.error e, w') → e.isTransient = false →
      Ran p operation signal f left failed w
        (.error e, if e.isMalformed then w'.report (.malformedResponse operation e) else w')
  | exhausted {failed : Nat} {w w' : World σ} {e : StoreError} : w.isStopped signal = false →
      w.call f = (.error e, w') → e.isTransient = true →
      Ran p operation signal f 0 failed w
        (.error e, w'.report (.retriesExhausted operation (failed + 1) e))
  | interrupted {left failed : Nat} {w w' w'' : World σ} {e : StoreError} :
      w.isStopped signal = false → w.call f = (.error e, w') → e.isTransient = true →
      rest p operation signal failed e w' = (false, w'') →
      Ran p operation signal f (left + 1) failed w (.error .cancelled, w'')
  | again {left failed : Nat} {w w' w'' : World σ} {e : StoreError}
      {r : Except StoreError α × World σ} :
      w.isStopped signal = false → w.call f = (.error e, w') → e.isTransient = true →
      rest p operation signal failed e w' = (true, w'') →
      Ran p operation signal f left (failed + 1) w'' r →
      Ran p operation signal f (left + 1) failed w r

variable {p : RetryPolicy} {operation : String} {signal : StopSignal} {f : σ → Reply σ α}

theorem attempt_ran : ∀ (left failed : Nat) (w : World σ),
    Ran p operation signal f left failed w (attempt p operation signal f left failed w)
  | left, failed, w => by
    rw [attempt]
    cases hstop : w.isStopped signal with
    | true => exact .stopped hstop
    | false =>
      rw [if_neg (by simp)]
      match hcall : w.call f with
      | (.ok value, w') => exact .answered hstop hcall
      | (.error e, w') =>
        dsimp only
        cases htransient : e.isTransient with
        | false => exact .refused hstop hcall htransient
        | true =>
          rw [if_neg (by simp)]
          cases left with
          | zero => exact .exhausted hstop hcall htransient
          | succ left =>
            dsimp only
            match hrest : rest p operation signal failed e w' with
            | (false, w'') =>
              rw [rest, pause] at hrest
              rw [hrest]
              exact .interrupted hstop hcall htransient hrest
            | (true, w'') =>
              rw [rest, pause] at hrest
              rw [hrest]
              exact .again hstop hcall htransient hrest (attempt_ran left (failed + 1) w'')

/-- A call under retries comes to one thing only. -/
theorem Ran.attempt_eq {left failed : Nat} {w : World σ} {r : Except StoreError α × World σ}
    (h : Ran p operation signal f left failed w r) :
    attempt p operation signal f left failed w = r := by
  induction h with
  | stopped hstop => rw [attempt, if_pos hstop]
  | answered hstop hcall => rw [attempt, hstop, hcall]; rfl
  | refused hstop hcall htransient => rw [attempt, hstop, hcall]; simp [htransient]
  | exhausted hstop hcall htransient => rw [attempt, hstop, hcall]; simp [htransient]
  | interrupted hstop hcall htransient hrest =>
    rw [rest, pause] at hrest
    rw [attempt, hstop, hcall]
    simp [htransient, hrest]
  | again hstop hcall htransient hrest _ ih =>
    rw [rest, pause] at hrest
    rw [attempt, hstop, hcall]
    simp [htransient, hrest, ih]

/-! ### What pauses keep -/

theorem stopAt_rest {failed : Nat} {e : StoreError} {w w' : World σ} {ended : Bool}
    {s : StopSignal} (h : rest p operation signal failed e w = (ended, w')) :
    w'.stopAt s = w.stopAt s := by
  have := congrArg (fun r => r.2.stopAt s) h
  simpa [rest] using this.symm

theorem callTimes_rest {failed : Nat} {e : StoreError} {w w' : World σ} {ended : Bool}
    (h : rest p operation signal failed e w = (ended, w')) : w'.callTimes = w.callTimes := by
  have := congrArg (fun r => r.2.callTimes) h
  simpa [rest] using this.symm

theorem sharedSignal_rest {failed : Nat} {e : StoreError} {w w' : World σ} {ended : Bool}
    (h : rest p operation signal failed e w = (ended, w')) : w'.sharedSignal = w.sharedSignal := by
  have := congrArg (fun r => r.2.sharedSignal) h
  rw [← this, rest, World.sharedSignal_wait]
  rfl

theorem store_rest {failed : Nat} {e : StoreError} {w w' : World σ} {ended : Bool}
    (h : rest p operation signal failed e w = (ended, w')) : w'.store = w.store := by
  have := congrArg (fun r => r.2.store) h
  rw [← this, rest, World.store_wait]
  rfl

/-- A pause that nothing stops comes to its end. -/
theorem rest_ended {failed : Nat} {e : StoreError} {w w' : World σ} {ended : Bool}
    (h : rest p operation signal failed e w = (ended, w')) (hw : w.stopAt signal = none) :
    ended = true := by
  have := congrArg Prod.fst h
  rw [rest, World.wait_fst (by simpa using hw)] at this
  exact this.symm

/-! ### What calls keep -/

theorem lasting_rest {I : World σ → Prop} (hI : World.Lasting I) {failed : Nat} {e : StoreError}
    {w w' : World σ} {ended : Bool} (hw : I w)
    (h : rest p operation signal failed e w = (ended, w')) : I w' := by
  rw [rest] at h
  have := hI.wait (pause p failed w) signal _ (hI.report
    (.backingOff operation (failed + 1) e (pause p failed w)) _ (hI.draw (p.jitterRange failed) w hw))
  rwa [h] at this

theorem Ran.lasting {I : World σ → Prop} (hI : World.Lasting I)
    (hcall : ∀ w, I w → I (w.call f).2) {left failed : Nat} {w : World σ}
    {r : Except StoreError α × World σ} (h : Ran p operation signal f left failed w r) (hw : I w) :
    I r.2 := by
  induction h with
  | stopped _ => exact hw
  | @answered _ _ w _ _ _ hc =>
    have := hcall w hw
    rwa [hc] at this
  | @refused _ _ w _ _ _ hc _ =>
    have := hcall w hw
    rw [hc] at this
    dsimp only
    split
    · exact hI.report _ _ this
    · exact this
  | @exhausted _ w _ _ _ hc _ =>
    have := hcall w hw
    rw [hc] at this
    exact hI.report _ _ this
  | @interrupted _ _ w _ _ _ _ hc _ hrest =>
    have := hcall w hw
    rw [hc] at this
    exact lasting_rest hI this hrest
  | @again _ _ w _ _ _ _ _ hc _ hrest _ ih =>
    have := hcall w hw
    rw [hc] at this
    exact ih (lasting_rest hI this hrest)

/-- No call is taken back. -/
theorem Ran.callTimes_le {left failed : Nat} {w : World σ} {r : Except StoreError α × World σ}
    (h : Ran p operation signal f left failed w r) :
    w.callTimes.length ≤ r.2.callTimes.length := by
  refine h.lasting (I := fun v => w.callTimes.length ≤ v.callTimes.length) ?_ ?_ (Nat.le_refl _)
  · refine ⟨fun _ _ h => h, fun _ _ h => h, ?_⟩
    intro milliseconds s v hv
    rwa [World.callTimes_wait]
  · intro v hv
    rw [World.callTimes_call]
    exact Nat.le_succ_of_le hv

/-- A call that is not stopped before it begins is made at least once. -/
theorem Ran.callTimes_lt {left failed : Nat} {w : World σ} {r : Except StoreError α × World σ}
    (h : Ran p operation signal f left failed w r) (hstop : w.isStopped signal = false) :
    w.callTimes.length < r.2.callTimes.length := by
  cases h with
  | stopped hstopped => exact absurd hstop (by simp [hstopped])
  | answered _ hc => exact Nat.lt_of_lt_of_eq (Nat.lt_succ_self _) (World.length_callTimes_of_call hc).symm
  | refused _ hc _ =>
    have hmade := World.length_callTimes_of_call hc
    dsimp only
    split <;> exact Nat.lt_of_lt_of_eq (Nat.lt_succ_self _) hmade.symm
  | exhausted _ hc _ => exact Nat.lt_of_lt_of_eq (Nat.lt_succ_self _) (World.length_callTimes_of_call hc).symm
  | interrupted _ hc _ hrest =>
    dsimp only
    rw [callTimes_rest hrest, World.length_callTimes_of_call hc]
    exact Nat.lt_succ_self _
  | again _ hc _ hrest hran =>
    have hlater := hran.callTimes_le
    rw [callTimes_rest hrest, World.length_callTimes_of_call hc] at hlater
    exact hlater

/-- A call that comes to an answer is made at least once. -/
theorem Ran.callTimes_lt_of_ok {left failed : Nat} {w : World σ} {r : Except StoreError α × World σ}
    (h : Ran p operation signal f left failed w r) {value : α} (hr : r.1 = .ok value) :
    w.callTimes.length < r.2.callTimes.length := by
  cases hstop : w.isStopped signal with
  | true =>
    cases h.attempt_eq.symm.trans (Ran.stopped hstop).attempt_eq
    cases hr
  | false => exact h.callTimes_lt hstop

/-- A call is made at most as often as there are attempts to make. -/
theorem Ran.callTimes_le_left {left failed : Nat} {w : World σ} {r : Except StoreError α × World σ}
    (h : Ran p operation signal f left failed w r) :
    r.2.callTimes.length ≤ w.callTimes.length + (left + 1) := by
  induction h with
  | stopped _ => exact Nat.le_add_right ..
  | answered _ hc =>
    have hmade := World.length_callTimes_of_call hc
    dsimp only
    omega
  | refused _ hc _ =>
    have hmade := World.length_callTimes_of_call hc
    dsimp only
    split <;> exact Nat.le_trans (Nat.le_of_eq hmade) (Nat.add_le_add_left (Nat.le_add_left ..) _)
  | exhausted _ hc _ =>
    have hmade := World.length_callTimes_of_call hc
    exact Nat.le_of_eq hmade
  | interrupted _ hc _ hrest =>
    have hmade := World.length_callTimes_of_call hc
    dsimp only
    rw [callTimes_rest hrest]
    omega
  | again _ hc _ hrest _ ih =>
    have hmade := World.length_callTimes_of_call hc
    rw [callTimes_rest hrest] at ih
    omega

/-- What single calls keep is kept by a call under retries. -/
theorem call_lasting {I : World σ → Prop} (hI : World.Lasting I)
    (hcall : ∀ w, I w → I (w.call f).2) {w : World σ} (hw : I w) :
    I (call p operation signal f w).2 :=
  (attempt_ran _ _ w).lasting hI hcall hw

/-- What a call under retries answers was answered to an attempt. -/
theorem Ran.exists_answered {I : World σ → Prop} (hI : World.Lasting I)
    (hcall : ∀ w, I w → I (w.call f).2) {left failed : Nat} {w : World σ}
    {r : Except StoreError α × World σ} (h : Ran p operation signal f left failed w r) (hw : I w)
    {value : α} (hr : r.1 = .ok value) : ∃ w', I w' ∧ (f w'.store).answer = .ok value := by
  induction h with
  | stopped _ => cases hr
  | @answered _ _ w _ _ _ hc =>
    refine ⟨w, hw, ?_⟩
    rw [← World.call_fst, hc]
    exact hr
  | refused _ _ _ => cases hr
  | exhausted _ _ _ => cases hr
  | interrupted _ _ _ _ => cases hr
  | @again _ _ w _ _ _ _ _ hc _ hrest _ ih =>
    have hw' := hcall w hw
    rw [hc] at hw'
    exact ih (lasting_rest hI hw' hrest) hr

theorem call_exists_answered {I : World σ → Prop} (hI : World.Lasting I)
    (hcall : ∀ w, I w → I (w.call f).2) {w : World σ} (hw : I w) {value : α}
    (h : (call p operation signal f w).1 = .ok value) :
    ∃ w', I w' ∧ (f w'.store).answer = .ok value :=
  (attempt_ran _ _ w).exists_answered hI hcall hw h

/-- A first attempt that succeeds is the only one. -/
theorem call_of_ok {w : World σ} {value : α} (hstop : w.isStopped signal = false)
    (h : (f w.store).answer = .ok value) :
    call p operation signal f w = (.ok value, (w.call f).2) := by
  have hcall : w.call f = (.ok value, (w.call f).2) := by rw [← h]; rfl
  exact (Ran.answered hstop hcall).attempt_eq

/-! ### The same call over two stores -/

section InStep

variable {τ : Type} {signal' : StopSignal} {g : τ → Reply τ α} {Both : World σ → World τ → Prop}

/-- A relation of worlds that look the same to a signal, which is kept by what retries do between calls. -/
structure InStep (p : RetryPolicy) (operation : String) (signal signal' : StopSignal)
    (Both : World σ → World τ → Prop) : Prop where
  isStopped : ∀ {w v}, Both w v → v.isStopped signal' = w.isStopped signal
  report : ∀ {w v} (e : Event), Both w v → Both (w.report e) (v.report e)
  rest : ∀ {w w' v failed e ended}, Both w v → rest p operation signal failed e w = (ended, w') →
    ∃ v', rest p operation signal' failed e v = (ended, v') ∧ Both w' v'

/-- Calls under retries go on side by side as long as single calls do. Where a single call does not, the rest
of both is accounted for at once. -/
theorem Ran.inStep (hstep : InStep p operation signal signal' Both)
    (Outcome : Except StoreError α × World σ → Except StoreError α × World τ → Prop)
    (hdone : ∀ {answer w v}, Both w v → Outcome (answer, w) (answer, v))
    (hcall : ∀ {w v}, Both w v → w.isStopped signal = false →
      (∀ answer w', w.call f = (answer, w') → ∃ v', v.call g = (answer, v') ∧ Both w' v') ∨
        ∀ left failed r, Ran p operation signal f left failed w r →
          ∃ r', Ran p operation signal' g left failed v r' ∧ Outcome r r')
    {left failed : Nat} {w : World σ} {r : Except StoreError α × World σ}
    (h : Ran p operation signal f left failed w r) :
    ∀ {v : World τ}, Both w v → ∃ r', Ran p operation signal' g left failed v r' ∧ Outcome r r' := by
  induction h with
  | stopped hstop =>
    intro v hv
    exact ⟨_, .stopped ((hstep.isStopped hv).trans hstop), hdone hv⟩
  | answered hstop hc =>
    intro v hv
    rcases hcall hv hstop with hgoes | hends
    · obtain ⟨v', hc', hv'⟩ := hgoes _ _ hc
      exact ⟨_, .answered ((hstep.isStopped hv).trans hstop) hc', hdone hv'⟩
    · exact hends _ _ _ (.answered hstop hc)
  | refused hstop hc hfinal =>
    intro v hv
    rcases hcall hv hstop with hgoes | hends
    · obtain ⟨v', hc', hv'⟩ := hgoes _ _ hc
      refine ⟨_, .refused ((hstep.isStopped hv).trans hstop) hc' hfinal, hdone ?_⟩
      split
      · exact hstep.report _ hv'
      · exact hv'
    · exact hends _ _ _ (.refused hstop hc hfinal)
  | exhausted hstop hc htransient =>
    intro v hv
    rcases hcall hv hstop with hgoes | hends
    · obtain ⟨v', hc', hv'⟩ := hgoes _ _ hc
      exact ⟨_, .exhausted ((hstep.isStopped hv).trans hstop) hc' htransient,
        hdone (hstep.report _ hv')⟩
    · exact hends _ _ _ (.exhausted hstop hc htransient)
  | interrupted hstop hc htransient hrest =>
    intro v hv
    rcases hcall hv hstop with hgoes | hends
    · obtain ⟨v', hc', hv'⟩ := hgoes _ _ hc
      obtain ⟨v'', hrest', hv''⟩ := hstep.rest hv' hrest
      exact ⟨_, .interrupted ((hstep.isStopped hv).trans hstop) hc' htransient hrest', hdone hv''⟩
    · exact hends _ _ _ (.interrupted hstop hc htransient hrest)
  | again hstop hc htransient hrest hran ih =>
    intro v hv
    rcases hcall hv hstop with hgoes | hends
    · obtain ⟨v', hc', hv'⟩ := hgoes _ _ hc
      obtain ⟨v'', hrest', hv''⟩ := hstep.rest hv' hrest
      obtain ⟨r', hran', houtcome⟩ := ih hv''
      exact ⟨r', .again ((hstep.isStopped hv).trans hstop) hc' htransient hrest' hran', houtcome⟩
    · exact hends _ _ _ (.again hstop hc htransient hrest hran)

end InStep

/-! ### Attempts by number -/

/-- Where attempt number `i` begins in a world of which `Before i` holds and ends in one of which `After i`
holds, a call under retries comes to what its last attempt comes to: the attempts before it failed for a
transient cause, and so can the last one only if there were no more to be made. -/
theorem Ran.exists_last (Before After : Nat → World σ → Prop) (Answered : Nat → Except StoreError α → Prop)
    (hbefore : ∀ i, World.Lasting (Before i)) (hafter : ∀ i, World.Lasting (After i))
    (hcalm : ∀ i w, Before i w → w.stopAt signal = none) {left failed : Nat} {w : World σ}
    {r : Except StoreError α × World σ} (h : Ran p operation signal f left failed w r)
    (hcall : ∀ i w, i ≤ failed + left → Before i w → Answered i (w.call f).1 ∧ After i (w.call f).2)
    (hagain : ∀ i w e, i < failed + left → Before i w → (w.call f).1 = .error e → e.isTransient = true →
      Before (i + 1) (w.call f).2)
    (hw : Before failed w) :
    ∃ m ≤ left, After (failed + m) r.2 ∧ Answered (failed + m) r.1 ∧
      (∀ i < m, ∃ e, e.isTransient = true ∧ Answered (failed + i) (.error e)) ∧
      (m < left → ∀ e, r.1 = .error e → e.isTransient = false) := by
  induction h with
  | stopped hstop =>
    rw [World.isStopped_eq_false (hcalm _ _ hw)] at hstop
    cases hstop
  | answered _ hc =>
    obtain ⟨hanswered, hleft⟩ := hcall _ _ (Nat.le_add_right ..) hw
    rw [hc] at hanswered hleft
    exact ⟨0, Nat.zero_le _, hleft, hanswered, by simp, fun _ e he => nomatch he⟩
  | @refused _ _ _ _ e _ hc hfinal =>
    obtain ⟨hanswered, hleft⟩ := hcall _ _ (Nat.le_add_right ..) hw
    rw [hc] at hanswered hleft
    refine ⟨0, Nat.zero_le _, ?_, hanswered, by simp, ?_⟩
    · dsimp only
      split
      · exact (hafter _).report _ _ hleft
      · exact hleft
    · rintro _ _ ⟨⟩
      exact hfinal
  | exhausted _ hc _ =>
    obtain ⟨hanswered, hleft⟩ := hcall _ _ (Nat.le_add_right ..) hw
    rw [hc] at hanswered hleft
    exact ⟨0, Nat.le_refl _, (hafter _).report _ _ hleft, hanswered, by simp, fun hlt => by omega⟩
  | interrupted _ hc htransient hrest =>
    have hnext := hagain _ _ _ (by omega) hw (by rw [hc]) htransient
    rw [hc] at hnext
    cases rest_ended hrest (hcalm _ _ hnext)
  | @again left failed _ _ _ e _ _ hc htransient hrest _ ih =>
    have hanswered := (hcall _ _ (Nat.le_add_right ..) hw).1
    have hnext := hagain _ _ _ (by omega) hw (by rw [hc]) htransient
    rw [hc] at hanswered hnext
    obtain ⟨m, hm, hleft, hlast, hearlier, hmore⟩ :=
      ih (fun i v hi => hcall i v (by omega)) (fun i v e hi => hagain i v e (by omega))
        (lasting_rest (hbefore _) hnext hrest)
    have hshift (i : Nat) : failed + 1 + i = failed + (i + 1) := by omega
    refine ⟨m + 1, by omega, hshift m ▸ hleft, hshift m ▸ hlast, fun i hi => ?_, fun hlt => hmore (by omega)⟩
    cases i with
    | zero => exact ⟨e, htransient, hanswered⟩
    | succ i => exact hshift i ▸ hearlier i (by omega)

/-! ### A store that does not change its mind -/

/-- A store that always gives the same answer is asked once; when the answer is a transient failure, in
every attempt. -/
theorem Ran.of_constant {answer : Except StoreError α} (hanswer : ∀ s, (f s).answer = answer)
    (hcalm : ∀ w : World σ, w.stopAt signal = none → (w.call f).2.stopAt signal = none)
    {left failed : Nat} {w : World σ} {r : Except StoreError α × World σ}
    (h : Ran p operation signal f left failed w r) (hw : w.stopAt signal = none) :
    r.1 = answer ∧ r.2.stopAt signal = none ∧ r.2.callTimes.length = w.callTimes.length +
      (match answer with
        | .ok _ => 1
        | .error e => if e.isTransient then left + 1 else 1) := by
  -- what a call gives is the answer, in a world in which one more call was made
  have hone {w w' : World σ} {a : Except StoreError α} (hc : w.call f = (a, w'))
      (hw : w.stopAt signal = none) : a = answer ∧ w'.stopAt signal = none ∧
        w'.callTimes.length = w.callTimes.length + 1 := by
    refine ⟨?_, ?_, ?_⟩
    · rw [← hanswer w.store, ← World.call_fst, hc]
    · rw [← hcalm w hw, hc]
    · exact World.length_callTimes_of_call hc
  induction h with
  | stopped hstop => rw [World.isStopped_eq_false hw] at hstop; cases hstop
  | answered _ hc =>
    obtain ⟨rfl, hw', htimes⟩ := hone hc hw
    exact ⟨rfl, hw', htimes⟩
  | refused _ hc htransient =>
    obtain ⟨rfl, hw', htimes⟩ := hone hc hw
    refine ⟨rfl, ?_, ?_⟩
    · dsimp only
      split
      · exact hw'
      · exact hw'
    · dsimp only
      rw [htransient]
      split
      · exact htimes
      · exact htimes
  | exhausted _ hc htransient =>
    obtain ⟨rfl, hw', htimes⟩ := hone hc hw
    refine ⟨rfl, hw', ?_⟩
    dsimp only
    rw [if_pos htransient]
    exact htimes
  | interrupted _ hc _ hrest =>
    obtain ⟨-, hw', -⟩ := hone hc hw
    cases rest_ended hrest hw'
  | again _ hc htransient hrest _ ih =>
    obtain ⟨rfl, hw', htimes⟩ := hone hc hw
    obtain ⟨hr, hstop, hlength⟩ := ih ((stopAt_rest hrest).trans hw')
    refine ⟨hr, hstop, ?_⟩
    rw [hlength, callTimes_rest hrest, htimes]
    dsimp only
    rw [if_pos htransient, if_pos htransient]
    omega

theorem call_of_constant (p : RetryPolicy) (operation : String) {answer : Except StoreError α}
    (hanswer : ∀ s, (f s).answer = answer)
    (hcalm : ∀ w : World σ, w.stopAt signal = none → (w.call f).2.stopAt signal = none)
    {w : World σ} (hw : w.stopAt signal = none) :
    (call p operation signal f w).1 = answer ∧ (call p operation signal f w).2.stopAt signal = none ∧
      (call p operation signal f w).2.callTimes.length =
        w.callTimes.length + p.attemptsFor answer := by
  have hran : Ran p operation signal f (p.attempts - 1) 0 w (call p operation signal f w) :=
    attempt_ran _ _ w
  obtain ⟨hanswered, hstop, hlength⟩ := hran.of_constant hanswer hcalm hw
  refine ⟨hanswered, hstop, hlength.trans ?_⟩
  have hpos : 0 < p.attempts := by rw [RetryPolicy.attempts]; omega
  cases answer with
  | ok _ => rfl
  | error e =>
    rw [RetryPolicy.attemptsFor]
    dsimp only
    split
    · omega
    · rfl

end Retry

end ObjectListing
