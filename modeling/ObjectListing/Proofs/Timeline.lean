import ObjectListing.Proofs.Listing.Attempts
import ObjectListing.Proofs.Time.Tick

/-!
Retries in time. A `Timeline` tells when the attempts at a call start and what they answer, if each follows on
the one before it, and from when on the caller is stopped. From it follows which of the attempts are made and
what the call comes to (`Timeline.Describes`). The program goes by the timeline of its policy, and where a
pause and a signal end at the same tick it does not matter which is seen first (`Retry.call_described`).
-/

namespace ObjectListing

variable {σ α : Type}

/-- The course of attempts at a call, counted from zero, when each follows on the one before it: how many there
may be, what they answer, and when they start. The caller is stopped from a tick on that may never come, as far as
it is settled when an attempt is about to start. -/
structure Timeline (α : Type) where
  attempts : Nat
  answer : Nat → Except StoreError α
  start : Nat → Tick
  stop : Nat → Option Tick

namespace Timeline

/-- Whether an attempt settles the call: by a value, by a failure that is not transient, or as the last one. -/
def Settles (t : Timeline α) (n : Nat) : Prop :=
  (∃ value, t.answer n = .ok value) ∨ (∃ e, t.answer n = .error e ∧ e.isTransient = false) ∨
    n + 1 = t.attempts

/-- Whether the caller is stopped when an attempt is about to start. -/
def Stopped (t : Timeline α) (n : Nat) : Prop := (t.start n).Reached (t.stop n)

/-- When an attempt is made: there may be so many, none before it settled the call, and the caller is not
stopped. -/
structure Makes (t : Timeline α) (n : Nat) : Prop where
  few : n < t.attempts
  unsettled : ∀ i < n, ¬ t.Settles i
  unstopped : ¬ t.Stopped n

/-- Whether attempts that start at these ticks, and what the call comes to, are as a timeline has it: the
attempts that it makes are made, when it says, and the one that settles the call gives its answer. If none does, the
caller was stopped. -/
structure Describes (t : Timeline α) (starts : List Tick) (answer : Except StoreError α) : Prop where
  made_iff : ∀ n, n < starts.length ↔ t.Makes n
  starts_eq : starts = (List.range starts.length).map t.start
  settled : ∀ n < starts.length, t.Settles n → answer = t.answer n
  cancelled : (∀ n < starts.length, ¬ t.Settles n) → answer = .error .cancelled

/-- The timeline from the second attempt on. -/
def later (t : Timeline α) : Timeline α :=
  ⟨t.attempts - 1, fun n => t.answer (n + 1), fun n => t.start (n + 1), fun n => t.stop (n + 1)⟩

variable {t : Timeline α} {starts starts' : List Tick} {answer answer' : Except StoreError α}

/-- A timeline leaves no choice. -/
theorem Describes.unique (h : t.Describes starts answer) (h' : t.Describes starts' answer') :
    starts = starts' ∧ answer = answer' := by
  have hlength : starts.length = starts'.length := by
    refine Nat.le_antisymm (Nat.le_of_not_gt fun hlt => ?_) (Nat.le_of_not_gt fun hlt => ?_)
    · exact Nat.lt_irrefl _ ((h'.made_iff _).mpr ((h.made_iff _).mp hlt))
    · exact Nat.lt_irrefl _ ((h.made_iff _).mpr ((h'.made_iff _).mp hlt))
  refine ⟨by rw [h.starts_eq, h'.starts_eq, hlength], ?_⟩
  by_cases hsettles : ∃ n < starts.length, t.Settles n
  · obtain ⟨n, hn, hsettles⟩ := hsettles
    rw [h.settled n hn hsettles, h'.settled n (hlength ▸ hn) hsettles]
  · have hnone : ∀ n < starts.length, ¬ t.Settles n := fun n hn hs => hsettles ⟨n, hn, hs⟩
    rw [h.cancelled hnone, h'.cancelled (hlength ▸ hnone)]

theorem Describes.length_le (h : t.Describes starts answer) : starts.length ≤ t.attempts := by
  by_contra hlt
  exact Nat.lt_irrefl _ ((h.made_iff t.attempts).mp (Nat.lt_of_not_le hlt)).few

/-- A caller who is stopped at once gets nothing. -/
theorem describes_stopped (hlasts : ∀ n, t.Stopped n → t.Stopped (n + 1)) (hstop : t.Stopped 0) :
    t.Describes [] (.error .cancelled) := by
  have hall (n : Nat) : t.Stopped n := by
    induction n with
    | zero => exact hstop
    | succ n ih => exact hlasts n ih
  refine ⟨fun n => ⟨nofun, fun h => absurd (hall n) h.unstopped⟩, rfl, nofun, fun _ => rfl⟩

/-- A first attempt that settles the call is the only one. -/
theorem describes_settled (hpos : 0 < t.attempts) (hstop : ¬ t.Stopped 0) (hsettles : t.Settles 0) :
    t.Describes [t.start 0] (t.answer 0) := by
  refine ⟨fun n => ⟨fun hn => ?_, fun h => ?_⟩, rfl, fun n hn _ => ?_,
    fun hnone => absurd hsettles (hnone 0 Nat.one_pos)⟩
  · obtain rfl : n = 0 := by simpa using hn
    exact ⟨hpos, nofun, hstop⟩
  · by_contra hn
    have hn : 0 < n := by simpa [Nat.pos_iff_ne_zero] using hn
    exact h.unsettled 0 hn hsettles
  · obtain rfl : n = 0 := by simpa using hn
    rfl

/-- After a first attempt that does not settle the call, the others come. -/
theorem describes_cons (hpos : 0 < t.attempts) (hstop : ¬ t.Stopped 0) (hsettles : ¬ t.Settles 0)
    (h : t.later.Describes starts answer) : t.Describes (t.start 0 :: starts) answer := by
  have hlater (n : Nat) : t.later.Settles n ↔ t.Settles (n + 1) := by
    refine or_congr_right (or_congr_right ?_)
    dsimp only [later]
    omega
  refine ⟨?_, ?_, ?_, fun hnone => ?_⟩
  · rintro (_ | n)
    · exact ⟨fun _ => ⟨hpos, nofun, hstop⟩, fun _ => Nat.succ_pos _⟩
    · rw [List.length_cons, Nat.add_lt_add_iff_right, h.made_iff]
      constructor
      · intro hmakes
        refine ⟨Nat.add_lt_of_lt_sub hmakes.few, ?_, hmakes.unstopped⟩
        rintro (_ | i) hi
        · exact hsettles
        · exact fun hs => hmakes.unsettled i (by omega) ((hlater i).mpr hs)
      · intro hmakes
        exact ⟨Nat.lt_sub_of_add_lt hmakes.few,
          fun i hi hs => hmakes.unsettled (i + 1) (by omega) ((hlater i).mp hs), hmakes.unstopped⟩
  · rw [List.length_cons, List.range_succ_eq_map, List.map_cons, List.map_map]
    exact congrArg (t.start 0 :: ·) h.starts_eq
  · rintro (_ | n) hn hs
    · exact absurd hs hsettles
    · exact h.settled n (by simpa using hn) ((hlater n).mpr hs)
  · refine h.cancelled fun n hn hs => ?_
    exact hnone (n + 1) (by simpa using hn) ((hlater n).mp hs)

end Timeline

/-! ### The timeline of a policy -/

/-- What a call and a signal see of two worlds is the same. -/
structure World.SeenAlike (w v : World σ) : Prop where
  store : w.store = v.store
  clock : w.clock = v.clock
  sharedSignal : w.sharedSignal = v.sharedSignal

namespace World.SeenAlike

variable {w v : World σ} {signal : StopSignal} {f : σ → Reply σ α}

theorem isStopped_eq (h : SeenAlike w v) : w.isStopped signal = v.isStopped signal := by
  rw [isStopped, isStopped, stopAt, stopAt, h.clock, h.sharedSignal]

theorem call (h : SeenAlike w v) :
    (w.call f).1 = (v.call f).1 ∧ SeenAlike (w.call f).2 (v.call f).2 := by
  have hclock : (w.call f).2.clock = (v.call f).2.clock := by
    rw [clock_call, clock_call, h.store, h.clock]
  refine ⟨by rw [call_fst, call_fst, h.store], by rw [store_call, store_call, h.store], hclock, ?_⟩
  rw [sharedSignal_call, sharedSignal_call, hclock, h.store, h.sharedSignal]

end World.SeenAlike

theorem World.isStopped_iff {w : World σ} {signal : StopSignal} :
    w.isStopped signal = true ↔ w.clock.Reached (w.stopAt signal) := by
  rw [isStopped]
  cases w.stopAt signal with
  | none => simp [Tick.Reached]
  | some tick => simp [Tick.Reached]

/-- A wait that does not come to its end is ended by a signal that is given by then. -/
theorem World.reached_of_wait {milliseconds : Nat} {s : StopSignal} {w w' : World σ}
    (h : w.wait milliseconds s = (false, w')) : (w.waitEnd milliseconds).Reached (w.stopAt s) := by
  rw [wait] at h
  cases hstop : w.stopAt s with
  | none =>
    rw [hstop] at h
    cases h
  | some tick =>
    rw [hstop] at h
    dsimp only at h
    split at h
    · cases h
    · rename_i hnot
      exact ⟨tick, rfl, fun hlt =>
        hnot (Or.inl (Tick.lt_of_lt_of_not_lt hlt (Tick.not_lt_later_left tick w.clock)))⟩

namespace Retry

/-- The world after a call and a pause that nothing ends early. -/
def afterPause (f : σ → Reply σ α) (pause : Nat) (w : World σ) : World σ :=
  { (w.call f).2 with clock := (w.call f).2.clock.after pause }

/-- The world when an attempt is about to start, counted from zero, if each follows on the one before it: they
are made one after the other, with pauses between them. -/
def worldBefore (f : σ → Reply σ α) : (pauses : Nat → Nat) → Nat → World σ → World σ
  | _, 0, w => w
  | pauses, n + 1, w => worldBefore f (fun i => pauses (i + 1)) n (afterPause f (pauses 0) w)

/-- The timeline of a call that may be tried so often, with these pauses between the attempts. -/
def timeline (attempts : Nat) (pauses : Nat → Nat) (signal : StopSignal) (f : σ → Reply σ α)
    (w : World σ) : Timeline α where
  attempts
  answer n := (f (worldBefore f pauses n w).store).answer
  start n := (worldBefore f pauses n w).clock
  stop n := (worldBefore f pauses n w).stopAt signal

variable {p : RetryPolicy} {operation : String} {signal : StopSignal} {f : σ → Reply σ α}
  {pauses : Nat → Nat} {w w' : World σ}

theorem timeline_stopped_iff {attempts n : Nat} :
    (timeline attempts pauses signal f w).Stopped n ↔
      (worldBefore f pauses n w).isStopped signal = true :=
  World.isStopped_iff.symm

/-- Who is stopped stays stopped. -/
theorem isStopped_afterPause (pause : Nat) (h : w.isStopped signal = true) :
    (afterPause f pause w).isStopped signal = true := by
  rw [World.isStopped_iff, World.stopAt, Tick.reached_earlier_iff] at h ⊢
  have hlater {tick : Option Tick} (h : w.clock.Reached tick) :
      (afterPause f pause w).clock.Reached tick := by
    obtain ⟨t, rfl, ht⟩ := h
    refine ⟨t, rfl, Tick.not_lt_after ?_ pause⟩
    rw [World.clock_call]
    split
    · exact Tick.not_lt_next ht
    · exact ht
  rcases h with h | h
  · exact Or.inl (hlater h)
  · right
    split at h
    · rename_i hheeds
      rw [if_pos hheeds]
      have hshared : (afterPause f pause w).sharedSignal = (w.call f).2.sharedSignal := rfl
      rw [hshared, World.sharedSignal_call]
      split
      · exact Tick.reached_earlier_iff.mpr (Or.inl (hlater h))
      · exact hlater h
    · obtain ⟨_, ⟨⟩, _⟩ := h

theorem timeline_stopped_succ {attempts : Nat} (n : Nat) :
    (timeline attempts pauses signal f w).Stopped n →
      (timeline attempts pauses signal f w).Stopped (n + 1) := by
  rw [timeline_stopped_iff, timeline_stopped_iff]
  induction n generalizing pauses w with
  | zero => exact isStopped_afterPause (pauses 0)
  | succ n ih => exact ih

/-! ### Runs with open choices -/

/-- What a call under retries can come to, as in `Ran`, with the ticks at which its attempts start. Before each
pause it is open which is seen first at the tick at which the pause ends, the pause or a signal. -/
inductive Tried (p : RetryPolicy) (operation : String) (signal : StopSignal) (f : σ → Reply σ α) :
    (left failed : Nat) → World σ → List Tick → Except StoreError α × World σ → Prop
  | stopped {left failed : Nat} {w : World σ} : w.isStopped signal = true →
      Tried p operation signal f left failed w [] (.error .cancelled, w)
  | answered {left failed : Nat} {w w' : World σ} {value : α} : w.isStopped signal = false →
      w.call f = (.ok value, w') → Tried p operation signal f left failed w [w.clock] (.ok value, w')
  | refused {left failed : Nat} {w w' : World σ} {e : StoreError} : w.isStopped signal = false →
      w.call f = (.error e, w') → e.isTransient = false →
      Tried p operation signal f left failed w [w.clock]
        (.error e, if e.isMalformed then w'.report (.malformedResponse operation e) else w')
  | exhausted {failed : Nat} {w w' : World σ} {e : StoreError} : w.isStopped signal = false →
      w.call f = (.error e, w') → e.isTransient = true →
      Tried p operation signal f 0 failed w [w.clock]
        (.error e, w'.report (.retriesExhausted operation (failed + 1) e))
  | interrupted {left failed : Nat} {w w' w'' : World σ} {e : StoreError} {waitEndsFirst : Bool} :
      w.isStopped signal = false → w.call f = (.error e, w') → e.isTransient = true →
      rest p operation signal failed e { w' with waitEndsFirst } = (false, w'') →
      Tried p operation signal f (left + 1) failed w [w.clock] (.error .cancelled, w'')
  | again {left failed : Nat} {w w' w'' : World σ} {e : StoreError} {waitEndsFirst : Bool}
      {ticks : List Tick} {r : Except StoreError α × World σ} :
      w.isStopped signal = false → w.call f = (.error e, w') → e.isTransient = true →
      rest p operation signal failed e { w' with waitEndsFirst } = (true, w'') →
      Tried p operation signal f left (failed + 1) w'' ticks r →
      Tried p operation signal f (left + 1) failed w (w.clock :: ticks) r

/-- The choices of the world are among those that are open. -/
theorem Ran.tried {left failed : Nat} {r : Except StoreError α × World σ}
    (h : Ran p operation signal f left failed w r) :
    Tried p operation signal f left failed w (starts p operation signal f left failed w) r := by
  induction h with
  | stopped hstop => rw [starts_stopped hstop]; exact .stopped hstop
  | answered hstop hc => rw [starts_answered hstop hc]; exact .answered hstop hc
  | refused hstop hc hfinal => rw [starts_refused hstop hc hfinal]; exact .refused hstop hc hfinal
  | exhausted hstop hc htransient =>
    rw [starts_exhausted hstop hc]
    exact .exhausted hstop hc htransient
  | interrupted hstop hc htransient hrest =>
    rw [starts_interrupted hstop hc hrest]
    exact .interrupted hstop hc htransient hrest
  | again hstop hc htransient hrest _ ih =>
    rw [starts_again hstop hc htransient hrest]
    exact .again hstop hc htransient hrest ih

/-- The pauses of a policy without jitter from a failed attempt on. No timer runs longer than the longest wait. -/
def pausesFrom (p : RetryPolicy) (failed i : Nat) : Nat :=
  min (p.cappedBackoff (failed + i)) World.longestWait

theorem pausesFrom_succ (p : RetryPolicy) (failed : Nat) :
    (fun i => pausesFrom p failed (i + 1)) = pausesFrom p (failed + 1) := by
  funext i
  rw [pausesFrom, pausesFrom, Nat.add_right_comm, Nat.add_assoc]

/-- A pause that comes to its end leads to the next attempt, and one that does not leaves the caller stopped when
it would start. -/
theorem rest_afterPause (hjitter : p.jitter = false) {failed : Nat} {e : StoreError} {v w'' : World σ}
    {waitEndsFirst ended : Bool} (hv : World.SeenAlike v (w.call f).2)
    (h : rest p operation signal failed e { v with waitEndsFirst } = (ended, w'')) :
    (ended = true → World.SeenAlike w'' (afterPause f (pausesFrom p failed 0) w)) ∧
      (ended = false → (afterPause f (pausesFrom p failed 0) w).isStopped signal = true) := by
  have hpause (v : World σ) : pause p failed v = p.cappedBackoff failed := by
    rw [pause, RetryPolicy.backoff, if_neg (by simp [hjitter])]
  have hstore : w''.store = v.store := (store_rest h).trans rfl
  have hshared : w''.sharedSignal = v.sharedSignal := (sharedSignal_rest h).trans rfl
  have hclock : (afterPause f (pausesFrom p failed 0) w).clock =
      v.clock.after (min (p.cappedBackoff failed) World.longestWait) := by
    rw [hv.clock]
    rfl
  rw [rest, hpause] at h
  constructor
  · rintro rfl
    refine ⟨hstore.trans hv.store, ?_, hshared.trans hv.sharedSignal⟩
    rw [hclock, World.clock_wait h]
    rfl
  · rintro rfl
    have hreached := World.reached_of_wait h
    rw [World.isStopped_iff, hclock]
    have hstop : (afterPause f (pausesFrom p failed 0) w).stopAt signal = v.stopAt signal := by
      rw [World.stopAt, World.stopAt, hv.sharedSignal]
      rfl
    rw [hstop]
    exact hreached

section Describes

variable {left failed : Nat} {v v' : World σ} {answer : Except StoreError α}

theorem timeline_not_stopped (hw : World.SeenAlike v w) (hstop : v.isStopped signal = false)
    {attempts : Nat} : ¬ (timeline attempts pauses signal f w).Stopped 0 := by
  rw [hw.isStopped_eq] at hstop
  rw [timeline_stopped_iff]
  exact Bool.eq_false_iff.mp hstop

/-- A call that its first attempt settles. -/
theorem describes_answered (hw : World.SeenAlike v w) (hstop : v.isStopped signal = false)
    (hc : v.call f = (answer, v'))
    (hsettles : (∃ value, answer = .ok value) ∨ (∃ e, answer = .error e ∧ e.isTransient = false) ∨
      left = 0) :
    (timeline (left + 1) pauses signal f w).Describes [v.clock] answer := by
  have hanswer : (timeline (left + 1) pauses signal f w).answer 0 = answer :=
    hw.call.1.symm.trans (congrArg Prod.fst hc)
  have h := Timeline.describes_settled (t := timeline (left + 1) pauses signal f w) (Nat.succ_pos left)
    (timeline_not_stopped hw hstop) (by
      rw [Timeline.Settles, hanswer]
      exact hsettles.imp_right (.imp_right fun hleft => by rw [hleft]; rfl))
  rw [hanswer] at h
  rw [hw.clock]
  exact h

/-- A call that goes on after its first attempt. -/
theorem describes_again (hw : World.SeenAlike v w) (hstop : v.isStopped signal = false) {e : StoreError}
    (hc : v.call f = (.error e, v')) (htransient : e.isTransient = true) {ticks : List Tick}
    (h : (timeline (left + 1) (pausesFrom p (failed + 1)) signal f
      (afterPause f (pausesFrom p failed 0) w)).Describes ticks answer) :
    (timeline (left + 2) (pausesFrom p failed) signal f w).Describes (v.clock :: ticks) answer := by
  rw [hw.clock]
  refine Timeline.describes_cons (Nat.succ_pos _) (timeline_not_stopped hw hstop) ?_ ?_
  · have hanswer : (timeline (left + 2) (pausesFrom p failed) signal f w).answer 0 = .error e :=
      hw.call.1.symm.trans (congrArg Prod.fst hc)
    rintro (⟨value, hvalue⟩ | ⟨e', he', hfinal⟩ | hlast)
    · rw [hanswer] at hvalue
      cases hvalue
    · rw [hanswer] at he'
      cases he'
      rw [htransient] at hfinal
      cases hfinal
    · exact absurd (Nat.succ.inj hlast) (Nat.succ_ne_zero left).symm
  · rw [← pausesFrom_succ] at h
    exact h

/-- Whatever is seen first, a call goes by the timeline of its policy. -/
theorem Tried.describes (hjitter : p.jitter = false) {ticks : List Tick}
    {r : Except StoreError α × World σ} (h : Tried p operation signal f left failed v ticks r) :
    ∀ {w}, World.SeenAlike v w →
      (timeline (left + 1) (pausesFrom p failed) signal f w).Describes ticks r.1 := by
  induction h with
  | stopped hstop =>
    intro w hw
    rw [hw.isStopped_eq] at hstop
    exact Timeline.describes_stopped timeline_stopped_succ (timeline_stopped_iff.mpr hstop)
  | answered hstop hc =>
    intro w hw
    exact describes_answered hw hstop hc (Or.inl ⟨_, rfl⟩)
  | refused hstop hc hfinal =>
    intro w hw
    exact describes_answered hw hstop hc (Or.inr (Or.inl ⟨_, rfl, hfinal⟩))
  | exhausted hstop hc _ =>
    intro w hw
    exact describes_answered hw hstop hc (Or.inr (Or.inr rfl))
  | interrupted hstop hc htransient hrest =>
    intro w hw
    have hnext := (hw.call (f := f)).2
    rw [hc] at hnext
    refine describes_again hw hstop hc htransient (Timeline.describes_stopped timeline_stopped_succ ?_)
    exact timeline_stopped_iff.mpr ((rest_afterPause hjitter hnext hrest).2 rfl)
  | again hstop hc htransient hrest _ ih =>
    intro w hw
    have hnext := (hw.call (f := f)).2
    rw [hc] at hnext
    exact describes_again hw hstop hc htransient (ih ((rest_afterPause hjitter hnext hrest).1 rfl))

end Describes

/-- Without jitter a call under retries goes by the timeline of its policy: which attempts are made, when they
start, and what the call comes to. They start when the world records them, are as many as the policy allows at
most, and a counter of 32 bits can count them if the policy is given in 32 bits. None of this depends on what is
seen first where a pause and a signal end at the same tick. -/
theorem call_described (p : RetryPolicy) (operation : String) (signal : StopSignal) (f : σ → Reply σ α)
    (w : World σ) (hjitter : p.jitter = false) :
    let starts := starts p operation signal f (p.attempts - 1) 0 w
    let result := call p operation signal f w
    (timeline p.attempts (fun n => min (p.cappedBackoff n) World.longestWait) signal f w).Describes
        starts result.1 ∧
      result.2.callTimes = (starts.map Tick.millisecond).reverse ++ w.callTimes ∧
      starts.length ≤ p.attempts ∧
      (p.maxAttempts ≤ limit32 → starts.length ≤ limit32) ∧
      Tried p operation signal f (p.attempts - 1) 0 w starts result ∧
      ∀ starts' result', Tried p operation signal f (p.attempts - 1) 0 w starts' result' →
        starts' = starts ∧ result'.1 = result.1 := by
  intro starts result
  have hpauses : pausesFrom p 0 = fun n => min (p.cappedBackoff n) World.longestWait := by
    funext n
    rw [pausesFrom, Nat.zero_add]
  have hattempts : p.attempts - 1 + 1 = p.attempts :=
    Nat.sub_add_cancel (Nat.le_max_right p.maxAttempts 1)
  have hdescribes {ticks : List Tick} {r : Except StoreError α × World σ}
      (h : Tried p operation signal f (p.attempts - 1) 0 w ticks r) :
      (timeline p.attempts (fun n => min (p.cappedBackoff n) World.longestWait) signal f w).Describes
        ticks r.1 := by
    have := h.describes hjitter ⟨rfl, rfl, rfl⟩
    rwa [hpauses, hattempts] at this
  have htried : Tried p operation signal f (p.attempts - 1) 0 w starts result :=
    (attempt_ran _ _ w).tried
  have hlength : starts.length ≤ p.attempts := (hdescribes htried).length_le
  refine ⟨hdescribes htried, callTimes_call_eq p operation signal f w, hlength, fun hmax => ?_, htried,
    fun starts' result' h => (hdescribes h).unique (hdescribes htried)⟩
  have hone : 1 ≤ limit32 := by decide
  rw [RetryPolicy.attempts] at hlength
  omega

/-- A store that fails once, and then answers how often it was asked before. -/
def failsOnce (asked : Nat) : Reply Nat Nat where
  answer := if asked = 0 then .error (.transient "busy") else .ok asked
  store := asked + 1

/-- The second attempt is made after the pause, and settles the call. -/
theorem call_described_failsOnce :
    let p : RetryPolicy := { maxAttempts := 3, initialBackoff := 100, jitter := false }
    starts p "get" {} failsOnce (p.attempts - 1) 0 { store := 0 } = [⟨0, 0⟩, ⟨100, 0⟩] ∧
      (call p "get" {} failsOnce { store := 0 }).1 = .ok 1 := by
  intro p
  have hstarts : starts p "get" {} failsOnce (p.attempts - 1) 0 { store := 0 } =
      [⟨0, 0⟩, ⟨100, 0⟩] := by decide
  obtain ⟨hdescribes, -⟩ := call_described p "get" {} failsOnce { store := 0 } rfl
  exact ⟨hstarts, hdescribes.settled 1 (by rw [hstarts]; decide) (Or.inl ⟨1, rfl⟩)⟩

/-- A pause of a policy can be longer than a timer runs: the next attempt is then made when the timer ends,
before the pause would be over. -/
theorem not_described_of_long_pause :
    ¬ ∀ (p : RetryPolicy) (signal : StopSignal) (f : Nat → Reply Nat Nat) (w : World Nat),
      p.jitter = false → p.maxAttempts ≤ limit32 → p.initialBackoff ≤ limit64 → p.maxBackoff ≤ limit64 →
      (timeline p.attempts p.cappedBackoff signal f w).Describes
        (starts p "op" signal f (p.attempts - 1) 0 w) (call p "op" signal f w).1 := by
  intro h
  let p : RetryPolicy :=
    { maxAttempts := 3, initialBackoff := 10 ^ 12, maxBackoff := limit64, jitter := false }
  have hdescribes := h p {} failsOnce { store := 0 } rfl (by decide) (by decide) (by decide)
  have hstarts : starts p "op" {} failsOnce (p.attempts - 1) 0 { store := 0 } =
      [⟨0, 0⟩, ⟨946080000000, 0⟩] := by decide
  have hline := hdescribes.starts_eq
  rw [hstarts] at hline
  exact absurd hline (by decide)

end Retry

end ObjectListing
