import ObjectListing.World

/-!
What the operations of a world leave as it is. Reports, draws and waits touch neither the store nor the
calls made so far nor the shared signal; a call to the store does, and gives the shared signal only if
its reply says so.
-/

namespace ObjectListing

namespace World

variable {σ α : Type} {w : World σ} {s : StopSignal} {f : σ → Reply σ α}

@[simp] theorem stopAt_report (e : Event) : (w.report e).stopAt s = w.stopAt s := rfl

@[simp] theorem store_report (e : Event) : (w.report e).store = w.store := rfl

@[simp] theorem stopAt_draw (most : Nat) : (w.draw most).2.stopAt s = w.stopAt s := rfl

@[simp] theorem callTimes_report (e : Event) : (w.report e).callTimes = w.callTimes := rfl

@[simp] theorem callTimes_draw (most : Nat) : (w.draw most).2.callTimes = w.callTimes := rfl

/-- A wait only moves the clock. -/
theorem wait_eq (milliseconds : Nat) (s : StopSignal) (w : World σ) :
    ∃ clock, (w.wait milliseconds s).2 = { w with clock } := by
  rw [wait]
  cases w.stopAt s with
  | none => exact ⟨_, rfl⟩
  | some tick =>
    dsimp only
    split
    · exact ⟨_, rfl⟩
    · exact ⟨_, rfl⟩

@[simp] theorem stopAt_wait (milliseconds : Nat) (t : StopSignal) :
    (w.wait milliseconds t).2.stopAt s = w.stopAt s := by
  obtain ⟨clock, h⟩ := wait_eq milliseconds t w
  rw [h]
  rfl

@[simp] theorem callTimes_wait (milliseconds : Nat) (t : StopSignal) :
    (w.wait milliseconds t).2.callTimes = w.callTimes := by
  obtain ⟨clock, h⟩ := wait_eq milliseconds t w
  rw [h]

@[simp] theorem store_wait (milliseconds : Nat) (t : StopSignal) :
    (w.wait milliseconds t).2.store = w.store := by
  obtain ⟨clock, h⟩ := wait_eq milliseconds t w
  rw [h]

@[simp] theorem sharedSignal_wait (milliseconds : Nat) (t : StopSignal) :
    (w.wait milliseconds t).2.sharedSignal = w.sharedSignal := by
  obtain ⟨clock, h⟩ := wait_eq milliseconds t w
  rw [h]

/-- A wait that nothing stops comes to its end. -/
theorem wait_fst (h : w.stopAt s = none) (milliseconds : Nat) : (w.wait milliseconds s).1 = true := by
  rw [wait, h]

/-- A wait that nothing stops only takes its time. -/
theorem wait_of_unstopped (h : w.stopAt s = none) (milliseconds : Nat) :
    w.wait milliseconds s = (true, { w with clock := w.waitEnd milliseconds }) := by
  rw [wait, h]

/-- A wait that comes to its end leaves the clock there. -/
theorem clock_wait {milliseconds : Nat} {w' : World σ} (h : w.wait milliseconds s = (true, w')) :
    w'.clock = w.waitEnd milliseconds := by
  rw [wait] at h
  cases hstop : w.stopAt s with
  | none =>
    rw [hstop] at h
    cases h
    rfl
  | some tick =>
    rw [hstop] at h
    dsimp only at h
    split at h
    · cases h
      rfl
    · cases h

theorem isStopped_eq_false (h : w.stopAt s = none) : w.isStopped s = false := by
  rw [isStopped, h]

@[simp] theorem call_fst : (w.call f).1 = (f w.store).answer := rfl

@[simp] theorem store_call : (w.call f).2.store = (f w.store).store := by
  rw [call]
  dsimp only
  split <;> rfl

theorem callTimes_call : (w.call f).2.callTimes = w.now :: w.callTimes := by
  rw [call]
  dsimp only
  split <;> rfl

/-- A call is one call more. -/
theorem length_callTimes_of_call {w' : World σ} {answer : Except StoreError α} (h : w.call f = (answer, w')) :
    w'.callTimes.length = w.callTimes.length + 1 := by
  rw [show w' = (w.call f).2 by rw [h], callTimes_call, List.length_cons]

theorem clock_call :
    (w.call f).2.clock = if (f w.store).waits then w.clock.next else w.clock := by
  rw [call]
  dsimp only
  split <;> rfl

theorem sharedSignal_call : (w.call f).2.sharedSignal =
    if (f w.store).stops then Tick.earlier w.sharedSignal (some (w.call f).2.clock)
    else w.sharedSignal := by
  rw [clock_call, call]
  dsimp only
  split <;> rfl

theorem waitEndsFirst_call : (w.call f).2.waitEndsFirst = w.waitEndsFirst := by
  rw [call]
  dsimp only
  split <;> rfl

theorem dice_call : (w.call f).2.dice = w.dice := by
  rw [call]
  dsimp only
  split <;> rfl

theorem epoch_call : (w.call f).2.epoch = w.epoch := by
  rw [call]
  dsimp only
  split <;> rfl

/-- A call that does not stop its caller leaves the signals as they are. -/
theorem stopAt_call (h : (f w.store).stops = false) : (w.call f).2.stopAt s = w.stopAt s := by
  rw [call]
  dsimp only
  rw [h]
  rfl

/-- A property of worlds that only a call to the store can end. -/
structure Lasting (I : World σ → Prop) : Prop where
  report : ∀ (e : Event) (w : World σ), I w → I (w.report e)
  draw : ∀ (most : Nat) (w : World σ), I w → I (w.draw most).2
  wait : ∀ (milliseconds : Nat) (s : StopSignal) (w : World σ), I w → I (w.wait milliseconds s).2

/-- Properties of the store and of the signals last. -/
theorem lasting_of (I : σ → Option Tick → Prop) :
    Lasting fun w : World σ => I w.store w.sharedSignal := by
  refine ⟨fun _ _ h => h, fun _ _ h => h, ?_⟩
  intro milliseconds s w h
  obtain ⟨clock, hw⟩ := wait_eq milliseconds s w
  rw [hw]
  exact h

theorem Lasting.reportAll {I : World σ → Prop} (hI : Lasting I) : ∀ (es : List Event) (w : World σ),
    I w → I (w.reportAll es)
  | [], _, h => h
  | e :: es, w, h => by
    have := hI.reportAll es (w.report e) (hI.report e w h)
    simpa [World.reportAll, World.report] using this

end World

end ObjectListing
