import ObjectListing.Backend
import ObjectListing.Time.Tick

/-!
The surroundings of an operation: the state of the store, a clock, the signal by which a caller stops
work, and the events so far. Time passes only while an operation waits.
-/

namespace ObjectListing

/-- How an operation can be stopped: by a signal of its own, given at a tick, and by the signal that it
shares with other operations, if it heeds that one. -/
structure StopSignal where
  givenAt : Option Tick := none
  heedsShared : Bool := false
  deriving DecidableEq, Repr

/-- The surroundings of an operation. The clock began to run at `epoch`. A wait that ends at the very
tick of the signal may be seen to end first or not; `waitEndsFirst` says which. Chance is a supply of
numbers, `dice`; when it is used up, zeros. The milliseconds of the calls made so far are `callTimes`,
the latest first. -/
structure World (σ : Type) where
  store : σ
  clock : Tick := {}
  epoch : Instant := {}
  sharedSignal : Option Tick := none
  waitEndsFirst : Bool := true
  dice : List Nat := []
  callTimes : List Nat := []
  journal : List Event := []

namespace World

variable {σ α : Type}

/-- The events so far, oldest first. -/
def events (w : World σ) : List Event := w.journal.reverse

/-- Adds an event. -/
def report (e : Event) (w : World σ) : World σ := { w with journal := e :: w.journal }

/-- Adds events, oldest first. -/
def reportAll (es : List Event) (w : World σ) : World σ :=
  { w with journal := es.reverse ++ w.journal }

/-- The milliseconds that have passed. -/
def now (w : World σ) : Nat := w.clock.millisecond

/-- The tick from which an operation with this signal is stopped. -/
def stopAt (w : World σ) (s : StopSignal) : Option Tick :=
  Tick.earlier s.givenAt (if s.heedsShared then w.sharedSignal else none)

/-- Whether an operation with this signal is stopped by now. -/
def isStopped (w : World σ) (s : StopSignal) : Bool :=
  match w.stopAt s with
  | some tick => !decide (w.clock < tick)
  | none => false

/-- Gives the shared signal at a tick that may never come, unless it is given before. -/
def giveSharedSignalAt (tick : Option Tick) (w : World σ) : World σ :=
  { w with sharedSignal := Tick.earlier w.sharedSignal tick }

/-- Gives the shared signal, if it was not given before. -/
def giveSharedSignal (w : World σ) : World σ := w.giveSharedSignalAt (some w.clock)

/-- The longest time that a timer runs: thirty years of 365 days, in milliseconds. One that is set to
more ends then. -/
def longestWait : Nat := 30 * 365 * 86400 * 1000

/-- The tick at which a wait ends that begins now. -/
def waitEnd (w : World σ) (milliseconds : Nat) : Tick := w.clock.after (min milliseconds longestWait)

/-- The tick at which a timer goes off that is set now. -/
def timerTick (w : World σ) (milliseconds : Nat) : Tick := (w.waitEnd milliseconds).next

/-- Time passes. -/
def pass (milliseconds : Nat) (w : World σ) : World σ := { w with clock := w.waitEnd milliseconds }

/-- The moment of the calendar. -/
def moment (w : World σ) : Instant := w.epoch.after w.now

/-- Draws a number that is at most `most`. -/
def draw (most : Nat) (w : World σ) : Nat × World σ :=
  (min (w.dice.headD 0) most, { w with dice := w.dice.tail })

/-- Makes a call to the store. Where the store lets its callers wait, work pauses. -/
def call (f : σ → Reply σ α) (w : World σ) : Except StoreError α × World σ :=
  let r := f w.store
  let clock := if r.waits then w.clock.next else w.clock
  let w := { w with store := r.store, clock, callTimes := w.now :: w.callTimes }.reportAll r.events
  (r.answer, if r.stops then w.giveSharedSignal else w)

/-- Waits, unless the signal comes first. The answer tells whether the wait came to its end. -/
def wait (milliseconds : Nat) (s : StopSignal) (w : World σ) : Bool × World σ :=
  let done := w.waitEnd milliseconds
  match w.stopAt s with
  | none => (true, { w with clock := done })
  | some tick =>
    let noticed := tick.later w.clock
    if done < noticed ∨ (done = noticed ∧ w.waitEndsFirst) then (true, { w with clock := done })
    else (false, { w with clock := noticed })

end World

end ObjectListing
