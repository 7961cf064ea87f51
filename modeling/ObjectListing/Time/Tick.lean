/-!
Ticks of a clock that stands still while work goes on. A tick is a millisecond and the number of times
that work has paused in it: when work pauses, everything else that is due goes first. What a timer of a
millisecond does therefore comes one pause after the millisecond is reached.
-/

namespace ObjectListing

/-- A tick: a millisecond, and the number of pauses in it. -/
structure Tick where
  millisecond : Nat := 0
  pauses : Nat := 0
  deriving DecidableEq, Repr

namespace Tick

/-- Ticks come millisecond by millisecond, and in each pause by pause. -/
instance order : LT Tick where
  lt s t := s.millisecond < t.millisecond ∨ s.millisecond = t.millisecond ∧ s.pauses < t.pauses

instance decidableOrder (s t : Tick) : Decidable (s < t) :=
  inferInstanceAs (Decidable
    (s.millisecond < t.millisecond ∨ s.millisecond = t.millisecond ∧ s.pauses < t.pauses))

/-- The tick after one more pause. -/
def next (t : Tick) : Tick := { t with pauses := t.pauses + 1 }

/-- The later of two ticks. -/
def later (s t : Tick) : Tick := if s < t then t else s

/-- The earlier of two ticks that may never come. -/
def earlier : Option Tick → Option Tick → Option Tick
  | some s, some t => some (if t < s then t else s)
  | some s, none => some s
  | none, t => t

/-- The tick that is so many milliseconds later, or this one if there are none. -/
def after (t : Tick) (milliseconds : Nat) : Tick :=
  if milliseconds = 0 then t else ⟨t.millisecond + milliseconds, 0⟩

end Tick

end ObjectListing
