import ObjectListing.World

/-!
Retries. A call that fails for a transient cause is made again after a pause; the pause doubles each
time, up to a ceiling. The caller's signal is looked at before each attempt and ends a pause early.
-/

namespace ObjectListing

/-- How often a call is tried and how long the pauses are, in milliseconds. -/
structure RetryPolicy where
  maxAttempts : Nat := 3
  initialBackoff : Nat := 100
  maxBackoff : Nat := 10000
  jitter : Bool := true
  deriving DecidableEq, Repr

namespace RetryPolicy

/-- The policy of a single attempt. -/
def single : RetryPolicy := { maxAttempts := 1 }

/-- A policy with this number of attempts, at least one. -/
def withMaxAttempts (p : RetryPolicy) (n : Nat) : RetryPolicy := { p with maxAttempts := max n 1 }

/-- The number of attempts a call gets. -/
def attempts (p : RetryPolicy) : Nat := max p.maxAttempts 1

/-- A sum that stops at the largest number of 64 bits. -/
def saturatingAdd (a b : Nat) : Nat := min (a + b) (Nat.pow 2 64 - 1)

/-- A product that stops at the largest number of 64 bits. -/
def saturatingMul (a b : Nat) : Nat := min (a * b) (Nat.pow 2 64 - 1)

/-- A power of two that stops at the largest number of 64 bits. -/
def saturatingPow2 (n : Nat) : Nat := if n < 64 then Nat.pow 2 n else Nat.pow 2 64 - 1

/-- The pause after failed attempt number `attempt`, counted from zero, before any jitter. -/
def cappedBackoff (p : RetryPolicy) (attempt : Nat) : Nat :=
  min (saturatingMul p.initialBackoff (saturatingPow2 attempt)) p.maxBackoff

/-- The largest addition that jitter makes to a pause. -/
def jitterRange (p : RetryPolicy) (attempt : Nat) : Nat := p.cappedBackoff attempt / 4

/-- The pause after failed attempt number `attempt` when jitter draws `draw`, which is at most
`jitterRange`. -/
def backoff (p : RetryPolicy) (attempt draw : Nat) : Nat :=
  if p.jitter then min (saturatingAdd (p.cappedBackoff attempt) draw) p.maxBackoff
  else p.cappedBackoff attempt

end RetryPolicy

namespace Retry

variable {σ α : Type}

/-- Makes a call whose earlier `failed` attempts failed and which has `left` attempts after this one.
-/
def attempt (p : RetryPolicy) (operation : String) (signal : StopSignal) (f : σ → Reply σ α) :
    (left failed : Nat) → World σ → Except StoreError α × World σ
  | left, failed, w =>
    if w.isStopped signal then (.error .cancelled, w)
    else
      match w.call f with
      | (.ok value, w) => (.ok value, w)
      | (.error e, w) =>
        if !e.isTransient then
          (.error e, if e.isMalformed then w.report (.malformedResponse operation e) else w)
        else
          match left with
          | 0 => (.error e, w.report (.retriesExhausted operation (failed + 1) e))
          | left + 1 =>
            let (draw, w) := w.draw (p.jitterRange failed)
            let pause := p.backoff failed draw
            match (w.report (.backingOff operation (failed + 1) e pause)).wait pause signal with
            | (true, w) => attempt p operation signal f left (failed + 1) w
            | (false, w) => (.error .cancelled, w)
  termination_by structural left => left

/-- Makes a call until it succeeds, fails for good, has used its attempts, or is stopped. -/
def call (p : RetryPolicy) (operation : String) (signal : StopSignal) (f : σ → Reply σ α)
    (w : World σ) : Except StoreError α × World σ :=
  attempt p operation signal f (p.attempts - 1) 0 w

end Retry

end ObjectListing
