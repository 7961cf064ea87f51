import Mathlib.Tactic.Ring
import ObjectListing.Time.Instant

/-!
Instants that have a date. Their years are bounded, so no two of them are too far apart for a span: the time
between them, outside of leap seconds, is the exact difference of their nanoseconds (`Instant.Ordinary.since?_eq`).
-/

namespace ObjectListing

namespace Span

variable {n : Int}

theorem checked?_of_le (h : n.natAbs ≤ limit) : checked? n = some n := if_pos h

theorem checked?_of_lt (h : limit < n.natAbs) : checked? n = none := if_neg (Nat.not_le.mpr h)

end Span

/-- The year of a day is the first of its cycle of 400 years, or one of the 401 behind it. -/
theorem Date.year_ofDay (day : Int) : ∃ past : Nat, past ≤ 401 ∧
    (Date.ofDay day).year = (day + 719468) / 146097 * 400 + past := by
  have hcycle : (day + 719468).fdiv 146097 = (day + 719468) / 146097 :=
    Int.fdiv_eq_ediv_of_nonneg _ (by decide)
  have hday : (day + 719468).fmod 146097 = (day + 719468) % 146097 :=
    Int.fmod_eq_emod_of_nonneg _ (by decide)
  have hrest : ((day + 719468) % 146097).toNat < 146097 := by omega
  rw [Date.ofDay, hcycle, hday]
  dsimp only
  generalize ((day + 719468) % 146097).toNat = dayOfCycle at hrest
  generalize hyear : (dayOfCycle - dayOfCycle / 1460 + dayOfCycle / 36524 - dayOfCycle / 146096) / 365
    = yearOfCycle
  have hpast : yearOfCycle ≤ 400 := by omega
  -- January and February belong to the next year
  have hlate (month : Nat) (year : Int) : ∃ late : Nat, late ≤ 1 ∧
      (if month ≤ 2 then year + 1 else year) = year + late := by
    split
    · exact ⟨1, by decide, rfl⟩
    · exact ⟨0, by decide, by omega⟩
  refine (hlate _ _).elim fun late h => ⟨yearOfCycle + late, by omega, h.2.trans ?_⟩
  push_cast
  ring

namespace Instant

variable {t earlier : Instant}

/-- An instant that has a date and lies in no leap second. -/
structure Ordinary (t : Instant) : Prop where
  dated : t.isDated = true
  noLeap : t.isLeap = false

/-- Nanoseconds since the beginning of 1970. -/
def nanoseconds (t : Instant) : Int := t.seconds * second + t.nanos

theorem clock_eq (t : Instant) : (t.clock : Int) = t.seconds % 86400 := by
  have hmod : t.seconds.fmod 86400 = t.seconds % 86400 :=
    Int.fmod_eq_emod_of_nonneg _ (by decide)
  rw [clock, hmod, Int.toNat_of_nonneg (Int.emod_nonneg _ (by decide))]

theorem day_eq (t : Instant) : t.day = t.seconds / 86400 :=
  Int.fdiv_eq_ediv_of_nonneg _ (by decide)

/-- A date is less than nine million million seconds away from 1970. -/
theorem natAbs_seconds_lt (h : t.isDated = true) : t.seconds.natAbs < 9 * 10 ^ 12 := by
  simp only [isDated, Bool.and_eq_true, decide_eq_true_eq] at h
  obtain ⟨⟨hlast, hfirst⟩, -⟩ := h
  obtain ⟨past, hpast, hyear⟩ := Date.year_ofDay (t.seconds.fdiv 86400)
  have hday : t.seconds.fdiv 86400 = t.seconds / 86400 := t.day_eq
  rw [hyear] at hlast hfirst
  rw [hday] at hlast hfirst
  omega

theorem Ordinary.nanos_lt (h : t.Ordinary) : t.nanos < second := by
  simpa [isLeap] using h.noLeap

theorem Ordinary.leapBetween_eq (ht : t.Ordinary) (h : earlier.Ordinary) :
    t.leapBetween earlier = 0 := by
  simp [leapBetween, ht.noLeap, h.noLeap]

/-- Ordinary instants are less than twenty million million seconds apart. -/
theorem Ordinary.natAbs_sub_lt (ht : t.Ordinary) (h : earlier.Ordinary) :
    (t.nanoseconds - earlier.nanoseconds).natAbs < 2 * 10 ^ 13 * second := by
  have hfar := natAbs_seconds_lt ht.dated
  have hfar' := natAbs_seconds_lt h.dated
  have hnanos := ht.nanos_lt
  have hnanos' := h.nanos_lt
  simp only [nanoseconds, second] at hnanos hnanos' ⊢
  omega

/-- The time between two ordinary instants is a span, and exact. -/
theorem Ordinary.since?_eq (ht : t.Ordinary) (h : earlier.Ordinary) :
    t.since? earlier = some (t.nanoseconds - earlier.nanoseconds) := by
  have hfar := natAbs_seconds_lt ht.dated
  have hfar' := natAbs_seconds_lt h.dated
  have hnanos := ht.nanos_lt
  have hnanos' := h.nanos_lt
  have hlimit : Span.limit = 9223372036854775807000000 := rfl
  simp only [since?, ht.leapBetween_eq h, clock_eq, day_eq, nanoseconds, second] at hnanos hnanos' ⊢
  rw [Span.checked?_of_le (by omega), Option.bind_some, Span.checked?_of_le (by omega),
    Option.bind_some, Span.checked?_of_le (by omega), Option.some.injEq]
  omega

end Instant

end ObjectListing
