import ObjectListing.Time.Tick

/-!
The order of ticks. A clock never goes back: a tick that it has reached stays reached when work pauses, when
time passes, and when a later tick is waited for.
-/

namespace ObjectListing

namespace Tick

variable {s t u : Tick}

theorem lt_iff : s < t ↔
    s.millisecond < t.millisecond ∨ s.millisecond = t.millisecond ∧ s.pauses < t.pauses := Iff.rfl

theorem not_lt_self (t : Tick) : ¬ t < t := by
  rw [lt_iff]
  omega

theorem not_lt_next (h : ¬ t < s) : ¬ t.next < s := by
  rw [lt_iff] at h ⊢
  rw [next]
  dsimp only
  omega

theorem not_lt_after (h : ¬ t < s) (milliseconds : Nat) : ¬ t.after milliseconds < s := by
  rw [after]
  split
  · exact h
  · rw [lt_iff] at h ⊢
    dsimp only
    omega

theorem lt_of_lt_of_not_lt (h : s < t) (hreached : ¬ u < t) : s < u := by
  rw [lt_iff] at h hreached ⊢
  omega

theorem not_lt_later_left (s t : Tick) : ¬ s.later t < s := by
  rw [later]
  split
  · rename_i hst
    rw [lt_iff] at hst ⊢
    omega
  · exact not_lt_self s

/-- Whether a tick that may never come has come. -/
def Reached (now : Tick) (tick : Option Tick) : Prop := ∃ t, tick = some t ∧ ¬ now < t

theorem reached_earlier_iff {now : Tick} {a b : Option Tick} :
    Reached now (earlier a b) ↔ Reached now a ∨ Reached now b := by
  cases a with
  | none => simp [Reached, earlier]
  | some s =>
    cases b with
    | none => simp [Reached, earlier]
    | some t =>
      simp only [Reached, earlier, Option.some.injEq, exists_eq_left']
      split
      · rename_i hts
        rw [lt_iff] at hts ⊢
        rw [lt_iff]
        omega
      · rename_i hts
        rw [lt_iff] at hts ⊢
        rw [lt_iff]
        omega

end Tick

end ObjectListing
