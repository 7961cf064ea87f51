import Mathlib.Data.Nat.Digits.Defs
import ObjectListing.Text.Digit

/-!
Numerals: texts of the ten digits. The number that a numeral writes has no bound (`Text.value`), and a
text is read as a number exactly when it is a numeral (`Text.natural?_eq_some_iff`), or one whose number
is small enough.
-/

namespace ObjectListing

namespace Text

/-- Whether a text is one or more of the ten digits. -/
structure IsNumeral (t : Text) : Prop where
  ne_nil : t ≠ []
  digits : ∀ c ∈ t, '0' ≤ c ∧ c ≤ '9'

/-- The number that digits write, however many they are. -/
def value (t : Text) : Nat := Nat.ofDigits 10 (t.reverse.map fun c => c.toNat - '0'.toNat)

variable {t : Text} {n limit : Nat}

theorem value_nil : value [] = 0 := rfl

theorem value_cons (c : Char) (t : Text) :
    value (c :: t) = 10 ^ t.length * (c.toNat - '0'.toNat) + value t := by
  rw [value, List.reverse_cons, List.map_append, Nat.ofDigits_append, List.length_map,
    List.length_reverse, List.map_singleton, Nat.ofDigits_singleton, Nat.add_comm]
  rfl

theorem digitValue?_eq_some_iff {c : Char} {d : Nat} :
    digitValue? c = some d ↔ ('0' ≤ c ∧ c ≤ '9') ∧ d = c.toNat - '0'.toNat := by
  have hzero : '0'.toNat = 48 := rfl
  rw [digitValue?, hzero]
  split
  · rename_i hc
    simp [hc, eq_comm]
  · rename_i hc
    simp [hc]

/-- Reading goes on after a number by shifting it past the digits that are to come. -/
theorem digitsFrom?_eq_some_iff {m : Nat} : digitsFrom? m t = some n ↔
    (∀ c ∈ t, '0' ≤ c ∧ c ≤ '9') ∧ n = 10 ^ t.length * m + value t := by
  induction t generalizing m with
  | nil => simp [digitsFrom?, value_nil, eq_comm]
  | cons c t ih =>
    have hshift (d : Nat) : 10 ^ t.length * (10 * m + d) + value t =
        10 ^ (t.length + 1) * m + (10 ^ t.length * d + value t) := by
      rw [pow_succ]
      ring
    rw [digitsFrom?, Option.bind_eq_some_iff, List.forall_mem_cons, value_cons, List.length_cons]
    constructor
    · rintro ⟨d, hd, hrest⟩
      obtain ⟨hc, rfl⟩ := digitValue?_eq_some_iff.mp hd
      obtain ⟨ht, rfl⟩ := ih.mp hrest
      exact ⟨⟨hc, ht⟩, hshift _⟩
    · rintro ⟨⟨hc, ht⟩, rfl⟩
      exact ⟨_, digitValue?_eq_some_iff.mpr ⟨hc, rfl⟩, ih.mpr ⟨ht, (hshift _).symm⟩⟩

/-- Numerals are read, and nothing else. -/
theorem natural?_eq_some_iff : natural? t = some n ↔ IsNumeral t ∧ value t = n := by
  cases t with
  | nil => exact ⟨nofun, fun h => absurd rfl h.1.ne_nil⟩
  | cons c t =>
    rw [natural?]
    · rw [digitsFrom?_eq_some_iff, Nat.mul_zero, Nat.zero_add]
      exact ⟨fun h => ⟨⟨List.cons_ne_nil c t, h.1⟩, h.2.symm⟩, fun h => ⟨h.1.digits, h.2.symm⟩⟩
    · exact List.cons_ne_nil c t

theorem naturalUpTo?_eq_some_iff :
    naturalUpTo? limit t = some n ↔ IsNumeral t ∧ value t = n ∧ n ≤ limit := by
  rw [naturalUpTo?, Option.filter_eq_some_iff, natural?_eq_some_iff, decide_eq_true_iff, and_assoc]

/-- Every number has a numeral, with a zero in front if need be. -/
theorem exists_isNumeral (n : Nat) : ∃ t, IsNumeral t ∧ value t = n := by
  have hzero : '0'.toNat = 48 := rfl
  have hnine : '9'.toNat = 57 := rfl
  have hle (a b : Char) : a ≤ b ↔ a.toNat ≤ b.toNat := Iff.rfl
  have hdigit (d : Nat) (hd : d < 10) : (Char.ofNat (48 + d)).toNat = 48 + d := by
    rw [Char.ofNat, dif_pos (Or.inl (by omega))]
    rfl
  have hlt (d : Nat) (hd : d ∈ Nat.digits 10 n) : d < 10 := Nat.digits_lt_base (by decide) hd
  refine ⟨'0' :: ((Nat.digits 10 n).map fun d => Char.ofNat (48 + d)).reverse,
    ⟨List.cons_ne_nil _ _, List.forall_mem_cons.mpr ⟨by decide, ?_⟩⟩, ?_⟩
  · intro c hc
    obtain ⟨d, hd, rfl⟩ := List.mem_map.mp (List.mem_reverse.mp hc)
    rw [hle, hle, hdigit d (hlt d hd), hzero, hnine]
    exact ⟨by omega, by have := hlt d hd; omega⟩
  · rw [value_cons, Nat.sub_self, Nat.mul_zero, Nat.zero_add, value, List.reverse_reverse,
      List.map_map]
    refine (congrArg (Nat.ofDigits 10) ?_).trans (Nat.ofDigits_digits 10 n)
    refine (List.map_congr_left fun d hd => ?_).trans (List.map_id _)
    rw [Function.comp_apply, hdigit d (hlt d hd), hzero, Nat.add_sub_cancel_left, id]

/-- The ten digits are among the digits of all scripts. -/
theorem isDecimalDigit_of_digit {c : Char} (h : '0' ≤ c ∧ c ≤ '9') : isDecimalDigit c = true := by
  have hle (a b : Char) : a ≤ b ↔ a.toNat ≤ b.toNat := Iff.rfl
  rw [hle, hle] at h
  have hfirst : (48, 57) ∈ decimalDigitRanges := by decide
  exact List.any_eq_true.mpr ⟨_, hfirst, by simpa using h⟩

theorem IsNumeral.isDecimalDigit (h : IsNumeral t) : ∀ c ∈ t, isDecimalDigit c = true :=
  fun c hc => isDecimalDigit_of_digit (h.digits c hc)

end Text

end ObjectListing
