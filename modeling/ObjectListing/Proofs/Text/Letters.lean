import ObjectListing.Text.Lowercase

/-!
Small letters and capitals of ASCII. A character has a given small letter when it is that letter or its
capital (`Text.asciiSmall_eq_iff`).
-/

namespace ObjectListing

namespace Text

/-- The characters of which a given one is the small letter: itself and its capital. -/
theorem asciiSmall_eq_iff {c d : Char} (hd : ¬ ('A' ≤ d ∧ d ≤ 'Z')) :
    asciiSmall c = d ↔ c = d ∨ c = asciiCapital d := by
  have hle (a b : Char) : a ≤ b ↔ a.toNat ≤ b.toNat := Iff.rfl
  have hshift {n : Nat} (hn : n < 128) : (Char.ofNat n).toNat = n := by
    rw [Char.ofNat, dif_pos (Or.inl (by omega))]
    rfl
  have hA : 'A'.toNat = 65 := rfl
  have hZ : 'Z'.toNat = 90 := rfl
  have ha : 'a'.toNat = 97 := rfl
  have hz : 'z'.toNat = 122 := rfl
  rw [asciiSmall, asciiCapital]
  rw [hle, hle, hA, hZ] at hd
  simp only [hle, ← Char.toNat_inj, hA, hZ, ha, hz]
  split
  · rw [hshift (by omega)]
    split
    · rw [hshift (by omega)]
      omega
    · omega
  · split
    · rw [hshift (by omega)]
      omega
    · omega

/-- Other characters than those of ASCII stay as they are, and are the small letters of nothing else. -/
theorem asciiSmall_eq_iff_of_not_isAscii {c d : Char} (h : isAscii d = false) :
    asciiSmall c = d ↔ c = d := by
  have hle (a b : Char) : a ≤ b ↔ a.toNat ≤ b.toNat := Iff.rfl
  have hZ : 'Z'.toNat = 90 := rfl
  have hz : 'z'.toNat = 122 := rfl
  simp only [isAscii, decide_eq_false_iff_not] at h
  have hcapital : asciiCapital d = d := by
    rw [asciiCapital, if_neg]
    rw [hle, hle, hz]
    omega
  rw [asciiSmall_eq_iff (by rw [hle, hle, hZ]; omega), hcapital, or_self]

end Text

end ObjectListing
