import ObjectListing.Proofs.Text.Letters

/-!
Texts in small letters. The dotted capital I is the only character that becomes two (`Text.length_lowercase`), and
of ASCII only the capitals change (`Text.lowercase_of_isAscii`).
-/

namespace ObjectListing

namespace Text

variable {t : Text} {c : Char}

theorem length_lowercaseAfter (before t : Text) :
    (lowercaseAfter before t).length = t.length + t.count 'İ' := by
  induction t generalizing before with
  | nil => rfl
  | cons c t ih =>
    rw [lowercaseAfter, List.length_append, ih, List.length_cons, List.count_cons]
    by_cases hsigma : c = 'Σ'
    · rw [if_pos hsigma, hsigma, List.length_singleton, if_neg (by decide)]
      omega
    · rw [if_neg hsigma]
      by_cases hdotted : c = 'İ'
      · rw [if_pos hdotted, hdotted, if_pos (by decide)]
        simp only [List.length_cons, List.length_nil]
        omega
      · rw [if_neg hdotted, List.length_singleton, if_neg (by simpa using hdotted)]
        omega

/-- It is in the same places when capitals of ASCII become small. -/
theorem count_map_asciiSmall (t : Text) : (t.map asciiSmall).count 'İ' = t.count 'İ' := by
  induction t with
  | nil => rfl
  | cons c t ih =>
    simp only [List.map_cons, List.count_cons, beq_iff_eq, ih,
      asciiSmall_eq_iff_of_not_isAscii (c := c) (d := 'İ') rfl]

theorem length_lowercase (t : Text) : t.lowercase.length = t.length + t.count 'İ' :=
  length_lowercaseAfter [] t

/-- In ASCII only the capitals have another small letter. -/
theorem smallLetter_of_isAscii (h : isAscii c = true) : smallLetter c = asciiSmall c := by
  have hall : ∀ n < 128, smallLetter (Char.ofNat n) = asciiSmall (Char.ofNat n) := by
    decide +kernel
  have hc := hall c.toNat (by simpa [isAscii] using h)
  rwa [Char.ofNat_toNat] at hc

theorem lowercaseAfter_of_isAscii (before : Text) (h : ∀ c ∈ t, isAscii c = true) :
    lowercaseAfter before t = t.map asciiSmall := by
  induction t generalizing before with
  | nil => rfl
  | cons c t ih =>
    obtain ⟨hc, ht⟩ := List.forall_mem_cons.mp h
    have hne (d : Char) (hd : isAscii d = false) : c ≠ d := by
      rintro rfl
      rw [hc] at hd
      cases hd
    rw [lowercaseAfter, if_neg (hne 'Σ' rfl), if_neg (hne 'İ' rfl), ih _ ht,
      smallLetter_of_isAscii hc]
    rfl

theorem lowercase_of_isAscii (h : ∀ c ∈ t, isAscii c = true) : t.lowercase = t.map asciiSmall :=
  lowercaseAfter_of_isAscii [] h

end Text

end ObjectListing
