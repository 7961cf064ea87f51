import Mathlib.Data.List.DropRight
import ObjectListing.Text.Blank

/-!
Blanks around a text. Every text is a trimmed one with blanks around it, in one way (`trimmed_eq_iff`).
Trimming takes nothing away from a text that ends in another character, whatever stands before
(`trimmedEnd_append`).
-/

namespace ObjectListing

namespace Text

/-- Whether a text begins with a blank. -/
def beginsWithBlank (t : Text) : Bool := t.head?.any isBlank

/-- Whether a text ends in a blank. -/
def endsInBlank (t : Text) : Bool := t.getLast?.any isBlank

/-- A text that neither begins with a blank nor ends in one. -/
structure Trimmed (t : Text) : Prop where
  head : beginsWithBlank t = false
  last : endsInBlank t = false

/-- Whether a text is another one, which is trimmed, with blanks around it. -/
def TrimmedFrom (s t : Text) : Prop :=
  Trimmed t ∧ ∃ before after, (∀ c ∈ before, isBlank c = true) ∧ (∀ c ∈ after, isBlank c = true) ∧
    s = before ++ t ++ after

variable {s t start rest : Text}

/-! ### The end -/

theorem endsInBlank_append (h : rest ≠ []) : endsInBlank (start ++ rest) = endsInBlank rest := by
  rw [endsInBlank, endsInBlank, List.getLast?_append_of_ne_nil _ h]

theorem not_endsInBlank_of_forall (h : ∀ c ∈ t, isBlank c = false) : endsInBlank t = false := by
  rw [endsInBlank, Option.any_eq_false]
  intro c hc
  simpa using h c (List.mem_of_getLast? hc)

theorem trimmedEnd_eq_self_iff : trimmedEnd t = t ↔ endsInBlank t = false := by
  have hlast : trimmedEnd t = t ↔ ∀ hne : t ≠ [], ¬ isBlank (t.getLast hne) = true :=
    List.rdropWhile_eq_self_iff
  rw [hlast, endsInBlank]
  cases t using List.reverseRecOn with
  | nil => simp
  | append_singleton t c => simp

theorem not_endsInBlank_trimmedEnd (t : Text) : endsInBlank (trimmedEnd t) = false :=
  trimmedEnd_eq_self_iff.mp (List.rdropWhile_idempotent isBlank t)

/-- Trimming stops at a character that is no blank. -/
theorem trimmedEnd_append (hlast : endsInBlank start = false) (rest : Text) :
    trimmedEnd (start ++ rest) = start ++ trimmedEnd rest := by
  induction rest using List.reverseRecOn with
  | nil =>
    rw [List.append_nil, trimmedEnd_eq_self_iff.mpr hlast]
    exact (List.append_nil start).symm
  | append_singleton rest c ih =>
    have hdrop (t : Text) : trimmedEnd (t ++ [c]) = if isBlank c then trimmedEnd t else t ++ [c] :=
      List.rdropWhile_concat ..
    rw [← List.append_assoc, hdrop, hdrop, ih]
    split
    · rfl
    · exact List.append_assoc ..

theorem trimmedEnd_append_of_blank (h : ∀ c ∈ rest, isBlank c = true) :
    trimmedEnd (start ++ rest) = trimmedEnd start := by
  rw [trimmedEnd, trimmedEnd, List.reverse_append,
    List.dropWhile_append_of_pos fun c hc => h c (List.mem_reverse.mp hc)]

/-! ### Both ends -/

theorem dropWhile_isBlank_eq_self (h : beginsWithBlank t = false) : t.dropWhile isBlank = t := by
  cases t with
  | nil => rfl
  | cons c cs => exact List.dropWhile_cons_of_neg (by simpa [beginsWithBlank] using h)

theorem Trimmed.trimmed_eq (h : Trimmed t) : trimmed t = t := by
  rw [trimmed, dropWhile_isBlank_eq_self h.head, trimmedEnd_eq_self_iff.mpr h.last]

/-- The beginning of a text that is trimmed at its end is the beginning of the text. -/
theorem beginsWithBlank_trimmedEnd (h : beginsWithBlank t = false) :
    beginsWithBlank (trimmedEnd t) = false := by
  obtain ⟨rest, hrest⟩ : trimmedEnd t <+: t := List.rdropWhile_prefix _ _
  cases htrimmed : trimmedEnd t with
  | nil => rfl
  | cons c cs =>
    rw [htrimmed] at hrest
    rw [← hrest] at h
    exact h

theorem trimmed_trimmedFrom (s : Text) : TrimmedFrom s s.trimmed := by
  have hhead : beginsWithBlank (s.dropWhile isBlank) = false := by
    rw [beginsWithBlank, Option.any_eq_false]
    intro c hc
    have hnot := List.head?_dropWhile_not isBlank s
    rwa [hc] at hnot
  refine ⟨⟨beginsWithBlank_trimmedEnd hhead, not_endsInBlank_trimmedEnd _⟩, s.takeWhile isBlank,
    (s.dropWhile isBlank).rtakeWhile isBlank, fun c hc => List.mem_takeWhile_imp hc,
    fun c hc => List.mem_rtakeWhile_imp hc, ?_⟩
  have hends : trimmed s ++ (s.dropWhile isBlank).rtakeWhile isBlank = s.dropWhile isBlank :=
    List.rdropWhile_append_rtakeWhile ..
  rw [List.append_assoc, hends, List.takeWhile_append_dropWhile]

/-- The trimmed form of a text is the only trimmed text that the text is with blanks around it. -/
theorem trimmed_eq_iff : s.trimmed = t ↔ TrimmedFrom s t := by
  constructor
  · rintro rfl
    exact trimmed_trimmedFrom s
  · rintro ⟨ht, before, after, hbefore, hafter, rfl⟩
    rw [trimmed, List.append_assoc, List.dropWhile_append_of_pos hbefore]
    cases t with
    | nil =>
      have hall : after.dropWhile isBlank = [] := List.dropWhile_eq_nil_iff.mpr hafter
      rw [List.nil_append, hall]
      rfl
    | cons c cs =>
      have hc : ¬ isBlank c = true := by simpa [beginsWithBlank] using ht.head
      rw [List.cons_append, List.dropWhile_cons_of_neg hc, ← List.cons_append,
        trimmedEnd_append_of_blank hafter, trimmedEnd_eq_self_iff.mpr ht.last]

end Text

end ObjectListing
