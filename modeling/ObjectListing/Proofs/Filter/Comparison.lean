import ObjectListing.Filter.Comparator
import ObjectListing.Text.Digit

/-!
Operators in front of numbers: how they are written (`Comparator.signs`), and what they ask of two
numbers (`Comparator.Relates`).
-/

namespace ObjectListing

namespace Comparator

/-- How an operator is written. Equality may be left out. -/
def signs : Comparator → List Text
  | eq => [[], ['=']]
  | lt => [['<']]
  | gt => [['>']]
  | le => [['<', '=']]
  | ge => [['>', '=']]

/-- How a number compares with a threshold. -/
def Relates (op : Comparator) (value threshold : Nat) : Prop :=
  match op with
  | eq => value = threshold
  | lt => value < threshold
  | gt => threshold < value
  | le => value ≤ threshold
  | ge => threshold ≤ value

theorem holds_iff (op : Comparator) (value threshold : Nat) :
    op.holds value threshold = true ↔ op.Relates value threshold := by
  cases op <;> simp only [holds, Relates, decide_eq_true_eq, beq_iff_eq] <;> omega

/-- A text begins with the operator that is taken off it. -/
theorem exists_sign (t : Text) : ∃ sign ∈ (split t).1.signs, t = sign ++ (split t).2 := by
  fun_cases split t with
  | case1 t => exact ⟨['<', '='], by simp [signs], rfl⟩
  | case2 t => exact ⟨['>', '='], by simp [signs], rfl⟩
  | case3 t => exact ⟨['='], by simp [signs], rfl⟩
  | case4 t _ => exact ⟨['<'], by simp [signs], rfl⟩
  | case5 t _ => exact ⟨['>'], by simp [signs], rfl⟩
  | case6 => exact ⟨[], by simp [signs], rfl⟩

/-- An operator ends where a digit begins. -/
theorem split_append {op : Comparator} {sign body : Text} (hsign : sign ∈ op.signs)
    (hbody : ∀ c ∈ body.head?, isDecimalDigit c = true) : split (sign ++ body) = (op, body) := by
  have hne (c : Char) (hc : isDecimalDigit c = false) (t : Text) (h : body = c :: t) : False := by
    have hdigit := hbody c (by rw [h]; rfl)
    rw [hc] at hdigit
    cases hdigit
  have hlt := hne '<' rfl
  have hgt := hne '>' rfl
  have heq := hne '=' rfl
  cases op with
  | eq =>
    have hsign : sign = [] ∨ sign = ['='] := by simpa [signs] using hsign
    rcases hsign with rfl | rfl
    · exact split.eq_6 body (fun t => hlt _) (fun t => hgt _) heq hlt hgt
    · rfl
  | lt =>
    obtain rfl := List.mem_singleton.mp hsign
    exact split.eq_4 body heq
  | gt =>
    obtain rfl := List.mem_singleton.mp hsign
    exact split.eq_5 body heq
  | le =>
    obtain rfl := List.mem_singleton.mp hsign
    rfl
  | ge =>
    obtain rfl := List.mem_singleton.mp hsign
    rfl

theorem notMem_dash {op : Comparator} {sign : Text} (hsign : sign ∈ op.signs) : '-' ∉ sign := by
  have hall : ∀ s ∈ op.signs, '-' ∉ s := by cases op <;> decide
  exact hall sign hsign

end Comparator

end ObjectListing
