import Mathlib.Data.List.Basic
import Mathlib.Data.List.TakeWhile
import ObjectListing.Filter.Size
import ObjectListing.Proofs.Filter.Comparison
import ObjectListing.Proofs.Text.Letters
import ObjectListing.Proofs.Text.Numeral

/-!
The grammar of size clauses and what they ask. A quantity is a numeral with a unit behind it or none, and
stands for a number of bytes that has no bound (`Quantity.Counts`); a clause is an operator and a
quantity, or two quantities with a dash between them, none of which needs more than 64 bits
(`SizeClause.Spells`). Reading accepts these clauses, with blanks anywhere, and no other text, and what is
read is tested as exact arithmetic says (`SizeClause.parse_exact_bytes`).

The patterns take digits of any script. `Quantity.Looks` is what passes them, and only what is written in
the ten digits counts.
-/

namespace ObjectListing

open Text

namespace Quantity

variable {t u rest : Text} {q : Quantity} {c : Char} {k n : Nat}

/-! ### Units -/

/-- The power of 1024 that the letter of a unit stands for. -/
def power? : Char → Option Nat
  | 'b' | 'B' => some 0
  | 'k' | 'K' => some 1
  | 'm' | 'M' => some 2
  | 'g' | 'G' => some 3
  | 't' | 'T' => some 4
  | _ => none

theorem unitBytes?_eq (c : Char) : unitBytes? c = (power? c).map fun k => 1024 ^ k := by
  rw [unitBytes?]
  split
  case h_6 hb hk hm hg ht =>
    -- the small letter of `c` is none of the five, so `c` is none of the ten
    fun_cases power? c with
    | case1 | case2 => exact absurd rfl hb
    | case3 | case4 => exact absurd rfl hk
    | case5 | case6 => exact absurd rfl hm
    | case7 | case8 => exact absurd rfl hg
    | case9 | case10 => exact absurd rfl ht
    | case11 => rfl
  all_goals
    rename_i hsmall
    rcases (asciiSmall_eq_iff (by decide)).mp hsmall with rfl | rfl <;> rfl

theorem unitBytes?_eq_some_iff : unitBytes? c = some n ↔ ∃ k, power? c = some k ∧ 1024 ^ k = n := by
  rw [unitBytes?_eq, Option.map_eq_some_iff]

/-- The letter of a unit is no digit of any script. -/
theorem not_isDecimalDigit_of_unit (h : unitBytes? c = some n) : isDecimalDigit c = false := by
  obtain ⟨k, hk, -⟩ := unitBytes?_eq_some_iff.mp h
  rw [power?.eq_def] at hk
  split at hk
  case h_11 => cases hk
  all_goals rfl

/-! ### Quantities in the digits of any script -/

/-- What the patterns take for a quantity: digits of any script, and a unit behind them or none. -/
inductive Looks : Text → Quantity → Prop
  | plain {t : Text} (hne : t ≠ []) (h : ∀ c ∈ t, isDecimalDigit c = true) : Looks t ⟨t, 1⟩
  | unit {t : Text} {c : Char} {n : Nat} (hne : t ≠ []) (h : ∀ c ∈ t, isDecimalDigit c = true)
    (hc : unitBytes? c = some n) : Looks (t ++ [c]) ⟨t, n⟩

theorem Looks.head (h : Looks u q) : ∀ c ∈ u.head?, isDecimalDigit c = true := by
  cases h with
  | plain hne h => exact fun c hc => h c (List.mem_of_head? hc)
  | unit hne h hc =>
    rw [List.head?_append_of_ne_nil _ hne]
    exact fun c hc => h c (List.mem_of_head? hc)

theorem Looks.forall_mem (h : Looks u q) :
    ∀ c ∈ u, isDecimalDigit c = true ∨ ∃ n, unitBytes? c = some n := by
  cases h with
  | plain hne h => exact fun c hc => Or.inl (h c hc)
  | unit hne h hunit =>
    rw [List.forall_mem_append, List.forall_mem_singleton]
    exact ⟨fun c hc => Or.inl (h c hc), Or.inr ⟨_, hunit⟩⟩

theorem Looks.notMem_dash (h : Looks u q) : '-' ∉ u := by
  intro hmem
  rcases h.forall_mem '-' hmem with hdigit | ⟨n, hunit⟩
  · exact absurd hdigit (by decide)
  · cases hunit

/-- Digits end where a text begins that does not go on with one. -/
theorem span_digits (h : ∀ c ∈ t, isDecimalDigit c = true)
    (hrest : ∀ c ∈ rest.head?, isDecimalDigit c = false) :
    (t ++ rest).takeWhile isDecimalDigit = t ∧ (t ++ rest).dropWhile isDecimalDigit = rest := by
  rw [List.takeWhile_append_of_pos h, List.dropWhile_append_of_pos h]
  cases rest with
  | nil => exact ⟨List.append_nil t, rfl⟩
  | cons c rest =>
    have hc : ¬ isDecimalDigit c = true := by simp [hrest c rfl]
    rw [List.takeWhile_cons_of_neg hc, List.dropWhile_cons_of_neg hc, List.append_nil]
    exact ⟨rfl, rfl⟩

/-- A quantity ends where a text begins that goes on with neither a digit nor a unit. -/
theorem split?_append (h : Looks u q)
    (hrest : ∀ c ∈ rest.head?, isDecimalDigit c = false ∧ unitBytes? c = none) :
    split? (u ++ rest) = some (q, rest) := by
  cases h with
  | plain hne h =>
    obtain ⟨htake, hdrop⟩ := span_digits h fun c hc => (hrest c hc).1
    rw [split?, htake, hdrop, List.isEmpty_eq_false_iff.mpr hne]
    cases rest with
    | nil => rfl
    | cons c rest =>
      dsimp only
      rw [(hrest c rfl).2]
      rfl
  | @unit t c n hne h hc =>
    have hhead : ∀ d ∈ (c :: rest).head?, isDecimalDigit d = false := by
      rintro d hd
      cases hd
      exact not_isDecimalDigit_of_unit hc
    obtain ⟨htake, hdrop⟩ := span_digits h hhead
    rw [List.append_assoc, List.singleton_append, split?, htake, hdrop,
      List.isEmpty_eq_false_iff.mpr hne]
    dsimp only
    rw [hc]
    rfl

theorem split?_self (h : Looks u q) : split? u = some (q, []) := by
  have hend : split? (u ++ []) = some (q, []) := split?_append h nofun
  rwa [List.append_nil] at hend

theorem exists_looks_of_split? (h : split? t = some (q, rest)) :
    ∃ u, Looks u q ∧ t = u ++ rest := by
  have hspan : t = t.takeWhile isDecimalDigit ++ t.dropWhile isDecimalDigit :=
    (List.takeWhile_append_dropWhile).symm
  have hdigits : ∀ c ∈ t.takeWhile isDecimalDigit, isDecimalDigit c = true :=
    fun c hc => List.mem_takeWhile_imp hc
  rw [split?] at h
  split at h
  · cases h
  · rename_i hempty
    have hne : t.takeWhile isDecimalDigit ≠ [] := fun hnil => hempty (by rw [hnil]; rfl)
    split at h
    · rename_i c cs hdrop
      split at h
      · rename_i n hunit
        cases h
        refine ⟨_, .unit hne hdigits hunit, ?_⟩
        rw [List.append_assoc, List.singleton_append, ← hdrop]
        exact hspan
      · cases h
        exact ⟨_, .plain hne hdigits, hspan⟩
    · cases h
      exact ⟨_, .plain hne hdigits, hspan⟩

/-! ### What quantities count -/

/-- How a number of bytes is written: a numeral, and a unit behind it or none. -/
inductive Counts : Text → Nat → Prop
  | plain {t : Text} (h : IsNumeral t) : Counts t (value t)
  | unit {t : Text} {c : Char} {k : Nat} (h : IsNumeral t) (hc : power? c = some k) :
    Counts (t ++ [c]) (value t * 1024 ^ k)

/-- The number and the product have to fit in 64 bits; the product alone tells whether they do. -/
theorem bytes?_eq_some_iff (hunit : 0 < q.unit) :
    q.bytes? = some n ↔ IsNumeral q.digits ∧ value q.digits * q.unit = n ∧ n < 2 ^ 64 := by
  have hlimit : n ≤ limit64 ↔ n < 2 ^ 64 := Nat.le_sub_one_iff_lt (by decide)
  rw [bytes?, Option.bind_eq_some_iff, ← hlimit]
  constructor
  · rintro ⟨m, hm, hproduct⟩
    obtain ⟨hnumeral, rfl, -⟩ := naturalUpTo?_eq_some_iff.mp hm
    split at hproduct
    · rename_i hle
      cases hproduct
      exact ⟨hnumeral, rfl, hle⟩
    · cases hproduct
  · rintro ⟨hnumeral, rfl, hle⟩
    have hvalue : value q.digits ≤ limit64 := (Nat.le_mul_of_pos_right _ hunit).trans hle
    exact ⟨_, naturalUpTo?_eq_some_iff.mpr ⟨hnumeral, rfl, hvalue⟩, if_pos hle⟩

/-- What passes the patterns and can be counted in 64 bits is a quantity that needs no more of them. -/
theorem exists_bytes?_iff : (∃ q, Looks u q ∧ q.bytes? = some n) ↔ Counts u n ∧ n < 2 ^ 64 := by
  constructor
  · rintro ⟨q, hlooks, hbytes⟩
    cases hlooks with
    | plain hne h =>
      obtain ⟨hnumeral, hvalue, hlt⟩ := (bytes?_eq_some_iff Nat.one_pos).mp hbytes
      obtain rfl : value u = n := (Nat.mul_one _).symm.trans hvalue
      exact ⟨.plain hnumeral, hlt⟩
    | unit hne h hc =>
      obtain ⟨k, hk, rfl⟩ := unitBytes?_eq_some_iff.mp hc
      obtain ⟨hnumeral, rfl, hlt⟩ := (bytes?_eq_some_iff (Nat.pow_pos (by decide))).mp hbytes
      exact ⟨.unit hnumeral hk, hlt⟩
  · rintro ⟨hcounts, hlt⟩
    cases hcounts with
    | plain h =>
      exact ⟨_, .plain h.ne_nil h.isDecimalDigit,
        (bytes?_eq_some_iff Nat.one_pos).mpr ⟨h, Nat.mul_one _, hlt⟩⟩
    | unit h hc =>
      exact ⟨_, .unit h.ne_nil h.isDecimalDigit (unitBytes?_eq_some_iff.mpr ⟨_, hc, rfl⟩),
        (bytes?_eq_some_iff (Nat.pow_pos (by decide))).mpr ⟨h, rfl, hlt⟩⟩

end Quantity

namespace SizeClause

open Quantity

variable {t u : Text} {clause : SizeClause}

/-! ### The two patterns -/

theorem splitRange?_eq_some_iff {lo hi : Quantity} :
    splitRange? t = some (lo, hi) ↔ ∃ u v, Looks u lo ∧ Looks v hi ∧ t = u ++ '-' :: v := by
  constructor
  · intro h
    rw [splitRange?] at h
    split at h
    · rename_i hlo
      split at h
      · rename_i hhi
        cases h
        obtain ⟨u, hu, rfl⟩ := exists_looks_of_split? hlo
        obtain ⟨v, hv, rfl⟩ := exists_looks_of_split? hhi
        exact ⟨u, v, hu, hv, by rw [List.append_nil]⟩
      · cases h
    · cases h
  · rintro ⟨u, v, hu, hv, rfl⟩
    have hdash : ∀ c ∈ ('-' :: v).head?, isDecimalDigit c = false ∧ unitBytes? c = none := by
      rintro c hc
      cases hc
      exact ⟨rfl, rfl⟩
    rw [splitRange?, split?_append hu hdash]
    simp only [split?_self hv]

theorem splitCompare?_eq_some_iff {op : Comparator} {q : Quantity} :
    splitCompare? t = some (op, q) ↔ ∃ sign ∈ op.signs, ∃ u, Looks u q ∧ t = sign ++ u := by
  constructor
  · intro h
    obtain ⟨sign, hsign, ht⟩ := Comparator.exists_sign t
    rw [splitCompare?] at h
    dsimp only at h
    split at h
    · rename_i hq
      cases h
      obtain ⟨u, hu, hbody⟩ := exists_looks_of_split? hq
      rw [hbody, List.append_nil] at ht
      exact ⟨sign, hsign, u, hu, ht⟩
    · cases h
  · rintro ⟨sign, hsign, u, hu, rfl⟩
    rw [splitCompare?, Comparator.split_append hsign hu.head]
    dsimp only
    rw [split?_self hu]

/-- What passes the pattern of comparisons has no dash, so it does not pass that of ranges. -/
theorem splitRange?_of_compare {op : Comparator} {sign : Text} {q : Quantity} (hsign : sign ∈ op.signs)
    (hu : Looks u q) : splitRange? (sign ++ u) = none := by
  refine Option.eq_none_iff_forall_ne_some.mpr fun ⟨lo, hi⟩ hrange => ?_
  obtain ⟨v, w, -, -, heq⟩ := splitRange?_eq_some_iff.mp hrange
  have hdash : '-' ∈ sign ++ u := by simp [heq]
  rcases List.mem_append.mp hdash with hmem | hmem
  · exact Comparator.notMem_dash hsign hmem
  · exact hu.notMem_dash hmem

/-! ### The grammar -/

/-- The texts of the grammar, without blanks, and the clauses they stand for. -/
inductive Spells : Text → SizeClause → Prop
  | compare {op : Comparator} {sign t : Text} {n : Nat} (hsign : sign ∈ op.signs) (h : Counts t n)
    (hfits : n < 2 ^ 64) : Spells (sign ++ t) (.compare op n)
  | range {t u : Text} {lo hi : Nat} (hlo : Counts t lo) (hhi : Counts u hi) (hlofits : lo < 2 ^ 64)
    (hhifits : hi < 2 ^ 64) (hle : lo ≤ hi) : Spells (t ++ '-' :: u) (.range lo hi)

theorem parseStripped_eq_ok_iff : parseStripped t = .ok clause ↔ Spells t clause := by
  constructor
  · intro h
    rw [parseStripped] at h
    split at h
    · rename_i lo hi hrange
      obtain ⟨u, v, hu, hv, rfl⟩ := splitRange?_eq_some_iff.mp hrange
      split at h
      · rename_i m n hm hn
        obtain ⟨hlo, hlofits⟩ := exists_bytes?_iff.mp ⟨lo, hu, hm⟩
        obtain ⟨hhi, hhifits⟩ := exists_bytes?_iff.mp ⟨hi, hv, hn⟩
        split at h
        · cases h
        · rename_i hle
          cases h
          exact .range hlo hhi hlofits hhifits (Nat.not_lt.mp hle)
      · cases h
    · split at h
      · cases h
      · rename_i op q hcompare
        obtain ⟨sign, hsign, u, hu, rfl⟩ := splitCompare?_eq_some_iff.mp hcompare
        split at h
        · rename_i n hn
          cases h
          obtain ⟨hcounts, hfits⟩ := exists_bytes?_iff.mp ⟨q, hu, hn⟩
          exact .compare hsign hcounts hfits
        · cases h
  · intro h
    cases h with
    | compare hsign hcounts hfits =>
      obtain ⟨q, hlooks, hbytes⟩ := exists_bytes?_iff.mpr ⟨hcounts, hfits⟩
      rw [parseStripped, splitRange?_of_compare hsign hlooks,
        splitCompare?_eq_some_iff.mpr ⟨_, hsign, _, hlooks, rfl⟩]
      dsimp only
      rw [hbytes]
    | range hlo hhi hlofits hhifits hle =>
      obtain ⟨p, hp, hpbytes⟩ := exists_bytes?_iff.mpr ⟨hlo, hlofits⟩
      obtain ⟨q, hq, hqbytes⟩ := exists_bytes?_iff.mpr ⟨hhi, hhifits⟩
      rw [parseStripped, splitRange?_eq_some_iff.mpr ⟨_, _, hp, hq, rfl⟩]
      dsimp only
      rw [hpbytes, hqbytes]
      exact if_neg (Nat.not_lt.mpr hle)

/-! ### What clauses ask -/

/-- What a clause asks of a size, in exact arithmetic. -/
def Asks (clause : SizeClause) (size : Nat) : Prop :=
  match clause with
  | compare op bytes => op.Relates size bytes
  | range lo hi => lo ≤ size ∧ size ≤ hi

theorem accepts_iff (clause : SizeClause) (size : Nat) :
    clause.accepts size = true ↔ clause.Asks size := by
  cases clause with
  | compare op bytes => exact op.holds_iff size bytes
  | range lo hi => simp [accepts, Asks]

/-- A text is read exactly when, without its blanks, it is one of the grammar, and what is read is the clause
that the grammar gives it: a comparison with the number of bytes that the text writes, or the range between
two. Any other text is refused, in words about it. A size satisfies the clause when it compares so with these
numbers. -/
theorem parse_exact_bytes (raw : Text) :
    (∀ clause, parse raw = .ok clause ↔ Spells raw.stripped clause) ∧
    ((∀ clause, ¬ Spells raw.stripped clause) →
      ∃ fault : SizeFault, parse raw = .error (.invalidFilter (fault.detail raw))) ∧
    ∀ clause, parse raw = .ok clause → ∀ size, clause.accepts size = true ↔ clause.Asks size := by
  refine ⟨fun clause => ?_, fun h => ?_, fun clause _ => accepts_iff clause⟩
  · rw [← parseStripped_eq_ok_iff, parse]
    cases parseStripped raw.stripped with
    | ok read => simp
    | error fault => exact ⟨nofun, nofun⟩
  · rw [parse]
    cases hparse : parseStripped raw.stripped with
    | ok clause => exact absurd (parseStripped_eq_ok_iff.mp hparse) (h clause)
    | error fault => exact ⟨fault, rfl⟩

/-- The largest number of bytes, and one more than that. -/
example : parse (Text.of "<= 18446744073709551615 b") = .ok (.compare .le (2 ^ 64 - 1)) ∧
    parse (Text.of "16777216t") =
      .error (.invalidFilter (SizeFault.outOfRange.detail (Text.of "16777216t"))) := ⟨rfl, rfl⟩

end SizeClause

end ObjectListing
