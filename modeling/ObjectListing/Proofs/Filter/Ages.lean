import Mathlib.Algebra.BigOperators.Group.List.Basic
import Mathlib.Data.List.Basic
import Mathlib.Order.Bounds.Defs
import ObjectListing.Filter.Age
import ObjectListing.Proofs.Filter.Comparison
import ObjectListing.Proofs.Text.Letters
import ObjectListing.Proofs.Text.Numeral

/-!
The grammar of age clauses. A term is a numeral with a unit behind it, and a clause an operator and one or
more terms whose seconds, added up without bound, are at most the largest threshold (`AgeClause.Spells`).
Reading accepts these clauses, with blanks anywhere, and no other text (`AgeClause.parse_exact_sum`).

One pattern tells whether a text is made of terms and another one finds the terms in it; both find the
same ones (`AgeClause.isBody_iff`, `AgeClause.termsFrom_written`). Every number, product and sum on the way is
checked, and all checks together say no more than that the sum fits (`AgeClause.totalFrom?_eq_some_iff`). As
nothing but the sum and the smallest unit counts, the order of the terms does not matter.
-/

namespace ObjectListing

open Text

namespace AgeClause

variable {c : Char} {n : Nat}

/-! ### Units -/

/-- The seconds that the letter of a unit stands for. -/
def seconds? : Char → Option Nat
  | 's' | 'S' => some 1
  | 'm' | 'M' => some 60
  | 'h' | 'H' => some 3600
  | 'd' | 'D' => some 86400
  | 'w' | 'W' => some 604800
  | 'y' | 'Y' => some 31536000
  | _ => none

theorem unitSeconds?_eq (c : Char) : unitSeconds? c = seconds? c := by
  rw [unitSeconds?]
  split
  case h_7 hs hm hh hd hw hy =>
    -- the small letter of `c` is none of the six, so `c` is none of the twelve
    fun_cases seconds? c with
    | case1 | case2 => exact absurd rfl hs
    | case3 | case4 => exact absurd rfl hm
    | case5 | case6 => exact absurd rfl hh
    | case7 | case8 => exact absurd rfl hd
    | case9 | case10 => exact absurd rfl hw
    | case11 | case12 => exact absurd rfl hy
    | case13 => rfl
  all_goals
    rename_i hsmall
    rcases (asciiSmall_eq_iff (by decide)).mp hsmall with rfl | rfl <;> rfl

/-- The letter of a unit is no digit of any script, and no unit is longer than a year. -/
theorem of_seconds? (h : seconds? c = some n) : isDecimalDigit c = false ∧ 0 < n ∧ n ≤ limit := by
  rw [seconds?.eq_def] at h
  split at h
  case h_13 => cases h
  all_goals
    cases h
    exact ⟨rfl, by decide, by decide⟩

/-! ### Terms -/

/-- A number with its unit, as it is written: the digits, the letter of the unit and its seconds. -/
structure Term where
  digits : Text
  letter : Char
  unit : Nat

namespace Term

/-- A term as text. -/
def text (term : Term) : Text := term.digits ++ [term.letter]

/-- The seconds of a term. -/
def seconds (term : Term) : Nat := value term.digits * term.unit

/-- What the patterns take for a term: digits of any script, and the letter of a unit. -/
structure Looks (term : Term) : Prop where
  ne_nil : term.digits ≠ []
  digits : ∀ c ∈ term.digits, isDecimalDigit c = true
  unit : seconds? term.letter = some term.unit

/-- What counts as a term: a numeral, and the letter of a unit. -/
structure Proper (term : Term) : Prop where
  numeral : IsNumeral term.digits
  unit : seconds? term.letter = some term.unit

theorem Proper.looks {term : Term} (h : Proper term) : Looks term :=
  ⟨h.numeral.ne_nil, h.numeral.isDecimalDigit, h.unit⟩

end Term

/-- Terms one behind the other. -/
def written (terms : List Term) : Text := terms.flatMap Term.text

/-- The seconds of terms, added up. -/
def total (terms : List Term) : Nat := (terms.map Term.seconds).sum

variable {pending : Bool} {digits t rest : Text} {term : Term} {terms : List Term}

theorem written_cons (term : Term) (terms : List Term) :
    written (term :: terms) = term.digits ++ term.letter :: written terms := by
  rw [written, List.flatMap_cons, Term.text, List.append_assoc]
  rfl

theorem total_cons (term : Term) (terms : List Term) :
    total (term :: terms) = term.seconds + total terms := List.sum_cons

/-! ### Two patterns -/

theorem isBodyFrom_digits (h : ∀ c ∈ digits, isDecimalDigit c = true) (hne : digits ≠ []) :
    isBodyFrom pending (digits ++ rest) = isBodyFrom true rest := by
  induction digits generalizing pending with
  | nil => exact absurd rfl hne
  | cons c digits ih =>
    obtain ⟨hc, hdigits⟩ := List.forall_mem_cons.mp h
    rw [List.cons_append, isBodyFrom, if_pos hc]
    by_cases hnil : digits = []
    · rw [hnil, List.nil_append]
    · exact ih hdigits hnil

theorem termsFrom_digits {before : Text} (h : ∀ c ∈ digits, isDecimalDigit c = true) :
    termsFrom before (digits ++ rest) = termsFrom (digits.reverse ++ before) rest := by
  induction digits generalizing before with
  | nil => rfl
  | cons c digits ih =>
    obtain ⟨hc, hdigits⟩ := List.forall_mem_cons.mp h
    rw [List.cons_append, termsFrom, if_pos hc, ih hdigits, List.reverse_cons, List.append_assoc]
    rfl

/-- In a text that is made of terms, these are the ones that are found. -/
theorem termsFrom_written (h : ∀ term ∈ terms, term.Looks) :
    termsFrom [] (written terms) = terms.map fun term => (term.digits, term.unit) := by
  induction terms with
  | nil => rfl
  | cons term terms ih =>
    obtain ⟨hterm, hterms⟩ := List.forall_mem_cons.mp h
    have hletter : ¬ isDecimalDigit term.letter = true := by simp [(of_seconds? hterm.unit).1]
    have hempty : ¬ term.digits.reverse.isEmpty = true := by simp [hterm.ne_nil]
    rw [written_cons, termsFrom_digits hterm.digits, List.append_nil, termsFrom, if_neg hletter,
      unitSeconds?_eq, hterm.unit]
    dsimp only
    rw [if_neg hempty, List.reverse_reverse, ih hterms, List.map_cons]

theorem isBodyFrom_written (h : ∀ term ∈ terms, term.Looks) :
    isBodyFrom false (written terms) = true := by
  induction terms with
  | nil => rfl
  | cons term terms ih =>
    obtain ⟨hterm, hterms⟩ := List.forall_mem_cons.mp h
    have hletter : ¬ isDecimalDigit term.letter = true := by simp [(of_seconds? hterm.unit).1]
    rw [written_cons, isBodyFrom_digits hterm.digits hterm.ne_nil, isBodyFrom, if_neg hletter,
      unitSeconds?_eq, hterm.unit, ih hterms]
    rfl

/-- A text that passes behind digits is made of terms together with them. -/
theorem exists_written_of_isBodyFrom (hdigits : ∀ c ∈ digits, isDecimalDigit c = true)
    (h : isBodyFrom (!digits.isEmpty) t = true) :
    ∃ terms, (∀ term ∈ terms, term.Looks) ∧ digits.reverse ++ t = written terms := by
  induction t generalizing digits with
  | nil =>
    obtain rfl : digits = [] := by simpa [isBodyFrom] using h
    exact ⟨[], nofun, rfl⟩
  | cons c t ih =>
    rw [isBodyFrom] at h
    split at h
    · rename_i hc
      have hdigits' : ∀ d ∈ c :: digits, isDecimalDigit d = true :=
        List.forall_mem_cons.mpr ⟨hc, hdigits⟩
      obtain ⟨terms, hterms, heq⟩ := ih hdigits' h
      refine ⟨terms, hterms, ?_⟩
      rw [← heq, List.reverse_cons, List.append_assoc]
      rfl
    · simp only [Bool.and_eq_true] at h
      obtain ⟨⟨hpending, hunit⟩, hrest⟩ := h
      obtain ⟨unit, hunit⟩ := Option.isSome_iff_exists.mp hunit
      have hnone : ∀ d ∈ ([] : Text), isDecimalDigit d = true := nofun
      obtain ⟨terms, hterms, heq⟩ := ih hnone hrest
      have hne : digits.reverse ≠ [] := by simpa using hpending
      refine ⟨⟨digits.reverse, c, unit⟩ :: terms, List.forall_mem_cons.mpr ⟨⟨hne, ?_, ?_⟩, hterms⟩, ?_⟩
      · exact fun d hd => hdigits d (List.mem_reverse.mp hd)
      · rw [← unitSeconds?_eq, hunit]
      · rw [written_cons, ← heq]
        rfl

theorem written_ne_nil (hne : terms ≠ []) : written terms ≠ [] := by
  cases terms with
  | nil => exact absurd rfl hne
  | cons term terms => simp [written_cons]

theorem isBody_iff :
    isBody t = true ↔ ∃ terms, terms ≠ [] ∧ (∀ term ∈ terms, term.Looks) ∧ t = written terms := by
  rw [isBody, Bool.and_eq_true, Bool.not_eq_true', List.isEmpty_eq_false_iff]
  constructor
  · rintro ⟨hne, h⟩
    have hnone : ∀ d ∈ ([] : Text), isDecimalDigit d = true := nofun
    obtain ⟨terms, hterms, rfl⟩ := exists_written_of_isBodyFrom hnone h
    refine ⟨terms, ?_, hterms, rfl⟩
    rintro rfl
    exact hne rfl
  · rintro ⟨terms, hne, hterms, rfl⟩
    exact ⟨written_ne_nil hne, isBodyFrom_written hterms⟩

/-! ### Sums that are checked on the way -/

/-- The check of the last sum implies all others, as every number and every product is at most that. -/
theorem totalFrom?_eq_some_iff {start sum : Nat} (h : ∀ term ∈ terms, term.Looks)
    (hstart : start ≤ limit63) :
    totalFrom? start (terms.map fun term => (term.digits, term.unit)) = some sum ↔
      (∀ term ∈ terms, IsNumeral term.digits) ∧ start + total terms = sum ∧ sum ≤ limit63 := by
  induction terms generalizing start with
  | nil =>
    simp only [List.map_nil, totalFrom?, Option.some.injEq, List.not_mem_nil, total, List.sum_nil]
    constructor
    · rintro rfl
      exact ⟨nofun, rfl, hstart⟩
    · exact fun ⟨_, hsum, _⟩ => hsum
  | cons term terms ih =>
    obtain ⟨hterm, hterms⟩ := List.forall_mem_cons.mp h
    have hunit : 0 < term.unit := (of_seconds? hterm.unit).2.1
    rw [List.map_cons, totalFrom?, Option.bind_eq_some_iff, List.forall_mem_cons, total_cons,
      ← Nat.add_assoc]
    constructor
    · rintro ⟨n, hn, hrest⟩
      obtain ⟨hnumeral, rfl, -⟩ := naturalUpTo?_eq_some_iff.mp hn
      split at hrest
      · rename_i hfits
        obtain ⟨hnumerals, hsum, hle⟩ := (ih hterms hfits.2).mp hrest
        exact ⟨⟨hnumeral, hnumerals⟩, hsum, hle⟩
      · cases hrest
    · rintro ⟨⟨hnumeral, hnumerals⟩, hsum, hle⟩
      have hvalue : value term.digits ≤ term.seconds := Nat.le_mul_of_pos_right _ hunit
      have hseconds : start + term.seconds ≤ limit63 := by omega
      refine ⟨_, naturalUpTo?_eq_some_iff.mpr ⟨hnumeral, rfl, by omega⟩, ?_⟩
      rw [← Term.seconds, if_pos ⟨by omega, hseconds⟩]
      exact (ih hterms hseconds).mpr ⟨hnumerals, hsum, hle⟩

/-! ### The smallest unit -/

/-- The units of terms. -/
def units (terms : List Term) : Set Nat := {unit | ∃ term ∈ terms, term.unit = unit}

/-- A running minimum is the least of its start and of what it has run over. -/
theorem foldl_min_isLeast (start : Nat) (terms : List Term) :
    IsLeast (insert start (units terms))
      ((terms.map fun term => (term.digits, term.unit)).foldl (fun least term => min least term.2)
        start) := by
  induction terms generalizing start with
  | nil =>
    refine ⟨Set.mem_insert _ _, ?_⟩
    rintro unit (rfl | ⟨term, hterm, -⟩)
    · exact le_rfl
    · cases hterm
  | cons term terms ih =>
    obtain ⟨hmem, hle⟩ := ih (min start term.unit)
    rw [List.map_cons, List.foldl_cons]
    refine ⟨?_, ?_⟩
    · rcases hmem with heq | ⟨other, hother, heq⟩
      · rcases min_choice start term.unit with hmin | hmin
        · exact Or.inl (heq.trans hmin)
        · exact Or.inr ⟨term, List.mem_cons_self, (heq.trans hmin).symm⟩
      · exact Or.inr ⟨other, List.mem_cons_of_mem _ hother, heq⟩
    · have hstart := hle (Set.mem_insert _ _)
      rintro unit (rfl | ⟨other, hother, rfl⟩)
      · exact hstart.trans (min_le_left _ _)
      · rcases List.mem_cons.mp hother with rfl | hother
        · exact hstart.trans (min_le_right _ _)
        · exact hle (Or.inr ⟨other, hother, rfl⟩)

theorem finest_isLeast (h : ∀ term ∈ terms, term.Looks) (hne : terms ≠ []) :
    IsLeast (units terms) (finest (terms.map fun term => (term.digits, term.unit))) ∧
      finest (terms.map fun term => (term.digits, term.unit)) ≤ limit := by
  obtain ⟨term, hterm⟩ := List.exists_mem_of_ne_nil terms hne
  obtain ⟨hmem, hle⟩ := foldl_min_isLeast limit63 terms
  have hunit : term.unit ≤ limit := (of_seconds? (h term hterm).unit).2.2
  have hlimit : limit < limit63 := by decide
  have hfinest := hle (Or.inr ⟨term, hterm, rfl⟩)
  refine ⟨⟨hmem.resolve_left fun heq => ?_, fun unit hunit => hle (Or.inr hunit)⟩,
    hfinest.trans hunit⟩
  rw [heq] at hfinest
  omega

/-! ### The grammar -/

/-- The clause that an operator and terms stand for at the moment `now`: its threshold is their sum, when that
is not too large, and its window is as wide as the smallest unit. -/
structure Means (op : Comparator) (terms : List Term) (now : Instant) (clause : AgeClause) : Prop where
  op : clause.op = op
  now : clause.now = now
  threshold : clause.threshold = total terms
  fits : total terms ≤ (2 ^ 63 - 1) / 1000
  granularity : IsLeast (units terms) clause.granularity

/-- The texts of the grammar, without blanks, and the clauses they stand for. -/
inductive Spells (now : Instant) : Text → AgeClause → Prop
  | mk {op : Comparator} {sign : Text} {terms : List Term} {clause : AgeClause}
    (hsign : sign ∈ op.signs) (hne : terms ≠ []) (hproper : ∀ term ∈ terms, term.Proper)
    (h : Means op terms now clause) : Spells now (sign ++ written terms) clause

variable {op : Comparator} {sign : Text} {clause : AgeClause} {now : Instant}

/-- What terms stand for does not depend on their order. -/
theorem Means.perm {terms' : List Term} (h : Means op terms now clause) (hperm : terms.Perm terms') :
    Means op terms' now clause := by
  have htotal : total terms' = total terms := ((hperm.map _).sum_eq).symm
  have hunits : units terms' = units terms := by
    ext unit
    simp only [units, Set.mem_ofPred_eq, hperm.mem_iff]
  refine ⟨h.op, h.now, ?_, ?_, ?_⟩
  · rw [htotal, h.threshold]
  · rw [htotal]
    exact h.fits
  · rw [hunits]
    exact h.granularity

theorem split_written (hsign : sign ∈ op.signs) (h : ∀ term ∈ terms, term.Looks) :
    Comparator.split (sign ++ written terms) = (op, written terms) := by
  refine Comparator.split_append hsign fun c hc => ?_
  cases terms with
  | nil => cases hc
  | cons term terms =>
    obtain ⟨hterm, -⟩ := List.forall_mem_cons.mp h
    rw [written_cons, List.head?_append_of_ne_nil _ hterm.ne_nil] at hc
    exact hterm.digits c (List.mem_of_head? hc)

/-- Terms are read when they count and their sum is not too large. -/
theorem parseStripped_written (hsign : sign ∈ op.signs) (hne : terms ≠ [])
    (h : ∀ term ∈ terms, term.Looks) : parseStripped (sign ++ written terms) now = .ok clause ↔
      (∀ term ∈ terms, IsNumeral term.digits) ∧ Means op terms now clause := by
  obtain ⟨hleast, hfinest⟩ := finest_isLeast h hne
  have hsum (sum : Nat) := @totalFrom?_eq_some_iff terms 0 sum h (Nat.zero_le limit63)
  rw [parseStripped, split_written hsign h]
  simp only [isBody_iff.mpr ⟨terms, hne, h, rfl⟩, termsFrom_written h, Nat.zero_add] at hsum ⊢
  constructor
  · intro hparse
    split at hparse
    · cases hparse
    · split at hparse
      · cases hparse
      · rename_i sum htotal
        obtain ⟨hnumerals, rfl, -⟩ := (hsum sum).mp htotal
        split at hparse
        · cases hparse
        · rename_i hle
          rw [if_neg (Nat.not_lt.mpr hfinest)] at hparse
          cases hparse
          exact ⟨hnumerals, rfl, rfl, rfl, Nat.not_lt.mp hle, hleast⟩
  · rintro ⟨hnumerals, hmeans⟩
    have hfits : total terms ≤ limit := hmeans.fits
    rw [(hsum _).mpr ⟨hnumerals, rfl, hfits.trans (by decide)⟩]
    dsimp only
    rw [if_neg (by simp), if_neg (Nat.not_lt.mpr hfits), if_neg (Nat.not_lt.mpr hfinest)]
    obtain ⟨op', threshold, granularity, now'⟩ := clause
    obtain ⟨rfl, rfl, rfl, -, hgranularity⟩ := hmeans
    rw [hleast.unique hgranularity]

theorem parseStripped_eq_ok_iff : parseStripped t now = .ok clause ↔ Spells now t clause := by
  constructor
  · intro h
    obtain ⟨sign, hsign, ht⟩ := Comparator.exists_sign t
    by_cases hbody : isBody (Comparator.split t).2 = true
    · obtain ⟨terms, hne, hlooks, hwritten⟩ := isBody_iff.mp hbody
      rw [hwritten] at ht
      rw [ht] at h ⊢
      obtain ⟨hnumerals, hmeans⟩ := (parseStripped_written hsign hne hlooks).mp h
      exact .mk hsign hne (fun term hterm => ⟨hnumerals term hterm, (hlooks term hterm).unit⟩) hmeans
    · rw [parseStripped] at h
      simp only [hbody] at h
      cases h
  · rintro ⟨hsign, hne, hproper, hmeans⟩
    exact (parseStripped_written hsign hne fun term hterm => (hproper term hterm).looks).mpr
      ⟨fun term hterm => (hproper term hterm).numeral, hmeans⟩

theorem parse_eq_ok_iff {raw : Text} : parse raw now = .ok clause ↔ Spells now raw.stripped clause := by
  rw [← parseStripped_eq_ok_iff, parse]
  cases parseStripped raw.stripped now with
  | ok read => simp
  | error fault => exact ⟨nofun, nofun⟩

/-- A text is read exactly when, without its blanks, it is one of the grammar, and what is read is the clause
that the grammar gives it: the threshold is the exact sum of the terms, and the window is as wide as the
smallest unit. Any other text is refused, in words about it. Texts that have the same terms in another order are
read as the same clause, or are both refused. -/
theorem parse_exact_sum (raw : Text) (now : Instant) :
    (∀ clause, parse raw now = .ok clause ↔ Spells now raw.stripped clause) ∧
    ((∀ clause, ¬ Spells now raw.stripped clause) →
      ∃ fault : AgeFault, parse raw now = .error (.invalidFilter (fault.detail raw))) ∧
    ∀ (op : Comparator) (terms terms' : List Term) (raw' : Text), terms ≠ [] →
      (∀ term ∈ terms, term.Looks) → terms.Perm terms' →
      (∃ sign ∈ op.signs, raw.stripped = sign ++ written terms) →
      (∃ sign ∈ op.signs, raw'.stripped = sign ++ written terms') →
      ∀ clause, parse raw' now = .ok clause ↔ parse raw now = .ok clause := by
  refine ⟨fun clause => parse_eq_ok_iff, fun h => ?_, ?_⟩
  · rw [parse]
    cases hparse : parseStripped raw.stripped now with
    | ok clause => exact absurd (parseStripped_eq_ok_iff.mp hparse) (h clause)
    | error fault => exact ⟨fault, rfl⟩
  · rintro op terms terms' raw' hne hlooks hperm ⟨sign, hsign, hraw⟩ ⟨sign', hsign', hraw'⟩ clause
    have hlooks' : ∀ term ∈ terms', term.Looks := fun term hterm => hlooks term (hperm.mem_iff.mpr hterm)
    have hne' : terms' ≠ [] := fun hnil => hne (hnil ▸ hperm).eq_nil
    rw [parse_eq_ok_iff, parse_eq_ok_iff, ← parseStripped_eq_ok_iff, ← parseStripped_eq_ok_iff, hraw,
      hraw', parseStripped_written hsign hne hlooks, parseStripped_written hsign' hne' hlooks']
    exact and_congr (forall_congr' fun term => by rw [hperm.mem_iff])
      ⟨fun h => h.perm hperm.symm, fun h => h.perm hperm⟩

/-- A day and half of one, in either order. -/
example (now : Instant) : parse (Text.of ">1D 12h") now = .ok ⟨.gt, 129600, 3600, now⟩ ∧
    parse (Text.of ">12H1d") now = .ok ⟨.gt, 129600, 3600, now⟩ := ⟨rfl, rfl⟩

end AgeClause

end ObjectListing
