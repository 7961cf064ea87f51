import ObjectListing.Filter.Name
import ObjectListing.Proofs.Filter.Glob
import ObjectListing.Proofs.Text.Lowercase

/-!
Name clauses with a star put behind them. A plain name is compared as a whole, and with a star behind it as a
pattern. With case, the pattern matches whatever the name matched. Without case, the two comparisons agree on ASCII
alone: the pattern matches those of the names that differ from the plain one in the case of ASCII letters only
(`NameClause.widened_iff`).
-/

namespace ObjectListing

open Text

/-- Without case, characters are compared in small letters of ASCII. -/
theorem Glob.sameChar_iff {caseSensitive : Bool} {c d : Char} : sameChar caseSensitive c d = true ↔
    if caseSensitive then c = d else asciiSmall c = asciiSmall d := by
  have hself {e : Char} (h : isAscii e = false) : asciiSmall e = e :=
    (asciiSmall_eq_iff_of_not_isAscii h).mpr rfl
  have hleft (h : isAscii c = false) : asciiSmall c = asciiSmall d ↔ c = d := by
    rw [hself h, eq_comm, asciiSmall_eq_iff_of_not_isAscii h, eq_comm]
  have hright (h : isAscii d = false) : asciiSmall c = asciiSmall d ↔ c = d := by
    rw [hself h, asciiSmall_eq_iff_of_not_isAscii h]
  rw [sameChar]
  cases caseSensitive with
  | true => simp
  | false =>
    cases hc : isAscii c with
    | false => simp [hleft hc]
    | true =>
      cases hd : isAscii d with
      | false => simp [hright hd]
      | true => simp

namespace NameClause

variable {start name : Text} {caseInsensitive : Bool} {c : Char}

/-! ### Reading -/

/-- A character without a meaning of its own stands for itself in a pattern. -/
theorem parseFrom_of_not_isMeta (hc : isMeta c = false) (position : Nat) (fresh : Bool) (t : Text) :
    Glob.parseFrom position (.outside fresh) (c :: t) =
      (Glob.parseFrom (position + 1) (.outside (c = '/')) t).map (.char c :: ·) := by
  simp only [isMeta, Bool.or_eq_false_iff, beq_eq_false_iff_ne] at hc
  obtain ⟨⟨hstar, hmark⟩, hbracket⟩ := hc
  rw [Glob.parseFrom.eq_def]
  split <;> simp_all

theorem parseFrom_star (h : ∀ c ∈ start, isMeta c = false) (position : Nat) (fresh : Bool) :
    Glob.parseFrom position (.outside fresh) (start ++ ['*']) = .ok (start.map .char ++ [.run]) := by
  induction start generalizing position fresh with
  | nil => cases fresh <;> rfl
  | cons c start ih =>
    obtain ⟨hc, hstart⟩ := List.forall_mem_cons.mp h
    rw [List.cons_append, parseFrom_of_not_isMeta hc, ih hstart]
    rfl

theorem parse_plain (hne : start ≠ []) (h : ∀ c ∈ start, isMeta c = false) (caseInsensitive : Bool) :
    parse start caseInsensitive = .ok ⟨start, .exact, !caseInsensitive⟩ := by
  have hempty : ¬ start.isEmpty = true := by simpa using hne
  have hmeta : ¬ start.any isMeta = true := by simpa using h
  rw [parse, parseText, if_neg hempty, if_neg hmeta]

theorem parse_star (h : ∀ c ∈ start, isMeta c = false) (caseInsensitive : Bool) :
    parse (start ++ ['*']) caseInsensitive =
      .ok ⟨start ++ ['*'], .glob (start.map .char ++ [.run]), !caseInsensitive⟩ := by
  have hempty : ¬ (start ++ ['*']).isEmpty = true := by simp
  have hmeta : (start ++ ['*']).any isMeta = true := by simp [isMeta]
  have hread : Glob.parse (start ++ ['*']) = .ok (start.map .char ++ [.run]) := parseFrom_star h 0 true
  rw [parse, parseText, if_neg hempty, if_pos hmeta, hread]

/-! ### Comparing -/

/-- How texts are compared in a pattern. -/
def SameText (caseInsensitive : Bool) (t u : Text) : Prop :=
  if caseInsensitive then t.map asciiSmall = u.map asciiSmall else t = u

theorem accepts_star_iff (raw : Text) (caseInsensitive : Bool) :
    (mk raw (.glob (start.map .char ++ [.run])) !caseInsensitive).accepts name = true ↔
      ∃ front rest, name = front ++ rest ∧ SameText caseInsensitive front start := by
  have hplain : Glob.Token.components ∉ start.map .char ++ [.run] := by simp
  refine (Glob.matchesName_iff hplain name).trans ((Glob.means_beginning_iff start).trans ?_)
  simp only [Glob.sameChar_iff, SameText]
  cases caseInsensitive with
  | true => simp [← List.forall₂_eq_eq_eq]
  | false => simp [List.forall₂_eq_eq_eq]

theorem accepts_plain_iff (raw : Text) (caseInsensitive : Bool) :
    (mk raw .exact !caseInsensitive).accepts name = true ↔
      if caseInsensitive then name.lowercase = raw.lowercase else name = raw := by
  cases caseInsensitive <;> simp [accepts]

/-- Texts of the same length in small letters, one of which begins like the other one, have the same length. -/
theorem eq_nil_of_length_lowercase {front rest : Text}
    (hsame : front.map asciiSmall = start.map asciiSmall)
    (hlower : (front ++ rest).lowercase = start.lowercase) : rest = [] := by
  have hlength := congrArg List.length hlower
  have hfront := congrArg List.length hsame
  have hcount := congrArg (List.count 'İ') hsame
  rw [length_lowercase, length_lowercase, List.length_append, List.count_append] at hlength
  rw [List.length_map, List.length_map] at hfront
  rw [count_map_asciiSmall, count_map_asciiSmall] at hcount
  exact List.eq_nil_of_length_eq_zero (by omega)

/-- A plain name that is read is read with a star behind it too. What the name matches is matched by the pattern
when case counts, and when all characters are of ASCII. Without case, of what the name matches the pattern matches
what is the same but for the case of ASCII letters, and nothing else. -/
theorem widened_iff (hne : start ≠ []) (hplain : ∀ c ∈ start, isMeta c = false)
    (caseInsensitive : Bool) :
    ∃ plain wide, parse start caseInsensitive = .ok plain ∧
      parse (start ++ ['*']) caseInsensitive = .ok wide ∧
      ∀ name, plain.accepts name = true →
        (wide.accepts name = true ↔ name.map asciiSmall = start.map asciiSmall) ∧
        (caseInsensitive = false ∨ (∀ c ∈ name ++ start, isAscii c = true) →
          wide.accepts name = true) := by
  refine ⟨_, _, parse_plain hne hplain _, parse_star hplain _, fun name haccepts => ?_⟩
  rw [accepts_plain_iff] at haccepts
  have hiff : (mk (start ++ ['*']) (.glob (start.map .char ++ [.run])) !caseInsensitive).accepts name =
      true ↔ name.map asciiSmall = start.map asciiSmall := by
    rw [accepts_star_iff]
    cases caseInsensitive with
    | false =>
      obtain rfl : name = start := haccepts
      exact ⟨fun _ => rfl, fun _ => ⟨name, [], (List.append_nil name).symm, rfl⟩⟩
    | true =>
      constructor
      · rintro ⟨front, rest, rfl, hsame⟩
        rw [eq_nil_of_length_lowercase hsame haccepts, List.append_nil]
        exact hsame
      · exact fun hsame => ⟨name, [], (List.append_nil name).symm, hsame⟩
  refine ⟨hiff, fun h => hiff.mpr ?_⟩
  cases caseInsensitive with
  | false =>
    obtain rfl : name = start := haccepts
    rfl
  | true =>
    have hascii := h.resolve_left (by decide)
    rw [List.forall_mem_append] at hascii
    rw [← lowercase_of_isAscii hascii.1, ← lowercase_of_isAscii hascii.2]
    exact haccepts

/-- Capitals and small letters of ASCII are the same to both, and the accent is in its place. -/
theorem widened_iff_mixedCase :
    ['C', 'a', 'f', 'é'] ≠ [] ∧ (∀ c ∈ ['C', 'a', 'f', 'é'], isMeta c = false) ∧
      ∃ plain wide, parse ['C', 'a', 'f', 'é'] true = .ok plain ∧
        parse ['C', 'a', 'f', 'é', '*'] true = .ok wide ∧
        plain.accepts ['c', 'A', 'F', 'é'] = true ∧ wide.accepts ['c', 'A', 'F', 'é'] = true := by
  have hne : ['C', 'a', 'f', 'é'] ≠ [] := by decide
  have hmeta : ∀ c ∈ ['C', 'a', 'f', 'é'], isMeta c = false := by simp [isMeta]
  obtain ⟨plain, wide, hplain, hwide, hnames⟩ := widened_iff hne hmeta true
  have haccepts : plain.accepts ['c', 'A', 'F', 'é'] = true := by
    cases (parse_plain hne hmeta true).symm.trans hplain
    decide +kernel
  exact ⟨hne, hmeta, plain, wide, hplain, hwide, haccepts, (hnames _ haccepts).1.mpr (by decide)⟩

/-- A capital with an accent matches its small letter as a name, and no longer as the beginning of one. -/
theorem not_widened_of_accent : ¬ ∀ (start name : Text) (caseInsensitive : Bool) (plain : NameClause),
    start ≠ [] → (∀ c ∈ start, isMeta c = false) → parse start caseInsensitive = .ok plain →
      plain.accepts name = true →
        ∃ wide, parse (start ++ ['*']) caseInsensitive = .ok wide ∧ wide.accepts name = true := by
  intro h
  have hmeta : ∀ c ∈ ['É'], isMeta c = false := by simp [isMeta]
  obtain ⟨wide, hwide, haccepts⟩ :=
    h ['É'] ['é'] true ⟨['É'], .exact, false⟩ (by decide) hmeta rfl (by decide +kernel)
  cases (parse_star hmeta true).symm.trans hwide
  exact absurd haccepts (by decide)

end NameClause

end ObjectListing
