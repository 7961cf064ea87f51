import Mathlib.Data.List.Forall2
import ObjectListing.Filter.Glob

/-!
What patterns match. The matcher goes through a pattern from its end and keeps, for every ending of the name, whether
the tokens behind match it (`Glob.Tells`). For patterns without `**` this comes to the plain meaning of the tokens
(`Glob.matchesName_iff`): a run stands for any characters, and every other token for one that it accepts.
-/

namespace ObjectListing

namespace Glob

variable {caseSensitive : Bool} {token : Token} {tokens : List Token} {t : Text} {later : List Bool}
  {P : Text → Prop}

/-- What the tokens of a pattern without `**` stand for. -/
def Means (caseSensitive : Bool) : List Token → Text → Prop
  | [], t => t = []
  | .run :: tokens, t => ∃ rest, rest <:+ t ∧ Means caseSensitive tokens rest
  | token :: tokens, t => ∃ c rest, t = c :: rest ∧ token.accepts caseSensitive c = true ∧
      Means caseSensitive tokens rest

/-! ### Endings of a name -/

/-- Whether a list tells of all endings of a name, longest first, which of them have a property. -/
inductive Tells (P : Text → Prop) : Text → List Bool → Prop
  | nil {value : Bool} : (value = true ↔ P []) → Tells P [] [value]
  | cons {value : Bool} {c : Char} {t : Text} {later : List Bool} : (value = true ↔ P (c :: t)) →
      Tells P t later → Tells P (c :: t) (value :: later)

theorem Tells.headD_iff (h : Tells P t later) : later.headD false = true ↔ P t := by
  cases h with
  | nil h => exact h
  | cons h _ => exact h

/-- The shortest ending alone is empty. -/
theorem tells_atEnd (t : Text) : Tells (· = []) t (List.replicate t.length false ++ [true]) := by
  induction t with
  | nil => exact .nil (by simp)
  | cons c t ih => exact .cons (by simp) ih

/-- A run goes on from an ending or from a shorter one. -/
theorem Tells.extend_run (h : Tells P t later) :
    Tells (fun t => ∃ rest, rest <:+ t ∧ P rest) t (Token.extend caseSensitive .run t later) := by
  induction h with
  | nil h => exact .nil (h.trans (by simp))
  | @cons value c t later h hlater ih =>
    refine .cons ?_ ih
    simp only [List.headD_cons, List.tail_cons, Bool.or_eq_true]
    rw [h, ih.headD_iff]
    constructor
    · rintro (hall | ⟨rest, hrest, hP⟩)
      · exact ⟨_, List.suffix_rfl, hall⟩
      · exact ⟨rest, hrest.trans (List.suffix_cons c t), hP⟩
    · rintro ⟨rest, hrest, hP⟩
      rcases List.suffix_cons_iff.mp hrest with rfl | hshorter
      · exact Or.inl hP
      · exact Or.inr ⟨rest, hshorter, hP⟩

/-- Whether a token stands for one character. -/
def Token.IsOne (token : Token) : Prop := token ≠ .run ∧ token ≠ .components

theorem Token.IsOne.extend_nil (h : token.IsOne) (later : List Bool) :
    token.extend caseSensitive [] later = [false] := by
  cases token with
  | run => exact absurd rfl h.1
  | components => exact absurd rfl h.2
  | _ => rfl

theorem Token.IsOne.extend_cons (h : token.IsOne) (c : Char) (t : Text) (later : List Bool) :
    token.extend caseSensitive (c :: t) later =
      (token.accepts caseSensitive c && later.tail.headD false) ::
        token.extend caseSensitive t later.tail := by
  cases token with
  | run => exact absurd rfl h.1
  | components => exact absurd rfl h.2
  | _ => rfl

/-- A token that stands for one character takes it off an ending. -/
theorem Tells.extend_one (htoken : token.IsOne) (h : Tells P t later) :
    Tells (fun t => ∃ c rest, t = c :: rest ∧ token.accepts caseSensitive c = true ∧ P rest) t
      (token.extend caseSensitive t later) := by
  induction h with
  | @nil value h =>
    rw [htoken.extend_nil]
    exact .nil (by simp)
  | @cons value c t later h hlater ih =>
    rw [htoken.extend_cons]
    refine .cons ?_ ih
    rw [Bool.and_eq_true, List.tail_cons, hlater.headD_iff]
    simp

theorem Tells.extend (htoken : token ≠ .components)
    (h : Tells (Means caseSensitive tokens) t later) :
    Tells (Means caseSensitive (token :: tokens)) t (token.extend caseSensitive t later) := by
  cases token with
  | run => exact h.extend_run
  | components => exact absurd rfl htoken
  | char d => exact h.extend_one ⟨nofun, nofun⟩
  | anyChar => exact h.extend_one ⟨nofun, nofun⟩
  | oneOf members => exact h.extend_one ⟨nofun, nofun⟩
  | noneOf members => exact h.extend_one ⟨nofun, nofun⟩

theorem tells_foldr (htokens : .components ∉ tokens) (name : Text) :
    Tells (Means caseSensitive tokens) name
      (tokens.foldr (fun token later => token.extend caseSensitive name later)
        (List.replicate name.length false ++ [true])) := by
  induction tokens with
  | nil => exact tells_atEnd name
  | cons token tokens ih =>
    obtain ⟨htoken, htokens⟩ := not_or.mp (List.mem_cons.not.mp htokens)
    exact (ih htokens).extend (Ne.symm htoken)

/-- A pattern without `**` matches what its tokens stand for. -/
theorem matchesName_iff (htokens : .components ∉ tokens) (name : Text) :
    matchesName caseSensitive tokens name = true ↔ Means caseSensitive tokens name :=
  (tells_foldr htokens name).headD_iff

/-! ### A beginning and anything behind it -/

/-- Characters that stand for themselves, and a run behind them, stand for what begins with these characters, up
to case if that does not count. -/
theorem means_beginning_iff (start : Text) : Means caseSensitive (start.map .char ++ [.run]) t ↔
    ∃ front rest, t = front ++ rest ∧
      List.Forall₂ (fun c d => sameChar caseSensitive c d = true) front start := by
  induction start generalizing t with
  | nil =>
    refine ⟨fun _ => ⟨[], t, rfl, .nil⟩, fun _ => ⟨[], List.nil_suffix, rfl⟩⟩
  | cons d start ih =>
    constructor
    · rintro ⟨c, rest, rfl, hc, hrest⟩
      obtain ⟨front, rest, rfl, hfront⟩ := ih.mp hrest
      exact ⟨c :: front, rest, rfl, .cons hc hfront⟩
    · rintro ⟨front, rest, rfl, hfront⟩
      cases hfront with
      | cons hc hfront => exact ⟨_, _, rfl, hc, ih.mpr ⟨_, rest, rfl, hfront⟩⟩

end Glob

end ObjectListing
