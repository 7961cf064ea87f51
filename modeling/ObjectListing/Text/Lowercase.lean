import ObjectListing.Text.CaseTable
import ObjectListing.Text.Basic

/-!
Small letters, over all scripts. Two letters need more than the table: the dotted capital I becomes
two characters, and a capital sigma becomes the final sigma at the end of a word.
-/

namespace ObjectListing

/-- Whether a character lies in one of the ranges. -/
def inRanges (ranges : List (Nat × Nat)) (c : Char) : Bool :=
  ranges.any fun (first, last) => first ≤ c.toNat && c.toNat ≤ last

/-- Letters that have a case. -/
def isCased (c : Char) : Bool := inRanges casedRanges c

/-- Characters that a word may hold without ending. -/
def isCaseIgnorable (c : Char) : Bool := inRanges caseIgnorableRanges c

namespace Text

/-- The small letter of a character, or the character itself. -/
def smallLetter (c : Char) : Char :=
  match lowercaseRuns.find? fun (first, last, every, _) =>
      first ≤ c.toNat && c.toNat ≤ last && (c.toNat - first) % every == 0 with
  | some (first, _, _, small) => Char.ofNat (c.toNat - first + small)
  | none => c

/-- Whether the first character that is not ignorable has a case. -/
def meetsCased (t : Text) : Bool :=
  match t.dropWhile isCaseIgnorable with
  | c :: _ => isCased c
  | [] => false

/-- Small letters of a text that comes after the characters of `before`, nearest first. -/
def lowercaseAfter (before : Text) : Text → Text
  | [] => []
  | c :: cs =>
    let small :=
      if c = 'Σ' then [if meetsCased before && !meetsCased cs then 'ς' else 'σ']
      else if c = 'İ' then ['i', Char.ofNat 0x307]
      else [smallLetter c]
    small ++ lowercaseAfter (c :: before) cs

/-- A text in small letters. -/
def lowercase (t : Text) : Text := lowercaseAfter [] t

/-- The small letter of an ASCII capital, or the character itself. -/
def asciiSmall (c : Char) : Char :=
  if 'A' ≤ c ∧ c ≤ 'Z' then Char.ofNat (c.toNat + 32) else c

/-- The capital of a small ASCII letter, or the character itself. -/
def asciiCapital (c : Char) : Char :=
  if 'a' ≤ c ∧ c ≤ 'z' then Char.ofNat (c.toNat - 32) else c

/-- The characters of ASCII. -/
def isAscii (c : Char) : Bool := c.toNat < 128

end Text

end ObjectListing
