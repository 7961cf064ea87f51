import ObjectListing.Error
import ObjectListing.Filter.Glob
import ObjectListing.Text.Path

/-!
Name clauses: the last name of a key is compared with a text, or with a pattern when the text holds
one of `*`, `?` and `[`. Without case, plain names are compared in small letters of all scripts, and
patterns as `Glob` says.
-/

namespace ObjectListing

/-- What a name clause compares with. -/
inductive NameMatcher
  | exact
  | glob (tokens : List Glob.Token)
  deriving DecidableEq, Repr

/-- A name clause, with the text it was read from. -/
structure NameClause where
  raw : Text
  matcher : NameMatcher
  caseSensitive : Bool
  deriving DecidableEq, Repr

/-- Why a text is no name clause. -/
inductive NameFault
  | empty
  | pattern (fault : Glob.Fault)
  deriving DecidableEq, Repr

/-- The fault in words. -/
def NameFault.detail (raw : Text) : NameFault → String
  | empty => "name filter is empty"
  | pattern fault => s!"invalid name pattern '{raw.str}': {fault.detail}"

namespace NameClause

/-- The characters that make a pattern of a name. -/
def isMeta (c : Char) : Bool := c == '*' || c == '?' || c == '['

/-- Reads a name clause, giving the fault. -/
def parseText (raw : Text) (caseInsensitive : Bool) : Except NameFault NameClause :=
  if raw.isEmpty then .error .empty
  else if raw.any isMeta then
    match Glob.parse raw with
    | .ok tokens => .ok ⟨raw, .glob tokens, !caseInsensitive⟩
    | .error fault => .error (.pattern fault)
  else .ok ⟨raw, .exact, !caseInsensitive⟩

/-- Reads a name clause. -/
def parse (raw : Text) (caseInsensitive : Bool) : Except StoreError NameClause :=
  match parseText raw caseInsensitive with
  | .ok clause => .ok clause
  | .error fault => .error (.invalidFilter (fault.detail raw))

/-- Whether a name satisfies the clause. -/
def accepts (clause : NameClause) (name : Text) : Bool :=
  match clause.matcher with
  | .exact =>
    if clause.caseSensitive then name == clause.raw
    else name.lowercase == clause.raw.lowercase
  | .glob tokens => Glob.matchesName clause.caseSensitive tokens name

/-- The clause as logs show it. -/
def description (clause : NameClause) : String :=
  match clause.matcher with
  | .exact => s!"name={clause.raw.str}"
  | .glob _ => s!"name~{clause.raw.str}"

end NameClause

end ObjectListing
