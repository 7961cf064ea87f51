import ObjectListing.Text.Lowercase

/-!
Glob patterns over whole names.

`?` stands for any character, `*` for any run of characters, `[…]` for one character of a class and
`[!…]` for one outside of it. `**` must be a path component of its own; with the `/` after it, it
stands for any number of components, none included. Only ASCII letters are ever compared without
case.

A pattern is matched from its end: for each of its tokens, last one first, `Token.extend` computes for
every ending of the name whether the tokens from there on match it.
-/

namespace ObjectListing.Glob

/-- A member of a character class. -/
inductive Member
  | single (c : Char)
  | range (first last : Char)
  deriving DecidableEq, Repr

/-- A piece of a pattern. -/
inductive Token
  | char (c : Char)
  | anyChar
  | oneOf (members : List Member)
  | noneOf (members : List Member)
  | run
  | components
  deriving DecidableEq, Repr

/-- Why a text is no pattern. -/
inductive Fault
  | wildcards (position : Nat)
  | component (position : Nat)
  | range (position : Nat)
  deriving DecidableEq, Repr

/-- The fault in words. -/
def Fault.detail : Fault → String
  | wildcards p => s!"Pattern syntax error near position {p}: " ++
      "wildcards are either regular `*` or recursive `**`"
  | component p => s!"Pattern syntax error near position {p}: " ++
      "recursive wildcards must form a single path component"
  | range p => s!"Pattern syntax error near position {p}: invalid range pattern"

/-! ### Reading a pattern -/

/-- The members that the text between brackets names. -/
def members : Text → List Member
  | a :: '-' :: b :: cs => .range a b :: members cs
  | a :: cs => .single a :: members cs
  | [] => []

/-- Where the reader of a pattern stands: outside brackets, with `fresh` where a path component
begins, or inside the brackets that were opened at `opened`, with the characters read so far, last
one first. -/
inductive Mode
  | outside (fresh : Bool)
  | inside (opened : Nat) (negated : Bool) (body : Text)
  deriving DecidableEq, Repr

/-- Reads the rest of a pattern, whose first character is at `position`. -/
def parseFrom (position : Nat) : Mode → Text → Except Fault (List Token)
  | .outside _, [] => .ok []
  | .outside _, '*' :: '*' :: '*' :: _ => .error (.wildcards (position + 2))
  | .outside true, '*' :: '*' :: '/' :: cs =>
    (parseFrom (position + 3) (.outside true) cs).map (.components :: ·)
  | .outside true, ['*', '*'] => .ok [.components]
  | .outside true, '*' :: '*' :: _ => .error (.component (position + 2))
  | .outside false, '*' :: '*' :: _ => .error (.component (position - 1))
  | .outside _, '*' :: cs => (parseFrom (position + 1) (.outside false) cs).map (.run :: ·)
  | .outside _, '?' :: cs => (parseFrom (position + 1) (.outside false) cs).map (.anyChar :: ·)
  | .outside _, '[' :: '!' :: c :: cs => parseFrom (position + 3) (.inside position true [c]) cs
  | .outside _, ['[', '!'] => .error (.range position)
  | .outside _, '[' :: c :: cs => parseFrom (position + 2) (.inside position false [c]) cs
  | .outside _, '[' :: [] => .error (.range position)
  | .outside _, c :: cs =>
    (parseFrom (position + 1) (.outside (c = '/')) cs).map (.char c :: ·)
  | .inside opened _ _, [] => .error (.range opened)
  | .inside opened negated body, c :: cs =>
    if c = ']' then
      let found := members body.reverse
      (parseFrom (position + 1) (.outside false) cs).map
        ((if negated then Token.noneOf found else Token.oneOf found) :: ·)
    else parseFrom (position + 1) (.inside opened negated (c :: body)) cs

/-- Reads a pattern. -/
def parse (t : Text) : Except Fault (List Token) := parseFrom 0 (.outside true) t

/-! ### Matching -/

/-- Equality of characters; without case it is weakened for ASCII letters. -/
def sameChar (caseSensitive : Bool) (a b : Char) : Bool :=
  if !caseSensitive && Text.isAscii a && Text.isAscii b then Text.asciiSmall a = Text.asciiSmall b
  else a = b

/-- Whether a character is in a range as it is written. -/
def between (first last c : Char) : Bool := first ≤ c && c ≤ last

/-- Whether a character is a member of a class. Without case, a range between two ASCII letters also
holds the characters that lie between their small letters. -/
def Member.holds (caseSensitive : Bool) (c : Char) : Member → Bool
  | single d => sameChar caseSensitive c d
  | range first last =>
    let small := Text.asciiSmall
    let isLetter := fun d => small d != Text.asciiCapital (small d)
    (!caseSensitive && Text.isAscii c && Text.isAscii first && Text.isAscii last &&
        isLetter first && isLetter last && between (small first) (small last) (small c)) ||
      between first last c

/-- Whether a token that stands for one character stands for this one. -/
def Token.accepts (caseSensitive : Bool) (c : Char) : Token → Bool
  | char d => sameChar caseSensitive c d
  | anyChar => true
  | oneOf found => found.any (·.holds caseSensitive c)
  | noneOf found => !found.any (·.holds caseSensitive c)
  | run | components => false

/-- Whether the tokens that `later` speaks of match some ending of a name that follows a delimiter. -/
def afterSlash : Text → List Bool → Bool
  | [], _ => false
  | c :: cs, later => (c = '/' && later.tail.headD false) || afterSlash cs later.tail

/-- For each ending of a name, longest first, whether a token and the tokens after it match it, when
`later` says the same of the tokens after it alone. -/
def Token.extend (caseSensitive : Bool) (token : Token) : Text → List Bool → List Bool
  | [], later => match token with
    | run | components => later
    | _ => [false]
  | c :: cs, later =>
    let shorter := extend caseSensitive token cs later.tail
    let value := match token with
      | run => later.headD false || shorter.headD false
      | components =>
        later.headD false || afterSlash (c :: cs) later || later.getLastD false
      | _ => token.accepts caseSensitive c && later.tail.headD false
    value :: shorter

/-- Whether a pattern matches a whole name. -/
def matchesName (caseSensitive : Bool) (tokens : List Token) (name : Text) : Bool :=
  let atEnd := List.replicate name.length false ++ [true]
  (tokens.foldr (fun token later => token.extend caseSensitive name later) atEnd).headD false

end ObjectListing.Glob
