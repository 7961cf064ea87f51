import ObjectListing.Text.Alphanumeric
import ObjectListing.Text.Blank
import ObjectListing.Text.Utf8

/-!
Files of environment variables. A line `NAME=value` sets a variable; lines that are empty or begin with
`#` say nothing. A value may stand in single quotes, where everything is itself, or in double quotes,
where a backslash escapes and a dollar sign refers to a variable; outside quotes a blank ends it, and
only a comment may follow. A line goes on in the next one while a quote is open.

A file is read in two passes. The first, `statements`, puts lines together; it looks at quotes only, and
takes a backslash for an escape even in single quotes. The second, `readStatement`, reads names and
values. Reading stops at the first statement that cannot be read.
-/

namespace ObjectListing

namespace VariableFile

/-! ### Lines -/

/-- Where in a statement the end of a piece of it lies: outside quotes, behind one blank or behind a
backslash, in single or double quotes, there behind a backslash, or in a comment. -/
inductive Reading
  | plain
  | blank
  | escape
  | single
  | singleEscape
  | double
  | doubleEscape
  | comment
  deriving DecidableEq, Repr

/-- Where a character outside quotes leads that is no blank. -/
def Reading.enter (c : Char) : Reading :=
  if c = '\\' then escape
  else if c = '\x22' then double
  else if c = '\x27' then single
  else plain

/-- Where the next character leads. A comment begins behind a single blank, or behind the last of an odd
number of them; of two blanks the second counts as no blank. -/
def Reading.next (r : Reading) (c : Char) : Reading :=
  match r with
  | plain => if isBlank c && c != '\n' && c != '\r' then blank else enter c
  | blank => if c = '#' then comment else enter c
  | escape => plain
  | single => if c = '\\' then singleEscape else if c = '\x27' then plain else single
  | singleEscape => single
  | double => if c = '\\' then doubleEscape else if c = '\x22' then plain else double
  | doubleEscape => double
  | comment => comment

/-- Goes through a line. The answer holds what is in front of a comment, and where the line ends. -/
def scan : Reading → Text → Text × Reading
  | r, [] => ([], r)
  | r, c :: cs =>
    match r.next c with
    | .comment => ([], .comment)
    | r =>
      let (kept, last) := scan r cs
      (c :: kept, last)

/-- Parts of a list, each of which ends with the character that `stops` tells, but for the last. -/
def splitAfter {α : Type} (stops : α → Bool) : List α → List (List α)
  | [] => []
  | x :: xs =>
    if stops x then [x] :: splitAfter stops xs
    else match splitAfter stops xs with
      | [] => [[x]]
      | part :: parts => (x :: part) :: parts

/-- The statements of lines, when `begun` is there already and leads to `r`. Where the lines end inside
a statement, there is nothing in its place. -/
def statementsFrom (begun : Text) (r : Reading) : List Text → List (Option Text)
  | [] => if r = .plain then [] else [none]
  | line :: rest =>
    let whole := begun ++ line
    if (whole.dropWhile isBlank).head? = some '#' then some [] :: statementsFrom [] .plain rest
    else match scan r line with
      | (kept, .comment) => some (begun ++ kept) :: statementsFrom [] .plain rest
      | (_, .plain) => some whole :: statementsFrom [] .plain rest
      | (_, r) => statementsFrom whole r rest

/-- The statements of a text; a mark of byte order in front does not count. -/
def statements (t : Text) : List (Option Text) :=
  let t := if t.head? = some '\ufeff' then t.tail else t
  statementsFrom [] .plain (splitAfter (· = '\n') t)

/-! ### Values -/

/-- Where in a value the reader is, and whether double quotes are open there. A reference is read with
its name so far, last character first. Behind the end of a value there may be a comment. -/
inductive Position
  | plain (quoted : Bool)
  | escape (quoted : Bool)
  | single
  | reference (quoted : Bool) (name : Text)
  | braced (quoted : Bool) (name : Text)
  | ending
  deriving DecidableEq, Repr

/-- The character that an escape stands for. -/
def unescaped? (c : Char) : Option Char :=
  if c = 'n' then some '\n'
  else if c = '\\' || c = '\x27' || c = '\x22' || c = '$' || c = ' ' then some c
  else none

/-- Reads a value to its end; `known` tells the values of variables. -/
def value? (known : Text → Text) : Position → Text → Option Text
  | .plain quoted, [] => if quoted then none else some []
  | .escape quoted, [] => if quoted then none else some []
  | .reference quoted name, [] => if quoted then none else some (known name.reverse)
  | .ending, [] => some []
  | .single, [] => none
  | .braced .., [] => none
  | .ending, c :: cs =>
    if c = ' ' || c = '\t' then value? known .ending cs
    else if c = '#' then some []
    else none
  | .escape quoted, c :: cs =>
    (unescaped? c).bind fun c => (value? known (.plain quoted) cs).map (c :: ·)
  | .single, c :: cs =>
    if c = '\x27' then value? known (.plain false) cs
    else (value? known .single cs).map (c :: ·)
  | .reference quoted name, c :: cs =>
    if isAlphanumeric c then value? known (.reference quoted (c :: name)) cs
    else if c = '\x7b' && name.isEmpty then value? known (.braced quoted []) cs
    else if c = '$' then (value? known (.reference quoted []) cs).map (known name.reverse ++ ·)
    else (value? known (.plain quoted) cs).map fun rest => known name.reverse ++ c :: rest
  | .braced quoted name, c :: cs =>
    if c = '\x7d' then (value? known (.plain quoted) cs).map (known name.reverse ++ ·)
    else value? known (.braced quoted (c :: name)) cs
  | .plain quoted, c :: cs =>
    if c = '$' then value? known (.reference quoted []) cs
    else if c = '\\' then value? known (.escape quoted) cs
    else if c = '\x22' then value? known (.plain (!quoted)) cs
    else if quoted then (value? known (.plain true) cs).map (c :: ·)
    else if c = '\x27' then value? known .single cs
    else if c = ' ' || c = '\t' then value? known .ending cs
    else (value? known (.plain false) cs).map (c :: ·)

/-! ### Statements -/

/-- Characters of a name after the first. -/
def isNameChar (c : Char) : Bool := c.isAlphanum || c = '_' || c = '.'

/-- Takes a name off the front of a text. -/
def name? (t : Text) : Option (Text × Text) :=
  match t with
  | [] => none
  | c :: _ =>
    if c.isAlpha || c = '_' then some (t.takeWhile isNameChar, t.dropWhile isNameChar) else none

/-- Takes the sign between name and value off the front of a text, with the blanks around it. -/
def sign? (t : Text) : Option Text :=
  match t.dropWhile isBlank with
  | '=' :: rest => some (rest.dropWhile isBlank)
  | _ => none

/-- What a statement says. -/
inductive Statement
  | nothing
  | sets (name value : Text)
  | unreadable
  deriving DecidableEq, Repr

/-- The statement that sets a variable to a written value. -/
def setting (known : Text → Text) (name written : Text) : Statement :=
  match written with
  | [] => .sets name []
  | '#' :: _ => .sets name []
  | _ =>
    match value? known (.plain false) written with
    | some value => .sets name value
    | none => .unreadable

/-- Reads a statement. The word `export` may stand before the name. -/
def readStatement (known : Text → Text) (t : Text) : Statement :=
  match t.trimmed with
  | [] => .nothing
  | '#' :: _ => .nothing
  | start =>
    match name? start with
    | none => .unreadable
    | some (name, rest) =>
      match sign? rest with
      | some written => setting known name written
      | none =>
        if name = Text.of "export" then
          match name? (rest.dropWhile isBlank) with
          | none => .unreadable
          | some (name, rest) =>
            match sign? rest with
            | some written => setting known name written
            | none => .unreadable
        else .unreadable

/-- The variables that statements set, up to the first that cannot be read, behind those that are set
already. A reference to a variable that is not set stands for nothing. -/
def settings (set : List (Text × Text)) : List (Option Text) → List (Text × Text)
  | [] => set
  | none :: _ => set
  | some statement :: rest =>
    match readStatement (fun name => (set.lookup name).getD []) statement with
    | .nothing => settings set rest
    | .sets name value => settings (set ++ [(name, value)]) rest
    | .unreadable => set

/-- The variables that are set when a file has been read, in their order; of two values of a variable
the first counts. -/
def parse (set : List (Text × Text)) (t : Text) : List (Text × Text) := settings set (statements t)

/-- The lines of a file up to the first that is no text. -/
def legible (bytes : List UInt8) : Text :=
  ((((splitAfter (· = 10) bytes).map Text.ofBytes?).takeWhile Option.isSome).filterMap id).flatten

end VariableFile

end ObjectListing
