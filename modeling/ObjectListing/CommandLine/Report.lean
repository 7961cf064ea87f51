import ObjectListing.Entry
import ObjectListing.Error

/-!
What the command line prints: tables, JSON documents, and reports of failures.
-/

namespace ObjectListing

namespace CommandLine

/-- A text in a JSON document: quotes, backslashes and the characters below the blank are escaped. -/
def jsonChar (c : Char) : Text :=
  if c = '\x22' || c = '\\' then ['\\', c]
  else if c = '\x08' then ['\\', 'b']
  else if c = '\x0c' then ['\\', 'f']
  else if c = '\n' then ['\\', 'n']
  else if c = '\r' then ['\\', 'r']
  else if c = '\t' then ['\\', 't']
  else if c.toNat < 32 then
    let digits := Nat.toDigits 16 c.toNat
    ['\\', 'u'] ++ List.replicate (4 - digits.length) '0' ++ digits
  else [c]

/-- A text in a JSON document, in its quotes. -/
def jsonText (t : Text) : String := Text.str (['\x22'] ++ t.flatMap jsonChar ++ ['\x22'])

/-- A name and a value of a JSON object. -/
def jsonField (name value : String) : String := s!"{jsonText (Text.of name)}:{value}"

/-- A JSON object. -/
def jsonObject (fields : List String) : String := "\x7b" ++ ",".intercalate fields ++ "\x7d"

/-- A time in a JSON document. -/
def jsonTime (t : Instant) : String := jsonText (Text.of t.recordText)

/-- The name of a kind of entry. -/
def kindName : EntryKind → String
  | .object => "object"
  | .commonPrefix => "common_prefix"

/-- An item as a JSON document. -/
def jsonItem : ListItem → String
  | .object e =>
    jsonObject ([jsonField "type" (jsonText (Text.of "object")), jsonField "key" (jsonText e.key),
        jsonField "size" s!"{e.size}"] ++
      (e.modified.map fun t => jsonField "last_modified" (jsonTime t)).toList ++
      [jsonField "kind" (jsonText (Text.of (kindName e.kind)))])
  | .bucket b =>
    jsonObject ([jsonField "type" (jsonText (Text.of "bucket")), jsonField "name" (jsonText b.name)] ++
      (b.created.map fun t => jsonField "creation_time" (jsonTime t)).toList)

/-- A text with blanks in front, up to a width. -/
def padLeft (width : Nat) (s : String) : String :=
  String.ofList (List.replicate (width - s.length) ' ') ++ s

/-- A text with blanks behind, up to a width. -/
def padRight (width : Nat) (s : String) : String :=
  s ++ String.ofList (List.replicate (width - s.length) ' ')

/-- A line of the table of entries. -/
def tableRow (size time : String) (key : Text) : String :=
  s!"{padLeft 12 size}  {padRight 25 time}  {key.str}"

/-- An item as a line of a table. -/
def tableItem : ListItem → String
  | .bucket b => b.name.str
  | .object e =>
    if e.isCommonPrefix then tableRow "PRE" "" e.key
    else tableRow s!"{e.size}" ((e.modified.map (·.tableText)).getD "") e.key

/-- A bucket as a line: its name and, after a tab, when it was made. -/
def bucketLine (b : BucketEntry) : String :=
  match b.created with
  | some t => s!"{b.name.str}\t{t.offsetText}"
  | none => b.name.str

/-- Lines as text; each ends in a line break. -/
def linesText (lines : List String) : String := String.join (lines.map (· ++ "\n"))

/-- A text whose lines are all moved to the right. -/
def indented (t : Text) : Text :=
  let blanks : Text := [' ', ' ', ' ', ' ']
  blanks ++ t.flatMap fun c => if c = '\n' then '\n' :: blanks else [c]

/-- The report of a failure that has no cause but itself. -/
def failureReport (message : String) : String := s!"Error: {message}\n"

/-- The report of what failed and of the cause. -/
def causedReport (context cause : String) : String :=
  s!"Error: {context}\n\nCaused by:\n{(indented (Text.of cause)).str}\n"

end CommandLine

end ObjectListing
