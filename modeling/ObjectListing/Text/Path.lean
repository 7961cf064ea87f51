import ObjectListing.Text.Basic

/-!
Paths: texts in which `/` stands between names. Keys are paths inside a bucket, and a store of
directories joins them to paths of the file system.
-/

namespace ObjectListing

namespace Text

/-- Whether a text ends in the delimiter. -/
def endsInSlash (t : Text) : Bool := t.getLast? == some '/'

/-- The directory form of a path: one delimiter is added at the end of a path that is not empty and
has none there. -/
def asDirectory (t : Text) : Text :=
  if t.isEmpty || endsInSlash t then t else t ++ ['/']

/-- A text without the delimiters at its beginning. -/
def withoutLeadingSlashes (t : Text) : Text := t.dropWhile (· == '/')

/-- The characters after the last delimiter. -/
def afterLastSlash (t : Text) : Text := (t.reverse.takeWhile (· != '/')).reverse

/-- The characters up to the last delimiter, which is the last of them. -/
def uptoLastSlash (t : Text) : Text := (t.reverse.dropWhile (· != '/')).reverse

/-- The last name of a path; delimiters at its end do not count. -/
def baseName (t : Text) : Text :=
  (((t.reverse.dropWhile (· == '/'))).takeWhile (· != '/')).reverse

/-- The texts between delimiters; a text without one is its only part. -/
def parts : Text → List Text
  | [] => [[]]
  | c :: cs =>
    if c = '/' then [] :: parts cs
    else match parts cs with
      | [] => [[c]]
      | p :: ps => (c :: p) :: ps

/-- The names along a path: its parts without the empty ones and the ones that mean "here". -/
def names (t : Text) : List Text := (parts t).filter fun p => !p.isEmpty && p != ['.']

/-- Whether a path has a name that means "one level up". -/
def climbs (t : Text) : Bool := (names t).contains ['.', '.']

/-- A path below a directory: an absolute path stands alone, any other is put behind the directory
and a delimiter. -/
def joined (dir path : Text) : Text :=
  if path.head? == some '/' then path
  else if dir.isEmpty || endsInSlash dir then dir ++ path
  else dir ++ '/' :: path

end Text

end ObjectListing
