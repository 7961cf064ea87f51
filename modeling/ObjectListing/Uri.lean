import ObjectListing.Error
import ObjectListing.Text.Blank
import ObjectListing.Text.Lowercase
import ObjectListing.Text.Path

/-!
Storage URIs: a scheme, `://`, a bucket and a path inside it. An S3 bucket is a name of lower-case
letters, digits, dots, dashes and underscores; a bucket of files is the first directory of a path,
with a `/` in front when the path is absolute. A URI without a bucket stands for all of them.

What reading (`Uri.parse`) gives is written (`Uri.text`) as a text that is read as the same place, unless
it is a bucket of files without a path that ends in a blank.
-/

namespace ObjectListing

/-- The kinds of store that a URI can name. -/
inductive Scheme
  | s3
  | file
  deriving DecidableEq, Repr

namespace Scheme

/-- The name of a scheme. -/
def name : Scheme → Text
  | s3 => ['s', '3']
  | file => ['f', 'i', 'l', 'e']

/-- The scheme of a name, capital or small. -/
def ofName? (name : Text) : Option Scheme :=
  let small := name.map Text.asciiSmall
  if small = Text.of "s3" then some .s3
  else if small = Text.of "file" || small = Text.of "localfs" then some .file
  else none

end Scheme

/-- A place in a store. -/
structure Uri where
  scheme : Scheme
  bucket : Text
  path : Text
  deriving DecidableEq, Repr

/-- Why a text is not the URI that was wanted. -/
inductive UriFault
  | empty
  | noScheme
  | unsupportedScheme (name : Text)
  | noBucketBeforePath
  | badBucketName (name : Text)
  | bucketRequired
  | noObjectKey
  | namesBucket
  | climbs
  deriving DecidableEq, Repr

/-- The fault in words. -/
def UriFault.reason : UriFault → String
  | empty => "empty URI"
  | noScheme => "missing '<scheme>://' prefix"
  | unsupportedScheme name => s!"unsupported scheme '{name.str}'"
  | noBucketBeforePath => "missing bucket before the object path"
  | badBucketName name => s!"'{name.str}' is not a valid bucket name"
  | bucketRequired => "a bucket is required for this operation"
  | noObjectKey => "URI has no object key; point it at a single object"
  | namesBucket => "bucket enumeration takes a scheme-only URI such as 's3://'"
  | climbs => "'..' path components are not allowed"

/-- The failure that a fault of the given text becomes. -/
def UriFault.error (fault : UriFault) (text : Text) : StoreError :=
  .invalidUri text.str fault.reason

namespace Uri

/-- The text between a scheme and the rest. -/
def mark : Text := [':', '/', '/']

/-- The characters of a scheme after its first letter. -/
def isSchemeChar (c : Char) : Bool :=
  c.isAlphanum || c == '+' || c == '.' || c == '-'

/-- The characters of an S3 bucket name. -/
def isBucketChar (c : Char) : Bool :=
  c.isLower || c.isDigit || c == '.' || c == '_' || c == '-'

/-- The scheme name in front of `://` and what comes after it. -/
def splitScheme? (t : Text) : Option (Text × Text) :=
  let name := t.takeWhile isSchemeChar
  match t with
  | c :: _ =>
    if c.isAlpha then (Text.after? mark (t.dropWhile isSchemeChar)).map fun rest => (name, rest)
    else none
  | [] => none

/-- The bucket and the path of an S3 URI. -/
def splitObject (rest : Text) : Except UriFault (Text × Text) :=
  let (bucket, path) := Text.cut '/' rest
  let path := path.getD []
  if bucket.isEmpty then
    if path.isEmpty then .ok ([], []) else .error .noBucketBeforePath
  else if bucket.all isBucketChar then .ok (bucket, path)
  else .error (.badBucketName bucket)

/-- The bucket and the path of a file URI. -/
def splitFile (rest : Text) : Text × Text :=
  let root : Text := if rest.head? == some '/' then ['/'] else []
  let (first, path) := Text.cut '/' (Text.withoutLeadingSlashes rest)
  (root ++ first, path.getD [])

/-- Reads a URI that has no blanks around it. -/
def parseTrimmed (t : Text) : Except UriFault Uri :=
  if t.isEmpty then .error .empty
  else match splitScheme? t with
    | none => .error .noScheme
    | some (name, rest) =>
      match Scheme.ofName? name with
      | none => .error (.unsupportedScheme name)
      | some .s3 => (splitObject rest).map fun (bucket, path) => ⟨.s3, bucket, path⟩
      | some .file => .ok ⟨.file, (splitFile rest).1, (splitFile rest).2⟩

/-- Reads a URI; blanks around it do not count. -/
def parse (t : Text) : Except StoreError Uri :=
  match parseTrimmed t.trimmed with
  | .ok uri => .ok uri
  | .error fault => .error (fault.error t)

/-- A URI as text. -/
def text (u : Uri) : Text :=
  u.scheme.name ++ mark ++ u.bucket ++
    (if u.path.isEmpty then [] else if Text.endsInSlash u.bucket then u.path else '/' :: u.path)

/-- Whether a URI stands for all buckets. -/
def isEnumeration (u : Uri) : Bool := u.bucket.isEmpty

/-- The bucket of a URI that has one. -/
def requireBucket (u : Uri) : Except StoreError Text :=
  if u.bucket.isEmpty then .error (UriFault.bucketRequired.error u.text) else .ok u.bucket

/-- The beginning of all keys under the path: a path that is not empty is a directory. -/
def listed (u : Uri) : Text := u.path.asDirectory

/-- The key of a URI that names one object. -/
def objectKey (u : Uri) : Except StoreError Text :=
  match u.requireBucket with
  | .error e => .error e
  | .ok _ =>
    if u.path.isEmpty || u.path.endsInSlash then .error (UriFault.noObjectKey.error u.text)
    else .ok u.path

end Uri

end ObjectListing
