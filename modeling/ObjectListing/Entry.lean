import ObjectListing.Text.Path
import ObjectListing.Time.Instant

/-!
What a listing is made of: objects, common prefixes that stand for everything below them, buckets,
and pages of entries with a token to continue from.
-/

namespace ObjectListing

/-- Byte arrays are compared byte by byte. -/
local instance (priority := high) decidableEqBytes : DecidableEq ByteArray :=
  ByteArray.instDecidableEq

/-- The bytes of an object. A stretch of zero bytes is known by its length. -/
inductive Blob
  | bytes (data : ByteArray)
  | zeros (count : Nat)
  deriving DecidableEq

namespace Blob

/-- The number of bytes. -/
def size : Blob → Nat
  | bytes data => data.size
  | zeros count => count

/-- The first bytes, at most `count` of them. -/
def take (count : Nat) : Blob → List UInt8
  | bytes data => (data.extract 0 count).toList
  | zeros n => List.replicate (min count n) 0

end Blob

/-- Whether an entry is data or stands for a virtual directory. -/
inductive EntryKind
  | object
  | commonPrefix
  deriving DecidableEq, Repr

/-- One entry of a page. -/
structure ObjectEntry where
  key : Text
  size : Nat
  modified : Option Instant
  kind : EntryKind
  deriving DecidableEq, Repr

namespace ObjectEntry

/-- An object with its size and time. -/
def object (key : Text) (size : Nat) (modified : Instant) : ObjectEntry :=
  ⟨key, size, some modified, .object⟩

/-- The entry of a virtual directory, which has no size and no time. -/
def commonPrefix (key : Text) : ObjectEntry := ⟨key, 0, none, .commonPrefix⟩

/-- Whether the entry stands for a virtual directory. -/
def isCommonPrefix (e : ObjectEntry) : Bool := e.kind = .commonPrefix

/-- The last name of the key. -/
def baseName (e : ObjectEntry) : Text := e.key.baseName

/-- The entry built again from its parts: a common prefix from its key, an object from its key, size
and time. An object without a time has nothing to be built from and stays as it is. -/
def rebuilt (e : ObjectEntry) : ObjectEntry :=
  match e.kind, e.modified with
  | .commonPrefix, _ => commonPrefix e.key
  | .object, some t => object e.key e.size t
  | .object, none => e

/-- Entries in the order of their keys; entries of one key keep their order. -/
def sorted (entries : List ObjectEntry) : List ObjectEntry :=
  entries.mergeSort fun a b => a.key.atMost b.key

end ObjectEntry

/-- A bucket that a store knows. -/
structure BucketEntry where
  name : Text
  created : Option Instant
  deriving DecidableEq, Repr

/-- One element of a listing. -/
inductive ListItem
  | object (entry : ObjectEntry)
  | bucket (entry : BucketEntry)
  deriving DecidableEq, Repr

namespace ListItem

/-- The key of an object or the name of a bucket. -/
def name : ListItem → Text
  | object entry => entry.key
  | bucket entry => entry.name

/-- The entry of an object or common prefix. -/
def object? : ListItem → Option ObjectEntry
  | object entry => some entry
  | bucket _ => none

/-- The entry of a bucket. -/
def bucket? : ListItem → Option BucketEntry
  | object _ => none
  | bucket entry => some entry

end ListItem

/-- One page of a listing, and the token that the next page is asked for with. -/
structure Page where
  entries : List ObjectEntry
  next : Option Text
  deriving DecidableEq, Repr

/-- The first page of entries that come in the order of their keys: at most `size` of them, and at
least one if there is one. When more remain, the token is the last key of the page. -/
def Page.first (size : Nat) (entries : List ObjectEntry) : Page :=
  let size := max size 1
  if size < entries.length then
    ⟨entries.take size, (entries.take size).getLast?.map (·.key)⟩
  else ⟨entries, none⟩

/-- The entries after a token, which is the key of an entry or any other text. -/
def ObjectEntry.after (token : Option Text) (entries : List ObjectEntry) : List ObjectEntry :=
  match token with
  | some token => entries.filter fun e => !e.key.atMost token
  | none => entries

/-- A page of a delimited listing to be fetched: everything one level under a beginning of keys, after
a token. -/
structure PageRequest where
  bucket : Text
  under : Text
  token : Option Text
  size : Nat
  deriving DecidableEq, Repr

/-- A token as logs show it: its first sixteen characters. -/
def tokenDigest (token : Text) : String := s!"PaginationToken({Text.str (token.take 16)}…)"

end ObjectListing
