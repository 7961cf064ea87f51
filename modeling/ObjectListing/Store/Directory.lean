import ObjectListing.Backend
import ObjectListing.FileSystem.Basic
import ObjectListing.Uri

/-!
A store of directories. A bucket is a directory, an object a file below it, and a directory below it a
common prefix. Buckets are looked for below the root of the store, when it has one. Neither buckets nor
keys may go up a level, so that relative ones stay below their directory; an absolute key stands alone.

`DirectoryStore.pageOf` is a page for what a scan of one directory found; everything that asks the
file system stands around it.
-/

namespace ObjectListing

namespace DirectoryStore

/-- Refuses a path that goes up a level. -/
def checkPath (path : Text) : Except StoreError Unit :=
  if path.climbs then .error (UriFault.climbs.error path) else .ok ()

/-- The directory of a bucket. -/
def bucketPath (root : Option Text) (bucket : Text) : Text :=
  match root with
  | some root => Text.joined root bucket.withoutLeadingSlashes
  | none => bucket

/-- The directory of a bucket, when the bucket stays below it. -/
def checkedBucketPath (root : Option Text) (bucket : Text) : Except StoreError Text :=
  (checkPath bucket).map fun _ => bucketPath root bucket

/-- The directory of a bucket that exists. -/
def existingBucket (root : Option Text) (bucket : Text) (fs : FileSystem) :
    Except StoreError Text :=
  match checkedBucketPath root bucket with
  | .error e => .error e
  | .ok dir =>
    match fs.stat dir with
    | .ok (.folder _) => .ok dir
    | .ok _ => .error (.notFound s!"bucket '{dir.str}' is not a directory")
    | .error e => .error (e.during "stat bucket" dir)

/-- What a scan makes of one name in a directory. -/
inductive Scanned
  | entry (e : ObjectEntry)
  | nothing
  | skipped (event : Event)
  deriving DecidableEq, Repr

/-- The entry that a file, a directory or anything else of this name gives. -/
def entryOf (dirKey name : Text) : Node → Scanned
  | .folder _ => .entry (.commonPrefix (dirKey ++ name ++ ['/']))
  | .file data modified => .entry (.object (dirKey ++ name) data.size modified)
  | _ => .nothing

/-- What a scan of the directory `dir`, of which the keys begin with `dirKey`, makes of a name. Only
names that begin with `start` count, and of these only such whose larger key, the one of a directory,
comes after the token; the others are not even looked at. Symbolic links are followed. -/
def scanName (fs : FileSystem) (dir dirKey start : Text) (token : Option Text) (name : FileName) :
    Scanned :=
  match name with
  | .raw _ => .skipped (.skippingName (Text.joined dir name.display).str)
  | .text name =>
    if !name.startsWith start then .nothing
    else if token.any fun t => (dirKey ++ name ++ ['/']).atMost t then .nothing
    else
      let path := Text.joined dir name
      match fs.stat path with
      | .ok node => entryOf dirKey name node
      | .error e => .skipped (.skippingEntry path.str e.description)

/-- The entries among what a scan found. -/
def entriesOf (found : List Scanned) : List ObjectEntry :=
  found.filterMap fun
    | .entry e => some e
    | _ => none

/-- The events among what a scan found. -/
def eventsOf (found : List Scanned) : List Event :=
  found.filterMap fun
    | .skipped event => some event
    | _ => none

/-- The page of what a scan found. -/
def pageOf (size : Nat) (token : Option Text) (found : List Scanned) : Page :=
  .first size (ObjectEntry.after token (ObjectEntry.sorted (entriesOf found)))

/-- What a scan of a directory finds. A directory that does not exist has nothing in it. -/
def scan (fs : FileSystem) (dir dirKey start : Text) (token : Option Text) :
    Except StoreError (List Scanned) :=
  match fs.readFolder dir with
  | .ok names => .ok (names.map (scanName fs dir dirKey start token))
  | .error e =>
    if e = .missing || e = .notDirectory then .ok [] else .error (e.during "read_dir" dir)

/-- One page of entries, and what is reported on the way. The beginning of the keys is taken apart into
a directory and the beginning of a name. -/
def page (root : Option Text) (request : PageRequest) (fs : FileSystem) :
    Except StoreError Page × List Event :=
  match checkPath request.under with
  | .error e => (.error e, [])
  | .ok _ =>
    match existingBucket root request.bucket fs with
    | .error e => (.error e, [])
    | .ok bucketDir =>
      let dirKey := request.under.uptoLastSlash
      let dir := Text.joined bucketDir dirKey
      match scan fs dir dirKey request.under.afterLastSlash request.token with
      | .error e => (.error e, [])
      | .ok found =>
        let page := pageOf request.size request.token found
        (.ok page,
          eventsOf found ++ [.directoryPage dir page.entries.length page.next.isSome])

/-- The names of the directories among these names. -/
def folderNames (fs : FileSystem) (dir : Text) (names : List FileName) : List Text :=
  names.filterMap fun
    | .raw _ => none
    | .text name =>
      match fs.stat (Text.joined dir name) with
      | .ok (.folder _) => some name
      | _ => none

/-- All buckets: the directories below the root, or below the top of the file system. -/
def buckets (root : Option Text) (fs : FileSystem) : Except StoreError (List BucketEntry) :=
  let base := root.getD ['/']
  match fs.readFolder base with
  | .error e => .error (e.during "read_dir" base)
  | .ok names =>
    let full : Text → Text := fun name => if root.isSome then name else '/' :: name
    .ok (((folderNames fs base names).map full).mergeSort Text.atMost |>.map fun name =>
      ⟨name, none⟩)

/-- The path of an object, when neither bucket nor key goes up a level. -/
def objectPath (root : Option Text) (bucket key : Text) : Except StoreError Text :=
  match checkPath key with
  | .error e => .error e
  | .ok _ => (checkedBucketPath root bucket).map fun dir => Text.joined dir key

/-- The data of an object, and what is reported on the way. -/
def object (root : Option Text) (bucket key : Text) (fs : FileSystem) :
    Except StoreError Blob × List Event :=
  match objectPath root bucket key with
  | .error e => (.error e, [])
  | .ok path =>
    match fs.stat path with
    | .error e => (.error (e.during "stat" path), [])
    | .ok (.folder _) =>
      (.error (.notFound s!"'{path.str}' is a directory, not an object"), [])
    | .ok _ =>
      match fs.read path with
      | .error e => (.error (e.during "read" path), [])
      | .ok data => (.ok data, [.fileRead path data.size])

/-- Whether a call about a bucket and a path in it gets as far as the file system. -/
def looks (bucket path : Text) : Bool := !bucket.climbs && !path.climbs

/-- The store as a backend. Callers wait for the file system. -/
def backend (root : Option Text) : Backend FileSystem where
  name := "file"
  listObjects request fs :=
    let (answer, events) := page root request fs
    { answer, store := fs, events, waits := looks request.bucket request.under }
  listBuckets fs := { answer := buckets root fs, store := fs, waits := true }
  getObject bucket key fs :=
    let (answer, events) := object root bucket key fs
    { answer, store := fs, events, waits := looks bucket key }

end DirectoryStore

end ObjectListing
