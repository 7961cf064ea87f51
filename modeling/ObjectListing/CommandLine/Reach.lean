import ObjectListing.CommandLine.Arguments

/-!
The part of the file system that a command can reach. A command is run on a tree, and the tree need not
hold more than this part for the outcome to be the same.
-/

namespace ObjectListing

namespace CommandLine

/-- A part of the file system: what stands at a path, so many levels of folders below it, and the data
of its files, if they matter. -/
structure Reach where
  path : Text
  levels : Nat := 0
  data : Bool := false
  deriving DecidableEq, Repr

namespace Reach

/-- The most levels that are followed. -/
def deepest : Nat := 64

/-- The folder that a path of a file is in. -/
def folderOf (path : Text) : Text :=
  if path.contains '/' then path.uptoLastSlash else ['.']

/-- What the buckets of files are found by. -/
def ofBuckets : Reach := { path := ['/'], levels := 1 }

/-- What a listing of a URI looks at. -/
def ofListing (recursive : Bool) (u : Uri) : List Reach :=
  if u.isEnumeration then [ofBuckets]
  else [{ path := u.bucket },
        { path := Text.joined u.bucket u.listed, levels := if recursive then deepest else 1 }]

/-- What the fetch of an object looks at. -/
def ofFetch (u : Uri) : Reach := { path := Text.joined u.bucket u.path, data := true }

/-- What a file that is to be written depends on. -/
def ofOutput (path : Text) : Reach := { path := folderOf path, levels := 1 }

/-- What is looked at for a URI, if it is one of files. -/
def ofUri (look : Uri → List Reach) (uri : Text) : List Reach :=
  match Uri.parse uri with
  | .ok u => if u.scheme = .file then look u else []
  | .error _ => []

/-- What a command looks at. What a fetch reads comes last, so that nothing takes the place of its
data. -/
def ofCommand : Command → List Reach
  | .buckets uri => ofUri (fun _ => [ofBuckets]) uri
  | .list uri options _ => ofUri (ofListing options.recursive) uri
  | .get uri output => (output.map ofOutput).toList ++ ofUri (fun u => [ofFetch u]) uri

/-- What a command line looks at; settings may be in a file of the current folder. -/
def ofArguments (args : List Text) : List Reach :=
  match Invocation.read args with
  | none | some .version => []
  | some (.perform _ command) => ofCommand command ++ [{ path := Text.of ".env", data := true }]

end Reach

end CommandLine

end ObjectListing
