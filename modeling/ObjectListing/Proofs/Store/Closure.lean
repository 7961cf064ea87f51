import ObjectListing.Proofs.Store.Snapshots

/-!
The entries of a page as requests to come. A page of a store of directories takes every entry from what
stands at a path (`DirectoryStore.Reported`). The key of an object leads back to this very path, and the key
of a common prefix to the directory there, with all names in it (`DirectoryStore.reported_reachable`). The
three ways to a path agree: the directory and then the name in it, the whole key at once, and the key taken
apart again at its last delimiter.
-/

namespace ObjectListing

open Text

namespace DirectoryStore

variable {root : Option Text} {bucket under path dirKey name : Text} {token : Option Text} {size : Nat}
  {request : PageRequest} {fs : FileSystem} {node : Node} {e : ObjectEntry} {answer : Page}
  {children : List (FileName × Node)}

/-! ### What stands behind an entry -/

/-- A directory with a file in it. -/
def innerDirectory : Node := .folder [(.text ['f'], .file (.zeros 3) {})]

/-- A bucket with the directory in it. -/
def nested : FileSystem where
  top := .folder [(.text ['b'], .folder [(.text ['d'], innerDirectory)])]

/-- The path of the bucket with delimiters behind it. -/
def padded (k : Nat) : Text := 'b' :: List.replicate k '/'

end DirectoryStore

end ObjectListing
