import ObjectListing.Entry
import ObjectListing.Text.Utf8

/-!
Trees of files and folders. A name in a folder is a text, or bytes that are none.
-/

namespace ObjectListing

/-- A name in a folder. -/
inductive FileName
  | text (t : Text)
  | raw (bytes : List UInt8)
  deriving DecidableEq, Repr

namespace FileName

/-- The name with these bytes. -/
def ofBytes (bytes : List UInt8) : FileName :=
  match Text.ofBytes? bytes with
  | some t => text t
  | none => raw bytes

/-- The parts of a path of bytes between delimiters. -/
def partsOfBytes : List UInt8 → List (List UInt8)
  | [] => [[]]
  | b :: bs =>
    if b = 47 then [] :: partsOfBytes bs
    else match partsOfBytes bs with
      | [] => [[b]]
      | p :: ps => (b :: p) :: ps

/-- The names along a path of bytes, without the empty ones and the ones that mean "here". -/
def ofPath (bytes : List UInt8) : List FileName :=
  ((partsOfBytes bytes).filter fun p => !p.isEmpty && p != [46]).map ofBytes

/-- The name as messages show it. -/
def display : FileName → Text
  | text t => t
  | raw bytes => Text.ofBytes bytes

end FileName

/-- What a name in a folder stands for. -/
inductive Node
  | file (data : Blob) (modified : Instant)
  | folder (children : List (FileName × Node))
  | link (target : Text)
  | socket
  | nullDevice

namespace Node

/-- The folder with nothing in it. -/
def emptyFolder : Node := folder []

/-- What is in a folder; nothing is in anything else. -/
def children : Node → List (FileName × Node)
  | folder children => children
  | _ => []

/-- Whether it is a folder. -/
def isFolder : Node → Bool
  | folder _ => true
  | _ => false

/-- What a name stands for in a folder. -/
def child? (n : Node) (name : FileName) : Option Node :=
  (n.children.find? fun c => c.1 = name).map (·.2)

/-- A list of named nodes in which a name stands for the given node: in place of what it stood for, or
behind all others. -/
def setChild (name : FileName) (n : Node) : List (FileName × Node) → List (FileName × Node)
  | [] => [(name, n)]
  | c :: rest => if c.1 = name then (name, n) :: rest else c :: setChild name n rest

/-- The tree with the node at the end of a path of names changed; folders that are missing on the way
are made, and a missing end is an empty folder before the change. -/
def alter (change : Node → Node) : List FileName → Node → Node
  | [], n => change n
  | name :: rest, n =>
    folder (setChild name (alter change rest ((n.child? name).getD emptyFolder)) n.children)

/-- The tree with a node put at the end of a path of names. -/
def put (n : Node) (path : List FileName) (tree : Node) : Node := alter (fun _ => n) path tree

/-- The tree with a folder at the end of a path of names; one that is there stays as it is. -/
def makeFolder (path : List FileName) (tree : Node) : Node :=
  alter (fun n => if n.isFolder then n else emptyFolder) path tree

end Node

end ObjectListing
