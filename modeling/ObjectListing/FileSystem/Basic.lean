import ObjectListing.Error.System
import ObjectListing.FileSystem.Node
import ObjectListing.Text.Path

/-!
File systems: a tree of files and folders, with a folder in which paths begin that do not begin at the
top. A path is followed name by name, through symbolic links; `Position.follow` is that walk. It ends
because every link that is followed uses up one of a fixed number.
-/

namespace ObjectListing

/-- A node of a tree with the way to it: the names that lead to it and the folders they were found in,
innermost first. -/
structure Position where
  node : Node
  above : List (FileName × Node) := []

namespace Position

/-- The position one level up; there is nothing above the top. -/
def up (p : Position) : Position :=
  match p.above with
  | [] => p
  | (_, folder) :: above => ⟨folder, above⟩

/-- The position of a child. -/
def enter (p : Position) (name : FileName) (child : Node) : Position :=
  ⟨child, (name, p.node) :: p.above⟩

/-- The names that lead from the top to a position. -/
def path (p : Position) : List FileName := (p.above.map (·.1)).reverse

end Position

/-- Where a path leads: to a node, or to a name that a folder does not have. -/
inductive Place
  | taken (position : Position)
  | vacant (folder : Position) (name : Text)

/-- The most bytes that a name may have. -/
def nameLimit : Nat := 255

/-- The bytes that are too many for a path. -/
def pathLimit : Nat := 4096

/-- The most links that are followed on one path. -/
def linkLimit : Nat := 40

namespace Position

/-- Whether these names say that the one before them is a folder's, and nothing else. -/
def onlyMarkFolder (names : List Text) : Bool := !names.isEmpty && names.all List.isEmpty

/-- Follows names from `here`, with `links` more links to follow at most. Where a path is followed to
make a file at its end, a last name that is marked as a folder's is not looked up. -/
def follow (making : Bool) (top : Position) (links : Nat) (here : Position) (names : List Text) :
    Except SystemError Place :=
  match names with
  | [] => .ok (.taken here)
  | name :: rest =>
    if !here.node.isFolder then .error .notDirectory
    else if name.isEmpty || name = ['.'] then follow making top links here rest
    else if name = ['.', '.'] then follow making top links here.up rest
    else if making && onlyMarkFolder rest then .error .isDirectory
    else if nameLimit < name.byteLength then .error .nameTooLong
    else match here.node.child? (.text name) with
      | none => if rest.isEmpty then .ok (.vacant here name) else .error .missing
      | some (.link target) =>
        match links with
        | 0 => .error .linkLoop
        | links + 1 =>
          if target.isEmpty then .error .missing
          else follow making top links (if target.head? = some '/' then top else here)
            (target.parts ++ rest)
      | some child => follow making top links (here.enter (.text name) child) rest
  termination_by (links, names.length)

end Position

/-- A tree, and the names that lead to the folder in which relative paths begin. -/
structure FileSystem where
  top : Node
  current : List Text := []

namespace FileSystem

/-- Where a path leads; `making` tells whether a file is to be made at its end. -/
def locate (fs : FileSystem) (making : Bool) (path : Text) : Except SystemError Place :=
  if path.contains '\x00' then .error .embeddedNul
  else if path.isEmpty then .error .missing
  else if pathLimit ≤ path.byteLength then .error .nameTooLong
  else
    let names := if path.head? = some '/' then path.parts else fs.current ++ path.parts
    Position.follow making ⟨fs.top, []⟩ linkLimit ⟨fs.top, []⟩ names

/-- What a path stands for. -/
def stat (fs : FileSystem) (path : Text) : Except SystemError Node :=
  match fs.locate false path with
  | .ok (.taken position) => .ok position.node
  | .ok (.vacant ..) => .error .missing
  | .error e => .error e

/-- The names in the folder at a path. -/
def readFolder (fs : FileSystem) (path : Text) : Except SystemError (List FileName) :=
  match fs.stat path with
  | .ok (.folder children) => .ok (children.map (·.1))
  | .ok _ => .error .notDirectory
  | .error e => .error e

/-- The data of the file at a path. -/
def read (fs : FileSystem) (path : Text) : Except SystemError Blob :=
  match fs.stat path with
  | .ok (.file data _) => .ok data
  | .ok (.folder _) => .error .isDirectory
  | .ok .socket => .error .noDevice
  | .ok _ => .ok (.zeros 0)
  | .error e => .error e

/-- The file system with a file at the end of a path of names. -/
def putFile (fs : FileSystem) (path : List FileName) (data : Blob) (modified : Instant) :
    FileSystem :=
  { fs with top := Node.put (.file data modified) path fs.top }

/-- Writes a file at a path, at the moment `now`: what the file held before is lost, and a missing file
is made. A path that ends in a delimiter names no file. -/
def write (fs : FileSystem) (path : Text) (data : Blob) (now : Instant) :
    Except SystemError FileSystem :=
  match fs.locate true path with
  | .error e => .error e
  | .ok (.vacant folder name) => .ok (fs.putFile (folder.path ++ [.text name]) data now)
  | .ok (.taken position) =>
    match position.node with
    | .file .. => .ok (fs.putFile position.path data now)
    | .folder _ => .error .isDirectory
    | .socket => .error .noDevice
    | _ => .ok fs

/-- A file system with the folders that are found at the top of every one, the null device, and
`work`, in which relative paths begin. -/
def standard (work : Node) : FileSystem where
  top := .folder
    [(.text (Text.of "dev"), .folder [(.text (Text.of "null"), .nullDevice)]),
     (.text (Text.of "etc"), .emptyFolder),
     (.text (Text.of "proc"), .emptyFolder),
     (.text (Text.of "tmp"), .emptyFolder),
     (.text (Text.of "usr"), .emptyFolder),
     (.text (Text.of "work"), work)]
  current := [Text.of "work"]

end FileSystem

end ObjectListing
