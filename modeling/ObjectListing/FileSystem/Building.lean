import ObjectListing.FileSystem.Basic

/-!
Building trees: files, folders, links and sockets are put at the ends of paths. Folders that are missing
on the way are made, and links on the way are followed. A file that is put where a link stands becomes
what the link leads to.
-/

namespace ObjectListing

namespace Node

/-- The position that names lead to from the top of a tree, as far as there are such names. -/
def positionAt (top : Node) (names : List FileName) : Position :=
  names.foldl (fun here name =>
    match here.node.child? name with
    | some child => here.enter name child
    | none => here) ⟨top, []⟩

/-- Where a name in the folder at `way` leads: the names from the top to what it stands for, or would
stand for. A link that cannot be followed stands for itself. -/
def through (top : Node) (way : List FileName) (name : FileName) : List FileName :=
  if name = .text [] || name = .text ['.'] then way
  else if name = .text ['.', '.'] then way.dropLast
  else
    let here := top.positionAt way
    match here.node.child? name with
    | some (.link target) =>
      match Position.follow false ⟨top, []⟩ linkLimit here target.parts with
      | .ok (.taken position) => position.path
      | .ok (.vacant inside last) => inside.path ++ [.text last]
      | .error _ => way ++ [name]
    | _ => way ++ [name]

/-- The tree with folders along a path, and the names from the top to the last of them. -/
def withFolders (top : Node) (path : List FileName) : List FileName × Node :=
  path.foldl (fun (way, top) name =>
    let way := through top way name
    (way, makeFolder way top)) ([], top)

/-- The tree with a file at the end of a path. -/
def withFile (top : Node) (path : List FileName) (data : Blob) (modified : Instant) : Node :=
  match path.getLast? with
  | none => top
  | some name =>
    let (way, top) := top.withFolders path.dropLast
    put (.file data modified) (through top way name) top

/-- The tree with a link or a socket at the end of a path, where nothing stood. -/
def withSpecial (top : Node) (path : List FileName) (special : Node) : Node :=
  match path.getLast? with
  | none => top
  | some name =>
    let (way, top) := top.withFolders path.dropLast
    put special (way ++ [name]) top

end Node

end ObjectListing
