import ObjectListing.Proofs.FileSystem.Tree

/-!
What an operation learns from a file system. Folders give real names, when the tree has no others, wherever
a path to them leads (`FileSystem.WellNamed.isName_of_readFolder`); and what is read at a path is told by
what stands there.
-/

namespace ObjectListing

open Text

/-! ### Names in folders -/

/-- Trees in which every name that is a text is one that a file or a directory can have. -/
inductive Node.WellNamed : Node → Prop
  | file (data : Blob) (modified : Instant) : WellNamed (.file data modified)
  | folder {children : List (FileName × Node)} :
      (∀ c ∈ children, ∀ name, c.1 = .text name → IsName name) → (∀ c ∈ children, WellNamed c.2) →
      WellNamed (.folder children)
  | link (target : Text) : WellNamed (.link target)
  | socket : WellNamed .socket
  | nullDevice : WellNamed .nullDevice

theorem Node.WellNamed.of_child? {n m : Node} {name : FileName} (h : n.WellNamed)
    (hchild : n.child? name = some m) : m.WellNamed := by
  have hmem := mem_children_of_child? hchild
  cases h with
  | folder _ hnodes => exact hnodes _ hmem
  | file | link | socket | nullDevice => cases hmem

namespace Position

/-- A position in a tree of such names: the node, and the folders above it. -/
structure WellNamed (p : Position) : Prop where
  node : p.node.WellNamed
  above : ∀ a ∈ p.above, a.2.WellNamed

variable {top here found : Position}

theorem WellNamed.up (h : here.WellNamed) : here.up.WellNamed := by
  rw [Position.up]
  split
  · exact h
  · rename_i name folder above habove
    have hall := h.above
    rw [habove, List.forall_mem_cons] at hall
    exact ⟨hall.1, hall.2⟩

theorem WellNamed.enter {name : FileName} {child : Node} (h : here.WellNamed) (hchild : child.WellNamed) :
    (here.enter name child).WellNamed :=
  ⟨hchild, List.forall_mem_cons.mpr ⟨h.node, h.above⟩⟩

/-- Following names does not leave the tree. -/
theorem WellNamed.follow {making : Bool} {links : Nat} {names : List Text} (htop : top.WellNamed)
    (hhere : here.WellNamed) (h : Position.follow making top links here names = .ok (.taken found)) :
    found.WellNamed := by
  fun_induction Position.follow making top links here names with
  | case1 links here =>
    cases h
    exact hhere
  | case3 links here name rest hfolder hname ih => exact ih hhere h
  | case4 links here rest hfolder hname ih => exact ih hhere.up h
  | case11 here name rest hfolder hname hup hmaking hlong target hchild links htarget ih =>
    refine ih ?_ h
    split
    · exact htop
    · exact hhere
  | case12 links here name rest hfolder hname hup hmaking hlong child hlink hchild ih =>
    exact ih (hhere.enter (hhere.node.of_child? hchild)) h
  | case2 | case5 | case6 | case7 | case8 | case9 | case10 => cases h

end Position

namespace FileSystem

variable {α : Type} {fs fs' : FileSystem} {path : Text}

/-- A file system in which every name that is a text is one that a file or a directory can have. -/
def WellNamed (fs : FileSystem) : Prop := fs.top.WellNamed

/-- Whether what an operation gives is told by what stands at these paths. -/
def AsksOnly (fs : FileSystem) (paths : List Text) (f : FileSystem → α) : Prop :=
  ∀ fs' : FileSystem, (∀ path ∈ paths, fs'.stat path = fs.stat path) → f fs' = f fs

theorem WellNamed.stat (h : fs.WellNamed) {node : Node} (hstat : fs.stat path = .ok node) :
    node.WellNamed := by
  obtain ⟨there, rfl, hfollow⟩ := exists_follow hstat
  have htop : Position.WellNamed ⟨fs.top, []⟩ := ⟨h, nofun⟩
  exact (htop.follow htop hfollow).node

/-- The names that a folder is found to have. -/
theorem WellNamed.isName_of_readFolder (h : fs.WellNamed) {names : List FileName}
    (hread : fs.readFolder path = .ok names) {name : Text} (hname : .text name ∈ names) :
    IsName name := by
  rw [readFolder] at hread
  split at hread
  · rename_i children hstat
    cases hread
    obtain ⟨c, hc, hcname⟩ := List.mem_map.mp hname
    cases h.stat hstat with
    | folder hnames _ => exact hnames c hc name hcname
  · cases hread
  · cases hread

theorem readFolder_congr (h : fs'.stat path = fs.stat path) :
    fs'.readFolder path = fs.readFolder path := by
  rw [readFolder, readFolder, h]

theorem read_congr (h : fs'.stat path = fs.stat path) : fs'.read path = fs.read path := by
  rw [read, read, h]

end FileSystem

end ObjectListing
