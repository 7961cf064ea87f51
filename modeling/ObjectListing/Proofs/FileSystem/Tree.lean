import Mathlib.Data.List.Nodup
import ObjectListing.FileSystem.Basic
import ObjectListing.Proofs.Text.Names

/-!
Trees of files and folders, and the paths to what is in them.
-/

namespace ObjectListing

open Text

namespace Node

/-- What the names along a path lead to in a tree. -/
def at? : List Text → Node → Option Node
  | [], n => some n
  | name :: path, n => (n.child? (.text name)).bind (at? path)

/-- Trees of nothing but files and folders, in which every name is a text. -/
inductive Plain : Node → Prop
  | file (data : Blob) (modified : Instant) : Plain (.file data modified)
  | folder {children : List (FileName × Node)} : (children.map (·.1)).Nodup →
      (∀ c ∈ children, ∃ name, c.1 = .text name ∧ IsName name) → (∀ c ∈ children, Plain c.2) →
      Plain (.folder children)

variable {n m : Node} {name : FileName}

theorem mem_children_of_child? (h : n.child? name = some m) : (name, m) ∈ n.children := by
  obtain ⟨⟨name', m'⟩, hfind, rfl⟩ := Option.map_eq_some_iff.mp h
  have hname := List.find?_some hfind
  obtain rfl := of_decide_eq_true hname
  exact List.mem_of_find?_eq_some hfind

theorem child?_of_mem (h : (n.children.map (·.1)).Nodup) (hmem : (name, m) ∈ n.children) :
    n.child? name = some m := by
  obtain ⟨c, hfind⟩ : ∃ c, n.children.find? (fun c => decide (c.1 = name)) = some c :=
    Option.isSome_iff_exists.mp (List.find?_isSome.mpr ⟨_, hmem, decide_eq_true rfl⟩)
  have hname := List.find?_some hfind
  have hc : c = (name, m) :=
    List.inj_on_of_nodup_map h (List.mem_of_find?_eq_some hfind) hmem (of_decide_eq_true hname)
  rw [child?, hfind, hc]
  rfl

theorem isFolder_of_child? (h : n.child? name = some m) : n.isFolder = true := by
  have hmem := mem_children_of_child? h
  cases n with
  | folder children => rfl
  | file data modified => cases hmem
  | link target => cases hmem
  | socket => cases hmem
  | nullDevice => cases hmem

theorem at?_append : ∀ (path path' : List Text) (n : Node),
    n.at? (path ++ path') = (n.at? path).bind (at? path')
  | [], _, _ => rfl
  | name :: path, path', n => by
    rw [List.cons_append, at?, at?, Option.bind_assoc]
    congr 1
    funext m
    exact at?_append path path' m

theorem at?_concat (path : List Text) (name : Text) (n : Node) :
    n.at? (path ++ [name]) = (n.at? path).bind fun m => m.child? (.text name) := by
  rw [at?_append]
  congr 1
  funext m
  rw [at?]
  cases m.child? (.text name) <;> rfl

/-- Whether names lead to what stands at a path: the names along it, and behind them, when it is a folder,
nothing but the mark of one. -/
def LedBy (n : Node) (path names : List Text) : Prop :=
  names = path ∨ names = path ++ [[]] ∧ n.isFolder = true

namespace Plain

/-- What is in a plain folder is plain, and has a name. -/
theorem of_child? (h : Plain n) {name : Text} (hchild : n.child? (.text name) = some m) :
    IsName name ∧ Plain m := by
  have hmem := mem_children_of_child? hchild
  cases h with
  | file data modified => cases hmem
  | folder _ hnames hplain =>
    obtain ⟨name', heq, hname⟩ := hnames _ hmem
    cases heq
    exact ⟨hname, hplain _ hmem⟩

theorem of_at? : ∀ {path : List Text} {n : Node}, Plain n → n.at? path = some m →
    (∀ name ∈ path, IsName name) ∧ Plain m
  | [], _, h, hat => ⟨by simp, Option.some.inj hat ▸ h⟩
  | name :: path, n, h, hat => by
    obtain ⟨child, hchild, hat⟩ := Option.bind_eq_some_iff.mp hat
    obtain ⟨hname, hplain⟩ := h.of_child? hchild
    obtain ⟨hpath, hm⟩ := hplain.of_at? hat
    exact ⟨List.forall_mem_cons.mpr ⟨hname, hpath⟩, hm⟩

end Plain

end Node

namespace Position

variable {top here found : Position} {links : Nat}

/-- A path that leads somewhere is followed to there before what is behind it, with the links that are
left then. -/
theorem follow_append {names : List Text}
    (h : follow false top links here names = .ok (.taken found)) :
    ∃ links', ∀ more, follow false top links here (names ++ more) =
      follow false top links' found more := by
  fun_induction follow false top links here names with
  | case1 links here =>
    cases h
    exact ⟨links, fun more => rfl⟩
  | case3 links here name rest hfolder hname ih =>
    obtain ⟨links', hmore⟩ := ih h
    refine ⟨links', fun more => ?_⟩
    rw [List.cons_append, follow, if_neg hfolder, if_pos hname, hmore]
  | case4 links here rest hfolder hname ih =>
    obtain ⟨links', hmore⟩ := ih h
    refine ⟨links', fun more => ?_⟩
    rw [List.cons_append, follow, if_neg hfolder, if_neg hname, if_pos rfl, hmore]
  | case11 here name rest hfolder hname hup hmaking hlong target hchild links htarget ih =>
    obtain ⟨links', hmore⟩ := ih h
    refine ⟨links', fun more => ?_⟩
    rw [List.cons_append, follow, if_neg hfolder, if_neg hname, if_neg hup, if_neg (by simp),
      if_neg hlong, hchild]
    simp only [if_neg htarget]
    rw [← List.append_assoc]
    exact hmore more
  | case12 links here name rest hfolder hname hup hmaking hlong child hlink hchild ih =>
    obtain ⟨links', hmore⟩ := ih h
    refine ⟨links', fun more => ?_⟩
    rw [List.cons_append, follow, if_neg hfolder, if_neg hname, if_neg hup, if_neg (by simp),
      if_neg hlong, hchild]
    cases child with
    | link target => exact absurd rfl (hlink target)
    | file data modified => exact hmore more
    | folder children => exact hmore more
    | socket => exact hmore more
    | nullDevice => exact hmore more
  | case2 | case5 | case6 | case7 | case8 | case9 | case10 => cases h

/-- A name in a plain folder is followed to what it stands for, unless it is too long to be looked up. -/
theorem follow_cons_of_child? {name : Text} {child : Node} (hname : IsName name)
    (hchild : here.node.child? (.text name) = some child) (hplain : child.Plain) (rest : List Text) :
    follow false top links here (name :: rest) =
      if nameLimit < name.byteLength then .error .nameTooLong
      else follow false top links (here.enter (.text name) child) rest := by
  rw [follow, if_neg (by simp [Node.isFolder_of_child? hchild]),
    if_neg (by simp [hname.ne_nil, hname.ne_here]), if_neg hname.ne_up, if_neg (by simp), hchild]
  cases hplain with
  | file data modified => rfl
  | folder _ _ _ => rfl

/-- In a plain tree, a path is followed to what is at its end, unless a name on it is too long. -/
theorem exists_follow_append (top : Position) (links : Nat) : ∀ {path : List Text} {here : Position}
    {n : Node}, here.node.Plain → here.node.at? path = some n →
    ∃ there : Position, there.node = n ∧ ∀ more, follow false top links here (path ++ more) =
      if ∃ name ∈ path, nameLimit < name.byteLength then .error .nameTooLong
      else follow false top links there more
  | [], here, _, _, hat => ⟨here, Option.some.inj hat, fun more => by simp⟩
  | name :: path, here, _, hplain, hat => by
    obtain ⟨child, hchild, hat⟩ := Option.bind_eq_some_iff.mp hat
    obtain ⟨hname, hplain'⟩ := hplain.of_child? hchild
    have hat' : (here.enter (.text name) child).node.at? path = some _ := hat
    obtain ⟨there, hthere, hfollow⟩ := exists_follow_append top links hplain' hat'
    refine ⟨there, hthere, fun more => ?_⟩
    rw [List.cons_append, follow_cons_of_child? hname hchild hplain', hfollow]
    by_cases hlong : nameLimit < name.byteLength
    · simp [hlong]
    · simp [hlong]

/-- So are the names that lead to what is at the end. -/
theorem exists_follow_of_ledBy (top : Position) (links : Nat) {path names : List Text} {n : Node}
    (hplain : here.node.Plain) (hat : here.node.at? path = some n) (hnames : n.LedBy path names) :
    ∃ there : Position, there.node = n ∧ follow false top links here names =
      if ∃ name ∈ path, nameLimit < name.byteLength then .error .nameTooLong
      else .ok (.taken there) := by
  obtain ⟨there, rfl, hfollow⟩ := exists_follow_append top links hplain hat
  refine ⟨there, rfl, ?_⟩
  rcases hnames with rfl | ⟨rfl, hfolder⟩
  · rw [← List.append_nil names, hfollow, follow, List.append_nil]
  · have hmark : follow false top links there [[]] = .ok (.taken there) := by
      rw [follow, if_neg (by simp [hfolder]), if_pos (by simp), follow]
    rw [hfollow, hmark]

end Position

namespace FileSystem

variable {fs : FileSystem} {dir key : Text} {tree node n : Node} {path : List Text}

/-- The names that are followed for a path. -/
def namesOf (fs : FileSystem) (path : Text) : List Text :=
  if path.head? = some '/' then path.parts else fs.current ++ path.parts

/-- What a path stands for is found by following its names. -/
theorem exists_follow (h : fs.stat dir = .ok node) : ∃ there : Position, there.node = node ∧
    Position.follow false ⟨fs.top, []⟩ linkLimit ⟨fs.top, []⟩ (fs.namesOf dir) =
      .ok (.taken there) := by
  rw [stat] at h
  split at h
  · rename_i there hlocate
    refine ⟨there, Except.ok.inj h, ?_⟩
    rw [locate] at hlocate
    split at hlocate
    · cases hlocate
    · split at hlocate
      · cases hlocate
      · split at hlocate
        · cases hlocate
        · exact hlocate
  · cases h
  · cases h

theorem namesOf_append_cons (hdir : dir ≠ []) :
    fs.namesOf (dir ++ '/' :: key) = fs.namesOf dir ++ parts key := by
  rw [namesOf, namesOf, List.head?_append_of_ne_nil _ hdir, parts_append_cons]
  split
  · rfl
  · rw [List.append_assoc]

/-- A path below a directory is followed from what stands there. -/
theorem exists_follow_below (hstands : fs.stat dir = .ok tree) (hdir : dir ≠ [])
    (h : fs.stat (dir ++ '/' :: key) = .ok node) :
    ∃ (links : Nat) (here there : Position), here.node = tree ∧ there.node = node ∧
      Position.follow false ⟨fs.top, []⟩ links here (parts key) = .ok (.taken there) := by
  obtain ⟨here, hhere, hfollow⟩ := exists_follow hstands
  obtain ⟨there, hthere, hbelow⟩ := exists_follow h
  obtain ⟨links, hmore⟩ := Position.follow_append hfollow
  rw [namesOf_append_cons hdir, hmore] at hbelow
  exact ⟨links, here, there, hhere, hthere, hbelow⟩

/-- What stands at a key below a directory with a plain tree, if it can be looked up. -/
theorem eq_of_stat (hstands : fs.stat dir = .ok tree) (hdir : dir ≠ []) (hplain : tree.Plain)
    (hat : tree.at? path = some n) (hkey : n.LedBy path (parts key))
    (h : fs.stat (dir ++ '/' :: key) = .ok node) : node = n := by
  obtain ⟨links, here, there, rfl, rfl, hfollow⟩ := exists_follow_below hstands hdir h
  obtain ⟨there', rfl, hfollow'⟩ := Position.exists_follow_of_ledBy _ links hplain hat hkey
  rw [hfollow'] at hfollow
  split at hfollow
  · cases hfollow
  · cases hfollow
    rfl

/-- Whether a tree of files and folders stands at a directory, where everything in it can be looked up and
every folder in it be read. -/
structure Serves (fs : FileSystem) (dir : Text) (tree : Node) : Prop where
  stands : fs.stat dir = .ok tree
  folder : tree.isFolder = true
  plain : tree.Plain
  stats : ∀ path name n, tree.at? (path ++ [name]) = some n →
    ∃ found, fs.stat (joined dir (directoryKey path ++ name)) = .ok found
  reads : ∀ path children, tree.at? path = some (.folder children) →
    ∃ names, fs.readFolder (joined dir (directoryKey path)) = .ok names

/-- Whether a path, and each of the names along it, is short enough to be looked up. -/
structure Short (path : Text) : Prop where
  nul : '\x00' ∉ path
  length : path.byteLength < pathLimit
  names : ∀ name ∈ parts path, name.byteLength ≤ nameLimit

/-- What stands at a short key below a directory with a plain tree can be looked up. -/
theorem stat_of_short (hstands : fs.stat dir = .ok tree) (hdir : dir ≠ []) (hplain : tree.Plain)
    (hat : tree.at? path = some n) (hkey : n.LedBy path (parts key))
    (hshort : Short (dir ++ '/' :: key)) : fs.stat (dir ++ '/' :: key) = .ok n := by
  obtain ⟨here, rfl, hfollow⟩ := exists_follow hstands
  obtain ⟨links, hmore⟩ := Position.follow_append hfollow
  obtain ⟨there, rfl, hfollow'⟩ := Position.exists_follow_of_ledBy ⟨fs.top, []⟩ links hplain hat hkey
  have hnames : ¬ ∃ name ∈ path, nameLimit < name.byteLength := by
    rintro ⟨name, hmem, hlong⟩
    refine Nat.not_lt.mpr (hshort.names name ?_) hlong
    rw [parts_append_cons]
    refine List.mem_append_right _ ?_
    rcases hkey with hkey | ⟨hkey, -⟩
    · rwa [hkey]
    · rw [hkey]
      exact List.mem_append_left _ hmem
  have hlocate : fs.locate false (dir ++ '/' :: key) = .ok (.taken there) := by
    rw [locate, if_neg (by simpa using hshort.nul), if_neg (by simp),
      if_neg (Nat.not_le.mpr hshort.length)]
    have hnamesOf : fs.namesOf (dir ++ '/' :: key) = _ := namesOf_append_cons hdir
    rw [namesOf] at hnamesOf
    dsimp only
    rw [hnamesOf, hmore, hfollow', if_neg hnames]
  rw [stat, hlocate]

/-- A tree that stands at a directory serves when all paths into it are short. -/
theorem Serves.of_short (hstands : fs.stat dir = .ok tree) (hfolder : tree.isFolder = true)
    (hplain : tree.Plain) (hdir : dir ≠ []) (hend : endsInSlash dir = false)
    (hentries : ∀ path name n, tree.at? (path ++ [name]) = some n →
      Short (dir ++ '/' :: (directoryKey path ++ name)))
    (hfolders : ∀ path children, tree.at? path = some (.folder children) →
      Short (dir ++ '/' :: directoryKey path)) : fs.Serves dir tree := by
  refine ⟨hstands, hfolder, hplain, ?_, ?_⟩
  · intro path name n hat
    obtain ⟨hpath, hname⟩ := List.forall_mem_append.mp (hplain.of_at? hat).1
    have hname : IsName name := List.forall_mem_singleton.mp hname
    rw [joined_eq hdir hend (head?_directoryKey_append_ne hpath hname.head?_ne)]
    exact ⟨n, stat_of_short hstands hdir hplain hat (Or.inl (parts_key hpath hname.undelimited))
      (hentries path name n hat)⟩
  · intro path children hat
    have hpath := (hplain.of_at? hat).1
    rw [joined_eq hdir hend (head?_directoryKey_ne hpath), readFolder,
      stat_of_short hstands hdir hplain hat (Or.inr ⟨parts_directoryKey hpath, rfl⟩)
        (hfolders path children hat)]
    exact ⟨_, rfl⟩

namespace Serves

variable {children : List (FileName × Node)}

/-- What a name in a folder is found to stand for. -/
theorem stat_entry (h : fs.Serves dir tree) (hdir : dir ≠ []) (hend : endsInSlash dir = false)
    {name : Text} (hat : tree.at? (path ++ [name]) = some n) :
    fs.stat (joined (joined dir (directoryKey path)) name) = .ok n := by
  obtain ⟨hpath, hname⟩ := List.forall_mem_append.mp (h.plain.of_at? hat).1
  have hname : IsName name := List.forall_mem_singleton.mp hname
  have hkey : n.LedBy (path ++ [name]) (parts (directoryKey path ++ name)) :=
    Or.inl (parts_key hpath hname.undelimited)
  obtain ⟨found, hfound⟩ := h.stats path name n hat
  rw [joined_joined (directoryKey_eq_nil_or path) hname.head?_ne, hfound]
  rw [joined_eq hdir hend (head?_directoryKey_append_ne hpath hname.head?_ne)] at hfound
  rw [eq_of_stat h.stands hdir h.plain hat hkey hfound]

/-- The names that a folder is found to have. -/
theorem readFolder_eq (h : fs.Serves dir tree) (hdir : dir ≠ []) (hend : endsInSlash dir = false)
    (hat : tree.at? path = some (.folder children)) :
    fs.readFolder (joined dir (directoryKey path)) = .ok (children.map (·.1)) := by
  obtain ⟨hpath, -⟩ := h.plain.of_at? hat
  obtain ⟨names, hnames⟩ := h.reads path children hat
  rw [readFolder] at hnames ⊢
  cases hstat : fs.stat (joined dir (directoryKey path)) with
  | error e =>
    rw [hstat] at hnames
    cases hnames
  | ok found =>
    rw [joined_eq hdir hend (head?_directoryKey_ne hpath)] at hstat
    rw [eq_of_stat h.stands hdir h.plain hat (Or.inr ⟨parts_directoryKey hpath, rfl⟩) hstat]

end Serves

end FileSystem

end ObjectListing
