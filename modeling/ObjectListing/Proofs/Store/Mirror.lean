import ObjectListing.Proofs.FileSystem.Tree
import ObjectListing.Proofs.Store.MemoryPages

/-!
Buckets in memory that mirror a tree of files and folders: they have an object for every file, and one for
every folder below the top, whose key is that of the directory. Every tree has such a bucket
(`MemoryBucket.exists_mirrors`).
-/

namespace ObjectListing

open Text

/-! ### Buckets that mirror a tree -/

/-- Whether an object is what a bucket holds for what stands at a path: the file there, or a mark for the
folder. -/
inductive StoredObject.StandsFor (o : StoredObject) (path : List Text) : Node → Prop
  | file {front : List Text} {name : Text} {data : Blob} {modified : Instant} :
      path = front ++ [name] → o.key = directoryKey front ++ name → o.data.size = data.size →
      o.modified = modified → StandsFor o path (.file data modified)
  | folder {children : List (FileName × Node)} : path ≠ [] → o.key = directoryKey path →
      StandsFor o path (.folder children)

/-- Whether a bucket holds an object for everything in a tree, and no others. -/
structure MemoryBucket.Mirrors (b : MemoryBucket) (tree : Node) : Prop where
  held : ∀ path n, path ≠ [] → tree.at? path = some n → ∃ o ∈ b.objects, o.StandsFor path n
  only : ∀ o ∈ b.objects, ∃ path n, tree.at? path = some n ∧ o.StandsFor path n

namespace StoredObject.StandsFor

variable {o : StoredObject} {path : List Text} {n : Node}

/-- The parts of the key of an object are the names along the path of what it stands for, up to the end of a
directory. -/
theorem parts_key (h : o.StandsFor path n) (hpath : ∀ name ∈ path, IsName name) :
    parts o.key = path ∧ n.isFolder = false ∨ parts o.key = path ++ [[]] ∧ n.isFolder = true := by
  cases h with
  | @file front name _ _ hfront hkey _ _ =>
    subst hfront
    have hname : IsName name := hpath name (by simp)
    refine Or.inl ⟨?_, rfl⟩
    rw [hkey, Text.parts_key (fun name h => hpath name (List.mem_append_left _ h)) hname.undelimited]
  | folder _ hkey => exact Or.inr ⟨by rw [hkey, parts_directoryKey hpath], rfl⟩

/-- Objects of one key stand for what is at one path. -/
theorem path_eq {p : StoredObject} {path' : List Text} {n' : Node} (h : o.StandsFor path n)
    (h' : p.StandsFor path' n') (hpath : ∀ name ∈ path, IsName name)
    (hpath' : ∀ name ∈ path', IsName name) (hkey : o.key = p.key) : path = path' := by
  -- the mark of a directory is no name, so it is not at the end of a path
  have hmark {path path' : List Text} (hpath : ∀ name ∈ path, IsName name) : path ≠ path' ++ [[]] := by
    rintro rfl
    exact (hpath [] (by simp)).ne_nil rfl
  have hparts := h.parts_key hpath
  rw [hkey] at hparts
  rcases hparts with ⟨heq, -⟩ | ⟨heq, -⟩
  · rcases h'.parts_key hpath' with ⟨heq', -⟩ | ⟨heq', -⟩
    · exact heq.symm.trans heq'
    · exact absurd (heq.symm.trans heq') (hmark hpath)
  · rcases h'.parts_key hpath' with ⟨heq', -⟩ | ⟨heq', -⟩
    · exact absurd (heq'.symm.trans heq) (hmark hpath')
    · exact List.append_cancel_right (heq.symm.trans heq')

end StoredObject.StandsFor

/-- An object for what stands at a path. -/
def StoredObject.standIn (path : List Text) : Node → StoredObject
  | .file data modified => ⟨directoryKey path.dropLast ++ path.getLastD [], data, modified⟩
  | _ => ⟨directoryKey path, .zeros 0, {}⟩

theorem StoredObject.standsFor_standIn {path : List Text} {n : Node} (hn : n.Plain) (hne : path ≠ []) :
    (standIn path n).StandsFor path n := by
  obtain ⟨front, name, rfl⟩ := (List.eq_nil_or_concat' path).resolve_left hne
  cases hn with
  | file data modified => exact .file rfl (by simp [standIn]) rfl rfl
  | folder _ _ _ => exact .folder hne rfl

/-! ### Every tree has its bucket -/

namespace Node

/-- The places under a name in a folder, from the places below what it stands for. -/
def placesUnder (name : FileName) (places : List (List Text × Node)) : List (List Text × Node) :=
  match name with
  | .text name => places.map fun p => (name :: p.1, p.2)
  | .raw _ => []

theorem mem_placesUnder {name : FileName} {places : List (List Text × Node)} {path : List Text}
    {m : Node} : (path, m) ∈ placesUnder name places ↔
      ∃ text rest, name = .text text ∧ path = text :: rest ∧ (rest, m) ∈ places := by
  cases name with
  | text name =>
    rw [placesUnder, List.mem_map]
    constructor
    · rintro ⟨⟨rest, m'⟩, hmem, heq⟩
      cases heq
      exact ⟨name, rest, rfl, rfl, hmem⟩
    · rintro ⟨text, rest, hname, rfl, hmem⟩
      cases hname
      exact ⟨_, hmem, rfl⟩
  | raw bytes => exact ⟨nofun, nofun⟩

/-- What a path leads to that enters a folder. -/
theorem at?_folder_cons {children : List (FileName × Node)} (hnodup : (children.map (·.1)).Nodup)
    {name : Text} {path : List Text} {m : Node} :
    (folder children).at? (name :: path) = some m ↔
      ∃ child, (.text name, child) ∈ children ∧ child.at? path = some m := by
  rw [at?, Option.bind_eq_some_iff]
  constructor
  · rintro ⟨child, hchild, h⟩
    exact ⟨child, mem_children_of_child? hchild, h⟩
  · rintro ⟨child, hmem, h⟩
    have hchild : (folder children).child? (.text name) = some child := child?_of_mem hnodup hmem
    exact ⟨child, hchild, h⟩

/-- What is in a plain tree can be listed, with the paths to it. -/
theorem Plain.exists_places {n : Node} (h : n.Plain) :
    ∃ places : List (List Text × Node), ∀ path m, n.at? path = some m ↔ (path, m) ∈ places := by
  induction h with
  | file data modified =>
    refine ⟨[([], .file data modified)], fun path m => ?_⟩
    cases path with
    | nil => simp [at?, eq_comm]
    | cons name path => simp [at?, child?, children]
  | @folder children hnodup _ _ ih =>
    choose! places hplaces using ih
    refine ⟨([], .folder children) :: children.flatMap fun c => placesUnder c.1 (places c),
      fun path m => ?_⟩
    rw [List.mem_cons, List.mem_flatMap]
    cases path with
    | nil =>
      constructor
      · intro h
        exact Or.inl (by rw [Option.some.inj h])
      · rintro (h | ⟨c, -, hmem⟩)
        · rw [(Prod.mk.inj h).2]
          rfl
        · obtain ⟨_, _, -, hnil, -⟩ := mem_placesUnder.mp hmem
          cases hnil
    | cons name path =>
      rw [at?_folder_cons hnodup]
      constructor
      · rintro ⟨child, hmem, h⟩
        exact Or.inr ⟨_, hmem,
          mem_placesUnder.mpr ⟨name, path, rfl, rfl, (hplaces _ hmem path m).mp h⟩⟩
      · rintro (h | ⟨⟨fileName, child⟩, hmem, h⟩)
        · cases (Prod.mk.inj h).1
        · obtain ⟨_, _, hname, hcons, h⟩ := mem_placesUnder.mp h
          cases hcons
          cases hname
          exact ⟨child, hmem, (hplaces _ hmem path m).mpr h⟩

end Node

namespace MemoryBucket

/-- A bucket of these objects; of objects of one key, the first one. -/
def ofObjects (name : Text) (created : Instant) (objects : List StoredObject) : MemoryBucket :=
  objects.foldr insert { name, created }

variable {name : Text} {created : Instant} {objects : List StoredObject} {o : StoredObject}

theorem mem_of_mem_ofObjects (h : o ∈ (ofObjects name created objects).objects) : o ∈ objects := by
  induction objects with
  | nil => cases h
  | cons p objects ih =>
    rcases StoredObject.mem_of_mem_insert h with rfl | h
    · exact List.mem_cons_self ..
    · exact List.mem_cons_of_mem _ (ih h)

theorem exists_mem_ofObjects (h : o ∈ objects) :
    ∃ p ∈ (ofObjects name created objects).objects, p.key = o.key := by
  induction objects with
  | nil => cases h
  | cons p objects ih =>
    rcases List.mem_cons.mp h with rfl | h
    · exact ⟨o, StoredObject.mem_insert_self o _, rfl⟩
    · obtain ⟨q, hq, hkey⟩ := ih h
      obtain ⟨q', hq', hkey'⟩ := StoredObject.exists_mem_insert (o := p) hq
      exact ⟨q', hq', hkey'.trans hkey⟩

theorem name_ofObjects (name : Text) (created : Instant) (objects : List StoredObject) :
    (ofObjects name created objects).name = name := by
  induction objects with
  | nil => rfl
  | cons o objects ih => exact ih

/-- Every plain tree is mirrored by a bucket of any name. -/
theorem exists_mirrors {tree : Node} (hplain : tree.Plain) (name : Text) (created : Instant) :
    ∃ b : MemoryBucket, b.name = name ∧ b.Mirrors tree := by
  obtain ⟨places, hplaces⟩ := hplain.exists_places
  let objects := (places.filter fun p => !p.1.isEmpty).map fun p => StoredObject.standIn p.1 p.2
  have honly : ∀ o ∈ (ofObjects name created objects).objects,
      ∃ path n, tree.at? path = some n ∧ o.StandsFor path n := by
    intro o ho
    obtain ⟨⟨path, n⟩, hmem, rfl⟩ := List.mem_map.mp (mem_of_mem_ofObjects ho)
    obtain ⟨hmem, hne⟩ := List.mem_filter.mp hmem
    have hat := (hplaces path n).mpr hmem
    exact ⟨path, n, hat, StoredObject.standsFor_standIn (hplain.of_at? hat).2 (by simpa using hne)⟩
  refine ⟨ofObjects name created objects, name_ofObjects .., ?_, honly⟩
  intro path n hne hat
  have hobject : StoredObject.standIn path n ∈ objects :=
    List.mem_map.mpr ⟨_, List.mem_filter.mpr ⟨(hplaces path n).mp hat, by simpa using hne⟩, rfl⟩
  obtain ⟨o, ho, hkey⟩ : ∃ o ∈ (ofObjects name created objects).objects, o.key = _ :=
    exists_mem_ofObjects hobject
  obtain ⟨path', n', hat', hstands⟩ := honly o ho
  have hstandIn := StoredObject.standsFor_standIn (hplain.of_at? hat).2 hne
  obtain rfl := hstands.path_eq hstandIn (hplain.of_at? hat').1 (hplain.of_at? hat).1 hkey
  cases hat.symm.trans hat'
  exact ⟨o, ho, hstands⟩

end MemoryBucket

end ObjectListing
