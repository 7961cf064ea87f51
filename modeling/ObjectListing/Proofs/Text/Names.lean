import ObjectListing.Proofs.Text.Order

/-!
Keys as paths. The key of a directory is the names along its path, each with the delimiter behind it
(`directoryKey`), and the key of a file is that of its directory with one more name. The parts of a key are
these names again (`parts_directoryKey_append`), so a key tells where its file or directory is. Joined to
a directory, a key stands for a path there.
-/

namespace ObjectListing

namespace Text

/-! ### Parts -/

theorem parts_ne_nil (t : Text) : parts t ≠ [] := by
  cases t with
  | nil => simp [parts]
  | cons c cs =>
    rw [parts]
    split
    · simp
    · split <;> simp

theorem parts_of_notMem : ∀ {t : Text}, '/' ∉ t → parts t = [t]
  | [], _ => rfl
  | c :: cs, h => by
    rw [List.mem_cons, not_or] at h
    rw [parts, if_neg (Ne.symm h.1), parts_of_notMem h.2]

/-- The parts of a text are the ones before a delimiter and the ones behind it. -/
theorem parts_append_cons : ∀ t u : Text, parts (t ++ '/' :: u) = parts t ++ parts u
  | [], u => by simp [parts]
  | c :: cs, u => by
    rw [List.cons_append, parts, parts, parts_append_cons cs u]
    split
    · rfl
    · obtain ⟨p, ps, hparts⟩ := List.exists_cons_of_ne_nil (parts_ne_nil cs)
      rw [hparts]
      rfl

/-- A path goes up a level when one of its parts says so. -/
theorem climbs_eq_false {t : Text} (h : ['.', '.'] ∉ parts t) : climbs t = false := by
  rw [climbs, List.contains_eq_mem, decide_eq_false_iff_not]
  exact fun hmem => h (List.mem_of_mem_filter hmem)

/-! ### Names and keys -/

/-- A name that a file or a directory can have. -/
structure IsName (name : Text) : Prop where
  ne_nil : name ≠ []
  ne_here : name ≠ ['.']
  ne_up : name ≠ ['.', '.']
  undelimited : '/' ∉ name

theorem isName_iff {name : Text} :
    IsName name ↔ name ≠ [] ∧ name ≠ ['.'] ∧ name ≠ ['.', '.'] ∧ '/' ∉ name :=
  ⟨fun h => ⟨h.ne_nil, h.ne_here, h.ne_up, h.undelimited⟩, fun ⟨h, h', h'', h'''⟩ => ⟨h, h', h'', h'''⟩⟩

instance (name : Text) : Decidable (IsName name) := decidable_of_iff' _ isName_iff

theorem IsName.not_endsInSlash {name : Text} (h : IsName name) : endsInSlash name = false :=
  not_endsInSlash_of_notMem h.undelimited

theorem IsName.head?_ne {name : Text} (h : IsName name) : name.head? ≠ some '/' :=
  fun hhead => h.undelimited (List.mem_of_head? hhead)

/-- The key of the directory at a path: the names along it, each with the delimiter behind it. -/
def directoryKey (path : List Text) : Text := path.flatMap fun name => name ++ ['/']

variable {path : List Text} {name rest : Text}

@[simp] theorem directoryKey_nil : directoryKey [] = [] := rfl

theorem directoryKey_cons (name : Text) (path : List Text) :
    directoryKey (name :: path) = name ++ '/' :: directoryKey path := by
  rw [directoryKey, List.flatMap_cons, List.append_assoc]
  rfl

theorem directoryKey_concat (path : List Text) (name : Text) :
    directoryKey (path ++ [name]) = directoryKey path ++ name ++ ['/'] := by
  rw [directoryKey, List.flatMap_append, List.flatMap_singleton, ← List.append_assoc]
  rfl

theorem directoryKey_eq_nil_or (path : List Text) :
    directoryKey path = [] ∨ endsInSlash (directoryKey path) = true := by
  rcases List.eq_nil_or_concat' path with rfl | ⟨path, name, rfl⟩
  · exact Or.inl rfl
  · exact Or.inr (endsInSlash_iff.mpr ⟨_, directoryKey_concat path name⟩)

/-- The parts of a key are the names of its directories and the parts of what is behind them. -/
theorem parts_directoryKey_append : ∀ {path : List Text}, (∀ name ∈ path, IsName name) →
    ∀ rest : Text, parts (directoryKey path ++ rest) = path ++ parts rest
  | [], _, _ => rfl
  | name :: path, h, rest => by
    obtain ⟨hname, hpath⟩ := List.forall_mem_cons.mp h
    rw [directoryKey_cons, List.append_assoc, List.cons_append, parts_append_cons,
      parts_of_notMem hname.undelimited, parts_directoryKey_append hpath]
    rfl

theorem parts_directoryKey (h : ∀ name ∈ path, IsName name) :
    parts (directoryKey path) = path ++ [[]] := by
  have hparts := parts_directoryKey_append h []
  rwa [List.append_nil] at hparts

theorem parts_key (h : ∀ name ∈ path, IsName name) (hname : '/' ∉ name) :
    parts (directoryKey path ++ name) = path ++ [name] := by
  rw [parts_directoryKey_append h, parts_of_notMem hname]

/-- The key of a directory does not go up a level. -/
theorem not_climbs_directoryKey (h : ∀ name ∈ path, IsName name) :
    climbs (directoryKey path) = false := by
  refine climbs_eq_false ?_
  rw [parts_directoryKey h, List.mem_append, not_or]
  exact ⟨fun hmem => (h _ hmem).ne_up rfl, by simp⟩

/-! ### Directory forms -/

section DirectoryForms

variable {t : Text}

theorem asDirectory_eq_nil_or (t : Text) : asDirectory t = [] ∨ endsInSlash (asDirectory t) = true := by
  rw [asDirectory]
  split
  · rename_i h
    simpa using h
  · exact Or.inr (endsInSlash_iff.mpr ⟨t, rfl⟩)

theorem asDirectory_eq_self (h : t = [] ∨ endsInSlash t = true) : asDirectory t = t := by
  rw [asDirectory, if_pos]
  simpa using h

/-- A directory form is itself up to its last delimiter, and has nothing behind it. -/
theorem uptoLastSlash_eq_self (h : t = [] ∨ endsInSlash t = true) : uptoLastSlash t = t := by
  rcases h with rfl | h
  · rfl
  · obtain ⟨start, rfl⟩ := endsInSlash_iff.mp h
    simp [uptoLastSlash]

theorem afterLastSlash_eq_nil (h : t = [] ∨ endsInSlash t = true) : afterLastSlash t = [] := by
  rcases h with rfl | h
  · rfl
  · obtain ⟨start, rfl⟩ := endsInSlash_iff.mp h
    simp [afterLastSlash]

end DirectoryForms

theorem uptoLastSlash_directoryKey (path : List Text) :
    uptoLastSlash (directoryKey path) = directoryKey path :=
  uptoLastSlash_eq_self (directoryKey_eq_nil_or path)

theorem afterLastSlash_directoryKey (path : List Text) :
    afterLastSlash (directoryKey path) = [] :=
  afterLastSlash_eq_nil (directoryKey_eq_nil_or path)

theorem asDirectory_directoryKey (path : List Text) :
    asDirectory (directoryKey path) = directoryKey path :=
  asDirectory_eq_self (directoryKey_eq_nil_or path)

/-- A path without the delimiter at its end has the same directory form. -/
theorem asDirectory_of_append_eq (h : ∀ name ∈ path, IsName name) {t : Text}
    (ht : t ++ ['/'] = directoryKey path) : asDirectory t = directoryKey path := by
  rcases List.eq_nil_or_concat' path with rfl | ⟨path, name, rfl⟩
  · simp at ht
  · have hname : IsName name := h name (by simp)
    rw [directoryKey_concat] at ht ⊢
    obtain rfl := List.append_cancel_right ht
    rw [asDirectory, if_neg]
    simp [endsInSlash_append hname.ne_nil, hname.not_endsInSlash, hname.ne_nil]

/-! ### Joining -/

variable {dir key : Text}

theorem head?_directoryKey_append_ne (h : ∀ name ∈ path, IsName name) (hrest : rest.head? ≠ some '/') :
    (directoryKey path ++ rest).head? ≠ some '/' := by
  cases path with
  | nil => exact hrest
  | cons name path =>
    have hname : IsName name := h name (List.mem_cons_self ..)
    obtain ⟨c, cs, rfl⟩ := List.exists_cons_of_ne_nil hname.ne_nil
    exact hname.head?_ne

theorem head?_directoryKey_ne (h : ∀ name ∈ path, IsName name) :
    (directoryKey path).head? ≠ some '/' := by
  rw [← List.append_nil (directoryKey path)]
  exact head?_directoryKey_append_ne h nofun

theorem joined_of_absolute (hkey : key.head? = some '/') : joined dir key = key :=
  if_pos (by simpa using hkey)

theorem joined_of_relative (hkey : key.head? ≠ some '/') : joined dir key = asDirectory dir ++ key := by
  rw [joined, if_neg (by simpa using hkey), asDirectory]
  split
  · rfl
  · rw [List.append_assoc]
    rfl

/-- A directory with a name behind it, below another one or not. -/
theorem joined_ne_nil (hname : name ≠ []) (dir : Text) : joined dir name ≠ [] := by
  rw [joined]
  split
  · exact hname
  · split <;> simp [hname]

theorem endsInSlash_joined (hkey : key ≠ []) (dir : Text) :
    endsInSlash (joined dir key) = endsInSlash key := by
  by_cases habsolute : key.head? = some '/'
  · rw [joined_of_absolute habsolute]
  · rw [joined_of_relative habsolute, endsInSlash_append hkey]

theorem not_endsInSlash_joined (hname : IsName name) (dir : Text) :
    endsInSlash (joined dir name) = false := by
  rw [endsInSlash_joined hname.ne_nil, hname.not_endsInSlash]

theorem joined_eq (hdir : dir ≠ []) (hend : endsInSlash dir = false) (hkey : key.head? ≠ some '/') :
    joined dir key = dir ++ '/' :: key := by
  rw [joined, if_neg (by simpa using hkey), if_neg (by simp [hdir, hend])]

/-- What is behind a path stays behind it. -/
theorem joined_append (hkey : key ≠ []) (rest : Text) : joined dir (key ++ rest) = joined dir key ++ rest := by
  have hhead : (key ++ rest).head? = key.head? := List.head?_append_of_ne_nil _ hkey
  by_cases habsolute : key.head? = some '/'
  · rw [joined_of_absolute habsolute, joined_of_absolute (hhead.trans habsolute)]
  · rw [joined_of_relative habsolute, joined_of_relative (hhead ▸ habsolute), List.append_assoc]

/-- A name joined to a directory below another one, which a key names. -/
theorem joined_joined (hkey : key = [] ∨ endsInSlash key = true) (hname : name.head? ≠ some '/') :
    joined (joined dir key) name = joined dir (key ++ name) := by
  rcases eq_or_ne key [] with rfl | hne
  · have hself : asDirectory (asDirectory dir) = asDirectory dir :=
      asDirectory_eq_self (asDirectory_eq_nil_or dir)
    rw [joined_of_relative hname, joined_of_relative (by simp), List.append_nil, hself, List.nil_append,
      joined_of_relative hname]
  · have hend : endsInSlash (joined dir key) = true := by
      rw [endsInSlash_joined hne]
      exact hkey.resolve_left hne
    rw [joined_append hne, joined_of_relative hname, asDirectory_eq_self (Or.inr hend)]

/-! ### Buckets that are directories -/

/-- Whether a bucket is the name of one directory, with the delimiter in front or without. -/
def NamesDirectory (bucket : Text) : Prop :=
  ∃ name, IsName name ∧ (bucket = name ∨ bucket = '/' :: name)

namespace NamesDirectory

variable {bucket : Text}

theorem ne_nil (h : NamesDirectory bucket) : bucket ≠ [] := by
  obtain ⟨name, hname, rfl | rfl⟩ := h
  · exact hname.ne_nil
  · exact List.cons_ne_nil _ _

theorem not_climbs (h : NamesDirectory bucket) : climbs bucket = false := by
  refine climbs_eq_false ?_
  obtain ⟨name, hname, rfl | rfl⟩ := h
  · rw [parts_of_notMem hname.undelimited, List.mem_singleton]
    exact hname.ne_up.symm
  · rw [parts, if_pos rfl, parts_of_notMem hname.undelimited]
    simpa using hname.ne_up.symm

theorem isName (h : NamesDirectory bucket) : IsName bucket.withoutLeadingSlashes := by
  obtain ⟨name, hname, hbucket⟩ := h
  have hkept : name.dropWhile (· == '/') = name := by
    obtain ⟨c, cs, rfl⟩ := List.exists_cons_of_ne_nil hname.ne_nil
    rw [List.dropWhile_cons_of_neg]
    simpa using hname.head?_ne
  rcases hbucket with rfl | rfl
  · rwa [withoutLeadingSlashes, hkept]
  · rwa [withoutLeadingSlashes, List.dropWhile_cons_of_pos rfl, hkept]

end NamesDirectory

end Text

end ObjectListing
