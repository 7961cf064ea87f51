import ObjectListing.Proofs.Store.Mirror
import ObjectListing.Proofs.Store.Sorting
import ObjectListing.Store.Directory

/-!
The pages of a store of directories. One level under a folder of a tree, a bucket in memory that mirrors
the tree has the entries that the folder gives (`MemoryBucket.Mirrors.mem_folded_iff`), so a scan of the
folder, sorted and cut, is the page of the bucket (`DirectoryStore.page_eq`).
-/

namespace ObjectListing

open Text

/-! ### One level under a folder -/

/-- The entries that a folder gives, whose keys begin with `dirKey`. -/
def Node.Gives (folder : Node) (dirKey : Text) (e : ObjectEntry) : Prop :=
  ∃ name n, folder.child? (.text name) = some n ∧ DirectoryStore.entryOf dirKey name n = .entry e

variable {b : MemoryBucket} {tree folder : Node} {path : List Text} {e : ObjectEntry}

/-- Whatever is further down in a tree is in a folder. -/
theorem Node.exists_folder_of_at? {path path' : List Text} {n : Node}
    (h : tree.at? (path ++ path') = some n) (hfurther : path' ≠ [] ∨ n.isFolder = true) :
    ∃ children, tree.at? path = some (.folder children) := by
  rw [at?_append, Option.bind_eq_some_iff] at h
  obtain ⟨m, hm, hn⟩ := h
  have hfolder : m.isFolder = true := by
    cases path' with
    | nil => exact Option.some.inj hn ▸ hfurther.resolve_left fun hne => hne rfl
    | cons name path' =>
      obtain ⟨child, hchild, -⟩ := Option.bind_eq_some_iff.mp hn
      exact isFolder_of_child? hchild
  cases m with
  | folder children => exact ⟨children, hm⟩
  | file data modified => cases hfolder
  | link target => cases hfolder
  | socket => cases hfolder
  | nullDevice => cases hfolder

namespace MemoryBucket.Mirrors

/-- What an object of a mirroring bucket folds to is an entry that the folder gives. -/
theorem gives_of_foldsTo (hmirror : b.Mirrors tree) (hplain : tree.Plain)
    (hat : tree.at? path = some folder) {o : StoredObject} (ho : o ∈ b.objects)
    (hfold : FoldsTo (directoryKey path) o e) : folder.Gives (directoryKey path) e := by
  have hchild {name : Text} : tree.at? (path ++ [name]) = folder.child? (.text name) := by
    rw [Node.at?_concat, hat]
    rfl
  obtain ⟨hpath, -⟩ := hplain.of_at? hat
  obtain ⟨path', n, hat', hstands⟩ := hmirror.only o ho
  obtain ⟨hpath', -⟩ := hplain.of_at? hat'
  have hparts := hstands.parts_key hpath'
  cases hfold with
  | @object name hkey hne hname =>
    rw [hkey, parts_key hpath hname] at hparts
    rcases hparts with ⟨heq, hfile⟩ | ⟨heq, -⟩
    · rw [← heq, hchild] at hat'
      cases hstands with
      | file _ _ hsize hmodified =>
        exact ⟨name, _, hat', by rw [DirectoryStore.entryOf, hkey, hsize, hmodified]⟩
      | folder _ _ => cases hfile
    · exact absurd (List.singleton_inj.mp (List.append_inj' heq rfl).2) hne
  | @directory segment rest hkey hsegment =>
    rw [hkey, List.append_assoc, parts_directoryKey_append hpath, parts_append_cons,
      parts_of_notMem hsegment, ← List.append_assoc] at hparts
    -- the object is further down in the directory of this name, or marks it
    obtain ⟨children, hfolder⟩ : ∃ children,
        tree.at? (path ++ [segment]) = some (.folder children) := by
      rcases hparts with ⟨rfl, -⟩ | ⟨heq, hn⟩
      · exact Node.exists_folder_of_at? hat' (Or.inl (parts_ne_nil rest))
      · obtain ⟨further, last, hrest⟩ :=
          (List.eq_nil_or_concat' (parts rest)).resolve_left (parts_ne_nil rest)
        rw [hrest, ← List.append_assoc] at heq
        rw [← (List.append_inj' heq rfl).1] at hat'
        exact Node.exists_folder_of_at? hat' (Or.inr hn)
    exact ⟨segment, _, hchild.symm.trans hfolder, rfl⟩

/-- An entry that a folder gives is what an object of a mirroring bucket folds to. -/
theorem exists_foldsTo (hmirror : b.Mirrors tree) (hplain : tree.Plain)
    (hat : tree.at? path = some folder) (h : folder.Gives (directoryKey path) e) :
    ∃ o ∈ b.objects, FoldsTo (directoryKey path) o e := by
  obtain ⟨name, n, hn, hentry⟩ := h
  have hat' : tree.at? (path ++ [name]) = some n := by
    rw [Node.at?_concat, hat]
    exact hn
  obtain ⟨hnames, -⟩ := hplain.of_at? hat'
  have hname : IsName name := hnames name (by simp)
  obtain ⟨o, ho, hstands⟩ := hmirror.held (path ++ [name]) n (by simp) hat'
  refine ⟨o, ho, ?_⟩
  cases hstands with
  | file heq hkey hsize hmodified =>
    obtain ⟨rfl, hlast⟩ := List.append_inj' heq rfl
    cases List.singleton_inj.mp hlast
    rw [DirectoryStore.entryOf, ← hkey, ← hsize, ← hmodified] at hentry
    cases hentry
    exact .object hkey hname.ne_nil hname.undelimited
  | folder _ hkey =>
    cases hentry
    rw [directoryKey_concat] at hkey
    exact .directory hkey hname.undelimited

/-- One level under a folder, a mirroring bucket has the entries that the folder gives. -/
theorem mem_folded_iff (hmirror : b.Mirrors tree) (hplain : tree.Plain)
    (hat : tree.at? path = some folder) :
    e ∈ b.folded (directoryKey path) ↔ folder.Gives (directoryKey path) e := by
  rw [mem_folded]
  exact ⟨fun ⟨_, ho, hfold⟩ => hmirror.gives_of_foldsTo hplain hat ho hfold,
    hmirror.exists_foldsTo hplain hat⟩

end MemoryBucket.Mirrors

/-! ### Scans -/

namespace DirectoryStore

variable {fs : FileSystem} {dir dirKey start : Text} {token : Option Text}

theorem mem_entriesOf {found : List Scanned} : e ∈ entriesOf found ↔ .entry e ∈ found := by
  rw [entriesOf, List.mem_filterMap]
  constructor
  · rintro ⟨scanned, hmem, h⟩
    cases scanned with
    | entry e' => cases h; exact hmem
    | nothing => cases h
    | skipped event => cases h
  · exact fun h => ⟨_, h, rfl⟩

/-- The key of an entry begins with the name that gave it, and is at most that of a directory. -/
theorem key_of_entryOf {name : Text} {n : Node} (hname : '/' ∉ name)
    (h : entryOf dirKey name n = .entry e) :
    e.key ≤ dirKey ++ name ++ ['/'] ∧
      ∃ rest, e.key = dirKey ++ rest ∧ (cut '/' rest).1 = name := by
  cases n with
  | file data modified =>
    cases h
    exact ⟨le_of_isPrefix (List.prefix_append ..), name, rfl, by rw [cut_of_notMem hname]⟩
  | folder children =>
    cases h
    exact ⟨le_rfl, name ++ ['/'], List.append_assoc .., by rw [cut_append_cons hname]⟩
  | link target => cases h
  | socket => cases h
  | nullDevice => cases h

theorem any_atMost_eq_false_iff {key : Text} :
    (token.any fun t => key.atMost t) = false ↔ ∀ t, token = some t → t < key := by
  cases token with
  | none => simp
  | some t => simp [atMost]

/-- A scan finds an entry for a name that is a text and begins as it has to, when what it stands for gives
one and its larger key comes after the token. -/
theorem scanName_eq_entry_iff {name : FileName} :
    scanName fs dir dirKey start token name = .entry e ↔
      ∃ text n, name = .text text ∧ start <+: text ∧ fs.stat (joined dir text) = .ok n ∧
        entryOf dirKey text n = .entry e ∧ ∀ t, token = some t → t < dirKey ++ text ++ ['/'] := by
  cases name with
  | raw bytes => exact ⟨nofun, nofun⟩
  | text name =>
    rw [scanName]
    constructor
    · intro h
      split at h
      · cases h
      · rename_i hstart
        split at h
        · cases h
        · rename_i hany
          dsimp only at h
          split at h
          · rename_i n hstat
            exact ⟨name, n, rfl, startsWith_iff.mp (by simpa using hstart), hstat, h,
              any_atMost_eq_false_iff.mp (Bool.eq_false_iff.mpr hany)⟩
          · cases h
    · rintro ⟨text, n, heq, hstart, hstat, hentry, htoken⟩
      cases heq
      rw [startsWith_iff.mpr hstart, if_neg (by simp), any_atMost_eq_false_iff.mpr htoken,
        if_neg Bool.false_ne_true]
      dsimp only
      rw [hstat]
      exact hentry

/-- The entries that a scan finds have different keys. -/
theorem pairwise_scanned {names : List FileName} (hnodup : names.Nodup)
    (hnames : ∀ name, .text name ∈ names → '/' ∉ name) :
    (entriesOf (names.map (scanName fs dir dirKey start token))).Pairwise fun e f => e.key ≠ f.key := by
  have hscanned {scanned : Scanned} {e : ObjectEntry} (h : e ∈ entriesOf [scanned]) :
      scanned = .entry e :=
    (List.mem_singleton.mp (mem_entriesOf.mp h)).symm
  have hkey {name : FileName} (hmem : name ∈ names) {e : ObjectEntry}
      (h : scanName fs dir dirKey start token name = .entry e) :
      ∃ rest, e.key = dirKey ++ rest ∧ name = .text (cut '/' rest).1 := by
    obtain ⟨text, n, rfl, -, -, hentry, -⟩ := scanName_eq_entry_iff.mp h
    obtain ⟨-, rest, hrest, hcut⟩ := key_of_entryOf (hnames text hmem) hentry
    exact ⟨rest, hrest, by rw [hcut]⟩
  rw [entriesOf, List.filterMap_map]
  refine List.Pairwise.filterMap _ ?_ (List.Pairwise.and_mem.mp hnodup)
  rintro name name' ⟨hmem, hmem', hne⟩ e he f hf hsame
  obtain ⟨rest, hrest, rfl⟩ :=
    hkey hmem (hscanned (List.mem_filterMap.mpr ⟨_, List.mem_cons_self, he⟩))
  obtain ⟨rest', hrest', rfl⟩ :=
    hkey hmem' (hscanned (List.mem_filterMap.mpr ⟨_, List.mem_cons_self, hf⟩))
  rw [hrest, hrest'] at hsame
  exact hne (by rw [List.append_cancel_left hsame])

/-- What a scan of a folder finds after a token is what a mirroring bucket has there. -/
theorem after_scanned (hserves : fs.Serves dir tree) (hdir : dir ≠ []) (hend : endsInSlash dir = false)
    (hmirror : b.Mirrors tree) {children : List (FileName × Node)}
    (hat : tree.at? path = some (.folder children)) :
    ObjectEntry.after token (ObjectEntry.sorted (entriesOf ((children.map (·.1)).map
      (scanName fs (joined dir (directoryKey path)) (directoryKey path) [] token)))) =
      ObjectEntry.after token (b.folded (directoryKey path)) := by
  obtain ⟨-, hplain⟩ := hserves.plain.of_at? hat
  have hchild {text : Text} {n : Node} (h : (Node.folder children).child? (.text text) = some n) :
      IsName text ∧ fs.stat (joined (joined dir (directoryKey path)) text) = .ok n := by
    refine ⟨(hplain.of_child? h).1, hserves.stat_entry hdir hend ?_⟩
    rw [Node.at?_concat, hat]
    exact h
  cases hplain with
  | folder hnodup hnames _ =>
    have hfound : (entriesOf ((children.map (·.1)).map (scanName fs (joined dir (directoryKey path))
        (directoryKey path) [] token))).Pairwise fun e f => e.key ≠ f.key :=
      pairwise_scanned hnodup fun name hmem => by
        obtain ⟨c, hc, hname⟩ := List.mem_map.mp hmem
        obtain ⟨text, htext, hisName⟩ := hnames c hc
        cases hname.symm.trans htext
        exact hisName.undelimited
    refine Increasing.ext ((ObjectEntry.increasing_sorted hfound).sublist
      (ObjectEntry.after_sublist token _)) (b.increasing_after token _) fun e => ?_
    rw [ObjectEntry.mem_after, ObjectEntry.mem_after, ObjectEntry.mem_sorted, mem_entriesOf,
      List.mem_map, hmirror.mem_folded_iff hserves.plain hat]
    refine and_congr_left fun hafter => ⟨?_, ?_⟩
    · rintro ⟨name, hmem, hscan⟩
      obtain ⟨text, n, rfl, -, hstat, hentry, -⟩ := scanName_eq_entry_iff.mp hscan
      obtain ⟨⟨_, n'⟩, hmem, rfl⟩ := List.mem_map.mp hmem
      have hn : (Node.folder children).child? (.text text) = some n' :=
        Node.child?_of_mem hnodup hmem
      cases (hchild hn).2.symm.trans hstat
      exact ⟨text, _, hn, hentry⟩
    · rintro ⟨text, n, hn, hentry⟩
      obtain ⟨hname, hstat⟩ := hchild hn
      have hle := (key_of_entryOf hname.undelimited hentry).1
      exact ⟨.text text, List.mem_map.mpr ⟨_, Node.mem_children_of_child? hn, rfl⟩,
        scanName_eq_entry_iff.mpr ⟨text, n, rfl, List.nil_prefix, hstat, hentry,
          fun t ht => lt_of_lt_of_le (hafter t ht) hle⟩⟩

/-! ### Pages -/

variable {root bucket : Text}

theorem existingBucket_eq (hbucket : NamesDirectory bucket)
    (hserves : fs.Serves (bucketPath (some root) bucket) tree) :
    existingBucket (some root) bucket fs = .ok (bucketPath (some root) bucket) := by
  have hchecked : checkedBucketPath (some root) bucket = .ok (bucketPath (some root) bucket) := by
    rw [checkedBucketPath, checkPath, hbucket.not_climbs]
    rfl
  have hfolder := hserves.folder
  rw [existingBucket, hchecked]
  dsimp only
  rw [hserves.stands]
  cases tree with
  | folder children => rfl
  | file data modified => cases hfolder
  | link target => cases hfolder
  | socket => cases hfolder
  | nullDevice => cases hfolder

/-- A page of a folder is the page of a bucket that mirrors the tree the folder is in. -/
theorem page_eq (hbucket : NamesDirectory bucket)
    (hserves : fs.Serves (bucketPath (some root) bucket) tree) (hmirror : b.Mirrors tree)
    {children : List (FileName × Node)} (hat : tree.at? path = some (.folder children))
    (token : Option Text) (size : Nat) :
    (page (some root) ⟨bucket, directoryKey path, token, size⟩ fs).1 =
      .ok (b.pageFor ⟨bucket, directoryKey path, token, size⟩) := by
  obtain ⟨hpath, -⟩ := hserves.plain.of_at? hat
  have hdir : bucketPath (some root) bucket ≠ [] := joined_ne_nil hbucket.isName.ne_nil root
  have hend : endsInSlash (bucketPath (some root) bucket) = false :=
    not_endsInSlash_joined hbucket.isName root
  have hcheck : checkPath (directoryKey path) = .ok () := by
    rw [checkPath, not_climbs_directoryKey hpath]
    rfl
  rw [page, hcheck]
  dsimp only
  rw [existingBucket_eq hbucket hserves, uptoLastSlash_directoryKey, afterLastSlash_directoryKey]
  dsimp only
  rw [scan, hserves.readFolder_eq hdir hend hat]
  dsimp only
  rw [pageOf, after_scanned hserves hdir hend hmirror hat]
  rfl

end DirectoryStore

end ObjectListing
