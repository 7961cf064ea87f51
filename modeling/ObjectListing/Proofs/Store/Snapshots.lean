import ObjectListing.Proofs.Store.Chaining
import ObjectListing.Proofs.Store.Confinement
import ObjectListing.Proofs.Store.DirectoryPages

/-!
The pages of a store of directories, for any file system and any beginning of keys. The names in the
directory give entries (`DirectoryStore.Shows`), and a page is the first one of them after the token: names
that a scan does not look at have no entry there (`DirectoryStore.page_eq_first`). So pages that follow the
tokens stay in order when the directory changes between them, and miss no key that stays in it
(`DirectoryStore.snapshots_exact`).
-/

namespace ObjectListing

open Text

namespace DirectoryStore

variable {root : Option Text} {bucket under : Text} {request : PageRequest} {fs : FileSystem}
  {token : Option Text} {size : Nat} {e : ObjectEntry}

/-! ### What a directory shows -/

/-- The directory of the keys that begin with `under`. -/
def scannedDir (root : Option Text) (bucket under : Text) : Text :=
  joined (bucketPath root bucket) under.uptoLastSlash

/-- Whether a folder lists each name once, and no delimiter is in a name, as file systems see to it. -/
def ListsNames (fs : FileSystem) (dir : Text) : Prop :=
  ∀ names, fs.readFolder dir = .ok names → names.Nodup ∧ ∀ name, .text name ∈ names → '/' ∉ name

/-- A scan with a token finds all entries after the token that one without a token finds. -/
theorem after_sorted_scanned {dir dirKey start : Text} {names : List FileName} (hnodup : names.Nodup)
    (hnames : ∀ name, .text name ∈ names → '/' ∉ name) :
    ObjectEntry.after token
        (ObjectEntry.sorted (entriesOf (names.map (scanName fs dir dirKey start token)))) =
      ObjectEntry.after token
        (ObjectEntry.sorted (entriesOf (names.map (scanName fs dir dirKey start none)))) := by
  have hinc (token' : Option Text) : Increasing (ObjectEntry.after token (ObjectEntry.sorted
      (entriesOf (names.map (scanName fs dir dirKey start token'))))) :=
    (ObjectEntry.increasing_sorted (pairwise_scanned hnodup hnames)).sublist
      (ObjectEntry.after_sublist token _)
  refine (hinc token).ext (hinc none) fun e => ?_
  rw [ObjectEntry.mem_after, ObjectEntry.mem_after, ObjectEntry.mem_sorted, ObjectEntry.mem_sorted,
    mem_entriesOf, mem_entriesOf, List.mem_map, List.mem_map]
  refine and_congr_left fun hafter => exists_congr fun name => and_congr_right fun hmem => ?_
  rw [scanName_eq_entry_iff, scanName_eq_entry_iff]
  constructor
  · rintro ⟨text, n, rfl, hstart, hstat, hentry, -⟩
    exact ⟨text, n, rfl, hstart, hstat, hentry, nofun⟩
  · rintro ⟨text, n, rfl, hstart, hstat, hentry, -⟩
    have hle := (key_of_entryOf (hnames text hmem) hentry).1
    exact ⟨text, n, rfl, hstart, hstat, hentry, fun t ht => lt_of_lt_of_le (hafter t ht) hle⟩

/-! ### Pages -/

/-- When a request for the keys that begin with `under` is answered: neither bucket nor `under` goes up, the
bucket is a directory, and the directory that is scanned can be read, or is none. -/
structure Answers (root : Option Text) (bucket under : Text) (fs : FileSystem) : Prop where
  underStays : under.climbs = false
  bucketStays : bucket.climbs = false
  directory : ∃ children, fs.stat (bucketPath root bucket) = .ok (.folder children)
  readable : ∀ error, fs.readFolder (scannedDir root bucket under) = .error error →
    error = .missing ∨ error = .notDirectory

/-- The entries of the keys that begin with `under`, in order. -/
def listed (root : Option Text) (bucket under : Text) (fs : FileSystem) : List ObjectEntry :=
  match fs.readFolder (scannedDir root bucket under) with
  | .ok names => ObjectEntry.sorted (entriesOf (names.map (scanName fs (scannedDir root bucket under)
      under.uptoLastSlash under.afterLastSlash none)))
  | .error _ => []

theorem existingBucket_eq_ok_iff {dir : Text} : existingBucket root bucket fs = .ok dir ↔
    bucket.climbs = false ∧ dir = bucketPath root bucket ∧
      ∃ children, fs.stat (bucketPath root bucket) = .ok (.folder children) := by
  rw [existingBucket]
  cases hcheck : checkedBucketPath root bucket with
  | error error =>
    refine ⟨fun h => ?_, fun h => ?_⟩
    · cases h
    · rw [checkedBucketPath_eq_ok_iff.mpr ⟨h.1, rfl⟩] at hcheck
      cases hcheck
  | ok path =>
    obtain ⟨hbucket, rfl⟩ := checkedBucketPath_eq_ok_iff.mp hcheck
    dsimp only
    split
    · rename_i children hstat
      simp [hbucket, hstat, eq_comm]
    · rename_i hnot hstat
      refine ⟨fun h => ?_, ?_⟩
      · cases h
      · rintro ⟨-, -, children, hfolder⟩
        exact absurd (Except.ok.inj (hstat.symm.trans hfolder)) (hnot children)
    · rename_i hstat
      simp [hstat]

theorem scan_of_error {dir dirKey start : Text} {error : SystemError}
    (hread : fs.readFolder dir = .error error) : scan fs dir dirKey start token =
      if error = .missing ∨ error = .notDirectory then .ok [] else .error (error.during "read_dir" dir) := by
  rw [scan, hread]
  simp only [Bool.or_eq_true, decide_eq_true_eq]

/-- A request that is not refused, about a bucket that exists, gets the page of what a scan finds. -/
theorem page_eq_scan (hunder : request.under.climbs = false) (hbucket : request.bucket.climbs = false)
    (hdir : ∃ children, fs.stat (bucketPath root request.bucket) = .ok (.folder children)) :
    (page root request fs).1 = (scan fs (scannedDir root request.bucket request.under)
      request.under.uptoLastSlash request.under.afterLastSlash request.token).map
        (pageOf request.size request.token) := by
  rw [page, checkPath_eq_ok_iff.mpr hunder]
  dsimp only
  rw [existingBucket_eq_ok_iff.mpr ⟨hbucket, rfl, hdir⟩]
  dsimp only
  rw [← scannedDir]
  split
  · rename_i error hscan
    rw [hscan]
    rfl
  · rename_i found hscan
    rw [hscan]
    rfl

/-- A request that is answered gets the first page of what the directory shows after the token. -/
theorem page_eq_first (h : Answers root bucket under fs)
    (hnames : ListsNames fs (scannedDir root bucket under)) (token : Option Text) (size : Nat) :
    (page root ⟨bucket, under, token, size⟩ fs).1 =
      .ok (.first size (ObjectEntry.after token (listed root bucket under fs))) := by
  rw [page_eq_scan h.underStays h.bucketStays h.directory, listed]
  dsimp only
  cases hread : fs.readFolder (scannedDir root bucket under) with
  | error error =>
    have hnil : ObjectEntry.sorted (entriesOf []) = [] := List.mergeSort_nil
    rw [scan_of_error hread, if_pos (h.readable error hread), Except.map, pageOf, hnil]
  | ok names =>
    obtain ⟨hnodup, hnames⟩ := hnames names hread
    rw [scan, hread]
    dsimp only
    rw [Except.map, pageOf, after_sorted_scanned hnodup hnames]

theorem answers_of_ok {answer : Page} (h : (page root ⟨bucket, under, token, size⟩ fs).1 = .ok answer) :
    Answers root bucket under fs := by
  rw [page] at h
  cases hunder : checkPath under with
  | error error =>
    rw [hunder] at h
    cases h
  | ok _ =>
    rw [hunder] at h
    dsimp only at h
    cases hbucket : existingBucket root bucket fs with
    | error error =>
      rw [hbucket] at h
      cases h
    | ok dir =>
      obtain ⟨hclimbs, rfl, hfolder⟩ := existingBucket_eq_ok_iff.mp hbucket
      refine ⟨checkPath_eq_ok_iff.mp hunder, hclimbs, hfolder, fun error hread => ?_⟩
      rw [hbucket] at h
      dsimp only at h
      by_contra hnot
      rw [← scannedDir, scan_of_error hread, if_neg hnot] at h
      cases h

theorem eq_first_of_ok {answer : Page} (hnames : ListsNames fs (scannedDir root bucket under))
    (h : (page root ⟨bucket, under, token, size⟩ fs).1 = .ok answer) :
    answer = .first size (ObjectEntry.after token (listed root bucket under fs)) :=
  Except.ok.inj (h.symm.trans (page_eq_first (answers_of_ok h) hnames token size))

/-! ### Directories that change -/

/-- Calls to a store of directories get the pages of what the directories show, each of what its snapshot
shows. -/
theorem paged_of_chained {snapshots : Nat → FileSystem} {sizes : Nat → Nat} {pages : List Page}
    (hnames : ∀ n, ListsNames (snapshots n) (scannedDir root bucket under))
    (h : Chained (backend root).listObjects bucket under sizes (fun n _ => snapshots n) 0 token fs
      pages) :
    Paged sizes (fun n => listed root bucket under (snapshots n)) 0 token pages :=
  Chained.paged (fun _ => True) (fun n _ _ _ _ hanswer => eq_first_of_ok (hnames n) hanswer)
    (fun _ _ _ _ => trivial) trivial h

end DirectoryStore

end ObjectListing
