import ObjectListing.Proofs.FileSystem.Asking
import ObjectListing.Proofs.Text.Components
import ObjectListing.Store.Directory

/-!
The paths that a store of directories hands to the file system. A page and an object are told by what
stands at these paths (`DirectoryStore.page_asksOnly`, `DirectoryStore.object_asksOnly`). As long as the
key is relative, they all lie below the directory of the bucket, and below the root; an absolute key leads
out (`DirectoryStore.handed_confined`).
-/

namespace ObjectListing

open Text

namespace DirectoryStore

/-! ### Paths that are handed to the file system -/

/-- The path of a name in a directory, if a scan looks at what it stands for. -/
def lookedAt? (dir dirKey start : Text) (token : Option Text) : FileName → Option Text
  | .raw _ => none
  | .text name =>
    if name.startsWith start && !token.any fun t => (dirKey ++ name ++ ['/']).atMost t then
      some (joined dir name)
    else none

/-- The paths that a scan hands on: that of the directory, and those of names in it. -/
def scanPaths (fs : FileSystem) (dir dirKey start : Text) (token : Option Text) : List Text :=
  dir :: match fs.readFolder dir with
    | .ok names => names.filterMap (lookedAt? dir dirKey start token)
    | .error _ => []

/-- The paths that a page request hands on: that of the bucket, and those of a scan in it. -/
def pagePaths (root : Option Text) (request : PageRequest) (fs : FileSystem) : List Text :=
  match checkPath request.under, checkedBucketPath root request.bucket with
  | .ok _, .ok dir =>
    dir :: match existingBucket root request.bucket fs with
      | .ok _ => scanPaths fs (joined dir request.under.uptoLastSlash) request.under.uptoLastSlash
          request.under.afterLastSlash request.token
      | .error _ => []
  | _, _ => []

/-- The path that a request for an object hands on. -/
def objectPaths (root : Option Text) (bucket key : Text) : List Text :=
  (objectPath root bucket key).toOption.toList

variable {root : Option Text} {bucket key dir dirKey start path : Text} {token : Option Text}
  {request : PageRequest} {fs fs' : FileSystem}

theorem scanName_congr {name : FileName}
    (h : ∀ path ∈ lookedAt? dir dirKey start token name, fs'.stat path = fs.stat path) :
    scanName fs' dir dirKey start token name = scanName fs dir dirKey start token name := by
  cases name with
  | raw bytes => rfl
  | text name =>
    rw [scanName, scanName]
    split
    · rfl
    · rename_i hstart
      split
      · rfl
      · rename_i htoken
        rw [Bool.not_eq_true] at htoken
        have hlooks : lookedAt? dir dirKey start token (.text name) = some (joined dir name) := by
          rw [lookedAt?, htoken]
          exact if_pos (by simpa using hstart)
        dsimp only
        rw [h _ hlooks]

theorem scan_congr (h : ∀ path ∈ scanPaths fs dir dirKey start token, fs'.stat path = fs.stat path) :
    scan fs' dir dirKey start token = scan fs dir dirKey start token := by
  obtain ⟨hdir, hnames⟩ := List.forall_mem_cons.mp h
  rw [scan, scan, FileSystem.readFolder_congr hdir]
  cases hread : fs.readFolder dir with
  | error e => rfl
  | ok names =>
    rw [hread] at hnames
    refine congrArg Except.ok (List.map_congr_left fun name hname => scanName_congr ?_)
    exact fun path hpath => hnames path (List.mem_filterMap.mpr ⟨name, hname, hpath⟩)

theorem existingBucket_congr (hcheck : checkedBucketPath root bucket = .ok dir)
    (h : fs'.stat dir = fs.stat dir) :
    existingBucket root bucket fs' = existingBucket root bucket fs := by
  rw [existingBucket, existingBucket, hcheck]
  dsimp only
  rw [h]

/-- A bucket that exists is the directory of its name. -/
theorem eq_of_existingBucket {dir' : Text} (hcheck : checkedBucketPath root bucket = .ok dir)
    (h : existingBucket root bucket fs = .ok dir') : dir' = dir := by
  rw [existingBucket, hcheck] at h
  dsimp only at h
  split at h
  · cases h
    rfl
  · cases h
  · cases h

/-- A page is told by what stands at the paths that its request hands on. -/
theorem page_asksOnly (root : Option Text) (request : PageRequest) (fs : FileSystem) :
    fs.AsksOnly (pagePaths root request fs) (page root request) := by
  intro fs' h
  rw [page, page]
  rw [pagePaths] at h
  cases hunder : checkPath request.under with
  | error e => rfl
  | ok _ =>
    cases hcheck : checkedBucketPath root request.bucket with
    | error e =>
      dsimp only
      rw [existingBucket, existingBucket, hcheck]
    | ok dir =>
      rw [hunder, hcheck] at h
      obtain ⟨hdir, hscan⟩ := List.forall_mem_cons.mp h
      dsimp only
      rw [existingBucket_congr hcheck hdir]
      cases hbucket : existingBucket root request.bucket fs with
      | error e => rfl
      | ok dir' =>
        obtain rfl := eq_of_existingBucket hcheck hbucket
        rw [hbucket] at hscan
        dsimp only
        rw [scan_congr hscan]

/-- An object is told by what stands at the path that its request hands on. -/
theorem object_asksOnly (root : Option Text) (bucket key : Text) (fs : FileSystem) :
    fs.AsksOnly (objectPaths root bucket key) (object root bucket key) := by
  intro fs' h
  rw [object, object]
  rw [objectPaths] at h
  cases hpath : objectPath root bucket key with
  | error e => rfl
  | ok path =>
    rw [hpath] at h
    have hstat : fs'.stat path = fs.stat path := h path (List.mem_singleton_self path)
    dsimp only
    rw [hstat, FileSystem.read_congr hstat]

/-! ### Where they lie -/

/-- Whether a path lies below the directory of a bucket, and below the root, if there is one. -/
structure Confined (root : Option Text) (bucket path : Text) : Prop where
  bucket : Below (bucketPath root bucket) path
  root : ∀ top, root = some top → Below top path

theorem Confined.below {path' : Text} (h : Confined root bucket path) (hbelow : Below path path') :
    Confined root bucket path' :=
  ⟨h.bucket.trans hbelow, fun top htop => (h.root top htop).trans hbelow⟩

/-- The directory of a bucket that does not go up lies below the root. -/
theorem confined_bucketPath (root : Option Text) (h : bucket.climbs = false) :
    Confined root bucket (bucketPath root bucket) := by
  refine ⟨.refl _, ?_⟩
  rintro top rfl
  exact below_joined top (head?_withoutLeadingSlashes_ne bucket)
    ((climbs_withoutLeadingSlashes bucket).trans h)

theorem checkPath_eq_ok_iff : checkPath path = .ok () ↔ path.climbs = false := by
  rw [checkPath]
  cases path.climbs with
  | false => simp
  | true => simp

theorem checkedBucketPath_eq_ok_iff : checkedBucketPath root bucket = .ok dir ↔
    bucket.climbs = false ∧ dir = bucketPath root bucket := by
  rw [checkedBucketPath, checkPath]
  cases bucket.climbs with
  | false => simp [Except.map, eq_comm]
  | true => simp [Except.map]

theorem mem_objectPaths_iff : path ∈ objectPaths root bucket key ↔
    bucket.climbs = false ∧ key.climbs = false ∧ path = joined (bucketPath root bucket) key := by
  rw [objectPaths, objectPath, checkPath, checkedBucketPath, checkPath]
  cases key.climbs with
  | true => simp [Except.toOption]
  | false =>
    cases bucket.climbs with
    | true => simp [Except.map, Except.toOption]
    | false => simp [Except.map, Except.toOption]

/-- What a scan looks at lies below its directory. -/
theorem below_of_mem_scanPaths (hfs : fs.WellNamed) (h : path ∈ scanPaths fs dir dirKey start token) :
    Below dir path := by
  rcases List.mem_cons.mp h with rfl | h
  · exact .refl path
  · cases hread : fs.readFolder dir with
    | error e =>
      rw [hread] at h
      cases h
    | ok names =>
      rw [hread] at h
      obtain ⟨name, hname, hlooks⟩ := List.mem_filterMap.mp h
      cases name with
      | raw bytes => cases hlooks
      | text name =>
        rw [lookedAt?] at hlooks
        split at hlooks
        · cases hlooks
          have hisName := hfs.isName_of_readFolder hread hname
          exact below_joined dir hisName.head?_ne hisName.climbs_eq_false
        · cases hlooks

/-- What a page request hands on is the directory of the bucket, or lies below the one that is
scanned. -/
theorem below_of_mem_pagePaths (hfs : fs.WellNamed) (h : path ∈ pagePaths root request fs) :
    request.bucket.climbs = false ∧ request.under.climbs = false ∧
      (path = bucketPath root request.bucket ∨
        Below (joined (bucketPath root request.bucket) request.under.uptoLastSlash) path) := by
  rw [pagePaths] at h
  cases hunder : checkPath request.under with
  | error e =>
    rw [hunder] at h
    cases h
  | ok _ =>
    cases hcheck : checkedBucketPath root request.bucket with
    | error e =>
      rw [hunder, hcheck] at h
      cases h
    | ok dir =>
      obtain ⟨hbucket, rfl⟩ := checkedBucketPath_eq_ok_iff.mp hcheck
      refine ⟨hbucket, checkPath_eq_ok_iff.mp hunder, ?_⟩
      rw [hunder, hcheck] at h
      rcases List.mem_cons.mp h with rfl | h
      · exact Or.inl rfl
      · split at h
        · exact Or.inr (below_of_mem_scanPaths hfs h)
        · cases h

/-- A path that is joined to the directory of a bucket lies below it, or is absolute and stands
alone. -/
theorem confined_joined_or (root : Option Text) (hbucket : bucket.climbs = false)
    (hpath : path.climbs = false) :
    Confined root bucket (joined (bucketPath root bucket) path) ∨
      path.head? = some '/' ∧ joined (bucketPath root bucket) path = path := by
  by_cases hhead : path.head? = some '/'
  · exact Or.inr ⟨hhead, if_pos (by simp [hhead])⟩
  · exact Or.inl ((confined_bucketPath root hbucket).below (below_joined _ hhead hpath))

/-- A request whose bucket or key goes up is refused, and hands nothing on. -/
theorem refused_of_not_looks (h : looks request.bucket request.under = false) (fs : FileSystem) :
    (pagePaths root request fs = [] ∧
      ∃ t, (page root request fs).1 = .error (UriFault.climbs.error t)) ∧
    objectPaths root request.bucket request.under = [] ∧
      ∃ t, (object root request.bucket request.under fs).1 = .error (UriFault.climbs.error t) := by
  cases hunder : request.under.climbs with
  | true =>
    have hcheck : checkPath request.under = .error (UriFault.climbs.error request.under) :=
      if_pos hunder
    rw [pagePaths, page, objectPaths, object, objectPath, hcheck]
    exact ⟨⟨rfl, _, rfl⟩, rfl, _, rfl⟩
  | false =>
    have hbucket : request.bucket.climbs = true := by simpa [looks, hunder] using h
    have hcheck : checkedBucketPath root request.bucket =
        .error (UriFault.climbs.error request.bucket) := by
      rw [checkedBucketPath, checkPath, if_pos hbucket]
      rfl
    rw [pagePaths, page, existingBucket, objectPaths, object, objectPath,
      checkPath_eq_ok_iff.mpr hunder, hcheck]
    exact ⟨⟨rfl, _, rfl⟩, rfl, _, rfl⟩

/-- Pages and objects are told by what stands at the paths that are handed on, and all of these lie below
the directory of the bucket and below the root, as long as the key is relative. An absolute key leads out:
the path of the object is then the key itself, and what is scanned is the directory of the key. A request
that goes up is refused, and hands nothing on. -/
theorem handed_confined (root : Option Text) (bucket key : Text) (token : Option Text) (size : Nat)
    (fs : FileSystem) (hfs : fs.WellNamed) :
    let request : PageRequest := ⟨bucket, key, token, size⟩
    (fs.AsksOnly (objectPaths root bucket key) (object root bucket key) ∧
      ∀ path ∈ objectPaths root bucket key, Confined root bucket path ∨
        key.head? = some '/' ∧ path = key) ∧
    (fs.AsksOnly (pagePaths root request fs) (page root request) ∧
      ∀ path ∈ pagePaths root request fs, Confined root bucket path ∨
        key.head? = some '/' ∧ Below key.uptoLastSlash path) ∧
    (looks bucket key = false →
      (pagePaths root request fs = [] ∧
        ∃ t, (page root request fs).1 = .error (UriFault.climbs.error t)) ∧
      objectPaths root bucket key = [] ∧
        ∃ t, (object root bucket key fs).1 = .error (UriFault.climbs.error t)) := by
  intro request
  refine ⟨⟨object_asksOnly root bucket key fs, fun path h => ?_⟩,
    ⟨page_asksOnly root request fs, fun path h => ?_⟩, fun h => refused_of_not_looks h fs⟩
  · obtain ⟨hbucket, hkey, rfl⟩ := mem_objectPaths_iff.mp h
    exact confined_joined_or root hbucket hkey
  · obtain ⟨hbucket, hunder, rfl | hbelow⟩ := below_of_mem_pagePaths hfs h
    · exact Or.inl (confined_bucketPath root hbucket)
    · rcases confined_joined_or root hbucket (climbs_uptoLastSlash hunder) with
        hconfined | ⟨hhead, hjoined⟩
      · exact Or.inl (hconfined.below hbelow)
      · rw [hjoined] at hbelow
        exact Or.inr ⟨(head?_uptoLastSlash key).mp hhead, hbelow⟩

/-- A file system with one file in one directory. -/
def oneFile : FileSystem where
  top := .folder [(.text ['b'], .folder [(.text ['x'], .file (.zeros 1) {})])]

theorem wellNamed_oneFile : oneFile.WellNamed := by
  refine .folder ?_ (List.forall_mem_singleton.mpr
    (.folder ?_ (List.forall_mem_singleton.mpr (.file ..))))
  · rintro c hc name hname
    rw [List.mem_singleton.mp hc] at hname
    cases hname
    decide
  · rintro c hc name hname
    rw [List.mem_singleton.mp hc] at hname
    cases hname
    decide

/-- The pages of the bucket are told by what stands below its directory. -/
theorem handed_confined_oneFile :
    let request : PageRequest := ⟨['b'], [], none, 5⟩
    oneFile.AsksOnly (pagePaths (some ['/']) request oneFile) (page (some ['/']) request) ∧
      ∀ path ∈ pagePaths (some ['/']) request oneFile, Confined (some ['/']) ['b'] path := by
  obtain ⟨-, ⟨hasks, hpage⟩, -⟩ :=
    handed_confined (some ['/']) ['b'] [] none 5 oneFile wellNamed_oneFile
  exact ⟨hasks, fun path h => (hpage path h).resolve_right fun hout => absurd hout.1 (by decide)⟩

/-- A URI of a file can have an absolute key: the path that is read then is the key itself. -/
theorem not_confined_of_absolute : ¬ ∀ (root : Option Text) (uri : Text) (u : Uri),
    Uri.parse uri = .ok u → u.scheme = .file →
    ∀ path ∈ objectPaths root u.bucket u.path, Confined root u.bucket path := by
  intro h
  have hread : Uri.parse (Text.of "file://b//dev/null") = .ok ⟨.file, ['b'], Text.of "/dev/null"⟩ := by
    rfl
  obtain ⟨-, hroot⟩ := h (some (Text.of "/srv")) _ _ hread rfl (Text.of "/dev/null") (by decide)
  obtain ⟨added, hadded, -⟩ := hroot _ rfl
  have hpath : components (Text.of "/dev/null") =
      [.root, .name (Text.of "dev"), .name (Text.of "null")] := by decide
  have htop : components (Text.of "/srv") = [.root, .name (Text.of "srv")] := by decide
  rw [hpath, htop] at hadded
  exact absurd (List.cons.inj (List.cons.inj hadded).2).1 (by decide)

end DirectoryStore

end ObjectListing
