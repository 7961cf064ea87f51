import ObjectListing.Proofs.Listing.Exactness
import ObjectListing.Proofs.Listing.SideBySide
import ObjectListing.Proofs.Store.DirectoryPages

/-!
Listings of a directory, and of a bucket in memory that mirrors what is in it. A listing of the bucket is
inside the tree all along: the prefixes that it enters are directories (`Course.step_inside`). So every
page that it asks for is the same from both stores, and the two listings go the same way, turn by turn
(`Course.run_mirrored`).
-/

namespace ObjectListing

open Text

/-- A lister of the directories below a root. -/
def DirectoryStore.lister (root : Text) (config : EngineConfig) : Lister FileSystem :=
  ⟨backend (some root), config⟩

/-! ### Listings inside a tree -/

/-- Whether a key is that of a directory in a tree. -/
def Node.HasDirectory (tree : Node) (key : Text) : Prop :=
  ∃ path children, tree.at? path = some (.folder children) ∧ key = directoryKey path

/-- Whether a prefix that a walk is inside of is a directory in a tree, with all the prefixes in it that it
is still to look at. -/
structure Frame.Inside (tree : Node) (f : Frame) : Prop where
  under : tree.HasDirectory f.under
  pending : ∀ e ∈ f.pending, e.isCommonPrefix = true → tree.HasDirectory e.key

theorem Frame.Inside.rest {tree : Node} {f : Frame} {e : ObjectEntry} {rest : List ObjectEntry}
    (h : f.Inside tree) (hpending : f.pending = e :: rest) :
    Frame.Inside tree { f with pending := rest } := by
  refine ⟨h.under, fun d hd => h.pending d ?_⟩
  rw [hpending]
  exact List.mem_cons_of_mem e hd

/-- Whether a walk is in a bucket, and inside the directories of a tree only. -/
structure Walk.Inside (tree : Node) (bucket : Text) (walk : Walk) : Prop where
  bucket : walk.bucket = bucket
  frames : ∀ f ∈ walk.stack, f.Inside tree

/-- Whether a listing that has begun is inside the directories of a tree only. -/
def Stage.Inside (tree : Node) (bucket : Text) : Stage → Prop
  | .underway (.opened _) => False
  | .underway (.buckets ..) => True
  | .underway (.walking walk) => walk.Inside tree bucket
  | .ended _ => True

variable {tree folder : Node} {path : List Text} {b : MemoryBucket} {bucket : Text}

/-- The prefixes that a folder gives are directories of its tree. -/
theorem Node.Gives.hasDirectory {e : ObjectEntry} (hat : tree.at? path = some folder)
    (h : folder.Gives (directoryKey path) e) (hcommon : e.isCommonPrefix = true) :
    tree.HasDirectory e.key := by
  obtain ⟨name, n, hn, hentry⟩ := h
  cases n with
  | folder children =>
    cases hentry
    refine ⟨path ++ [name], children, ?_, (directoryKey_concat path name).symm⟩
    rw [at?_concat, hat]
    exact hn
  | file data modified =>
    cases hentry
    cases hcommon
  | link target => cases hentry
  | socket => cases hentry
  | nullDevice => cases hentry

namespace Course

variable {σ : Type} {l : Lister σ} {signal : StopSignal} {c : Course σ}

/-- One turn of a walk stays inside a tree, if the prefixes on the page that it may bring are
directories. -/
theorem Walked.inside {walk : Walk} {next : Course σ} (hwalked : Walked l signal walk c next)
    (h : walk.Inside tree bucket)
    (hpages : ∀ {key token size page w}, tree.HasDirectory key →
      Listing.pageCall l signal ⟨bucket, key, token, size⟩ c.world = (.ok page, w) →
      ∀ e ∈ page.entries, e.isCommonPrefix = true → tree.HasDirectory e.key) :
    next.stage.Inside tree bucket := by
  obtain ⟨hbucket, hframes⟩ := h
  cases hwalked with
  | finished _ => trivial
  | refused _ _ _ _ _ _ => trivial
  | @enter f e rest _ _ hstack hpending henters =>
    rw [hstack] at hframes
    obtain ⟨hf, houter⟩ := List.forall_mem_cons.mp hframes
    have hentered : Frame.Inside tree { under := e.key } := by
      refine ⟨hf.pending e ?_ ?_, nofun⟩
      · rw [hpending]
        exact List.mem_cons_self ..
      · exact (Bool.and_eq_true_iff.mp henters).1
    exact ⟨hbucket, List.forall_mem_cons.mpr
      ⟨hentered, List.forall_mem_cons.mpr ⟨hf.rest hpending, houter⟩⟩⟩
  | give _ hstack hpending _ _ =>
    rw [hstack] at hframes
    obtain ⟨hf, houter⟩ := List.forall_mem_cons.mp hframes
    exact ⟨hbucket, List.forall_mem_cons.mpr ⟨hf.rest hpending, houter⟩⟩
  | skip _ hstack hpending _ _ =>
    rw [hstack] at hframes
    obtain ⟨hf, houter⟩ := List.forall_mem_cons.mp hframes
    exact ⟨hbucket, List.forall_mem_cons.mpr ⟨hf.rest hpending, houter⟩⟩
  | leave _ hstack _ _ =>
    rw [hstack] at hframes
    exact ⟨hbucket, (List.forall_mem_cons.mp hframes).2⟩
  | @received f _ _ _ _ _ hstack _ _ hpage _ =>
    rw [hstack] at hframes
    obtain ⟨hf, houter⟩ := List.forall_mem_cons.mp hframes
    rw [Walk.requestFor, hbucket] at hpage
    exact ⟨hbucket, List.forall_mem_cons.mpr ⟨⟨hf.under, hpages hf.under hpage⟩, houter⟩⟩

/-- So does a turn of any listing that has begun. -/
theorem step_inside (h : c.stage.Inside tree bucket)
    (hpages : ∀ {key token size page w}, tree.HasDirectory key →
      Listing.pageCall l signal ⟨bucket, key, token, size⟩ c.world = (.ok page, w) →
      ∀ e ∈ page.entries, e.isCommonPrefix = true → tree.HasDirectory e.key) :
    (c.step l signal).stage.Inside tree bucket := by
  cases hstage : c.stage with
  | ended failure =>
    rw [step_ended hstage, hstage]
    trivial
  | underway listing =>
    rw [hstage] at h
    cases listing with
    | opened request => exact h.elim
    | buckets rest selection emitted =>
      rw [step, hstage]
      dsimp only
      cases rest with
      | nil => trivial
      | cons b rest =>
        rw [Listing.turn]
        cases selection.reached emitted with
        | true => trivial
        | false => trivial
    | walking walk => exact (step_walked l signal hstage).inside h hpages

end Course

/-! ### Side by side -/

/-- A tree of files and folders at the directory of a bucket, and a bucket in memory that mirrors it. -/
structure Mirrored (root bucket : Text) (fs : FileSystem) (tree : Node) (b : MemoryBucket) : Prop where
  named : NamesDirectory bucket
  served : fs.Serves (DirectoryStore.bucketPath (some root) bucket) tree
  mirrors : b.Mirrors tree

/-- Worlds around a listing of a directory and of a bucket in memory, in which nothing fails or stops
them. -/
structure World.Showing (signal signal' : StopSignal) (bucket : Text) (fs : FileSystem) (b : MemoryBucket)
    (w : World FileSystem) (v : World MemoryStore) : Prop where
  files : w.store = fs
  unstopped : w.stopAt signal = none
  bucket : v.store.bucket? bucket = some b
  calm : Listing.Calm signal' v

variable {root : Text} {config : EngineConfig} {signal signal' : StopSignal} {fs : FileSystem}
  {w : World FileSystem} {v : World MemoryStore}

theorem heedless_showing (signal signal' : StopSignal) (bucket : Text) (fs : FileSystem)
    (b : MemoryBucket) :
    Listing.Heedless (World.Showing signal signal' bucket fs b) fun _ _ _ => False where
  both _ _ h := ⟨h.files, h.unstopped, h.bucket, ⟨h.calm.faultless, h.calm.unstopped⟩⟩
  cut _ h := h

/-- A page of a directory in the tree comes from both stores at once, and is the same. -/
theorem pageCall_mirrored (h : Mirrored root bucket fs tree b)
    (hworlds : World.Showing signal signal' bucket fs b w v) {key : Text} (hkey : tree.HasDirectory key)
    (token : Option Text) (size : Nat) :
    SideBySide (World.Showing signal signal' bucket fs b) (fun _ _ _ => False)
      (Listing.pageCall (DirectoryStore.lister root config) signal ⟨bucket, key, token, size⟩ w)
      (Listing.pageCall (MemoryStore.lister config) signal' ⟨bucket, key, token, size⟩ v) := by
  obtain ⟨path, children, hat, rfl⟩ := hkey
  obtain ⟨rfl, hunstopped, hb, hcalm⟩ := hworlds
  have hscanned : ((DirectoryStore.lister root config).backend.listObjects
      ⟨bucket, directoryKey path, token, size⟩ w.store).answer = _ :=
    DirectoryStore.page_eq h.named h.served h.mirrors hat token size
  have hfolded : ((MemoryStore.lister config).backend.listObjects
      ⟨bucket, directoryKey path, token, size⟩ v.store).answer = _ :=
    MemoryStore.listObjects_answer hcalm.faultless hb
  obtain ⟨e, hcall⟩ := Listing.pageCall_of_ok (World.isStopped_eq_false hunstopped) hscanned
  obtain ⟨e', hcall'⟩ := Listing.pageCall_of_ok (World.isStopped_eq_false hcalm.unstopped) hfolded
  rw [hcall, hcall']
  refine .same ⟨?_, ?_, ?_, ?_⟩
  · rw [World.store_call]
    rfl
  · rw [World.stopAt_call rfl]
    exact hunstopped
  · rw [World.store_call]
    exact (MemoryStore.bucket?_congr (MemoryStore.listObjects_buckets _ _) bucket).trans hb
  · exact Listing.calm_call ⟨hcalm.faultless, hcalm.unstopped⟩

/-- The prefixes on a page of the bucket are directories. -/
theorem hasDirectory_of_pageCall (h : Mirrored root bucket fs tree b)
    (hb : v.store.bucket? bucket = some b) {key : Text} (hkey : tree.HasDirectory key)
    {token : Option Text} {size : Nat} {page : Page} {v' : World MemoryStore}
    (hpage : Listing.pageCall (MemoryStore.lister config) signal' ⟨bucket, key, token, size⟩ v =
      (.ok page, v')) {e : ObjectEntry} (he : e ∈ page.entries)
    (hcommon : e.isCommonPrefix = true) : tree.HasDirectory e.key := by
  obtain ⟨path, children, hat, rfl⟩ := hkey
  obtain ⟨b', hb', rfl⟩ := Listing.pageCall_ok hpage
  cases hb.symm.trans hb'
  obtain ⟨⟨o, ho, hfold⟩, -⟩ := MemoryBucket.mem_of_mem_pageFor he
  exact (h.mirrors.gives_of_foldsTo h.served.plain hat ho hfold).hasDirectory hat hcommon

namespace Course

/-- Inside a tree, a turn calls a store for nothing but pages of its directories. -/
theorem exists_request_of_inside {σ : Type} {c : Course σ} (h : c.stage.Inside tree bucket)
    {call : StoreCall} (hcall : c.call? = some call) :
    ∃ key token size, tree.HasDirectory key ∧ call = .listObjects ⟨bucket, key, token, size⟩ := by
  rw [call?] at hcall
  cases hstage : c.stage with
  | ended failure =>
    rw [hstage] at hcall
    cases hcall
  | underway listing =>
    rw [hstage] at h hcall
    cases listing with
    | opened request => exact h.elim
    | buckets rest selection emitted => cases hcall
    | walking walk =>
      obtain ⟨rfl, hframes⟩ : walk.Inside tree bucket := h
      dsimp only [Listing.call?] at hcall
      split at hcall
      · rename_i request waiting hask
        obtain ⟨f, outer, hstack, rfl⟩ := Walk.exists_frame_of_ask hask
        cases hcall
        rw [hstack] at hframes
        exact ⟨f.under, _, _, (hframes f (List.mem_cons_self ..)).under, rfl⟩
      · cases hcall

/-- Courses over both stores that are at the same stage, inside the tree, and gave out the same. -/
structure Agrees (signal signal' : StopSignal) (bucket : Text) (fs : FileSystem) (tree : Node)
    (b : MemoryBucket) (p : Course FileSystem) (q : Course MemoryStore) : Prop where
  stage : q.stage = p.stage
  items : q.items = p.items
  worlds : World.Showing signal signal' bucket fs b p.world q.world
  inside : q.stage.Inside tree bucket

variable {p : Course FileSystem} {q : Course MemoryStore}

/-- One turn of both. -/
theorem Agrees.step (h : Mirrored root bucket fs tree b)
    (hpq : Agrees signal signal' bucket fs tree b p q) :
    Agrees signal signal' bucket fs tree b (p.step (DirectoryStore.lister root config) signal)
      (q.step (MemoryStore.lister config) signal') := by
  obtain ⟨hstage, hitems, hworlds, hinside⟩ := hpq
  have hinside' : (q.step (MemoryStore.lister config) signal').stage.Inside tree bucket :=
    step_inside hinside fun hkey hpage _ he hcommon =>
      hasDirectory_of_pageCall h hworlds.bucket hkey hpage he hcommon
  have hpaired : Paired (World.Showing signal signal' bucket fs b) (fun _ _ _ => False) p q
      (p.step (DirectoryStore.lister root config) signal)
      (q.step (MemoryStore.lister config) signal') := by
    rw [hstage] at hinside
    refine step_paired (heedless_showing ..) rfl hstage ?_ (fun _ => hworlds) ?_ ?_
    · intro request hopened
      rw [hopened] at hinside
      exact hinside.elim
    · intro hbuckets
      obtain ⟨key, token, size, -, heq⟩ := exists_request_of_inside hinside hbuckets
      cases heq
    · intro request hasks
      obtain ⟨key, token, size, hkey, heq⟩ := exists_request_of_inside hinside hasks
      cases heq
      exact pageCall_mirrored h hworlds hkey token size
  generalize p.step (DirectoryStore.lister root config) signal = p' at hpaired
  generalize q.step (MemoryStore.lister config) signal' = q' at hpaired hinside'
  cases hpaired with
  | cut hcut _ _ => exact hcut.elim
  | same hboth _ _ _ =>
    refine ⟨rfl, ?_, hboth, hinside'⟩
    rw [Course.items, Course.items] at hitems
    simp only [Course.items, List.filterMap_append, filterMap_item?_replicate, hitems]

/-- What is listed of a tree: everything in it, or what is in one of its directories. -/
theorem hasDirectory_listed {uri : Uri} {children : List (FileName × Node)} (hplain : tree.Plain)
    (hat : tree.at? path = some (.folder children))
    (hpath : uri.path = directoryKey path ∨ uri.path ++ ['/'] = directoryKey path) :
    tree.HasDirectory uri.listed := by
  refine ⟨path, children, hat, ?_⟩
  rcases hpath with hpath | hpath
  · rw [Uri.listed, hpath, asDirectory_directoryKey]
  · rw [Uri.listed, asDirectory_of_append_eq (hplain.of_at? hat).1 hpath]

variable {request : ListRequest} {filter : Filter}

/-- The courses of both listings, turn by turn. -/
theorem run_mirrored (h : Mirrored root request.uri.bucket w.store tree b)
    (hlisted : tree.HasDirectory request.uri.listed)
    (hb : v.store.bucket? request.uri.bucket = some b)
    (hfilter : request.filter.compile w.moment = .ok filter) (hmoment : v.moment = w.moment)
    (hunstopped : w.stopAt signal = none) (hcalm : Listing.Calm signal' v) : ∀ turns : Nat,
    Agrees signal signal' request.uri.bucket w.store tree b
      (run (DirectoryStore.lister root config) signal (turns + 1) (start request w))
      (run (MemoryStore.lister config) signal' (turns + 1) (start request v))
  | 0 => by
    have hbucket := h.named.ne_nil
    rw [run_succ, run_succ, step_start hbucket hfilter, step_start hbucket (hmoment ▸ hfilter)]
    refine ⟨rfl, rfl, ⟨rfl, hunstopped, hb, ⟨hcalm.faultless, hcalm.unstopped⟩⟩, ?_⟩
    rw [run, Function.iterate_zero, id]
    cases (request.selection filter).reached 0 with
    | true => trivial
    | false =>
      refine ⟨rfl, List.forall_mem_singleton.mpr ⟨hlisted, ?_⟩⟩
      simp
  | turns + 1 => by
    rw [run_succ', run_succ' (turns + 1)]
    exact (run_mirrored h hlisted hb hfilter hmoment hunstopped hcalm turns).step h

end Course

/-- A directory is listed as a bucket in memory is that mirrors what is in it: with the same items, turn by
turn, to the end, and without a failure. -/
theorem DirectoryStore.collect_mirrored (root : Text) (config : EngineConfig)
    (signal signal' : StopSignal) (request : ListRequest) (w : World FileSystem)
    (v : World MemoryStore) {tree : Node} {b : MemoryBucket} {path : List Text}
    {children : List (FileName × Node)} {filter : Filter}
    (hnamed : NamesDirectory request.uri.bucket)
    (hserved : w.store.Serves (bucketPath (some root) request.uri.bucket) tree)
    (hb : v.store.bucket? request.uri.bucket = some b) (hmirrors : b.Mirrors tree)
    (hat : tree.at? path = some (.folder children))
    (hpath : request.uri.path = directoryKey path ∨ request.uri.path ++ ['/'] = directoryKey path)
    (hfilter : request.filter.compile w.moment = .ok filter) (hmoment : v.moment = w.moment)
    (hfaultless : v.store.Faultless) (hunstopped : w.stopAt signal = none)
    (hunstopped' : v.stopAt signal' = none) :
    let ofFiles (turns : Nat) :=
      Listing.collect (lister root config) signal turns (.opened request) w
    let inMemory (turns : Nat) :=
      Listing.collect (MemoryStore.lister config) signal' turns (.opened request) v
    (∀ turns, (ofFiles turns).items = (inMemory turns).items ∧
      (ofFiles turns).ending = (inMemory turns).ending) ∧
    ∃ n, ∀ turns ≥ n, (ofFiles turns).ending = .complete := by
  intro ofFiles inMemory
  have hmirrored : Mirrored root request.uri.bucket w.store tree b := ⟨hnamed, hserved, hmirrors⟩
  have hcalm : Listing.Calm signal' v := ⟨hfaultless, hunstopped'⟩
  have hlisted := Course.hasDirectory_listed hserved.plain hat hpath
  have halike : ∀ turns, (ofFiles turns).items = (inMemory turns).items ∧
      (ofFiles turns).ending = (inMemory turns).ending := by
    intro turns
    cases turns with
    | zero => exact ⟨rfl, rfl⟩
    | succ turns =>
      have hcourses : Course.Agrees signal signal' request.uri.bucket w.store tree b
          (Course.run (lister root config) signal (turns + 1) (.start request w))
          (Course.run (MemoryStore.lister config) signal' (turns + 1) (.start request v)) :=
        Course.run_mirrored hmirrored hlisted hb hfilter hmoment hunstopped hcalm turns
      simp only [ofFiles, inMemory, Course.collect_eq_run, Course.gathered, hcourses.items,
        hcourses.stage, and_self]
  refine ⟨halike, ?_⟩
  obtain ⟨wanted, hincreasing, hwanted⟩ := request.exists_wanted filter b
  obtain ⟨n, hended, -⟩ := SharedListing.exists_complete config signal' hnamed.ne_nil hb
    (hmoment ▸ hfilter) hcalm hincreasing hwanted
  rw [SharedListing.course_alone] at hended
  refine ⟨n, fun turns hturns => ?_⟩
  rw [(halike turns).2]
  simp only [inMemory, Course.collect_eq_run, Course.gathered, Course.run_of_le hturns hended,
    hended]
  rfl

namespace DirectoryStore

/-- A directory with a file and an empty directory. -/
def closeNames : Node :=
  .folder [(.text ['x'], .emptyFolder), (.text ['x', '-', 'y'], .file (.zeros 3) {})]

/-- What is in the directory, by the paths to it. -/
theorem closeNames_at? {path : List Text} {n : Node} (h : closeNames.at? path = some n) :
    path = [] ∧ n = closeNames ∨ path = [['x']] ∧ n = .emptyFolder ∨
      path = [['x', '-', 'y']] ∧ n = .file (.zeros 3) {} := by
  cases path with
  | nil => exact Or.inl ⟨rfl, (Option.some.inj h).symm⟩
  | cons name path =>
    obtain ⟨child, hchild, h⟩ := Option.bind_eq_some_iff.mp h
    have hmem := Node.mem_children_of_child? hchild
    simp only [closeNames, Node.children, List.mem_cons, Prod.mk.injEq, FileName.text.injEq,
      List.not_mem_nil, or_false] at hmem
    rcases hmem with ⟨rfl, rfl⟩ | ⟨rfl, rfl⟩
    · cases path with
      | nil => exact Or.inr (Or.inl ⟨rfl, (Option.some.inj h).symm⟩)
      | cons name path => cases h
    · cases path with
      | nil => exact Or.inr (Or.inr ⟨rfl, (Option.some.inj h).symm⟩)
      | cons name path => cases h

theorem closeNames_plain : closeNames.Plain := by
  refine .folder (by decide) ?_ ?_
  · rintro c (_ | ⟨_, _ | ⟨_, ⟨⟩⟩⟩)
    · exact ⟨_, rfl, by decide⟩
    · exact ⟨_, rfl, by decide⟩
  · rintro c (_ | ⟨_, _ | ⟨_, ⟨⟩⟩⟩)
    · exact .folder List.nodup_nil nofun nofun
    · exact .file ..

/-- A file system with the directory as a bucket. -/
def closeFiles : FileSystem :=
  { top := .folder [(.text ['r'], .folder [(.text ['b'], closeNames)])] }

theorem closeFiles_serves : closeFiles.Serves ['/', 'r', '/', 'b'] closeNames := by
  refine .of_short ?_ rfl closeNames_plain (by simp) (by decide) ?_ ?_
  · simp [FileSystem.stat, FileSystem.locate, closeFiles, Position.follow, parts, Node.isFolder,
      Node.child?, Node.children, Position.enter, closeNames, byteLength, pathLimit, nameLimit,
      Char.utf8Size]
  · intro path name n hat
    have hpath {last : Text} (h : path ++ [name] = [last]) : path = [] ∧ name = last := by
      simpa [List.append_eq_cons_iff] using h
    rcases closeNames_at? hat with ⟨h, -⟩ | ⟨h, -⟩ | ⟨h, -⟩
    · simp at h
    · obtain ⟨rfl, rfl⟩ := hpath h
      exact ⟨by decide, by decide, by decide⟩
    · obtain ⟨rfl, rfl⟩ := hpath h
      exact ⟨by decide, by decide, by decide⟩
  · intro path children hat
    rcases closeNames_at? hat with ⟨rfl, -⟩ | ⟨rfl, -⟩ | ⟨-, h⟩
    · exact ⟨by decide, by decide, by decide⟩
    · exact ⟨by decide, by decide, by decide⟩
    · cases h

/-- A bucket with the file, and a mark for the empty directory. -/
def closeBucket : MemoryBucket :=
  (({ name := ['/', 'b'], created := {} } : MemoryBucket).insert ⟨['x', '/'], .zeros 0, {}⟩).insert
    ⟨['x', '-', 'y'], .zeros 3, {}⟩

theorem closeBucket_mirrors : closeBucket.Mirrors closeNames := by
  have hobjects : closeBucket.objects =
      [⟨['x', '-', 'y'], .zeros 3, {}⟩, ⟨['x', '/'], .zeros 0, {}⟩] := by decide
  refine ⟨?_, ?_⟩
  · intro path n hne hat
    rw [hobjects]
    rcases closeNames_at? hat with ⟨rfl, -⟩ | ⟨rfl, rfl⟩ | ⟨rfl, rfl⟩
    · exact absurd rfl hne
    · exact ⟨_, List.mem_cons_of_mem _ (List.mem_cons_self ..), .folder hne rfl⟩
    · exact ⟨_, List.mem_cons_self .., .file (List.nil_append _).symm rfl rfl rfl⟩
  · rw [hobjects]
    rintro o (_ | ⟨_, _ | ⟨_, ⟨⟩⟩⟩)
    · exact ⟨[['x', '-', 'y']], _, rfl, .file (List.nil_append _).symm rfl rfl rfl⟩
    · exact ⟨[['x']], _, rfl, .folder (by simp) rfl⟩

/-- The directory and the bucket are listed alike, with one entry on a page. -/
theorem collect_closeNames :
    let request : ListRequest := { uri := ⟨.file, ['/', 'b'], []⟩ }
    let ofFiles (turns : Nat) := Listing.collect (lister ['/', 'r'] { pageSize := 1 }) {} turns
      (.opened request) { store := closeFiles }
    let inMemory (turns : Nat) := Listing.collect (MemoryStore.lister { pageSize := 1 }) {} turns
      (.opened request) { store := { buckets := [closeBucket] } }
    (∀ turns, (ofFiles turns).items = (inMemory turns).items ∧
      (ofFiles turns).ending = (inMemory turns).ending) ∧
    ∃ n, ∀ turns ≥ n, (ofFiles turns).ending = .complete :=
  have hat : closeNames.at? [] = some closeNames := rfl
  collect_mirrored ['/', 'r'] { pageSize := 1 } {} {} { uri := ⟨.file, ['/', 'b'], []⟩ }
    { store := closeFiles } { store := { buckets := [closeBucket] } } ⟨['b'], by decide, Or.inr rfl⟩
    closeFiles_serves rfl closeBucket_mirrors hat (Or.inl rfl) rfl rfl ⟨rfl, rfl, rfl⟩ rfl rfl

end DirectoryStore

end ObjectListing
