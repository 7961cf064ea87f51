import ObjectListing.Proofs.Listing.Exactness
import ObjectListing.Proofs.Store.Numbered
import ObjectListing.Proofs.Uri.RoundTrip

/-!
Objects that were listed are fetched. An entry that a listing of a bucket gives out is what an object of
the bucket folds to (`SharedListing.exists_foldsTo`), and the key of an object is read back from its URI
without the blanks at its end. So the URI of an object that was listed brings its data, unless its key
ends in a blank (`Client.getObject_of_listed`).
-/

namespace ObjectListing

open Text

/-! ### Data by key -/

theorem MemoryBucket.object?_of_mem {b : MemoryBucket} {o : StoredObject} (h : o ∈ b.objects) :
    b.object? o.key = some o := by
  obtain ⟨p, hp⟩ : ∃ p, b.object? o.key = some p :=
    Option.isSome_iff_exists.mp (List.find?_isSome.mpr ⟨o, h, decide_eq_true rfl⟩)
  have hkey : p.key = o.key := by simpa using List.find?_some hp
  rw [hp, eq_of_pairwise_key_lt b.ordered (List.mem_of_find?_eq_some hp) h hkey]

namespace MemoryStore

variable {s t : MemoryStore} {bucket key : Text}

theorem data_of_mem {b : MemoryBucket} {o : StoredObject} (hb : s.bucket? bucket = some b)
    (h : o ∈ b.objects) : s.data bucket o.key = .ok o.data := by
  rw [data, hb]
  dsimp only
  rw [b.object?_of_mem h]

theorem data_congr (h : s.buckets = t.buckets) : s.data bucket key = t.data bucket key := by
  rw [data, data, bucket?_congr h]

/-- When no failure is planned for it, a call brings what is stored. -/
theorem answer_getObject (h : s.failingGets = 0) :
    (getObject bucket key s).answer = s.data bucket key := by
  rw [getObject]
  dsimp only
  rw [h]
  exact data_congr rfl

/-- Fetching what is stored brings it, at the first attempt. -/
theorem fetchObject_of_data (retry : RetryPolicy) {u : Uri} {w : World MemoryStore} {blob : Blob}
    (hkey : u.objectKey = .ok key) (hgets : w.store.failingGets = 0)
    (hdata : w.store.data u.bucket key = .ok blob) :
    (fetchObject backend retry u {} w).1 = .ok blob := by
  have hcall (w' : World MemoryStore) (hstore : w'.store = w.store) :
      Retry.call retry "get_object" {} (backend.getObject u.bucket key) w' =
        (.ok blob, (w'.call (backend.getObject u.bucket key)).2) :=
    Retry.call_of_ok rfl (hstore ▸ (answer_getObject hgets).trans hdata)
  rw [fetchObject, hkey]
  dsimp only
  rw [hcall (w.report _) rfl]

end MemoryStore

/-! ### What a listing gives out -/

namespace Course

variable {σ : Type} {l : Lister σ} {signal : StopSignal} {request : ListRequest} {w : World σ}

/-- A listing whose filter cannot be read gives out nothing. -/
theorem items_of_unread {e : StoreError} (hfilter : request.filter.compile w.moment = .error e) :
    ∀ turns : Nat, (run l signal turns (start request w)).items = []
  | 0 => rfl
  | turns + 1 => by
    rw [run_succ, step_start_unread hfilter, run_ended rfl]
    rfl

/-- A listing that is to give out nothing gives out nothing. -/
theorem items_of_reached {filter : Filter} (hbucket : request.uri.bucket ≠ [])
    (hfilter : request.filter.compile w.moment = .ok filter)
    (hreached : (request.selection filter).reached 0 = true) :
    ∀ turns : Nat, (run l signal turns (start request w)).items = []
  | 0 => rfl
  | 1 => by
    rw [run_succ, step_start hbucket hfilter]
    rfl
  | turns + 2 => by
    have hended : run l signal 2 (start request w) = _ := run_start_reached hbucket hfilter hreached
    rw [run_of_le (Nat.le_add_left 2 turns) (congrArg stage hended), hended]
    rfl

theorem run_buckets (config : EngineConfig) (signal : StopSignal) (turns : Nat)
    (c : Course MemoryStore) :
    (run (MemoryStore.lister config) signal turns c).world.store.buckets = c.world.store.buckets := by
  induction turns with
  | zero => rfl
  | succ turns ih => rw [run_succ', step_buckets, ih]

end Course

namespace SharedListing

variable {config : EngineConfig} {signal : StopSignal} {request : ListRequest}
  {w : World MemoryStore}

/-- The bucket of a listing that nobody disturbs stays as it is, or missing. -/
theorem bucketAt?_alone (k : Nat) :
    (alone config signal request w).bucketAt? k = w.store.bucket? request.uri.bucket := by
  refine MemoryStore.bucket?_congr ?_ _
  change ((alone config signal request w).course k).world.store.buckets = w.store.buckets
  rw [course_alone, Course.run_buckets]
  rfl

/-- What a listing gives out that nobody disturbs is what an object of the bucket folds to. -/
theorem exists_foldsTo (hbucket : request.uri.bucket ≠ []) {n : Nat} {e : ObjectEntry}
    (he : .object e ∈ ((alone config signal request w).course n).items) :
    ∃ b under o, w.store.bucket? request.uri.bucket = some b ∧ o ∈ b.objects ∧
      FoldsTo under o e := by
  cases hfilter : request.filter.compile w.moment with
  | error failure =>
    rw [course_alone, Course.items_of_unread hfilter] at he
    cases he
  | ok filter =>
    cases hreached : (request.selection filter).reached 0 with
    | true =>
      rw [course_alone, Course.items_of_reached hbucket hfilter hreached] at he
      cases he
    | false =>
      cases n with
      | zero => cases he
      | succ n =>
        have hopens : (alone config signal request w).Opens filter := ⟨hbucket, hfilter, hreached⟩
        obtain ⟨walk, given, h⟩ := follows_sound hopens n
        rw [h.items] at he
        obtain ⟨e', hgiven, hsame⟩ := List.mem_map.mp he
        cases hsame
        obtain ⟨-, under, -, k, -, page, b, -, -, hb, o, ho, hfold⟩ := h.holds.genuine e hgiven
        exact ⟨b, under, o, (bucketAt?_alone k).symm.trans hb, ho, hfold⟩

end SharedListing

/-! ### Fetching what was listed -/

namespace Client

/-- A client keeps the store that goes with object URIs. -/
theorem storeFor_object {σ : Type} (c : Client σ) : (c.storeFor .s3).2 = c := by
  obtain ⟨config, stores, fileRoot, opened⟩ := c
  cases stores <;> rfl

/-- The URI of a key that names an object brings what is stored under it, if the key does not end in a
blank. -/
theorem getObject_of_data {c : Client MemoryStore}
    (hstore : (c.storeFor .s3).1 = MemoryStore.backend) {bucket key : Text}
    (hbucket : Uri.IsBucketName bucket) (hne : key ≠ []) (hslash : endsInSlash key = false)
    (hblank : endsInBlank key = false) {w : World MemoryStore} (hgets : w.store.failingGets = 0)
    {data : Blob} (hdata : w.store.data bucket key = .ok data) :
    (c.getObject (Uri.text ⟨.s3, bucket, key⟩) w).1 = .ok data := by
  have hread : Uri.parse (Uri.text ⟨.s3, bucket, key⟩) = .ok ⟨.s3, bucket, key⟩ := by
    rw [Uri.parse_text_key hbucket, trimmedEnd_eq_self_iff.mpr hblank]
  have hkey : Uri.objectKey ⟨.s3, bucket, key⟩ = .ok key := by
    simp [Uri.objectKey, Uri.requireBucket, hbucket.ne_nil, hne, hslash]
  rw [getObject, hread]
  dsimp only
  rw [hstore, storeFor_object]
  exact MemoryStore.fetchObject_of_data c.config.retry hkey hgets hdata

/-- The URI of an object that was listed brings its data, all of it, as long as the store keeps its
buckets and no failure is planned; but its key may not end in a blank. -/
theorem getObject_of_listed (c : Client MemoryStore)
    (hstore : (c.storeFor .s3).1 = MemoryStore.backend) {uri : Text} {u : Uri}
    (hparse : Uri.parse uri = .ok u) (hscheme : u.scheme = .s3) (hbucket : u.bucket ≠ [])
    (options : ListOptions) (signal : StopSignal) (turns : Nat) (w : World MemoryStore)
    {e : ObjectEntry} (he : .object e ∈ (c.list uri options signal turns w).1.items)
    (hkind : e.kind = .object) (hblank : endsInBlank e.key = false) (w' : World MemoryStore)
    (hsame : w'.store.buckets = (c.list uri options signal turns w).1.world.store.buckets)
    (hgets : w'.store.failingGets = 0) :
    ∃ data, w.store.data u.bucket e.key = .ok data ∧ data.size = e.size ∧
      ((c.list uri options signal turns w).2.getObject (Uri.text ⟨.s3, u.bucket, e.key⟩) w').1 =
        .ok data := by
  have hlisted : c.list uri options signal turns w = (Listing.collect (MemoryStore.lister c.config)
      signal turns (.opened ⟨u, options.recursive, options.cap, options.filter⟩) w, c) := by
    rw [list, openListing_of_parse hparse, hscheme, hstore, storeFor_object]
    rfl
  rw [hlisted] at he hsame ⊢
  rw [Course.collect_eq_run] at he hsame
  have hname : Uri.IsBucketName u.bucket :=
    (Uri.parse_eq_ok_iff.mp hparse).isBucketName hscheme hbucket
  rw [Course.gathered, ← SharedListing.course_alone] at he
  obtain ⟨b, under, o, hb, ho, hfold⟩ := SharedListing.exists_foldsTo hbucket he
  cases hfold with
  | directory _ _ => cases hkind
  | @object name hkey hne hname' =>
    have hdata : w.store.data u.bucket o.key = .ok o.data := MemoryStore.data_of_mem hb ho
    refine ⟨o.data, hdata, rfl, getObject_of_data hstore hname ?_ ?_ hblank hgets ?_⟩
    · change o.key ≠ []
      rw [hkey]
      exact List.append_ne_nil_of_right_ne_nil under hne
    · change endsInSlash o.key = false
      rw [hkey, endsInSlash_append hne, not_endsInSlash_of_notMem hname']
    · rw [← hdata]
      exact MemoryStore.data_congr (hsame.trans (Course.run_buckets ..))

/-- A store with two objects whose keys differ in a blank at the end. -/
def blankAtEnd : MemoryStore :=
  (({} : MemoryStore).put ['b'] ⟨['/', ' ', 'a'], .zeros 1, {}⟩ {}).put ['b']
    ⟨['/', ' ', 'a', ' '], .zeros 2, {}⟩ {}

/-- The first of them is fetched after it was listed; its key begins with a delimiter and a blank. -/
theorem getObject_blankAtEnd :
    let c : Client MemoryStore := { stores := .one MemoryStore.backend }
    let listed := c.list " S3://b ".toList { recursive := true } {} 9 { store := blankAtEnd }
    (listed.2.getObject (Uri.text ⟨.s3, ['b'], ['/', ' ', 'a']⟩) listed.1.world).1 =
      .ok (.zeros 1) := by
  have hread : Uri.parse " S3://b ".toList = .ok ⟨.s3, ['b'], []⟩ := by rfl
  have hfetched := fun hlisted hgets => getObject_of_listed { stores := .one MemoryStore.backend } rfl
    hread rfl (by decide) { recursive := true } {} 9 { store := blankAtEnd }
    (e := .object ['/', ' ', 'a'] 1 {}) hlisted rfl (by decide) _ rfl hgets
  obtain ⟨data, hdata, -, hget⟩ := hfetched (by decide +kernel) (by decide +kernel)
  have hone : blankAtEnd.data ['b'] ['/', ' ', 'a'] = .ok (.zeros 1) := by rfl
  cases hone.symm.trans hdata
  exact hget

/-- The URI of the second one, which was listed too, brings the data of the first. -/
theorem not_getObject_of_listed_blank : ¬ ∀ (uri : Text) (u : Uri) (w : World MemoryStore)
    (e : ObjectEntry) (turns : Nat),
    let c : Client MemoryStore := { stores := .one MemoryStore.backend }
    let listed := c.list uri { recursive := true } {} turns w
    Uri.parse uri = .ok u → u.scheme = .s3 → u.bucket ≠ [] → w.store.failingGets = 0 →
    .object e ∈ listed.1.items → e.kind = .object →
    ∃ data, w.store.data u.bucket e.key = .ok data ∧ data.size = e.size ∧
      (listed.2.getObject (Uri.text ⟨.s3, u.bucket, e.key⟩) listed.1.world).1 = .ok data := by
  intro h
  obtain ⟨data, -, hsize, hget⟩ := h "s3://b".toList ⟨.s3, ['b'], []⟩ { store := blankAtEnd }
    (.object ['/', ' ', 'a', ' '] 2 {}) 9 (by rfl) rfl (by decide) rfl (by decide +kernel) rfl
  have hlong : data.size = 2 := hsize
  have hshort := congrArg (fun answer => answer.toOption.map Blob.size) hget
  rw [show (Except.ok data).toOption.map Blob.size = some 2 from congrArg some hlong] at hshort
  exact absurd hshort (by decide +kernel)

end Client

end ObjectListing
