import ObjectListing.Proofs.Filter.Compiling
import ObjectListing.Proofs.Listing.Shared

/-!
Listings amid writers. A recursive listing of a bucket that others write to, before any of its turns, ends
when they stop; it gives out keys in increasing order, so none twice, and only objects that were in the
bucket when their page was made; and if it does not fail, every key is among them that was there at the
beginning (`SharedListing.ends_amid_writers`).
-/

namespace ObjectListing

open Text Walk

theorem StoredObject.eq_of_foldsTo {under : Text} {o : StoredObject} {e : ObjectEntry}
    (h : FoldsTo under o e) (he : e.isCommonPrefix = false) :
    e = .object o.key o.data.size o.modified := by
  cases h with
  | object _ _ _ => rfl
  | directory _ _ => cases he

namespace SharedListing

variable {s : SharedListing} {b : MemoryBucket}

theorem opens_of_plain (hbucket : s.request.uri.bucket ≠ []) (hcap : s.request.cap = none)
    (hfilter : s.request.filter.isEmpty = true) : s.Opens {} := by
  refine ⟨hbucket, FilterSpec.compile_of_isEmpty hfilter _, ?_⟩
  rw [ListRequest.selection, hcap]
  rfl

/-- A recursive listing without a filter wants every leaf that the bucket had at the beginning. -/
theorem wants_of_plain (hrecursive : s.request.recursive = true)
    (hb : s.world.store.bucket? s.request.uri.bucket = some b) :
    s.Wants {} fun t => s.request.Leaf t ∧ ∃ o ∈ b.objects, o.key = t := by
  refine ⟨?_, ?_, ?_⟩
  · rintro n t ⟨hleaf, -⟩
    refine ⟨fun _ => hleaf.object, ?_⟩
    intro under e _ hserved hkey _
    obtain ⟨k, -, page, b, -, -, -, o, -, hfold⟩ := hserved
    rw [Selection.emits, hfold.isCommonPrefix, hkey, hleaf.object]
    rfl
  · rintro t ⟨hleaf, -⟩
    refine Sound.covers_start _ hleaf.under hleaf.ne_listed ?_
    intro hflat
    rw [hrecursive] at hflat
    cases hflat
  · rintro k t ⟨-, o, ho, rfl⟩
    obtain ⟨b', hb', hkeys⟩ := exists_bucketAt? hb k
    obtain ⟨p, hp, hkey⟩ := hkeys o ho
    exact ⟨b', hb', p, hp, hkey ▸ .refl true p.key⟩

/-- What a recursive listing gave out was an object of the bucket when its page came. -/
theorem exists_object_of_given {walk : Walk} {entries : List ObjectEntry} {n : Nat}
    (h : Sound s.request {} (s.Served n) walk entries) (hrecursive : s.request.recursive = true)
    {e : ObjectEntry} (he : e ∈ entries) :
    ∃ k < n, ∃ page b', s.pageAt? k = some page ∧ e ∈ page.entries ∧ s.bucketAt? k = some b' ∧
      ∃ o ∈ b'.objects, e = .object o.key o.data.size o.modified := by
  obtain ⟨hemits, under, -, k, hk, page, b', hpage, hmem, hb', o, ho, hfold⟩ := h.genuine e he
  refine ⟨k, hk, page, b', hpage, hmem, hb', o, ho, StoredObject.eq_of_foldsTo hfold ?_⟩
  -- a recursive listing enters the common prefixes
  rw [Selection.emits, ListRequest.selection, hrecursive] at hemits
  cases hkind : e.isCommonPrefix with
  | true => rw [hkind] at hemits; cases hemits
  | false => rfl

/-- A recursive listing of a bucket that others write to, finitely often, ends; it gives out keys in the
order of their bytes, each an object of the bucket when its page came, and, if it does not fail, every
key once that was there at the beginning. It fails only if a failure is planned in the store. -/
theorem ends_amid_writers (s : SharedListing) (hbucket : s.request.uri.bucket ≠ [])
    (hrecursive : s.request.recursive = true) (hcap : s.request.cap = none)
    (hfilter : s.request.filter.isEmpty = true)
    (hb : s.world.store.bucket? s.request.uri.bucket = some b)
    (hunstopped : s.world.stopAt s.signal = none)
    (hquiet : ∃ m, ∀ k ≥ m, ∀ i ∈ s.others k, i.writes = false) :
    ∃ (n : Nat) (failure : Option StoreError) (entries : List ObjectEntry),
      (s.course n).stage = .ended failure ∧
      (s.course n).items = entries.map .object ∧
      (entries.Pairwise fun e f => bytes e.key < bytes f.key) ∧
      (∀ e ∈ entries, ∃ k < n, ∃ page b', s.pageAt? k = some page ∧ e ∈ page.entries ∧
        s.bucketAt? k = some b' ∧ ∃ o ∈ b'.objects, e = .object o.key o.data.size o.modified) ∧
      (failure = none → ∀ o ∈ b.objects, s.request.uri.listed <+: o.key → o.key ≠ [] →
        endsInSlash o.key = false → (entries.map (·.key)).count o.key = 1) ∧
      (s.world.store.Faultless → failure = none) := by
  have hopens := opens_of_plain hbucket hcap hfilter
  obtain ⟨m, hquiet⟩ := hquiet
  obtain ⟨n, failure, hended⟩ := exists_ended hopens hb hquiet
  obtain ⟨walk, entries, hitems, hsound, hcovers, hend⟩ :=
    follows_ended hopens (wants_of_plain hrecursive hb) hended
  have hincreasing := hsound.order.increasing
  refine ⟨n, failure, entries, hended, hitems,
    hincreasing.imp fun hlt => lt_iff_bytes_lt.mp hlt,
    fun e he => exists_object_of_given hsound hrecursive he, ?_, ?_⟩
  · rintro rfl o ho hunder hne hobject
    have hstack : walk.stack = [] := (hend rfl).resolve_left fun hreached => by
      obtain ⟨most, hmost, -⟩ := Selection.reached_iff.mp hreached
      rw [hsound.selection, ListRequest.selection, hcap] at hmost
      cases hmost
    have hnodup : (entries.map (·.key)).Nodup :=
      List.pairwise_map.mpr (hincreasing.imp fun hlt => hlt.ne)
    refine List.count_eq_one_of_mem hnodup ?_
    rcases hcovers o.key ⟨⟨hunder, hne, hobject⟩, o, ho, rfl⟩ with ⟨e, he, hkey⟩ | ⟨f, hf, -⟩
    · exact hkey ▸ List.mem_map_of_mem he
    · rw [hstack] at hf
      cases hf
  · intro hfaultless
    cases failure with
    | none => rfl
    | some e => exact absurd hended (stage_ne_failed hopens ⟨hfaultless, hunstopped⟩ hb e n)

/-- A listing, page by page of one entry, of a bucket that others write to before two of its turns, and
list before another. -/
def amidWriters : SharedListing where
  config := { pageSize := 1 }
  signal := {}
  request := { uri := ⟨.s3, ['b'], []⟩, recursive := true }
  world := { store := ({} : MemoryStore).put ['b'] ⟨['d', '/', 'x'], .zeros 1, {}⟩ {} }
  others
    | 2 => [.put ['b'] ⟨['d'], .zeros 2, {}⟩ {}, .createBucket ['c'] {}]
    | 3 => [.put ['b'] ⟨['d', '/', 'w'], .zeros 3, {}⟩ {}]
    | 4 => [.turn {} {} (.opened { uri := ⟨.s3, [], []⟩ })]
    | _ => []

theorem amidWriters_ends : ∃ (n : Nat) (entries : List ObjectEntry),
    (amidWriters.course n).stage = .ended none ∧
      (amidWriters.course n).items = entries.map .object ∧
      (entries.Pairwise fun e f => bytes e.key < bytes f.key) ∧
      (entries.map (·.key)).count ['d', '/', 'x'] = 1 := by
  have hb : amidWriters.world.store.bucket? ['b'] = some
      (({ name := ['b'], created := {} } : MemoryBucket).insert
        ⟨['d', '/', 'x'], .zeros 1, {}⟩) := by
    decide
  have hquiet : ∃ m, ∀ k ≥ m, ∀ i ∈ amidWriters.others k, i.writes = false := by
    refine ⟨4, ?_⟩
    intro k hk i hi
    rcases k with _ | _ | _ | _ | _ | k
    · omega
    · omega
    · omega
    · omega
    · rw [List.mem_singleton.mp hi]
      rfl
    · cases hi
  obtain ⟨n, failure, entries, hended, hitems, hincreasing, -, hkept, hcalm⟩ :=
    ends_amid_writers amidWriters (by decide) rfl rfl rfl hb rfl hquiet
  have hnone : failure = none := hcalm ⟨rfl, rfl, rfl⟩
  exact ⟨n, entries, hnone ▸ hended, hitems, hincreasing,
    hkept hnone _ (List.mem_cons_self ..) (by decide) (by decide) (by decide)⟩

/-- A listing of a bucket with one object, of a store that is to refuse the next page. -/
def ofFaulty : SharedListing where
  config := {}
  signal := {}
  request := { uri := ⟨.s3, ['b'], []⟩, recursive := true }
  world := { store := { ({} : MemoryStore).put ['b'] ⟨['x'], .zeros 1, {}⟩ {} with
    nextListError := some (.malformed "broken") } }

/-- Not every listing amid writers ends without a failure: a failure may be planned in the store. -/
theorem not_ends_of_fault : ¬ ∀ (s : SharedListing) (b : MemoryBucket),
    s.request.uri.bucket ≠ [] → s.request.recursive = true → s.request.cap = none →
    s.request.filter.isEmpty = true →
    s.world.store.bucket? s.request.uri.bucket = some b → s.world.stopAt s.signal = none →
    (∃ m, ∀ k ≥ m, ∀ i ∈ s.others k, i.writes = false) →
    ∃ n, (s.course n).stage = .ended none := by
  intro h
  have hb : ofFaulty.world.store.bucket? ['b'] = some
      (({ name := ['b'], created := {} } : MemoryBucket).insert ⟨['x'], .zeros 1, {}⟩) := by
    decide
  have hquiet : ∃ m, ∀ k ≥ m, ∀ i ∈ ofFaulty.others k, i.writes = false :=
    ⟨0, fun _ _ _ hi => by cases hi⟩
  obtain ⟨n, hn⟩ := h ofFaulty _ (by decide) rfl rfl rfl hb rfl hquiet
  have hfailed : (ofFaulty.course 2).stage = .ended (some (.malformed "broken")) := by
    rfl
  rcases Nat.le_total n 2 with hle | hle
  · cases (ended_of_le hn hle).1.symm.trans hfailed
  · cases (ended_of_le hfailed hle).1.symm.trans hn

end SharedListing

end ObjectListing
