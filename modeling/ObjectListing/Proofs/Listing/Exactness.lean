import ObjectListing.Proofs.Listing.Shared

/-!
What a listing of a store in memory gives out, to the entry. What a request wants is told by the objects of
the bucket alone (`ListRequest.Wants`); a listing that nobody disturbs gives out exactly that, in the
order of keys and up to the cap, whatever the size of its pages (`SharedListing.collect_exact`).
-/

namespace ObjectListing

open Text MemoryStore Walk

/-! ### What is wanted -/

namespace ListRequest

/-- What a request wants of a bucket: all objects under the listed beginning that are no directories, or,
when directories are not entered, what is one level down, without the directories if there is a
filter. -/
inductive Wants (request : ListRequest) (filter : Filter) (b : MemoryBucket) : ObjectEntry → Prop
  | leaf {o : StoredObject} : request.recursive = true → o ∈ b.objects →
      request.uri.listed <+: o.key → o.key ≠ [] → endsInSlash o.key = false →
      filter.accepts (.object o.key o.data.size o.modified) = true →
      Wants request filter b (.object o.key o.data.size o.modified)
  | object {o : StoredObject} {name : Text} : request.recursive = false → o ∈ b.objects →
      o.key = request.uri.listed ++ name → name ≠ [] → '/' ∉ name →
      filter.accepts (.object o.key o.data.size o.modified) = true →
      Wants request filter b (.object o.key o.data.size o.modified)
  | directory {o : StoredObject} {segment rest : Text} : request.recursive = false →
      filter.isEmpty = true → o ∈ b.objects →
      o.key = request.uri.listed ++ segment ++ '/' :: rest → '/' ∉ segment →
      Wants request filter b (.commonPrefix (request.uri.listed ++ segment ++ ['/']))

variable {request : ListRequest} {filter : Filter} {b : MemoryBucket} {e x : ObjectEntry}

/-- What is wanted is given out, and not entered. -/
theorem Wants.emits (h : request.Wants filter b x) :
    (request.selection filter).emits x = true := by
  cases h with
  | leaf _ _ _ _ _ haccepts => exact haccepts
  | object _ _ _ _ _ haccepts => exact haccepts
  | directory hflat hempty _ _ _ =>
    rw [Selection.emits, selection, hflat, hempty]
    rfl

/-- What is wanted stands for an object of the bucket. -/
theorem Wants.exists_leadsTo (h : request.Wants filter b x) :
    ∃ o ∈ b.objects, LeadsTo true x.key o.key := by
  cases h with
  | leaf _ ho _ _ _ _ => exact ⟨_, ho, .refl true _⟩
  | object _ ho _ _ _ _ => exact ⟨_, ho, .refl true _⟩
  | directory _ _ ho hkey hsegment => exact ⟨_, ho, (FoldsTo.directory hkey hsegment).leadsTo⟩

/-- One level down, what is wanted is folded from the objects of the bucket. -/
theorem Wants.exists_foldsTo (h : request.Wants filter b x) (hflat : request.recursive = false) :
    ∃ o ∈ b.objects, FoldsTo request.uri.listed o x := by
  cases h with
  | leaf hrecursive _ _ _ _ _ => rw [hflat] at hrecursive; cases hrecursive
  | object _ ho hkey hne hname _ => exact ⟨_, ho, .object hkey hne hname⟩
  | directory _ _ ho hkey hsegment => exact ⟨_, ho, .directory hkey hsegment⟩

/-- A recursive listing wants leaves only. -/
theorem Wants.leaf_of_recursive (h : request.Wants filter b x) (hrecursive : request.recursive = true) :
    request.Leaf x.key := by
  cases h with
  | leaf _ _ hunder hne hobject _ => exact ⟨hunder, hne, hobject⟩
  | object hflat _ _ _ _ _ => rw [hrecursive] at hflat; cases hflat
  | directory hflat _ _ _ _ => rw [hrecursive] at hflat; cases hflat

/-- What an object folds to is what is wanted of that key. -/
theorem Wants.eq_of_foldsTo (h : request.Wants filter b x) {under : Text} {o : StoredObject}
    (hreaches : request.Reaches under) (ho : o ∈ b.objects) (hfold : FoldsTo under o e)
    (hkey : e.key = x.key) : e = x := by
  cases hrecursive : request.recursive with
  | false =>
    obtain ⟨p, hp, hfold'⟩ := h.exists_foldsTo hrecursive
    rw [hreaches.2 hrecursive] at hfold
    exact eq_of_pairwise_key_lt (b.increasing_folded request.uri.listed)
      (MemoryBucket.mem_folded.mpr ⟨o, ho, hfold⟩) (MemoryBucket.mem_folded.mpr ⟨p, hp, hfold'⟩) hkey
  | true =>
    have hobject := (h.leaf_of_recursive hrecursive).object
    rw [← hkey, ← hfold.isCommonPrefix] at hobject
    cases h with
    | @leaf p _ hp _ _ _ _ =>
      cases hfold with
      | object _ _ _ => rw [eq_of_pairwise_key_lt b.ordered ho hp hkey]
      | directory _ _ => cases hobject
    | object hflat _ _ _ _ _ => rw [hrecursive] at hflat; cases hflat
    | directory hflat _ _ _ _ => rw [hrecursive] at hflat; cases hflat

/-- What an object folds to is wanted if it is given out. -/
theorem wants_of_foldsTo {under : Text} {o : StoredObject} (hreaches : request.Reaches under)
    (ho : o ∈ b.objects) (hfold : FoldsTo under o e)
    (hemits : (request.selection filter).emits e = true) : request.Wants filter b e := by
  cases hrecursive : request.recursive with
  | false =>
    rw [hreaches.2 hrecursive] at hfold
    cases hfold with
    | object hkey hne hname => exact .object hrecursive ho hkey hne hname hemits
    | directory hkey hsegment =>
      rw [Selection.emits, selection, hrecursive] at hemits
      exact .directory hrecursive hemits ho hkey hsegment
  | true =>
    cases hfold with
    | @object name hkey hne hname =>
      refine .leaf hrecursive ho (hreaches.1.trans ?_) ?_ ?_ hemits
      · exact hkey ▸ List.prefix_append under name
      · rw [hkey]
        exact List.append_ne_nil_of_right_ne_nil under hne
      · rw [hkey, endsInSlash_append hne, not_endsInSlash_of_notMem hname]
    | directory _ _ =>
      rw [Selection.emits, selection, hrecursive] at hemits
      cases hemits

/-- There is a list of what is wanted, in the order of keys. -/
theorem exists_wanted (request : ListRequest) (filter : Filter) (b : MemoryBucket) :
    ∃ wanted, Increasing wanted ∧ ∀ e, e ∈ wanted ↔ request.Wants filter b e := by
  cases hrecursive : request.recursive with
  | false =>
    refine ⟨(b.folded request.uri.listed).filter fun e => (request.selection filter).emits e,
      (b.increasing_folded request.uri.listed).sublist List.filter_sublist, fun e => ?_⟩
    rw [List.mem_filter, MemoryBucket.mem_folded]
    constructor
    · rintro ⟨⟨o, ho, hfold⟩, hemits⟩
      exact wants_of_foldsTo ⟨List.prefix_rfl, fun _ => rfl⟩ ho hfold hemits
    · intro h
      exact ⟨h.exists_foldsTo hrecursive, h.emits⟩
  | true =>
    refine ⟨(b.objects.map fun o => ObjectEntry.object o.key o.data.size o.modified).filter fun e =>
      decide (request.uri.listed <+: e.key ∧ e.key ≠ [] ∧ endsInSlash e.key = false ∧
        filter.accepts e = true), ?_, fun e => ?_⟩
    · exact List.Pairwise.sublist List.filter_sublist (List.pairwise_map.mpr b.ordered)
    · rw [List.mem_filter, List.mem_map]
      constructor
      · rintro ⟨⟨o, ho, rfl⟩, h⟩
        obtain ⟨hunder, hne, hobject, haccepts⟩ := of_decide_eq_true h
        exact .leaf hrecursive ho hunder hne hobject haccepts
      · rintro (⟨_, ho, hunder, hne, hobject, haccepts⟩ | ⟨hflat, _, _, _, _, _⟩ |
          ⟨hflat, _, _, _, _⟩)
        · exact ⟨⟨_, ho, rfl⟩, decide_eq_true ⟨hunder, hne, hobject, haccepts⟩⟩
        · rw [hrecursive] at hflat
          cases hflat
        · rw [hrecursive] at hflat
          cases hflat

end ListRequest

/-! ### What is given out -/

/-- Entries in order are the first of what is wanted, if they are wanted and everything else that is
wanted comes after them. -/
theorem isPrefix_of_behind : ∀ {given wanted : List ObjectEntry}, Increasing given →
    Increasing wanted → (∀ e ∈ given, e ∈ wanted) →
    (∀ t ∈ wanted, t ∈ given ∨ ∀ e ∈ given, e.key < t.key) → given <+: wanted
  | [], wanted, _, _, _, _ => List.nil_prefix
  | e :: given, [], _, _, hsub, _ => absurd (hsub e (List.mem_cons_self ..)) List.not_mem_nil
  | e :: given, t :: wanted, hgiven, hwanted, hsub, hbehind => by
    obtain ⟨he, hgivenTail⟩ := List.pairwise_cons.mp hgiven
    obtain ⟨ht, hwantedTail⟩ := List.pairwise_cons.mp hwanted
    have hle : e = t ∨ t.key < e.key :=
      (List.mem_cons.mp (hsub e (List.mem_cons_self ..))).imp id (ht e)
    have hge : e = t ∨ e.key < t.key := by
      rcases hbehind t (List.mem_cons_self ..) with hmem | hall
      · exact (List.mem_cons.mp hmem).imp Eq.symm (he t)
      · exact Or.inr (hall e (List.mem_cons_self ..))
    have heq : e = t := by
      rcases hle with heq | hlt
      · exact heq
      · rcases hge with heq | hgt
        · exact heq
        · exact absurd (lt_trans hlt hgt) (lt_irrefl _)
    subst heq
    refine (List.prefix_cons_inj e).mpr (isPrefix_of_behind hgivenTail hwantedTail ?_ ?_)
    · intro x hx
      refine (List.mem_cons.mp (hsub x (List.mem_cons_of_mem e hx))).resolve_left ?_
      rintro rfl
      exact lt_irrefl _ (he x hx)
    · intro x hx
      rcases hbehind x (List.mem_cons_of_mem e hx) with hmem | hall
      · refine Or.inl ((List.mem_cons.mp hmem).resolve_left ?_)
        rintro rfl
        exact lt_irrefl _ (ht x hx)
      · exact Or.inr fun d hd => hall d (List.mem_cons_of_mem e hd)

namespace SharedListing

variable {s : SharedListing} {filter : Filter} {b : MemoryBucket}

/-- The bucket of a listing that nobody disturbs. -/
theorem bucketAt?_of_alone (halone : ∀ k, s.others k = [])
    (hb : s.world.store.bucket? s.request.uri.bucket = some b) (k : Nat) :
    s.bucketAt? k = some b := by
  have hquiet : ∀ k ≥ 0, ∀ i ∈ s.others k, i.writes = false := by
    intro k _ i hi
    rw [halone k] at hi
    cases hi
  rw [bucketAt?_of_le hquiet (Nat.zero_le k), bucketAt?, before, halone 0]
  exact hb

/-- What is wanted of the bucket is sought by a listing that nobody disturbs. -/
theorem wants_of_alone (hbuckets : ∀ k, s.bucketAt? k = some b) :
    s.Wants filter fun t => ∃ x, s.request.Wants filter b x ∧ x.key = t := by
  refine ⟨?_, ?_, ?_⟩
  · rintro n t ⟨x, hx, rfl⟩
    refine ⟨fun hrecursive => (hx.leaf_of_recursive hrecursive).object, ?_⟩
    intro under e hreaches hserved hkey _
    obtain ⟨k, -, page, b', -, -, hb', o, ho, hfold⟩ := hserved
    cases (hbuckets k).symm.trans hb'
    rw [hx.eq_of_foldsTo hreaches ho hfold hkey]
    exact hx.emits
  · rintro t ⟨x, hx, rfl⟩
    cases hrecursive : s.request.recursive with
    | true =>
      have hleaf := hx.leaf_of_recursive hrecursive
      refine Sound.covers_start _ hleaf.under hleaf.ne_listed ?_
      intro hflat
      rw [hrecursive] at hflat
      cases hflat
    | false =>
      obtain ⟨o, -, hfold⟩ := hx.exists_foldsTo hrecursive
      have hlevel := hfold.oneLevel
      exact Sound.covers_start _ hlevel.isPrefix hlevel.lt.ne' fun _ => hlevel
  · rintro k t ⟨x, hx, rfl⟩
    exact ⟨b, hbuckets k, hx.exists_leadsTo⟩

/-- What a listing gives out that nobody disturbs is the first of what is wanted. -/
theorem isPrefix_of_alone {wanted entries : List ObjectEntry} {walk : Walk} {n : Nat}
    (hbuckets : ∀ k, s.bucketAt? k = some b) (hincreasing : Increasing wanted)
    (hwanted : ∀ e, e ∈ wanted ↔ s.request.Wants filter b e)
    (hsound : Sound s.request filter (s.Served n) walk entries)
    (hcovers : ∀ t, (∃ x, s.request.Wants filter b x ∧ x.key = t) → Covers t walk entries) :
    entries <+: wanted := by
  have hsub : ∀ e ∈ entries, e ∈ wanted := by
    intro e he
    obtain ⟨hemits, under, hreaches, k, -, page, b', -, -, hb', o, ho, hfold⟩ :=
      hsound.genuine e he
    cases (hbuckets k).symm.trans hb'
    exact (hwanted e).mpr (ListRequest.wants_of_foldsTo hreaches ho hfold hemits)
  refine isPrefix_of_behind hsound.order.increasing hincreasing hsub ?_
  intro t ht
  rcases hsound.covers_iff_behind (hcovers t.key ⟨t, (hwanted t).mp ht, rfl⟩) with
    ⟨e, he, hkey⟩ | hbehind
  · -- an entry that was given out is the one that is wanted of its key
    exact Or.inl (eq_of_pairwise_key_lt hincreasing (hsub e he) ht hkey ▸ he)
  · exact Or.inr hbehind

/-- What a listing gives out that nobody disturbs and that came to its end: the first of what is wanted,
up to the cap. -/
theorem eq_upToCap {wanted entries : List ObjectEntry} {walk : Walk} {n : Nat}
    (hbuckets : ∀ k, s.bucketAt? k = some b) (hincreasing : Increasing wanted)
    (hwanted : ∀ e, e ∈ wanted ↔ s.request.Wants filter b e)
    (hsound : Sound s.request filter (s.Served n) walk entries)
    (hcovers : ∀ t, (∃ x, s.request.Wants filter b x ∧ x.key = t) → Covers t walk entries)
    (hend : walk.selection.reached walk.emitted = true ∨ walk.stack = []) :
    entries = upToCap s.request.cap wanted := by
  have hfirst := isPrefix_of_alone hbuckets hincreasing hwanted hsound hcovers
  rcases hend with hreached | hstack
  · obtain ⟨most, hcap, hle⟩ := Selection.reached_iff.mp hreached
    rw [hsound.selection] at hcap
    have hlength : entries.length = most :=
      Nat.le_antisymm (hsound.cap most hcap) (hsound.count ▸ hle)
    exact (upToCap_eq_of_isPrefix hfirst (hlength ▸ hcap)).symm
  · have hall : ∀ t ∈ wanted, t ∈ entries := by
      intro t ht
      rcases hcovers t.key ⟨t, (hwanted t).mp ht, rfl⟩ with ⟨e, he, hkey⟩ | ⟨f, hf, -⟩
      · exact eq_of_pairwise_key_lt hincreasing (hfirst.subset he) ht hkey ▸ he
      · rw [hstack] at hf
        cases hf
    have hrest : wanted <+: entries := isPrefix_of_behind hincreasing hsound.order.increasing hall
      fun t ht => Or.inl (hfirst.subset ht)
    have heq : entries = wanted := hfirst.eq_of_length_le hrest.length_le
    rw [upToCap_eq_self (heq ▸ hsound.cap), heq]

/-- A listing that nobody disturbs. -/
def alone (config : EngineConfig) (signal : StopSignal) (request : ListRequest)
    (w : World MemoryStore) : SharedListing :=
  { config, signal, request, world := w }

variable {request : ListRequest} {w : World MemoryStore}

theorem course_alone (config : EngineConfig) (signal : StopSignal) (n : Nat) :
    (alone config signal request w).course n =
      Course.run (lister config) signal n (.start request w) :=
  Course.amid_id n _

/-- A listing that nobody disturbs comes to its end with what is wanted, up to its cap. -/
theorem exists_complete (config : EngineConfig) (signal : StopSignal) {wanted : List ObjectEntry}
    (hbucket : request.uri.bucket ≠ [])
    (hb : w.store.bucket? request.uri.bucket = some b)
    (hfilter : request.filter.compile w.moment = .ok filter) (hcalm : Listing.Calm signal w)
    (hincreasing : Increasing wanted) (hwanted : ∀ e, e ∈ wanted ↔ request.Wants filter b e) :
    ∃ n, ((alone config signal request w).course n).stage = .ended none ∧
      ((alone config signal request w).course n).items =
        (upToCap request.cap wanted).map .object := by
  cases hreached : (request.selection filter).reached 0 with
  | true =>
    have hnothing : upToCap request.cap wanted = [] := upToCap_eq_nil hreached wanted
    refine ⟨2, ?_⟩
    rw [course_alone, Course.run_start_reached hbucket hfilter hreached, hnothing]
    exact ⟨rfl, rfl⟩
  | false =>
    have hopens : (alone config signal request w).Opens filter := ⟨hbucket, hfilter, hreached⟩
    have hquiet : ∀ k ≥ 0, ∀ i ∈ (alone config signal request w).others k, i.writes = false := by
      intro k _ i hi
      cases hi
    have hbuckets := bucketAt?_of_alone (s := alone config signal request w) (fun _ => rfl) hb
    obtain ⟨n, failure, hended⟩ := exists_ended hopens hb hquiet
    have hnone : failure = none := by
      cases failure with
      | none => rfl
      | some e => exact absurd hended (stage_ne_failed hopens hcalm hb e n)
    subst hnone
    obtain ⟨walk, entries, hitems, hsound, hcovers, hend⟩ :=
      follows_ended hopens (wants_of_alone hbuckets) hended
    refine ⟨n, hended, ?_⟩
    rw [hitems, eq_upToCap hbuckets hincreasing hwanted hsound hcovers (hend rfl)]
    rfl

end SharedListing

/-- A listing of a store in memory that nobody disturbs ends without a failure, and gives out exactly the
first of what it wants, up to its cap. -/
theorem MemoryStore.collect_exact (config : EngineConfig) (signal : StopSignal)
    (request : ListRequest) (w : World MemoryStore) {b : MemoryBucket} {filter : Filter}
    (hbucket : request.uri.bucket ≠ []) (hb : w.store.bucket? request.uri.bucket = some b)
    (hfilter : request.filter.compile w.moment = .ok filter) (hfaultless : w.store.Faultless)
    (hunstopped : w.stopAt signal = none) :
    ∃ wanted : List ObjectEntry, (wanted.Pairwise fun e f => bytes e.key < bytes f.key) ∧
      (∀ e, e ∈ wanted ↔ request.Wants filter b e) ∧
      ∃ n, ∀ turns ≥ n,
        (Listing.collect (lister config) signal turns (.opened request) w).items =
          (upToCap request.cap wanted).map .object ∧
        (Listing.collect (lister config) signal turns (.opened request) w).ending = .complete := by
  obtain ⟨wanted, hincreasing, hwanted⟩ := request.exists_wanted filter b
  refine ⟨wanted, hincreasing.imp fun hlt => lt_iff_bytes_lt.mp hlt, hwanted, ?_⟩
  obtain ⟨n, hended, hitems⟩ := SharedListing.exists_complete config signal hbucket hb hfilter
    ⟨hfaultless, hunstopped⟩ hincreasing hwanted
  refine ⟨n, ?_⟩
  intro turns hturns
  obtain ⟨hstage, hdeeds⟩ := SharedListing.ended_of_le hended hturns
  rw [Course.collect_eq_run, ← SharedListing.course_alone]
  refine ⟨?_, ?_⟩
  · rw [← hitems, Course.gathered, Course.items, hdeeds]
    rfl
  · rw [Course.gathered, hstage]
    rfl

namespace MemoryStore

/-- A store with a bucket of keys that are close to each other. -/
def closeKeys : MemoryStore :=
  ((({} : MemoryStore).put ['b'] ⟨['a', '/', '/', 'b'], .zeros 2, {}⟩ {}).put ['b']
    ⟨['a', '-'], .zeros 3, {}⟩ {}).put ['b'] ⟨['a', '/'], .zeros 4, {}⟩ {}

/-- A request for the first object of two bytes at least. -/
def firstLarge : ListRequest where
  uri := ⟨.s3, ['b'], []⟩
  recursive := true
  cap := some 1
  filter := { size := some (.single ['>', '=', '2']) }

/-- The first large object of a bucket, with pages of any size at all. -/
theorem collect_firstLarge : ∃ (b : MemoryBucket) (wanted : List ObjectEntry),
    closeKeys.bucket? ['b'] = some b ∧
      (∀ e, e ∈ wanted ↔ firstLarge.Wants { size := some (.compare .ge 2) } b e) ∧
      ∃ n, ∀ turns ≥ n,
        (Listing.collect (lister { pageSize := 0 }) {} turns (.opened firstLarge)
          { store := closeKeys }).items = (wanted.take 1).map .object := by
  obtain ⟨b, hb⟩ : ∃ b, closeKeys.bucket? ['b'] = some b := ⟨_, by rfl⟩
  obtain ⟨wanted, -, hwanted, n, hn⟩ := collect_exact { pageSize := 0 } {} firstLarge
    { store := closeKeys } (by decide) hb (by rfl) ⟨rfl, rfl, rfl⟩ rfl
  exact ⟨b, wanted, hb, hwanted, n, fun turns hturns => (hn turns hturns).1⟩

end MemoryStore

end ObjectListing
