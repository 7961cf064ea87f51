import ObjectListing.Proofs.Store.Interference
import ObjectListing.Proofs.Listing.Retrieval

/-!
A store in memory as the sum of what was done to it. A history is a list of uses of a store that was empty at
first. Its buckets are those that were mentioned, in that order, and under each key is what was put there last
(`Reflects`): one use keeps this (`Reflects.apply`), and so does a history (`reflects_after`). Answers are read off
the history.
-/

namespace ObjectListing

theorem StoredObject.find?_insert (o : StoredObject) (key : Text) : ∀ objects : List StoredObject,
    (o.insert objects).find? (fun q => q.key = key) =
      if o.key = key then some o else objects.find? fun q => q.key = key
  | [] => by
    rw [insert]
    by_cases ho : o.key = key
    · simp [ho]
    · simp [ho]
  | p :: rest => by
    rw [insert]
    split
    · -- the first object is replaced by one of the same key
      rename_i hsame
      by_cases ho : o.key = key
      · simp [ho]
      · simp [ho, ← hsame]
    · split
      · by_cases ho : o.key = key
        · simp [ho]
        · simp [ho]
      · rename_i hother _
        rw [List.find?_cons, find?_insert o key rest, List.find?_cons]
        by_cases hp : p.key = key
        · have ho : o.key ≠ key := fun ho => hother (ho.trans hp.symm)
          simp [hp, ho]
        · simp [hp]

theorem MemoryBucket.object?_insert (o : StoredObject) (b : MemoryBucket) (key : Text) :
    (b.insert o).object? key = if o.key = key then some o else b.object? key :=
  StoredObject.find?_insert o key b.objects

namespace MemoryStore

/-- The object under a key of a bucket. -/
def object? (bucket key : Text) (s : MemoryStore) : Option StoredObject :=
  (s.bucket? bucket).bind (·.object? key)

/-- A fault that is planned. -/
inductive Fault
  | lists (calls : Nat)
  | buckets (calls : Nat)
  | gets (calls : Nat)
  | nextList (e : StoreError)
  | listAt (call : Nat) (e : StoreError)

/-- The store with one more fault planned, in place of the one of its kind that was planned before. -/
def Fault.plan : Fault → MemoryStore → MemoryStore
  | lists calls, s => { s with failingLists := calls }
  | buckets calls, s => { s with failingBuckets := calls }
  | gets calls, s => { s with failingGets := calls }
  | nextList e, s => { s with nextListError := some e }
  | listAt call e, s => { s with listErrorAt := some (call, e) }

/-- A use of a store: its owner makes a bucket, puts an object or plans a fault, or somebody calls it. -/
inductive Use
  | createBucket (name : Text) (now : Instant)
  | put (bucket : Text) (o : StoredObject) (now : Instant)
  | plan (fault : Fault)
  | listObjects (request : PageRequest)
  | listBuckets
  | getObject (bucket key : Text)

namespace Use

/-- The store after it. -/
def apply : Use → MemoryStore → MemoryStore
  | createBucket name now, s => s.createBucket name now
  | put bucket o now, s => s.put bucket o now
  | plan fault, s => fault.plan s
  | listObjects request, s => (backend.listObjects request s).store
  | listBuckets, s => (backend.listBuckets s).store
  | getObject bucket key, s => (backend.getObject bucket key s).store

/-- The bucket that it mentions so that it exists from then on, and the moment. -/
def mention? : Use → Option (Text × Instant)
  | createBucket name now => some (name, now)
  | put bucket _ now => some (bucket, now)
  | _ => none

/-- What it puts under a key. -/
def puts? (bucket key : Text) : Use → Option StoredObject
  | put b o _ => if b = bucket ∧ o.key = key then some o else none
  | _ => none

end Use

/-- An empty store after a history. -/
def after (history : List Use) : MemoryStore := history.foldl (fun s use => use.apply s) {}

/-- The entries of the buckets that are mentioned: each once, in the order in which they were mentioned first, with
the moment of that. -/
def mentioned (mentions : List (Text × Instant)) : List BucketEntry :=
  (mentions.map Prod.fst).eraseDups.map fun name => ⟨name, mentions.lookup name⟩

/-- What was put last under a key. -/
def lastPut (bucket key : Text) (history : List Use) : Option StoredObject :=
  (history.filterMap (Use.puts? bucket key)).getLast?

/-! ### What single uses do -/

variable {s t : MemoryStore} {bucket key name : Text} {now : Instant} {history : List Use}

theorem object?_congr (h : s.buckets = t.buckets) (bucket key : Text) :
    s.object? bucket key = t.object? bucket key := by
  rw [object?, object?, bucket?_congr h]

theorem bucketEntries_congr (h : s.buckets = t.buckets) : s.bucketEntries = t.bucketEntries := by
  rw [bucketEntries, bucketEntries, h]

theorem map_name_bucketEntries (s : MemoryStore) :
    s.bucketEntries.map (·.name) = s.buckets.map (·.name) := by
  rw [bucketEntries, List.map_map]
  rfl

/-- A bucket that is made goes behind the others, and one that exists stays as it is. -/
theorem bucketEntries_createBucket (name : Text) (now : Instant) (s : MemoryStore) :
    (s.createBucket name now).bucketEntries =
      if name ∈ s.buckets.map (·.name) then s.bucketEntries
      else s.bucketEntries ++ [⟨name, some now⟩] := by
  have hknown : (s.buckets.any fun b => b.name = name) = true ↔ name ∈ s.buckets.map (·.name) := by
    simp [List.any_eq_true]
  rw [createBucket]
  by_cases h : name ∈ s.buckets.map (·.name)
  · rw [if_pos (hknown.mpr h), if_pos h]
  · rw [if_neg (fun hany => h (hknown.mp hany)), if_neg h, bucketEntries, List.map_append]
    rfl

theorem bucketEntries_put (bucket : Text) (o : StoredObject) (now : Instant) (s : MemoryStore) :
    (s.put bucket o now).bucketEntries = (s.createBucket bucket now).bucketEntries := by
  rw [put, bucketEntries, bucketEntries, List.map_map]
  refine List.map_congr_left fun b _ => ?_
  dsimp only [Function.comp]
  split
  · rfl
  · rfl

theorem bucket?_createBucket_ne (h : name ≠ bucket) (now : Instant) (s : MemoryStore) :
    (s.createBucket name now).bucket? bucket = s.bucket? bucket := by
  rw [createBucket]
  split
  · rfl
  · rw [bucket?, List.find?_append, List.find?_singleton, if_neg (by simpa using h), Option.or_none]
    rfl

/-- A bucket that is made is empty. -/
theorem object?_createBucket (name : Text) (now : Instant) (s : MemoryStore) :
    (s.createBucket name now).object? bucket key = s.object? bucket key := by
  rw [createBucket]
  split
  · rfl
  · rw [object?, bucket?, List.find?_append, List.find?_singleton, object?, bucket?]
    cases s.buckets.find? fun b => b.name = bucket with
    | some b => rfl
    | none =>
      dsimp only [Option.none_or]
      split
      · rfl
      · rfl

theorem exists_bucket?_createBucket (name : Text) (now : Instant) (s : MemoryStore) :
    ∃ b, (s.createBucket name now).bucket? name = some b := by
  refine Option.isSome_iff_exists.mp (List.find?_isSome.mpr ?_)
  have hmem : name ∈ (s.createBucket name now).bucketEntries.map (·.name) := by
    rw [bucketEntries_createBucket]
    split
    · rwa [map_name_bucketEntries]
    · simp
  rw [map_name_bucketEntries, List.mem_map] at hmem
  obtain ⟨b, hb, hname⟩ := hmem
  exact ⟨b, hb, decide_eq_true hname⟩

theorem bucket?_put (bucket name : Text) (o : StoredObject) (now : Instant) (s : MemoryStore) :
    (s.put bucket o now).bucket? name = ((s.createBucket bucket now).bucket? name).map fun b =>
      if b.name = bucket then b.insert o else b :=
  find?_insert o bucket name _

theorem bucket?_put_ne {o : StoredObject} (h : bucket ≠ name) :
    (s.put bucket o now).bucket? name = s.bucket? name := by
  rw [bucket?_put, bucket?_createBucket_ne h]
  cases hb : s.bucket? name with
  | none => rfl
  | some b =>
    have hname : b.name = name := by simpa using List.find?_some hb
    rw [Option.map_some, if_neg (fun heq => h (heq.symm.trans hname))]

/-- An object that is put is under its key in its bucket, and under no other. -/
theorem object?_put (into : Text) (o : StoredObject) (now : Instant) (s : MemoryStore) :
    (s.put into o now).object? bucket key =
      if into = bucket ∧ o.key = key then some o else s.object? bucket key := by
  by_cases hbucket : into = bucket
  · subst hbucket
    obtain ⟨b, hb⟩ := exists_bucket?_createBucket into now s
    have hname : b.name = into := by simpa using List.find?_some hb
    have hbefore : b.object? key = s.object? into key := by
      rw [← object?_createBucket into now s, object?, hb, Option.bind_some]
    rw [object?, bucket?_put, hb, Option.map_some, if_pos hname, Option.bind_some,
      MemoryBucket.object?_insert, hbefore]
    simp
  · rw [object?, bucket?_put_ne hbucket, if_neg (fun h => hbucket h.1)]
    rfl

/-- What neither makes a bucket nor puts an object leaves the buckets as they are. -/
theorem Use.buckets_apply {use : Use} (h : use.mention? = none) (s : MemoryStore) :
    (use.apply s).buckets = s.buckets := by
  cases use with
  | createBucket name now => cases h
  | put bucket o now => cases h
  | plan fault => cases fault <;> rfl
  | listObjects request => exact listObjects_buckets request s
  | listBuckets => exact listBuckets_buckets s
  | getObject bucket key =>
    change (MemoryStore.getObject bucket key s).store.buckets = s.buckets
    rw [MemoryStore.getObject]
    dsimp only
    split <;> rfl

theorem Use.puts?_of_mention?_none {use : Use} (h : use.mention? = none) :
    use.puts? bucket key = none := by
  cases use with
  | put into o now => cases h
  | _ => rfl

/-- A use changes what is under a key by what it puts there, and nothing else. -/
theorem Use.object?_apply (use : Use) (s : MemoryStore) (bucket key : Text) :
    (use.apply s).object? bucket key = (use.puts? bucket key).or (s.object? bucket key) := by
  cases h : use.mention? with
  | none =>
    rw [puts?_of_mention?_none h, Option.none_or]
    exact object?_congr (use.buckets_apply h s) bucket key
  | some mention =>
    cases use with
    | createBucket name now => exact object?_createBucket name now s
    | put into o now =>
      rw [apply, object?_put, puts?]
      split
      · rfl
      · rfl
    | _ => cases h

/-- A bucket that is mentioned goes behind the others, unless it exists. -/
theorem Use.bucketEntries_apply_of_mention {use : Use} (h : use.mention? = some (name, now))
    (s : MemoryStore) : (use.apply s).bucketEntries =
      if name ∈ s.buckets.map (·.name) then s.bucketEntries
      else s.bucketEntries ++ [⟨name, some now⟩] := by
  cases use with
  | createBucket _ _ =>
    cases h
    exact bucketEntries_createBucket name now s
  | put _ o _ =>
    cases h
    exact (bucketEntries_put name o now s).trans (bucketEntries_createBucket name now s)
  | _ => cases h

theorem Use.bucket?_apply_of_not_mentioned {use : Use}
    (h : ∀ mention, use.mention? = some mention → mention.1 ≠ name) (s : MemoryStore) :
    (use.apply s).bucket? name = s.bucket? name := by
  cases hmention : use.mention? with
  | none => exact bucket?_congr (use.buckets_apply hmention s) name
  | some mention =>
    cases use with
    | createBucket name' now => exact bucket?_createBucket_ne (h _ rfl) now s
    | put bucket o now => exact bucket?_put_ne (h _ rfl)
    | _ => cases hmention

/-- Buckets keep their places and their moments. -/
theorem Use.isPrefix_bucketEntries (use : Use) (s : MemoryStore) :
    s.bucketEntries <+: (use.apply s).bucketEntries := by
  cases h : use.mention? with
  | none => rw [bucketEntries_congr (use.buckets_apply h s)]
  | some mention =>
    rw [use.bucketEntries_apply_of_mention h s]
    split
    · exact List.prefix_rfl
    · exact List.prefix_append ..

/-! ### Answers -/

theorem data_eq_ok_iff {data : Blob} :
    s.data bucket key = .ok data ↔ ∃ o, s.object? bucket key = some o ∧ o.data = data := by
  rw [MemoryStore.data, object?]
  cases s.bucket? bucket with
  | none => simp
  | some b =>
    rw [Option.bind_some]
    dsimp only
    cases b.object? key <;> simp

theorem data_notFound_iff :
    (∃ message, s.data bucket key = .error (.notFound message)) ↔ s.object? bucket key = none := by
  rw [MemoryStore.data, object?]
  cases s.bucket? bucket with
  | none => exact ⟨fun _ => rfl, fun _ => ⟨_, rfl⟩⟩
  | some b =>
    rw [Option.bind_some]
    dsimp only
    cases b.object? key with
    | none => exact ⟨fun _ => rfl, fun _ => ⟨_, rfl⟩⟩
    | some o => simp

/-- An object on a page is the one that is stored under its key. -/
theorem exists_object?_of_listed {request : PageRequest} {page : Page} {e : ObjectEntry}
    (h : (listObjects request s).answer = .ok page) (he : e ∈ page.entries) (hkind : e.kind = .object) :
    ∃ o, s.object? request.bucket e.key = some o ∧ e.size = o.data.size ∧
      e.modified = some o.modified := by
  obtain ⟨b, hb, rfl⟩ := exists_page_eq (page_eq_of_answerList h)
  obtain ⟨⟨o, ho, hfold⟩, -⟩ := MemoryBucket.mem_of_mem_pageFor he
  have hfound : s.object? request.bucket o.key = some o := by
    rw [object?, show s.bucket? request.bucket = some b from hb]
    exact b.object?_of_mem ho
  cases hfold with
  | object _ _ _ => exact ⟨o, hfound, rfl, rfl⟩
  | directory _ _ => cases hkind

theorem answer_listBuckets (h : s.failingBuckets = 0) :
    (listBuckets s).answer = .ok s.bucketEntries := by
  rw [listBuckets]
  dsimp only
  rw [h]
  rfl

/-! ### What histories come to -/

/-- A mention of a name that was mentioned before is no new one. -/
theorem mentioned_concat (mentions : List (Text × Instant)) (name : Text) (now : Instant) :
    mentioned (mentions ++ [(name, now)]) =
      if name ∈ mentions.map Prod.fst then mentioned mentions
      else mentioned mentions ++ [⟨name, some now⟩] := by
  have hbefore : (mentions.map Prod.fst).eraseDups.map
      (fun name' => (⟨name', (mentions ++ [(name, now)]).lookup name'⟩ : BucketEntry)) =
        mentioned mentions := by
    refine List.map_congr_left fun name' hmem => ?_
    have hsome : (mentions.lookup name').isSome := by
      obtain ⟨m, hm, rfl⟩ := List.mem_map.mp (List.mem_eraseDups.mp hmem)
      exact List.lookup_isSome_iff.mpr ⟨m, hm, beq_self_eq_true _⟩
    rw [List.lookup_append, Option.or_of_isSome hsome]
  rw [mentioned, List.map_append, List.eraseDups_append, List.map_append, hbefore, List.removeAll]
  by_cases h : name ∈ mentions.map Prod.fst
  · simp [h]
  · have hnone : mentions.lookup name = none := by
      refine List.lookup_eq_none_iff.mpr fun m hm => ?_
      have hne : name ≠ m.1 := fun heq => h (List.mem_map.mpr ⟨m, hm, heq.symm⟩)
      simpa using hne
    have hlookup : (mentions ++ [(name, now)]).lookup name = some now := by
      simp [List.lookup_append, hnone]
    rw [List.map_singleton, List.filter_cons_of_pos (by simpa using h), List.filter_nil, if_neg h, ← hlookup]
    rfl

theorem after_concat (history : List Use) (use : Use) :
    after (history ++ [use]) = use.apply (after history) :=
  List.foldl_concat ..

theorem lastPut_concat (bucket key : Text) (history : List Use) (use : Use) :
    lastPut bucket key (history ++ [use]) = (use.puts? bucket key).or (lastPut bucket key history) := by
  rw [lastPut, List.filterMap_append, List.getLast?_append, lastPut]
  cases h : use.puts? bucket key <;> simp [h]

/-- A store whose buckets are those that a history mentions, with what it puts into them. -/
structure Reflects (history : List Use) (s : MemoryStore) : Prop where
  distinct : (s.buckets.map (·.name)).Nodup
  buckets : s.bucketEntries = mentioned (history.filterMap Use.mention?)
  objects : ∀ bucket key, s.object? bucket key = lastPut bucket key history

theorem Reflects.mem_names_iff (h : Reflects history s) :
    name ∈ s.buckets.map (·.name) ↔ name ∈ (history.filterMap Use.mention?).map Prod.fst := by
  rw [← map_name_bucketEntries, h.buckets, mentioned, List.map_map]
  simp [Function.comp_def]

/-- One more use is reflected as well. -/
theorem Reflects.apply (h : Reflects history s) (use : Use) :
    Reflects (history ++ [use]) (use.apply s) := by
  have hobjects (bucket key : Text) :
      (use.apply s).object? bucket key = lastPut bucket key (history ++ [use]) := by
    rw [use.object?_apply, h.objects, lastPut_concat]
  cases hmention : use.mention? with
  | none =>
    have hsame := use.buckets_apply hmention s
    refine ⟨hsame ▸ h.distinct, ?_, hobjects⟩
    rw [bucketEntries_congr hsame, h.buckets]
    simp [hmention]
  | some mention =>
    obtain ⟨name, now⟩ := mention
    have hentries := use.bucketEntries_apply_of_mention hmention s
    refine ⟨?_, ?_, hobjects⟩
    · rw [← map_name_bucketEntries, hentries]
      split
      · rw [map_name_bucketEntries]
        exact h.distinct
      · rename_i hnew
        rw [List.map_append, map_name_bucketEntries]
        exact List.nodup_append'.mpr ⟨h.distinct, List.nodup_singleton _, by simpa using hnew⟩
    · rw [hentries, List.filterMap_append, List.filterMap_cons_some hmention, List.filterMap_nil,
        mentioned_concat, h.buckets]
      exact if_congr h.mem_names_iff rfl rfl

/-- What was done to a store is what it holds. -/
theorem reflects_after (history : List Use) : Reflects history (after history) := by
  induction history using List.reverseRecOn with
  | nil => exact ⟨List.nodup_nil, rfl, fun _ _ => rfl⟩
  | append_singleton history use ih =>
    rw [after_concat]
    exact ih.apply use

/-- A store in memory is an ordered map of buckets. Whatever was done to it since it was empty, no two buckets have
one name, and a list of them has them in the order in which they were mentioned first, with the moments of that. A
key brings the data of what was put there last, and nothing is found if nothing was. One more use leaves all places
and moments of buckets, every bucket that it does not mention and every key that it puts nothing under; a call
leaves all buckets. An object on a page has the size and the time of what was put under its key last. -/
theorem holds_what_was_put (history : List Use) :
    let s := after history
    (s.buckets.map (·.name)).Nodup ∧
      (s.failingBuckets = 0 →
        (listBuckets s).answer = .ok (mentioned (history.filterMap Use.mention?))) ∧
      (s.failingGets = 0 → ∀ bucket key,
        (∀ data, (getObject bucket key s).answer = .ok data ↔
          ∃ o, lastPut bucket key history = some o ∧ o.data = data) ∧
        ((∃ message, (getObject bucket key s).answer = .error (.notFound message)) ↔
          lastPut bucket key history = none)) ∧
      (∀ use : Use, s.bucketEntries <+: (use.apply s).bucketEntries ∧
        (∀ name, (∀ mention, use.mention? = some mention → mention.1 ≠ name) →
          (use.apply s).bucket? name = s.bucket? name) ∧
        (∀ bucket key, use.puts? bucket key = none →
          (use.apply s).object? bucket key = s.object? bucket key) ∧
        (use.mention? = none → (use.apply s).buckets = s.buckets)) ∧
      ∀ request page, (listObjects request s).answer = .ok page → ∀ e ∈ page.entries,
        e.kind = .object → ∃ o, lastPut request.bucket e.key history = some o ∧
          e.size = o.data.size ∧ e.modified = some o.modified := by
  intro s
  have h : Reflects history s := reflects_after history
  refine ⟨h.distinct, fun hcalm => ?_, fun hcalm bucket key => ⟨fun data => ?_, ?_⟩,
    fun use => ⟨use.isPrefix_bucketEntries s, fun name hname => use.bucket?_apply_of_not_mentioned hname s,
      fun bucket key hputs => ?_, fun hmention => use.buckets_apply hmention s⟩, ?_⟩
  · rw [answer_listBuckets hcalm, h.buckets]
  · rw [answer_getObject hcalm, data_eq_ok_iff, h.objects]
  · rw [answer_getObject hcalm, data_notFound_iff, h.objects]
  · rw [use.object?_apply, hputs, Option.none_or]
  · intro request page hpage e he hkind
    rw [← h.objects]
    exact exists_object?_of_listed hpage he hkind

/-- Two buckets, the second of which is mentioned by what is put there. That is replaced after a call that failed. -/
def replacedOnce : List Use :=
  [.createBucket ['b'] {}, .put ['a'] ⟨['k'], .zeros 1, {}⟩ {}, .plan (.gets 1), .getObject ['a'] ['k'],
    .put ['a'] ⟨['k'], .zeros 2, {}⟩ {}, .put ['a'] ⟨['l'], .zeros 3, {}⟩ {}]

theorem holds_what_was_put_replacedOnce :
    (listBuckets (after replacedOnce)).answer = .ok [⟨['b'], some {}⟩, ⟨['a'], some {}⟩] ∧
      (getObject ['a'] ['k'] (after replacedOnce)).answer = .ok (.zeros 2) ∧
      ∃ message, (getObject ['b'] ['k'] (after replacedOnce)).answer = .error (.notFound message) := by
  obtain ⟨-, hbuckets, hdata, -, -⟩ := holds_what_was_put replacedOnce
  have hgets : (after replacedOnce).failingGets = 0 := by decide
  refine ⟨(hbuckets (by decide)).trans (by rfl), ?_, (hdata hgets ['b'] ['k']).2.mpr (by decide)⟩
  exact ((hdata hgets ['a'] ['k']).1 (.zeros 2)).mpr ⟨⟨['k'], .zeros 2, {}⟩, by decide, rfl⟩

end MemoryStore

end ObjectListing
