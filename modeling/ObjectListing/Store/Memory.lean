import ObjectListing.Backend

/-!
A store in memory. Buckets keep the order in which they were made; the objects of a bucket are in the
order of their keys. A page folds the keys under a beginning one level down: a key with a further
delimiter stands for its virtual directory, which is given once.

Calls are counted, and faults can be planned for them, so that callers can be watched at their work.
-/

namespace ObjectListing

/-- An object as it is stored. -/
structure StoredObject where
  key : Text
  data : Blob
  modified : Instant
  deriving DecidableEq

namespace StoredObject

/-- Stores an object among others, which are in the order of their keys; an object of the same key is
replaced. -/
def insert (o : StoredObject) : List StoredObject → List StoredObject
  | [] => [o]
  | p :: rest =>
    if o.key = p.key then o :: rest
    else if o.key < p.key then o :: p :: rest
    else p :: StoredObject.insert o rest

/-- Objects in the order of their keys, one for each key. -/
def Ordered (objects : List StoredObject) : Prop := objects.Pairwise fun p q => p.key < q.key

theorem ordered_nil : Ordered [] := List.Pairwise.nil

theorem mem_of_mem_insert {o q : StoredObject} : ∀ {objects : List StoredObject},
    q ∈ insert o objects → q = o ∨ q ∈ objects
  | [], h => by simpa [insert] using h
  | p :: rest, h => by
    simp only [insert] at h
    split at h
    · rcases List.mem_cons.mp h with rfl | h
      · exact Or.inl rfl
      · exact Or.inr (List.mem_cons_of_mem _ h)
    · split at h
      · exact List.mem_cons.mp h
      · rcases List.mem_cons.mp h with rfl | h
        · exact Or.inr (List.mem_cons_self ..)
        · rcases mem_of_mem_insert h with rfl | h
          · exact Or.inl rfl
          · exact Or.inr (List.mem_cons_of_mem _ h)

/-- Storing an object keeps the order. -/
theorem Ordered.insert (o : StoredObject) : ∀ {objects : List StoredObject},
    Ordered objects → Ordered (o.insert objects)
  | [], _ => List.pairwise_singleton ..
  | p :: rest, h => by
    obtain ⟨hp, hrest⟩ := List.pairwise_cons.mp h
    simp only [StoredObject.insert]
    split
    · rename_i hkey
      exact List.pairwise_cons.mpr ⟨fun q hq => hkey ▸ hp q hq, hrest⟩
    · split
      · rename_i hlt
        refine List.pairwise_cons.mpr ⟨fun q hq => ?_, h⟩
        rcases List.mem_cons.mp hq with rfl | hq
        · exact hlt
        · exact List.lt_trans hlt (hp q hq)
      · rename_i hne hle
        refine List.pairwise_cons.mpr ⟨fun q hq => ?_, Ordered.insert o hrest⟩
        rcases mem_of_mem_insert hq with rfl | hq
        · exact (List.le_iff_lt_or_eq.mp (List.not_lt.mp hle)).resolve_right (Ne.symm hne)
        · exact hp q hq

end StoredObject

/-- A bucket with its objects, in the order of their keys. -/
structure MemoryBucket where
  name : Text
  created : Instant
  objects : List StoredObject := []
  ordered : StoredObject.Ordered objects := by exact StoredObject.ordered_nil
  deriving DecidableEq

namespace MemoryBucket

/-- The bucket with one more object, or with another object of a key it has. -/
def insert (o : StoredObject) (b : MemoryBucket) : MemoryBucket :=
  { b with objects := o.insert b.objects, ordered := b.ordered.insert o }

/-- The object of a key. -/
def object? (b : MemoryBucket) (key : Text) : Option StoredObject :=
  b.objects.find? fun o => o.key = key

/-- The entry that a key gives one level under its beginning `under`, of which `rest` is what follows:
none for the beginning itself. -/
def entryUnder (under : Text) (o : StoredObject) (rest : Text) : Option ObjectEntry :=
  if rest.isEmpty then none
  else match Text.cut '/' rest with
    | (_, none) => some (.object o.key o.data.size o.modified)
    | (segment, some _) => some (.commonPrefix (under ++ segment ++ ['/']))

/-- Goes through objects in the order of their keys, with the entries that are on the page so far, the
latest first, and at most `size` of them. It ends at the first key that does not begin with `under`, or
with a token when the page is full and another entry comes. The keys of one directory stand together, so
an entry of the same key can only be the latest one. -/
def scan (under : Text) (token : Option Text) (size : Nat) :
    List ObjectEntry → List StoredObject → Page
  | found, [] => ⟨found.reverse, none⟩
  | found, o :: rest =>
    match Text.after? under o.key with
    | none => ⟨found.reverse, none⟩
    | some tail =>
      match entryUnder under o tail with
      | none => scan under token size found rest
      | some e =>
        if found.head?.any fun last => last.key = e.key then scan under token size found rest
        else if token.any fun t => e.key.atMost t then scan under token size found rest
        else if found.length = size then ⟨found.reverse, found.head?.map (·.key)⟩
        else scan under token size (e :: found) rest

/-- The page of a bucket that answers a request: its objects are gone through from the beginning of the
keys on. A page has room for one entry at least. -/
def page (b : MemoryBucket) (request : PageRequest) : Page :=
  scan request.under request.token (max request.size 1) []
    (b.objects.dropWhile fun o => o.key < request.under)

end MemoryBucket

/-- A store in memory, with the counts of calls to it, the page sizes that were asked for, latest first,
and the faults that are planned. -/
structure MemoryStore where
  buckets : List MemoryBucket := []
  listCalls : Nat := 0
  bucketCalls : Nat := 0
  getCalls : Nat := 0
  pageSizes : List Nat := []
  failingLists : Nat := 0
  failingBuckets : Nat := 0
  failingGets : Nat := 0
  nextListError : Option StoreError := none
  listErrorAt : Option (Nat × StoreError) := none
  deriving DecidableEq

namespace MemoryStore

/-- The bucket of a name. -/
def bucket? (s : MemoryStore) (name : Text) : Option MemoryBucket :=
  s.buckets.find? fun b => b.name = name

/-- Makes a bucket at the moment `now`; a bucket that exists stays as it is. -/
def createBucket (name : Text) (now : Instant) (s : MemoryStore) : MemoryStore :=
  if s.buckets.any fun b => b.name = name then s
  else { s with buckets := s.buckets ++ [{ name, created := now }] }

/-- Stores an object at the moment `now`; its bucket is made if it does not exist. -/
def put (bucket : Text) (o : StoredObject) (now : Instant) (s : MemoryStore) : MemoryStore :=
  let s := s.createBucket bucket now
  { s with
    buckets := s.buckets.map fun b => if b.name = bucket then b.insert o else b }

/-- The failure of a bucket that does not exist. -/
def noBucket (name : Text) : StoreError := .notFound s!"bucket '{name.str}' does not exist"

/-- The answer to a page request when no fault is planned. -/
def page (s : MemoryStore) (request : PageRequest) : Except StoreError Page :=
  match s.bucket? request.bucket with
  | none => .error (noBucket request.bucket)
  | some b => .ok (b.page request)

/-- The answer to a page request, counted already, and the store it leaves. Failures that were asked
for by number come first, then the one for the next call, then the one for the call of this number. -/
def answerList (request : PageRequest) (s : MemoryStore) :
    Except StoreError Page × MemoryStore :=
  match s.failingLists with
  | n + 1 =>
    (.error (.transient s!"injected failure listing {request.bucket.str}/{request.under.str}"),
      { s with failingLists := n })
  | 0 =>
    match s.nextListError with
    | some e => (.error e, { s with nextListError := none })
    | none =>
      match s.listErrorAt with
      | some (call, e) =>
        if call = s.listCalls then (.error e, { s with listErrorAt := none })
        else (s.page request, s)
      | none => (s.page request, s)

/-- One page of entries. -/
def listObjects (request : PageRequest) (s : MemoryStore) : Reply MemoryStore Page :=
  let (answer, store) := answerList request
    { s with listCalls := s.listCalls + 1, pageSizes := request.size :: s.pageSizes }
  { answer, store }

/-- The buckets as entries. -/
def bucketEntries (s : MemoryStore) : List BucketEntry :=
  s.buckets.map fun b => ⟨b.name, some b.created⟩

/-- All buckets. -/
def listBuckets (s : MemoryStore) : Reply MemoryStore (List BucketEntry) :=
  let s := { s with bucketCalls := s.bucketCalls + 1 }
  match s.failingBuckets with
  | n + 1 =>
    { answer := .error (.transient "injected failure listing buckets")
      store := { s with failingBuckets := n } }
  | 0 => { answer := .ok s.bucketEntries, store := s }

/-- The data of a key when no fault is planned. -/
def data (s : MemoryStore) (bucket key : Text) : Except StoreError Blob :=
  match s.bucket? bucket with
  | none => .error (noBucket bucket)
  | some b =>
    match b.object? key with
    | none => .error (.notFound s!"key '{key.str}' not found in '{bucket.str}'")
    | some o => .ok o.data

/-- The data of an object. -/
def getObject (bucket key : Text) (s : MemoryStore) : Reply MemoryStore Blob :=
  let s := { s with getCalls := s.getCalls + 1 }
  match s.failingGets with
  | n + 1 =>
    { answer := .error (.transient s!"injected failure reading {bucket.str}/{key.str}")
      store := { s with failingGets := n } }
  | 0 => { answer := s.data bucket key, store := s }

/-- The store as a backend. -/
def backend : Backend MemoryStore where
  name := "memory"
  listObjects := listObjects
  listBuckets := listBuckets
  getObject := getObject

end MemoryStore

end ObjectListing
