import ObjectListing.Proofs.FileRoot
import ObjectListing.Proofs.Filter.Compiling
import ObjectListing.Proofs.Listing.Course
import ObjectListing.Store.Memory

/-!
What is refused before a store is asked. An operation whose URI cannot be read, or is not of the kind that the
operation is about, changes nothing (`Client.perform_of_badUri`); a listing whose filter cannot be read fails at its
first turn, whatever the signal and the limit are (`Listing.next_of_unread`). What is not refused asks the store for
what the URI names (`fetchObject_watched`).
-/

namespace ObjectListing

variable {σ : Type}

/-! ### URIs -/

namespace Uri

variable {u : Uri} {t key : Text} {e : StoreError}

/-- A text that is no URI is refused with that text and a reason. -/
theorem exists_of_parse_error (h : parse t = .error e) : ∃ reason, e = .invalidUri t.str reason := by
  rw [parse] at h
  split at h
  · cases h
  · cases h
    exact ⟨_, rfl⟩

theorem objectKey_eq_ok_iff : u.objectKey = .ok key ↔
    u.bucket ≠ [] ∧ u.path ≠ [] ∧ Text.endsInSlash u.path = false ∧ key = u.path := by
  rw [objectKey, requireBucket]
  by_cases hbucket : u.bucket = []
  · simp [hbucket]
  · by_cases hpath : u.path = []
    · simp [hbucket, hpath]
    · cases hslash : Text.endsInSlash u.path with
      | true => simp [hbucket, hpath]
      | false =>
        simp [hbucket, hpath]
        exact eq_comm

/-- A place that is no object is refused with its text and a reason. -/
theorem exists_of_objectKey_error (h : u.objectKey = .error e) :
    ∃ reason, e = .invalidUri u.text.str reason := by
  rw [objectKey, requireBucket] at h
  split at h
  · rename_i hbucket
    split at hbucket
    · cases hbucket
      cases h
      exact ⟨_, rfl⟩
    · cases hbucket
  · split at h
    · cases h
      exact ⟨_, rfl⟩
    · cases h

end Uri

/-! ### Filters -/

/-- A size clause that cannot be read is refused as a filter. -/
theorem SizeClause.exists_of_parse_error {raw : Text} {e : StoreError} (h : parse raw = .error e) :
    ∃ detail, e = .invalidFilter detail := by
  rw [parse] at h
  split at h
  · cases h
  · cases h
    exact ⟨_, rfl⟩

/-- A name clause that cannot be read is refused as a filter. -/
theorem NameClause.exists_of_parse_error {raw : Text} {caseInsensitive : Bool} {e : StoreError}
    (h : parse raw caseInsensitive = .error e) : ∃ detail, e = .invalidFilter detail := by
  rw [parse] at h
  split at h
  · cases h
  · cases h
    exact ⟨_, rfl⟩

/-- An age clause that cannot be read is refused as a filter. -/
theorem AgeClause.exists_of_parse_error {raw : Text} {now : Instant} {e : StoreError}
    (h : parse raw now = .error e) : ∃ detail, e = .invalidFilter detail := by
  rw [parse] at h
  split at h
  · cases h
  · cases h
    exact ⟨_, rfl⟩

/-- Whether an age clause can be read does not depend on the moment. -/
theorem AgeClause.parse_eq_error (now now' : Instant) {raw : Text} {e : StoreError}
    (h : parse raw now = .error e) : parse raw now' = .error e := by
  have hsame (fault : AgeFault) (h : parseStripped raw.stripped now = .error fault) :
      parseStripped raw.stripped now' = .error fault := by
    rw [parseStripped] at h ⊢
    dsimp only at h ⊢
    split at h
    · rename_i hbody
      rwa [if_pos hbody]
    · rename_i hbody
      rw [if_neg hbody]
      split at h
      · exact h
      · split at h
        · rename_i hlimit
          rwa [if_pos hlimit]
        · rename_i hlimit
          rw [if_neg hlimit]
          split at h
          · rename_i hfinest
            rwa [if_pos hfinest]
          · cases h
  rw [parse] at h ⊢
  cases hread : parseStripped raw.stripped now with
  | ok clause =>
    rw [hread] at h
    cases h
  | error fault =>
    rw [hread] at h
    rw [hsame fault hread]
    exact h

namespace FilterSpec

variable {spec : FilterSpec} {now now' : Instant} {e : StoreError}

theorem AgeRefused.at (h : spec.AgeRefused now e) (now' : Instant) : spec.AgeRefused now' e := by
  obtain ⟨text, htext, hread⟩ := h
  exact ⟨text, htext, AgeClause.parse_eq_error now now' hread⟩

/-- Whether a filter can be read does not depend on the moment. -/
theorem compile_error_at (h : spec.compile now = .error e) (now' : Instant) :
    spec.compile now' = .error e := by
  refine compile_eq_error_iff.mpr ?_
  rcases compile_eq_error_iff.mp h with hname | ⟨hname, hsize⟩ | ⟨hname, hsize, hage⟩
  · exact .name hname
  · exact .size hname hsize
  · exact .age hname hsize (hage.at now')

/-- A filter that cannot be read is refused as a filter. -/
theorem exists_of_compile_error (h : spec.compile now = .error e) : ∃ detail, e = .invalidFilter detail := by
  rcases (compile_eq_error_iff.mp h).refused with ⟨_, -, hread⟩ | ⟨_, -, hread⟩ | ⟨_, -, hread⟩
  · exact NameClause.exists_of_parse_error hread
  · exact SizeClause.exists_of_parse_error hread
  · exact AgeClause.exists_of_parse_error hread

end FilterSpec

/-! ### Listings -/

namespace Listing

variable {request : ListRequest} {now : Instant} {e : StoreError}

/-- A listing whose filter cannot be read fails when it begins, whatever its signal is. -/
theorem turn_of_unread (h : request.filter.compile now = .error e) (l : Lister σ) (signal : StopSignal)
    (w : World σ) : turn l signal (.opened request) w = .failed e (w.reportAll request.filter.notices) := by
  rw [turn, begin_eq, FilterSpec.compile_error_at h]

theorem next_of_unread (h : request.filter.compile now = .error e) (l : Lister σ) (signal : StopSignal)
    (turns : Nat) (w : World σ) : next l signal (turns + 1) (.opened request) w =
      .failed e (w.reportAll request.filter.notices) := by
  rw [next, turn_of_unread h]

theorem collect_of_unread (h : request.filter.compile now = .error e) (l : Lister σ) (signal : StopSignal)
    (turns : Nat) (w : World σ) : collect l signal (turns + 1) (.opened request) w =
      ⟨[], .failed e, w.reportAll request.filter.notices⟩ := by
  rw [collect, collectFrom, turn_of_unread h]
  rfl

end Listing

/-! ### Objects -/

/-- An object is fetched from a watched store by calls for what the URI names, one at least. -/
theorem fetchObject_watched (b : Backend σ) (retry : RetryPolicy) {u : Uri} {key : Text}
    (hkey : u.objectKey = .ok key) (w : World σ) (calls : List StoreCall) :
    ∃ k, 0 < k ∧ (fetchObject b.watched retry u {} (w.watched calls)).2.store.2 =
      calls ++ List.replicate k (.getObject u.bucket key) := by
  let before := w.report (.fetchingObject b.name u.bucket key)
  obtain ⟨k, hk, hcalls⟩ := Retry.call_watched retry "get_object" {} (b.getObject u.bucket key) before
    (.getObject u.bucket key)
  have hmade : before.callTimes.length <
      (Retry.call retry "get_object" {} (b.getObject u.bucket key) before).2.callTimes.length :=
    Retry.Ran.callTimes_lt (Retry.attempt_ran _ _ _) rfl
  refine ⟨k, by omega, ?_⟩
  have hfetch : Retry.call retry "get_object" {} (b.watched.getObject u.bucket key)
      ((w.watched calls).report (.fetchingObject b.watched.name u.bucket key)) = _ := hcalls calls
  rw [fetchObject, hkey]
  dsimp only
  rw [hfetch]
  cases (Retry.call retry "get_object" {} (b.getObject u.bucket key) before).1 <;> rfl

/-! ### Operations -/

namespace Operation

/-- The URI of an operation, as text. -/
def uri : Operation → Text
  | list uri .. | openListing uri _ | listBuckets uri | getObject uri => uri

/-- The URI of an operation cannot be read, or it is not of the kind that the operation is about: a list of buckets
is asked for without a bucket, and an object with a bucket and a key that is no directory. -/
inductive BadUri : Operation → Prop
  | unread {op : Operation} {e : StoreError} : Uri.parse op.uri = .error e → BadUri op
  | namesBucket {uri : Text} {u : Uri} : Uri.parse uri = .ok u → u.bucket ≠ [] → BadUri (.listBuckets uri)
  | namesNoBucket {uri : Text} {u : Uri} : Uri.parse uri = .ok u → u.bucket = [] → BadUri (.getObject uri)
  | namesNoKey {uri : Text} {u : Uri} : Uri.parse uri = .ok u →
      u.path = [] ∨ Text.endsInSlash u.path = true → BadUri (.getObject uri)

/-- The URI of a listing can be read but its filter cannot. -/
inductive BadFilter : Operation → Prop
  | list {uri : Text} {u : Uri} {options : ListOptions} {signal : StopSignal} {turns : Nat} {now : Instant}
      {e : StoreError} : Uri.parse uri = .ok u → options.filter.compile now = .error e →
      BadFilter (.list uri options signal (turns + 1))
  | openListing {uri : Text} {u : Uri} {options : ListOptions} {now : Instant} {e : StoreError} :
      Uri.parse uri = .ok u → options.filter.compile now = .error e → BadFilter (.openListing uri options)

/-- An operation of a client over watched stores that were not called before. -/
def logged (op : Operation) (c : Client σ) (w : World σ) :
    Answer (σ × List StoreCall) × Client (σ × List StoreCall) × World (σ × List StoreCall) :=
  op.perform (c.wrapped Backend.watched) (w.watched [])

end Operation

/-- An operation failed and gave nothing. A listing that was opened fails so when it is first asked for an item,
with any signal and in any world, and neither it nor its failure asks the store. -/
inductive Answer.Fails (e : StoreError) : Answer σ → Prop
  | gathered : Fails e (.gathered [] (.failed e))
  | unopened : Fails e (.opened (.error e))
  | opened {l : Lister σ} {listing : Listing} :
      (∀ signal turns w, ∃ w', Listing.next l signal (turns + 1) listing w = .failed e w' ∧
        w'.store = w.store ∧ w'.callTimes = w.callTimes) → Fails e (.opened (.ok (l, listing)))
  | buckets : Fails e (.buckets (.error e))
  | object : Fails e (.object (.error e))

namespace Client

variable {op : Operation} {uri : Text} {u : Uri}

/-- A place that is no object is refused as one, and nothing happens. -/
theorem perform_getObject_of_noObject (hparse : Uri.parse uri = .ok u) (hno : ∀ key, u.objectKey ≠ .ok key)
    (c : Client σ) (w : World σ) :
    (∃ text reason, ((Operation.getObject uri).perform c w).1.Fails (.invalidUri text reason)) ∧
      ((Operation.getObject uri).perform c w).2.2 = w := by
  cases hkey : u.objectKey with
  | ok key => exact absurd hkey (hno key)
  | error e =>
    obtain ⟨reason, rfl⟩ := Uri.exists_of_objectKey_error hkey
    rw [Operation.perform, getObject, hparse]
    dsimp only
    rw [fetchObject, hkey]
    exact ⟨⟨_, _, .object⟩, rfl⟩

/-- An operation with a bad URI fails because of it, and nothing happens. -/
theorem perform_of_badUri (h : op.BadUri) (c : Client σ) (w : World σ) :
    (∃ text reason, (op.perform c w).1.Fails (.invalidUri text reason)) ∧ (op.perform c w).2.2 = w := by
  cases h with
  | @unread _ e hparse =>
    obtain ⟨reason, rfl⟩ := Uri.exists_of_parse_error hparse
    cases op with
    | list uri options signal turns =>
      replace hparse : Uri.parse uri = _ := hparse
      rw [Operation.perform, list, openListing, hparse]
      exact ⟨⟨_, _, .gathered⟩, rfl⟩
    | openListing uri options =>
      replace hparse : Uri.parse uri = _ := hparse
      rw [Operation.perform, openListing, hparse]
      exact ⟨⟨_, _, .unopened⟩, rfl⟩
    | listBuckets uri =>
      replace hparse : Uri.parse uri = _ := hparse
      rw [Operation.perform, listBuckets, hparse]
      exact ⟨⟨_, _, .buckets⟩, rfl⟩
    | getObject uri =>
      replace hparse : Uri.parse uri = _ := hparse
      rw [Operation.perform, getObject, hparse]
      exact ⟨⟨_, _, .object⟩, rfl⟩
  | @namesBucket uri u hparse hbucket =>
    have henumeration : u.isEnumeration = false := by simpa [Uri.isEnumeration] using hbucket
    rw [Operation.perform, listBuckets, hparse]
    dsimp only
    rw [henumeration]
    exact ⟨⟨_, _, .buckets⟩, rfl⟩
  | namesNoBucket hparse hbucket =>
    refine perform_getObject_of_noObject hparse (fun key hkey => ?_) c w
    exact (Uri.objectKey_eq_ok_iff.mp hkey).1 hbucket
  | namesNoKey hparse hpath =>
    refine perform_getObject_of_noObject hparse (fun key hkey => ?_) c w
    obtain ⟨-, hpath', hslash, -⟩ := Uri.objectKey_eq_ok_iff.mp hkey
    rcases hpath with hpath | hpath
    · exact hpath' hpath
    · exact absurd hpath (by simp [hslash])

/-- A listing with a bad filter fails because of it, and asks no store. -/
theorem perform_of_badFilter (h : op.BadFilter) (c : Client σ) (w : World σ) :
    (∃ detail, (op.perform c w).1.Fails (.invalidFilter detail)) ∧
      (op.perform c w).2.2.store = w.store ∧ (op.perform c w).2.2.callTimes = w.callTimes := by
  cases h with
  | list hparse hfilter =>
    obtain ⟨detail, rfl⟩ := FilterSpec.exists_of_compile_error hfilter
    rw [Operation.perform, list, openListing_of_parse hparse]
    dsimp only
    rw [Listing.collect_of_unread hfilter]
    exact ⟨⟨_, .gathered⟩, rfl, rfl⟩
  | openListing hparse hfilter =>
    obtain ⟨detail, rfl⟩ := FilterSpec.exists_of_compile_error hfilter
    rw [Operation.perform, openListing_of_parse hparse]
    refine ⟨⟨detail, .opened fun signal turns v => ?_⟩, rfl, rfl⟩
    exact ⟨_, Listing.next_of_unread hfilter _ signal turns v, rfl, rfl⟩

/-- An object is asked for by the bucket and the key that its URI names. -/
theorem getObject_watched (hparse : Uri.parse uri = .ok u) {key : Text} (hkey : u.objectKey = .ok key)
    (c : Client σ) (w : World σ) : ∃ k, 0 < k ∧
      ((c.wrapped Backend.watched).getObject uri (w.watched [])).2.2.store.2 =
        List.replicate k (.getObject u.bucket key) := by
  rw [getObject, hparse]
  dsimp only
  rw [storeFor_wrapped]
  exact fetchObject_watched (c.storeFor u.scheme).1 _ hkey w []

/-- What a client can see to be wrong it refuses before it asks a store. Over watched stores, an operation whose URI
cannot be read, or is not of the kind that the operation is about, fails because of its URI and leaves the world as it
was; a listing whose filter cannot be read fails because of the filter, whatever its signal, its limit and its bucket
are. Neither gives any items, and no store is called. An object is otherwise asked for once at least, and always by
the bucket and the key that its URI names, which are not empty, and the key is no directory. -/
theorem refused_before_asked (c : Client σ) (w : World σ) (op : Operation) :
    let done := op.logged c w
    (op.BadUri → (∃ text reason, done.1.Fails (.invalidUri text reason)) ∧ done.2.2 = w.watched []) ∧
      (op.BadFilter → (∃ detail, done.1.Fails (.invalidFilter detail)) ∧
        done.2.2.store = (w.store, []) ∧ done.2.2.callTimes = w.callTimes) ∧
      ∀ uri, op = .getObject uri →
        (¬ op.BadUri → done.2.2.store.2 ≠ []) ∧
        ∀ call ∈ done.2.2.store.2, ∃ u, Uri.parse uri = .ok u ∧ call = .getObject u.bucket u.path ∧
          u.bucket ≠ [] ∧ u.path ≠ [] ∧ Text.endsInSlash u.path = false := by
  intro done
  refine ⟨fun h => perform_of_badUri h _ _, fun h => perform_of_badFilter h _ _, ?_⟩
  rintro uri rfl
  by_cases hbad : (Operation.getObject uri).BadUri
  · have hsame : done.2.2 = w.watched [] := (perform_of_badUri hbad _ _).2
    rw [hsame]
    exact ⟨fun h => absurd hbad h, nofun⟩
  · cases hparse : Uri.parse uri with
    | error e => exact absurd (.unread hparse) hbad
    | ok u =>
      have hbucket : u.bucket ≠ [] := fun h => hbad (.namesNoBucket hparse h)
      have hpath : u.path ≠ [] := fun h => hbad (.namesNoKey hparse (.inl h))
      have hslash : Text.endsInSlash u.path = false :=
        Bool.eq_false_iff.mpr fun h => hbad (.namesNoKey hparse (.inr h))
      obtain ⟨k, hpos, hcalls⟩ :=
        getObject_watched hparse (Uri.objectKey_eq_ok_iff.mpr ⟨hbucket, hpath, hslash, rfl⟩) c w
      replace hcalls : done.2.2.store.2 = _ := hcalls
      rw [hcalls]
      refine ⟨fun _ hnone => ?_, fun call hcall => ?_⟩
      · have hzero : k = 0 := by simpa using congrArg List.length hnone
        omega
      · exact ⟨u, rfl, List.eq_of_mem_replicate hcall, hbucket, hpath, hslash⟩

/-- A directory is no object; a pattern that is not closed is refused of a listing that is stopped already and is to
give nothing; an object is asked for by its key. -/
theorem refused_before_asked_memory :
    let c : Client MemoryStore := { stores := .one MemoryStore.backend }
    let directory : Operation := .getObject "s3://b/d/".toList
    let unclosed : Operation := .list "s3://b".toList
      { cap := some 0, filter := { name := some (.single ['[']) } } { givenAt := some {} } 1
    let object : Operation := .getObject "s3://b/k".toList
    let w : World MemoryStore := { store := {} }
    (∃ text reason, (directory.logged c w).1.Fails (.invalidUri text reason)) ∧
      (∃ detail, (unclosed.logged c w).1.Fails (.invalidFilter detail)) ∧
      (unclosed.logged c w).2.2.store = ({}, []) ∧ (object.logged c w).2.2.store.2 ≠ [] ∧
      ∀ call ∈ (object.logged c w).2.2.store.2, call = .getObject ['b'] ['k'] := by
  intro c directory unclosed object w
  have hdirectory : Uri.parse "s3://b/d/".toList = .ok ⟨.s3, ['b'], ['d', '/']⟩ := by rfl
  have hbucket : Uri.parse "s3://b".toList = .ok ⟨.s3, ['b'], []⟩ := by rfl
  have hobject : Uri.parse "s3://b/k".toList = .ok ⟨.s3, ['b'], ['k']⟩ := by rfl
  have hgood : ¬ (Operation.getObject "s3://b/k".toList).BadUri := by
    intro h
    cases h with
    | unread hparse => cases hobject.symm.trans hparse
    | namesNoBucket hparse hnone =>
      cases hobject.symm.trans hparse
      cases hnone
    | namesNoKey hparse hnone =>
      cases hobject.symm.trans hparse
      exact absurd hnone (by decide)
  have hunclosed : unclosed.BadFilter := by
    obtain ⟨e, hfilter⟩ : ∃ e, FilterSpec.compile { name := some (.single ['[']) } {} = .error e := ⟨_, rfl⟩
    exact .list hbucket hfilter
  obtain ⟨hrefused, -, -⟩ := refused_before_asked c w directory
  obtain ⟨-, hunread, -⟩ := refused_before_asked c w unclosed
  obtain ⟨-, -, hasked⟩ := refused_before_asked c w object
  obtain ⟨hmade, hcalls⟩ := hasked _ rfl
  obtain ⟨hfails, hstore, -⟩ := hunread hunclosed
  refine ⟨(hrefused (.namesNoKey hdirectory (.inr (by decide)))).1, hfails, hstore, hmade hgood, ?_⟩
  intro call hcall
  obtain ⟨u, hparse, rfl, -⟩ := hcalls call hcall
  cases hobject.symm.trans hparse
  rfl

end Client

end ObjectListing
