import ObjectListing.Proofs.Store.MemoryCalls

/-!
What others do to a store in memory while a listing of it is under way: they make buckets, store objects,
and make turns of listings of their own. A bucket stays, and with it every key that it ever had
(`applyAll_extends`); nothing that others do plans a failure or stops a listing (`applyAll_calm`).
-/

namespace ObjectListing

/-- What others do to a store between two turns of a listing. -/
inductive Interference
  | createBucket (name : Text) (now : Instant)
  | put (bucket : Text) (o : StoredObject) (now : Instant)
  | turn (config : EngineConfig) (signal : StopSignal) (listing : Listing)

namespace Interference

/-- Whether it changes what is stored. -/
def writes : Interference → Bool
  | createBucket .. => true
  | put .. => true
  | turn .. => false

/-- The world after it. -/
def apply : Interference → World MemoryStore → World MemoryStore
  | createBucket name now, w => { w with store := w.store.createBucket name now }
  | put bucket o now, w => { w with store := w.store.put bucket o now }
  | turn config signal listing, w =>
    (Listing.turn (MemoryStore.lister config) signal listing w).world

/-- The world after all of these. -/
def applyAll (is : List Interference) (w : World MemoryStore) : World MemoryStore :=
  is.foldl (fun w i => i.apply w) w

end Interference

/-! ### Stores that only grow -/

namespace MemoryStore

/-- Whether a store has the buckets of another, and all their keys. -/
def Extends (t s : MemoryStore) : Prop :=
  ∀ name b, s.bucket? name = some b → ∃ b', t.bucket? name = some b' ∧
    ∀ o ∈ b.objects, ∃ p ∈ b'.objects, p.key = o.key

variable {s t u : MemoryStore}

theorem Extends.of_buckets (h : t.buckets = s.buckets) : Extends t s :=
  fun name b hb => ⟨b, (bucket?_congr h name).trans hb, fun o ho => ⟨o, ho, rfl⟩⟩

theorem Extends.trans (htu : Extends u t) (hst : Extends t s) : Extends u s := by
  intro name b hb
  obtain ⟨b', hb', hkeys⟩ := hst name b hb
  obtain ⟨b'', hb'', hkeys'⟩ := htu name b' hb'
  refine ⟨b'', hb'', ?_⟩
  intro o ho
  obtain ⟨p, hp, hpo⟩ := hkeys o ho
  obtain ⟨q, hq, hqp⟩ := hkeys' p hp
  exact ⟨q, hq, hqp.trans hpo⟩

theorem createBucket_extends (name : Text) (now : Instant) (s : MemoryStore) :
    Extends (s.createBucket name now) s := by
  rw [createBucket]
  split
  · exact .of_buckets rfl
  · intro name' b hb
    refine ⟨b, ?_, fun o ho => ⟨o, ho, rfl⟩⟩
    rw [bucket?, List.find?_append]
    exact Option.or_eq_some_iff.mpr (Or.inl hb)

/-- The buckets after an object was stored in one of them. -/
theorem find?_insert (o : StoredObject) (bucket name : Text) (bs : List MemoryBucket) :
    (bs.map fun b => if b.name = bucket then b.insert o else b).find? (fun b => b.name = name) =
      (bs.find? fun b => b.name = name).map fun b => if b.name = bucket then b.insert o else b := by
  -- an object that is stored changes no name
  have hname : ((fun b : MemoryBucket => decide (b.name = name)) ∘
      fun b => if b.name = bucket then b.insert o else b) = fun b => decide (b.name = name) := by
    funext b
    dsimp only [Function.comp]
    split
    · rfl
    · rfl
  rw [List.find?_map, hname]

theorem put_extends (bucket : Text) (o : StoredObject) (now : Instant) (s : MemoryStore) :
    Extends (s.put bucket o now) s := by
  refine Extends.trans (t := s.createBucket bucket now) ?_ (createBucket_extends bucket now s)
  intro name b hb
  refine ⟨if b.name = bucket then b.insert o else b, ?_, fun p hp => ?_⟩
  · rw [put, bucket?, find?_insert]
    exact congrArg _ hb
  · split
    · exact StoredObject.exists_mem_insert hp
    · exact ⟨p, hp, rfl⟩

theorem createBucket_faultless (h : s.Faultless) (name : Text) (now : Instant) :
    (s.createBucket name now).Faultless := by
  rw [createBucket]
  split
  · exact h
  · exact ⟨h.lists, h.nextList, h.listAt⟩

theorem put_faultless (h : s.Faultless) (bucket : Text) (o : StoredObject) (now : Instant) :
    (s.put bucket o now).Faultless :=
  have := createBucket_faultless h bucket now
  ⟨this.lists, this.nextList, this.listAt⟩

end MemoryStore

/-! ### What others leave as it is -/

namespace Interference

open MemoryStore Listing

variable {w : World MemoryStore} {signal : StopSignal}

theorem apply_extends (i : Interference) (w : World MemoryStore) :
    (i.apply w).store.Extends w.store := by
  cases i with
  | createBucket name now => exact createBucket_extends name now w.store
  | put bucket o now => exact put_extends bucket o now w.store
  | turn config s listing => exact .of_buckets (turn_buckets config s listing w)

/-- Buckets stay, and their keys. -/
theorem applyAll_extends : ∀ (is : List Interference) (w : World MemoryStore),
    (applyAll is w).store.Extends w.store
  | [], _ => .of_buckets rfl
  | i :: is, w => (applyAll_extends is (i.apply w)).trans (i.apply_extends w)

theorem apply_calm (i : Interference) (h : Calm signal w) : Calm signal (i.apply w) := by
  cases i with
  | createBucket name now => exact ⟨createBucket_faultless h.faultless name now, h.unstopped⟩
  | put bucket o now => exact ⟨put_faultless h.faultless bucket o now, h.unstopped⟩
  | turn config s listing => exact turn_calm config s listing h

/-- Others neither plan failures nor stop a listing. -/
theorem applyAll_calm : ∀ (is : List Interference) {w : World MemoryStore}, Calm signal w →
    Calm signal (applyAll is w)
  | [], _, h => h
  | i :: is, _, h => applyAll_calm is (i.apply_calm h)

/-- Who only lists changes no bucket. -/
theorem applyAll_buckets : ∀ (is : List Interference) (w : World MemoryStore),
    (∀ i ∈ is, i.writes = false) → (applyAll is w).store.buckets = w.store.buckets
  | [], _, _ => rfl
  | i :: is, w, h => by
    have hi : (i.apply w).store.buckets = w.store.buckets := by
      cases i with
      | createBucket name now => cases h _ (List.mem_cons_self ..)
      | put bucket o now => cases h _ (List.mem_cons_self ..)
      | turn config s listing => exact turn_buckets config s listing w
    rw [← hi]
    exact applyAll_buckets is (i.apply w) fun j hj => h j (List.mem_cons_of_mem i hj)

end Interference

end ObjectListing
