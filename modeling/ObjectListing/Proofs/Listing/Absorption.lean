import ObjectListing.Proofs.Listing.Truncation
import ObjectListing.Proofs.Store.Flaky

/-!
Clients of flaky stores. As long as no call under retries fails in all its attempts, what a client gets of a
flaky store is what it gets of the store itself, and it makes the same calls in the same order, each one
repeated with what it asked for (`Client.flaky_absorbed`).
-/

namespace ObjectListing

variable {σ : Type}

/-- A store that stops no caller who heeds the shared signal. -/
def Backend.Calm (b : Backend σ) (signal : StopSignal) : Prop :=
  signal.heedsShared = true →
    (∀ request s, (b.listObjects request s).stops = false) ∧ ∀ s, (b.listBuckets s).stops = false

namespace Course

/-- Worlds after a turn in which the one store got one call at most, and the flaky one not too many. -/
structure Kept (signal : StopSignal) (most : Nat) (p : Course σ) (q : Course (σ × Nat)) (w : World σ)
    (v : World (σ × Nat)) : Prop extends World.Mirrors signal w v where
  counts : w.callTimes.length = p.world.callTimes.length ∧
      v.callTimes.length = q.world.callTimes.length ∨
    w.callTimes.length = p.world.callTimes.length + 1 ∧
      q.world.callTimes.length + 1 ≤ v.callTimes.length ∧
      v.callTimes.length ≤ q.world.callTimes.length + most

/-- How a course over a flaky store is to the one over the store itself after as many turns: it is at the same
place and repeated its calls, or a call failed too often. -/
inductive Absorbs (fails : Nat → Option String) (signal : StopSignal) (most : Nat) (p : Course σ)
    (q : Course (σ × Nat)) : Prop
  | abreast : q.stage = p.stage → q.items = p.items → Repeats most p.calls q.calls →
      World.Mirrors signal p.world q.world →
      (∀ request, p.stage = .underway (.opened request) → q.world.moment = p.world.moment) →
      Absorbs fails signal most p q
  | overtaxed {failure : Option StoreError} : q.stage = .ended failure →
      Overtaxed fails most q.world.store.2 → Absorbs fails signal most p q

variable {l : Lister σ} {signal : StopSignal} {fails : Nat → Option String} {most : Nat}
  {p : Course σ} {q : Course (σ × Nat)}

theorem heedless_kept (fails : Nat → Option String) (signal : StopSignal) (most : Nat) (p : Course σ)
    (q : Course (σ × Nat)) :
    Listing.Heedless (Kept signal most p q) fun _ _ v => Overtaxed fails most v.store.2 where
  both _ _ h := ⟨⟨h.store, h.unstopped, h.unstopped'⟩, h.counts⟩
  cut _ h := h

/-- One turn of both. -/
theorem Absorbs.step (hfinal : l.backend.Final) (hcalm : l.backend.Calm signal)
    (h : Absorbs fails signal l.config.retry.attempts p q) :
    Absorbs fails signal l.config.retry.attempts (p.step l signal)
      (q.step (l.wrapped (Backend.flaky fails)) signal) := by
  cases h with
  | overtaxed hstage hfails =>
    rw [step_ended hstage]
    exact .overtaxed hstage hfails
  | abreast hstage hitems hcalls hworlds hmoment =>
    have hpaired : Paired (Kept signal l.config.retry.attempts p q)
        (fun _ _ v => Overtaxed fails l.config.retry.attempts v.store.2) p q (p.step l signal)
        (q.step (l.wrapped (Backend.flaky fails)) signal) := by
      refine step_paired (heedless_kept ..) rfl hstage hmoment
        (fun _ => ⟨hworlds, Or.inl ⟨rfl, rfl⟩⟩) ?_ ?_
      · intro _ journal journal'
        refine (Retry.call_flaky _ _ fails hfinal.buckets (fun hheeds => (hcalm hheeds).2)
          (w := { p.world with journal }) (v := { q.world with journal := journal' })
          ⟨hworlds.store, hworlds.unstopped, hworlds.unstopped'⟩).imp ?_ (fun _ _ _ h => h)
        exact fun _ _ h => ⟨h.toMirrors, Or.inr ⟨h.once, h.often, h.bounded⟩⟩
      · intro request _
        refine (Retry.call_flaky _ _ fails (hfinal.pages request)
          (fun hheeds => (hcalm hheeds).1 request) (w := p.world.report _) (v := q.world.report _)
          ⟨hworlds.store, hworlds.unstopped, hworlds.unstopped'⟩).imp ?_ (fun _ _ _ h => h)
        exact fun _ _ h => ⟨h.toMirrors, Or.inr ⟨h.once, h.often, h.bounded⟩⟩
    have hbegun := step_ne_opened l signal p
    generalize p.step l signal = p' at hpaired hbegun
    generalize q.step (l.wrapped (Backend.flaky fails)) signal = q' at hpaired
    cases hpaired with
    | cut hcut _ _ => exact .overtaxed rfl hcut
    | @same stage w v call k k' given hboth hk hk' hgiven =>
      refine .abreast rfl ?_ ?_ hboth.toMirrors (fun request h => absurd h (hbegun request))
      · rw [items, items] at hitems
        simp only [items, List.filterMap_append, filterMap_item?_replicate, List.append_nil, hitems]
      · rw [calls, calls] at hcalls
        simp only [calls, List.filterMap_append, filterMap_call?_replicate, hgiven, List.append_nil]
        rcases hboth.counts with ⟨hw, hv⟩ | ⟨hw, hoften, hbounded⟩
        · have hnone : k = 0 := by omega
          have hnone' : k' = 0 := by omega
          rw [hnone, hnone', List.replicate_zero, List.append_nil, List.append_nil]
          exact hcalls
        · have hone : k = 1 := by omega
          rw [hone]
          exact hcalls.concat (by omega) (by omega)

/-- A course over a flaky store, and the one over the store itself. -/
theorem run_flaky (fails : Nat → Option String) (l : Lister σ) (hfinal : l.backend.Final)
    {signal : StopSignal} (hcalm : l.backend.Calm signal) (request : ListRequest) {w : World σ}
    (hw : w.stopAt signal = none) (turns : Nat) :
    Absorbs fails signal l.config.retry.attempts (run l signal turns (start request w))
      (run (l.wrapped (Backend.flaky fails)) signal turns (start request w.numbered)) := by
  induction turns with
  | zero => exact .abreast rfl rfl .nil ⟨rfl, hw, hw⟩ fun _ _ => rfl
  | succ turns ih =>
    rw [run_succ', run_succ']
    exact ih.step hfinal hcalm

end Course

/-- A call under retries to a flaky store, and to the store itself, when both are watched: the same answer,
and the call was repeated. -/
theorem Retry.call_flaky_watched {α : Type} (p : RetryPolicy) (operation : String)
    (fails : Nat → Option String) {f : σ → Reply σ α} (hfinal : ∀ s, (f s).Final) (w : World σ)
    (v : World (σ × Nat)) (hstore : v.store.1 = w.store) (call : StoreCall) :
    let plain := Retry.call p operation {} (noting f call) (w.watched [])
    let flaky := Retry.call p operation {} (noting (numbering (flaking fails) f) call) (v.watched [])
    ¬ Overtaxed fails p.attempts flaky.2.store.1.2 →
      flaky.1 = plain.1 ∧ Repeats p.attempts plain.2.store.2 flaky.2.store.2 := by
  intro plain flaky hcalm
  obtain ⟨k, hk, hcalls⟩ := call_watched p operation {} f w call
  obtain ⟨k', hk', hcalls'⟩ := call_watched p operation {} (numbering (flaking fails) f) v call
  have hmirrors : World.Mirrors {} w v := ⟨hstore, rfl, rfl⟩
  have hheeds : ({} : StopSignal).heedsShared = true → ∀ s, (f s).stops = false := nofun
  have hpair := call_flaky p operation fails hfinal hheeds hmirrors
  have hplain : plain = _ := hcalls []
  have hflaky : flaky = _ := hcalls' []
  rw [hflaky] at hcalm
  rw [hplain, hflaky]
  generalize Retry.call p operation {} f w = r at hpair hk
  generalize Retry.call p operation {} (numbering (flaking fails) f) v = r' at hpair hk' hcalm
  cases hpair with
  | cut hcut => exact absurd hcut hcalm
  | same hboth =>
    have honce := hboth.once
    have hoften := hboth.often
    have hbounded := hboth.bounded
    dsimp only at hk hk'
    have hone : k = 1 := by omega
    rw [hone]
    exact ⟨rfl, Repeats.once (by omega) (by omega)⟩

/-- Fetching an object is the call for it, but for what is reported. -/
theorem fetchObject_of_key (b : Backend σ) (retry : RetryPolicy) {uri : Uri} (signal : StopSignal)
    (w : World σ) {key : Text} (hkey : uri.objectKey = .ok key) :
    let fetched := Retry.call retry "get_object" signal (b.getObject uri.bucket key)
      (w.report (.fetchingObject b.name uri.bucket key))
    (fetchObject b retry uri signal w).1 = fetched.1 ∧
      (fetchObject b retry uri signal w).2.store = fetched.2.store := by
  intro fetched
  rw [fetchObject, hkey]
  match hcall : fetched with
  | (.error e, w') =>
    dsimp only [fetched] at hcall
    dsimp only
    rw [hcall]
    exact ⟨rfl, rfl⟩
  | (.ok data, w') =>
    dsimp only [fetched] at hcall
    dsimp only
    rw [hcall]
    exact ⟨rfl, rfl⟩

namespace Client

variable {fails : Nat → Option String} {c : Client σ}

theorem list_absorbed (hfinal : ∀ scheme, (c.storeFor scheme).1.Final) {signal : StopSignal}
    (hcalm : ∀ scheme, (c.storeFor scheme).1.Calm signal) {w : World σ}
    (hw : w.stopAt signal = none) (uri : Text) (options : ListOptions) (turns : Nat) :
    let plain := ((c.wrapped Backend.watched).list uri options signal turns (w.watched [])).1
    let flaky := ((c.wrapped fun b => (b.flaky fails).watched).list uri options signal turns
      (w.numbered.watched [])).1
    ¬ Overtaxed fails c.config.retry.attempts flaky.world.store.1.2 →
      flaky.items = plain.items ∧ flaky.ending = plain.ending ∧
        Repeats c.config.retry.attempts plain.world.store.2 flaky.world.store.2 := by
  rw [list, list, openListing_wrapped, openListing_wrapped]
  cases hparse : Uri.parse uri with
  | error e =>
    rw [openListing, hparse]
    exact fun _ => ⟨rfl, rfl, .nil⟩
  | ok parsed =>
    rw [openListing_of_parse hparse]
    let l : Lister σ := ⟨(c.storeFor parsed.scheme).1, c.config⟩
    let request : ListRequest := ⟨parsed, options.recursive, options.cap, options.filter⟩
    have hrun := Course.run_flaky fails l (hfinal parsed.scheme) (hcalm parsed.scheme) request hw turns
    intro plain flaky hbearable
    have hplain : plain = _ := Course.collect_watched l signal turns request w
    have hflaky : flaky = _ :=
      Course.collect_watched (l.wrapped (Backend.flaky fails)) signal turns request w.numbered
    rw [hflaky] at hbearable
    rw [hplain, hflaky]
    cases hrun with
    | overtaxed _ hfails => exact absurd hfails hbearable
    | abreast hstage hitems hcalls _ _ => exact ⟨hitems, congrArg Stage.ending hstage, hcalls⟩

theorem listBuckets_absorbed (hfinal : ∀ scheme, (c.storeFor scheme).1.Final) (w : World σ)
    (uri : Text) :
    let plain := (c.wrapped Backend.watched).listBuckets uri (w.watched [])
    let flaky := (c.wrapped fun b => (b.flaky fails).watched).listBuckets uri (w.numbered.watched [])
    ¬ Overtaxed fails c.config.retry.attempts flaky.2.2.store.1.2 →
      flaky.1 = plain.1 ∧
        Repeats c.config.retry.attempts plain.2.2.store.2 flaky.2.2.store.2 := by
  rw [listBuckets, listBuckets]
  cases Uri.parse uri with
  | error e => exact fun _ => ⟨rfl, .nil⟩
  | ok parsed =>
    dsimp only
    split
    · exact fun _ => ⟨rfl, .nil⟩
    · rw [storeFor_wrapped, storeFor_wrapped, wrapped_config, wrapped_config, storeFor_config]
      exact Retry.call_flaky_watched c.config.retry "list_buckets" fails
        (hfinal parsed.scheme).buckets
        (w.report (.listingBuckets (c.storeFor parsed.scheme).1.name))
        (w.numbered.report (.listingBuckets (c.storeFor parsed.scheme).1.name)) rfl .listBuckets

theorem getObject_absorbed (hfinal : ∀ scheme, (c.storeFor scheme).1.Final) (w : World σ)
    (uri : Text) :
    let plain := (c.wrapped Backend.watched).getObject uri (w.watched [])
    let flaky := (c.wrapped fun b => (b.flaky fails).watched).getObject uri (w.numbered.watched [])
    ¬ Overtaxed fails c.config.retry.attempts flaky.2.2.store.1.2 →
      flaky.1 = plain.1 ∧
        Repeats c.config.retry.attempts plain.2.2.store.2 flaky.2.2.store.2 := by
  rw [getObject, getObject]
  cases Uri.parse uri with
  | error e => exact fun _ => ⟨rfl, .nil⟩
  | ok parsed =>
    dsimp only
    rw [storeFor_wrapped, storeFor_wrapped, wrapped_config, wrapped_config, storeFor_config]
    cases hkey : parsed.objectKey with
    | error e =>
      rw [fetchObject, fetchObject, hkey]
      exact fun _ => ⟨rfl, .nil⟩
    | ok key =>
      obtain ⟨hplain, hstore⟩ := fetchObject_of_key (c.storeFor parsed.scheme).1.watched
        c.config.retry {} (w.watched []) hkey
      obtain ⟨hflaky, hstore'⟩ := fetchObject_of_key ((c.storeFor parsed.scheme).1.flaky fails).watched
        c.config.retry {} (w.numbered.watched []) hkey
      rw [hplain, hstore, hflaky, hstore']
      exact Retry.call_flaky_watched c.config.retry "get_object" fails
        ((hfinal parsed.scheme).objects parsed.bucket key)
        (w.report (.fetchingObject (c.storeFor parsed.scheme).1.name parsed.bucket key))
        (w.numbered.report (.fetchingObject (c.storeFor parsed.scheme).1.name parsed.bucket key)) rfl
        (.getObject parsed.bucket key)

/-- A client of flaky stores that never fail in all attempts at a call gets what it gets of the stores themselves,
of listings that nothing stops, of lists of buckets and of objects; and what it asks for is what it asks
for without the failures, each call repeated in its place. -/
theorem flaky_absorbed (c : Client σ) (fails : Nat → Option String) (w : World σ)
    (hfinal : ∀ scheme, (c.storeFor scheme).1.Final) :
    let sound := c.wrapped Backend.watched
    let flaky := c.wrapped fun b => (b.flaky fails).watched
    let most := c.config.retry.attempts
    (∀ uri options signal turns, w.stopAt signal = none →
      (∀ scheme, (c.storeFor scheme).1.Calm signal) →
      let r := (sound.list uri options signal turns (w.watched [])).1
      let r' := (flaky.list uri options signal turns (w.numbered.watched [])).1
      ¬ Overtaxed fails most r'.world.store.1.2 →
        r'.items = r.items ∧ r'.ending = r.ending ∧
          Repeats most r.world.store.2 r'.world.store.2) ∧
      (∀ uri,
        let r := sound.listBuckets uri (w.watched [])
        let r' := flaky.listBuckets uri (w.numbered.watched [])
        ¬ Overtaxed fails most r'.2.2.store.1.2 →
          r'.1 = r.1 ∧ Repeats most r.2.2.store.2 r'.2.2.store.2) ∧
      ∀ uri,
        let r := sound.getObject uri (w.watched [])
        let r' := flaky.getObject uri (w.numbered.watched [])
        ¬ Overtaxed fails most r'.2.2.store.1.2 →
          r'.1 = r.1 ∧ Repeats most r.2.2.store.2 r'.2.2.store.2 :=
  ⟨fun uri options _ turns hw hcalm => list_absorbed hfinal hcalm hw uri options turns,
    fun uri => listBuckets_absorbed hfinal w uri, fun uri => getObject_absorbed hfinal w uri⟩

/-- A store that fails in every other call. -/
def everyOther (n : Nat) : Option String := if n % 2 = 0 then some "busy" else none

/-- Everything is listed, though every page has to be asked for twice. -/
theorem flaky_absorbed_everyOther :
    let c : Client Unit := { stores := .one (Lister.answering directoryAhead).backend }
    let w : World Unit := { store := () }
    let r' := ((c.wrapped fun b => (b.flaky everyOther).watched).list "s3://b/".toList
      { recursive := true } {} 11 (w.numbered.watched [])).1
    r'.items = [.object (.object ['a', '/', 'x'] 1 {}), .object (.object ['b'] 5 {}),
        .object (.object ['c'] 7 {})] ∧
      r'.ending = .complete := by
  have hpage (bucket under : Text) (token : Option Text) :
      ∃ page, directoryAhead bucket under token = .ok page := by
    unfold directoryAhead
    split
    · exact ⟨_, rfl⟩
    · cases token with
      | none => exact ⟨_, rfl⟩
      | some token => exact ⟨_, rfl⟩
  have hfinal : (Lister.answering directoryAhead).backend.Final := by
    refine ⟨?_, nofun, nofun⟩
    intro request s e h
    obtain ⟨page, hok⟩ := hpage request.bucket request.under request.token
    cases hok.symm.trans h
  obtain ⟨hlist, -⟩ := flaky_absorbed
    { stores := .one (Lister.answering directoryAhead).backend } everyOther { store := () }
    fun _ => hfinal
  obtain ⟨hitems, hending, -⟩ := hlist "s3://b/".toList { recursive := true } {} 11 rfl
    (fun _ h => nomatch h) (by
      rintro ⟨first, -, hfails⟩
      have hone := hfails 0 (by decide)
      have hnext := hfails 1 (by decide)
      simp only [everyOther, ne_eq, ite_eq_right_iff, reduceCtorEq, imp_false, not_not] at hone hnext
      omega)
  exact ⟨hitems.trans (by decide +kernel), hending.trans (by decide +kernel)⟩

end Client

end ObjectListing
