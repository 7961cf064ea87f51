import ObjectListing.Proofs.Listing.Attempts
import ObjectListing.Proofs.Store.Flaky

/-!
Listings of all buckets. A URI without a bucket can be listed in two ways, as a listing and by the direct question
for the buckets. A call that nothing stops comes to what it comes to without a signal (`Retry.call_undisturbed`), and
a listing gives out the buckets that came, up to its cap, whatever its filter (`Listing.collectFrom_buckets`); so the
two ways come to the same (`Client.list_eq_listBuckets`).
-/

namespace ObjectListing

variable {σ α : Type}

/-! ### Calls that nothing stops -/

/-- A question that stops nobody, however often it is asked, beginning with this state of the store. -/
def StopsNobody (f : σ → Reply σ α) (s : σ) : Prop := ∀ n, (f ((fun s => (f s).store)^[n] s)).stops = false

theorem StopsNobody.next {f : σ → Reply σ α} {s : σ} (h : StopsNobody f s) : StopsNobody f (f s).store :=
  fun n => h (n + 1)

theorem StopsNobody.noting {f : σ → Reply σ α} {s : σ} (h : StopsNobody f s) (call : StoreCall)
    (calls : List StoreCall) : StopsNobody (noting f call) (s, calls) := by
  intro n
  induction n generalizing s calls with
  | zero => exact h 0
  | succ n ih => exact ih h.next (calls ++ [call])

/-- A script in which no answer stops the caller stops nobody. -/
theorem ScriptedStore.stopsNobody {s : ScriptedStore} (h : ∀ a ∈ s.buckets, a.stops = false) :
    StopsNobody backend.listBuckets s := by
  intro n
  induction n generalizing s with
  | zero =>
    change (s.buckets.headD exhausted).stops = false
    cases hbuckets : s.buckets with
    | nil => rfl
    | cons a rest => exact h a (by rw [hbuckets]; exact List.mem_cons_self)
  | succ n ih => exact ih fun a ha => h a (List.mem_of_mem_tail ha)

/-- Worlds that differ at most in the events so far, where neither an operation is stopped nor a question stops it. -/
structure World.Undisturbed (signal : StopSignal) (f : σ → Reply σ α) (w v : World σ) : Prop where
  same : ∃ journal, v = { w with journal }
  unstopped : w.stopAt signal = none
  spared : signal.heedsShared = true → StopsNobody f w.store

namespace Retry

variable {p : RetryPolicy} {operation : String} {signal : StopSignal} {f : σ → Reply σ α} {w v : World σ}

/-- A pause that nothing stops is the pause of one who heeds no signal. -/
theorem rest_of_unstopped (failed : Nat) (e : StoreError) (hw : w.stopAt signal = none) :
    rest p operation {} failed e w = rest p operation signal failed e w := by
  rw [rest, rest, World.wait_of_unstopped rfl, World.wait_of_unstopped (by simpa using hw)]

theorem inStep_undisturbed (p : RetryPolicy) (operation : String) (signal : StopSignal)
    (f : σ → Reply σ α) :
    InStep (σ := σ) p operation signal {} (World.Undisturbed signal f) where
  isStopped := by
    rintro w _ ⟨⟨journal, rfl⟩, hw, -⟩
    rw [World.isStopped_eq_false hw]
    rfl
  report := by
    rintro w _ e ⟨⟨journal, rfl⟩, hw, hspared⟩
    exact ⟨⟨e :: journal, rfl⟩, hw, hspared⟩
  rest := by
    rintro w w' _ failed e ended ⟨⟨journal, rfl⟩, hw, hspared⟩ hrest
    obtain ⟨journal', hsame⟩ := rest_journal p operation {} failed e w journal
    rw [rest_of_unstopped failed e hw, hrest] at hsame
    exact ⟨_, hsame, ⟨_, rfl⟩, (stopAt_rest hrest).trans hw, fun hheeds => store_rest hrest ▸ hspared hheeds⟩

/-- A call that nothing stops comes to what it comes to for one who heeds no signal. -/
theorem call_undisturbed (p : RetryPolicy) (operation : String) (h : World.Undisturbed signal f w v) :
    (call p operation {} f v).1 = (call p operation signal f w).1 ∧ ∃ journal,
      (call p operation {} f v).2 = { (call p operation signal f w).2 with journal } := by
  have hran : Ran p operation signal f (p.attempts - 1) 0 w (call p operation signal f w) :=
    attempt_ran _ _ w
  have hcall {w v : World σ} (h : World.Undisturbed signal f w v) (answer : Except StoreError α)
      (w' : World σ) (hc : w.call f = (answer, w')) :
      ∃ v', v.call f = (answer, v') ∧ World.Undisturbed signal f w' v' := by
    obtain ⟨⟨journal, rfl⟩, hw, hspared⟩ := h
    obtain ⟨journal', hsame⟩ := call_journal f w journal
    have hstop := World.stopAt_call_eq (w := w) fun hheeds => hspared hheeds 0
    have hstore := World.store_call (w := w) (f := f)
    rw [hc] at hsame hstop hstore
    exact ⟨_, hsame, ⟨_, rfl⟩, hstop.trans hw, fun hheeds => hstore ▸ (hspared hheeds).next⟩
  obtain ⟨r, hran', hanswer, hboth⟩ := hran.inStep (inStep_undisturbed p operation signal f)
    (fun r r' => r'.1 = r.1 ∧ World.Undisturbed signal f r.2 r'.2) (fun h => ⟨rfl, h⟩)
    (fun h _ => Or.inl (hcall h)) h
  rw [call, hran'.attempt_eq]
  exact ⟨hanswer, hboth.same⟩

end Retry

/-! ### Giving out the buckets -/

theorem Uri.isEnumeration_of_bucket {uri : Uri} (h : uri.bucket = []) : uri.isEnumeration = true := by
  rw [isEnumeration, h]
  rfl

/-- How many more may be given out. -/
def Selection.left (s : Selection) (emitted : Nat) : Option Nat := s.cap.map (· - emitted)

section Left

variable {s : Selection} {emitted : Nat}

theorem Selection.left_zero (s : Selection) : s.left 0 = s.cap := by
  rw [left]
  cases s.cap <;> rfl

theorem map_upToCap {β : Type} (f : α → β) (cap : Option Nat) (as : List α) :
    (upToCap cap as).map f = upToCap cap (as.map f) := by
  cases cap with
  | none => rfl
  | some most => exact List.map_take

theorem upToCap_left_nil (h : s.reached emitted = true) (as : List α) : upToCap (s.left emitted) as = [] := by
  obtain ⟨most, hcap, hmost⟩ := Selection.reached_iff.mp h
  rw [Selection.left, hcap, Option.map_some, Nat.sub_eq_zero_of_le hmost]
  rfl

theorem upToCap_left_cons (h : s.reached emitted = false) (a : α) (as : List α) :
    upToCap (s.left emitted) (a :: as) = a :: upToCap (s.left (emitted + 1)) as := by
  rw [Selection.left, Selection.left]
  rw [Selection.reached] at h
  cases hcap : s.cap with
  | none => rfl
  | some most =>
    rw [hcap] at h
    have hlt : emitted < most := by simpa using h
    obtain ⟨more, rfl⟩ := Nat.exists_eq_add_of_lt hlt
    have hleft : emitted + more + 1 - emitted = more + 1 := by omega
    have hnext : emitted + more + 1 - (emitted + 1) = more := by omega
    rw [Option.map_some, Option.map_some, hleft, hnext]
    rfl

end Left

namespace Listing

variable {l : Lister σ} {signal : StopSignal} {request : ListRequest} {filter : Filter} {w : World σ}

/-- A listing gives out the buckets that came, as many as are left to the cap. -/
theorem collectFrom_buckets (l : Lister σ) (signal : StopSignal) (s : Selection) :
    ∀ (rest : List BucketEntry) (turns emitted : Nat) (found : List ListItem) (w : World σ),
      rest.length < turns →
      collectFrom l signal turns found (.buckets rest s emitted) w =
        ⟨found.reverse ++ (upToCap (s.left emitted) rest).map .bucket, .complete,
          w.report (.listingFinished (emitted + (upToCap (s.left emitted) rest).length))⟩
  | [], turns + 1, emitted, found, w, _ => by
    have hnone : upToCap (s.left emitted) ([] : List BucketEntry) = [] :=
      List.prefix_nil.mp (upToCap_isPrefix _ _)
    rw [collectFrom, turn, hnone]
    simp
  | b :: rest, turns + 1, emitted, found, w, hturns => by
    rw [collectFrom, turn]
    cases hreached : s.reached emitted with
    | true =>
      rw [if_pos rfl, upToCap_left_nil hreached]
      simp
    | false =>
      rw [if_neg Bool.false_ne_true, upToCap_left_cons hreached]
      have hrest := collectFrom_buckets l signal s rest turns (emitted + 1) (.bucket b :: found) w
        (Nat.lt_of_succ_lt_succ hturns)
      refine hrest.trans ?_
      simp [Nat.add_assoc, Nat.add_comm 1]

/-- What was gathered is what an answer to the question for all buckets has, up to a cap, after the calls that led to
the answer; or it is nothing, and the listing failed as the question did. -/
structure Gathered.Brings (r : Gathered σ) (cap : Option Nat) (answer : Except StoreError (List BucketEntry))
    (answered : World σ) : Prop where
  store : r.world.store = answered.store
  callTimes : r.world.callTimes = answered.callTimes
  found : ∀ buckets, answer = .ok buckets →
    r.items = upToCap cap (buckets.map .bucket) ∧ r.ending = .complete
  failed : ∀ e, answer = .error e → r.items = [] ∧ r.ending = .failed e

/-- A listing that is to give out nothing asks for nothing. -/
theorem collect_of_reached (hfilter : request.filter.compile w.moment = .ok filter)
    (hreached : (request.selection filter).reached 0 = true) (turns : Nat) :
    collect l signal (turns + 2) (.opened request) w =
      ⟨[], .complete, (opening l request filter w).report (.listingFinished 0)⟩ := by
  rw [collect, collectFrom, turn, begin_eq_opens, opens, hfilter]
  dsimp only
  rw [if_pos hreached]
  rfl

/-- A listing of all buckets asks for them, and gives out those that come, up to its cap. -/
theorem collect_of_enumeration (hbucket : request.uri.bucket = [])
    (hfilter : request.filter.compile w.moment = .ok filter)
    (hreached : (request.selection filter).reached 0 = false) {turns : Nat} :
    let asked := bucketCall l signal (opening l request filter w)
    (∀ found, asked.1 = .ok found → found.length < turns →
      collect l signal (turns + 1) (.opened request) w =
        ⟨upToCap request.cap (found.map .bucket), .complete,
          asked.2.report (.listingFinished (upToCap request.cap found).length)⟩) ∧
    ∀ e, asked.1 = .error e →
      collect l signal (turns + 1) (.opened request) w = ⟨[], .failed e, asked.2⟩ := by
  intro asked
  have hbegin : begin l signal request w = .ofBuckets (request.selection filter) asked := by
    rw [begin_eq_opens, opens, hfilter]
    dsimp only
    rw [if_neg (Bool.eq_false_iff.mp hreached), if_pos (Uri.isEnumeration_of_bucket hbucket)]
  rw [collect, collectFrom, turn, hbegin]
  obtain ⟨answer, w'⟩ := asked
  refine ⟨?_, ?_⟩
  · rintro found rfl hturns
    have hleft : (request.selection filter).left 0 = request.cap := Selection.left_zero _
    have hgiven := collectFrom_buckets l signal (request.selection filter) found turns 0 [] w' hturns
    rw [hleft, map_upToCap, Nat.zero_add] at hgiven
    exact hgiven
  · rintro e rfl
    rfl

end Listing

namespace Client

variable {c : Client σ} {w : World σ} {uri : Text} {parsed : Uri} {options : ListOptions} {filter : Filter}
  {signal : StopSignal}

/-- The direct question for the buckets of a URI that stands for all of them. -/
theorem listBuckets_of_parse (hparse : Uri.parse uri = .ok parsed) (hbucket : parsed.bucket = [])
    (c : Client σ) (w : World σ) :
    let asked := Retry.call c.config.retry "list_buckets" {} (c.storeFor parsed.scheme).1.listBuckets
      (w.report (.listingBuckets (c.storeFor parsed.scheme).1.name))
    c.listBuckets uri w = (asked.1, (c.storeFor parsed.scheme).2, asked.2) := by
  rw [listBuckets, hparse]
  dsimp only
  rw [Uri.isEnumeration_of_bucket hbucket, storeFor_config]
  rfl

/-- A listing of all buckets comes to what the direct question for them comes to. -/
theorem list_of_enumeration (hparse : Uri.parse uri = .ok parsed) (hbucket : parsed.bucket = [])
    (hfilter : options.filter.compile w.moment = .ok filter) (hw : w.stopAt signal = none)
    (hspared : signal.heedsShared = true → StopsNobody (c.storeFor parsed.scheme).1.listBuckets w.store) :
    let direct := c.listBuckets uri w
    ∃ enough, ∀ turns, enough ≤ turns →
      let r := (c.list uri options signal turns w).1
      (options.cap = some 0 → r.items = [] ∧ r.ending = .complete ∧ r.world.store = w.store ∧
        r.world.callTimes = w.callTimes) ∧
      (options.cap ≠ some 0 → r.Brings options.cap direct.1 direct.2.2) := by
  let l : Lister σ := ⟨(c.storeFor parsed.scheme).1, c.config⟩
  let request : ListRequest := ⟨parsed, options.recursive, options.cap, options.filter⟩
  have hlist (turns : Nat) : (c.list uri options signal turns w).1 =
      Listing.collect l signal turns (.opened request) w := by
    rw [list, openListing_of_parse hparse]
  rw [listBuckets_of_parse hparse hbucket]
  simp only [hlist]
  cases hreached : (request.selection filter).reached 0 with
  | true =>
    obtain ⟨most, hmost, hzero⟩ := Selection.reached_iff.mp hreached
    obtain rfl : most = 0 := Nat.le_zero.mp hzero
    refine ⟨2, fun turns hturns => ⟨fun _ => ?_, fun hcap => absurd hmost hcap⟩⟩
    obtain ⟨more, rfl⟩ := Nat.exists_eq_add_of_le' hturns
    rw [Listing.collect_of_reached hfilter hreached]
    exact ⟨rfl, rfl, rfl, rfl⟩
  | false =>
    have hcap : options.cap ≠ some 0 := by
      intro hzero
      rw [Selection.reached_iff.mpr ⟨0, hzero, Nat.le_refl 0⟩] at hreached
      cases hreached
    have hundisturbed : World.Undisturbed signal l.backend.listBuckets (Listing.opening l request filter w)
        (w.report (.listingBuckets l.backend.name)) := ⟨⟨_, rfl⟩, hw, hspared⟩
    obtain ⟨hanswer, journal, hworld⟩ :=
      Retry.call_undisturbed c.config.retry "list_buckets" hundisturbed
    rw [hanswer, hworld]
    cases hasked : (Listing.bucketCall l signal (Listing.opening l request filter w)).1 with
    | ok found =>
      refine ⟨found.length + 2, fun turns hturns => ⟨fun hzero => absurd hzero hcap, fun _ => ?_⟩⟩
      obtain ⟨more, rfl⟩ := Nat.exists_eq_add_of_le' hturns
      have hgiven := (Listing.collect_of_enumeration hbucket hfilter hreached).1 found hasked
        (show found.length < more + found.length + 1 by omega)
      rw [show more + (found.length + 2) = more + found.length + 1 + 1 by omega, hgiven]
      refine ⟨rfl, rfl, fun found' hfound => ?_, fun e hfailed => ?_⟩
      · cases hasked.symm.trans hfound
        exact ⟨rfl, rfl⟩
      · cases hasked.symm.trans hfailed
    | error e =>
      refine ⟨1, fun turns hturns => ⟨fun hzero => absurd hzero hcap, fun _ => ?_⟩⟩
      obtain ⟨more, rfl⟩ := Nat.exists_eq_add_of_le' hturns
      rw [(Listing.collect_of_enumeration hbucket hfilter hreached).2 e hasked]
      refine ⟨rfl, rfl, fun found hfound => ?_, fun e' hfailed => ?_⟩
      · cases hasked.symm.trans hfound
      · cases hasked.symm.trans hfailed
        exact ⟨rfl, rfl⟩

/-- The direct question for the buckets asks for nothing else, once in every attempt. -/
theorem listBuckets_asks (hparse : Uri.parse uri = .ok parsed) (hbucket : parsed.bucket = []) (c : Client σ)
    (w : World σ) :
    ∃ asks, 0 < asks ∧ asks ≤ c.config.retry.attempts ∧
      ((c.wrapped Backend.watched).listBuckets uri (w.watched [])).2.2.store.2 =
        List.replicate asks .listBuckets := by
  let b := (c.storeFor parsed.scheme).1
  let p := c.config.retry
  have hran : Retry.Ran p "list_buckets" {} b.listBuckets (p.attempts - 1) 0 (w.report (.listingBuckets b.name))
      (Retry.call p "list_buckets" {} b.listBuckets (w.report (.listingBuckets b.name))) :=
    Retry.attempt_ran _ _ _
  obtain ⟨asks, hmade, hcalls⟩ := Retry.call_watched p "list_buckets" {} b.listBuckets
    (w.report (.listingBuckets b.name)) .listBuckets
  have hlt := hran.callTimes_lt rfl
  have hle := hran.callTimes_le_left
  have hpos : 0 < p.attempts := Nat.le_max_right _ _
  refine ⟨asks, by omega, show asks ≤ p.attempts by omega, ?_⟩
  rw [listBuckets_of_parse hparse hbucket, storeFor_wrapped]
  exact congrArg (·.2.store.2) (hcalls [])

/-- Listing all buckets and asking for them directly come to the same, for any store, any failures on the way, any
filter that can be read and any cap but zero, when nothing stops the listing: it gives out the buckets that the direct
question brings, in their order and up to the cap, or fails as the question does, with nothing given out, after the
same calls at the same times, all of them for the buckets. With a cap of zero it gives out nothing and makes no
call. -/
theorem list_eq_listBuckets (hparse : Uri.parse uri = .ok parsed) (hbucket : parsed.bucket = [])
    (hfilter : options.filter.compile w.moment = .ok filter) (hw : w.stopAt signal = none)
    (hspared : signal.heedsShared = true → StopsNobody (c.storeFor parsed.scheme).1.listBuckets w.store) :
    let watched := c.wrapped Backend.watched
    let direct := watched.listBuckets uri (w.watched [])
    (∃ asks, 0 < asks ∧ asks ≤ c.config.retry.attempts ∧
      direct.2.2.store.2 = List.replicate asks .listBuckets) ∧
    ∃ enough, ∀ turns, enough ≤ turns →
      let r := (watched.list uri options signal turns (w.watched [])).1
      (options.cap = some 0 → r.items = [] ∧ r.ending = .complete ∧ r.world.store = (w.store, []) ∧
        r.world.callTimes = w.callTimes) ∧
      (options.cap ≠ some 0 → r.Brings options.cap direct.1 direct.2.2) := by
  refine ⟨listBuckets_asks hparse hbucket c w, ?_⟩
  refine list_of_enumeration (w := w.watched []) hparse hbucket hfilter hw ?_
  intro hheeds
  rw [storeFor_wrapped]
  exact (hspared hheeds).noting .listBuckets []

/-- The store is busy once, and the filter accepts neither name; the listing brings the first bucket, like the direct
question, at the second call. -/
theorem list_eq_listBuckets_busyOnce :
    let c : Client ScriptedStore := { stores := .one ScriptedStore.backend }
    let answers : List (ScriptedAnswer (List BucketEntry)) :=
      [{ outcome := .error (.transient "busy") }, { outcome := .ok [⟨['a'], none⟩, ⟨['b'], none⟩] }]
    let w : World ScriptedStore := { store := { buckets := answers } }
    let options : ListOptions := { cap := some 1, filter := { name := some (.single ['z']) } }
    ∃ enough, ∀ turns, enough ≤ turns →
      let r := ((c.wrapped Backend.watched).list "s3://".toList options { heedsShared := true } turns
        (w.watched [])).1
      r.items = [.bucket ⟨['a'], none⟩] ∧ r.ending = .complete ∧
        r.world.store.2 = [.listBuckets, .listBuckets] := by
  intro c answers w options
  have hparse : Uri.parse "s3://".toList = .ok ⟨.s3, [], []⟩ := by rfl
  have hfilter : options.filter.compile w.moment = .ok { name := some ⟨['z'], .exact, true⟩ } := by rfl
  have hw : w.stopAt { heedsShared := true } = none := rfl
  have hspared : StopsNobody (c.storeFor .s3).1.listBuckets w.store :=
    ScriptedStore.stopsNobody (by simp [w, answers])
  obtain ⟨-, enough, hlist⟩ := list_eq_listBuckets hparse rfl hfilter hw fun _ => hspared
  refine ⟨enough, fun turns hturns => ?_⟩
  obtain ⟨hstore, -, hgiven, -⟩ := (hlist turns hturns).2 (by decide)
  obtain ⟨hitems, hending⟩ := hgiven [⟨['a'], none⟩, ⟨['b'], none⟩] rfl
  exact ⟨hitems, hending, congrArg Prod.snd hstore⟩

end Client

end ObjectListing
