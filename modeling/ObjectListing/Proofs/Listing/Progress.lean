import ObjectListing.Proofs.Listing.Discipline
import ObjectListing.Proofs.Listing.Failure

/-!
Why listings get on, whatever their stores answer. Others see of a listing what it calls its store for, what it gives
out, and its end. Between two of these it makes no more turns than its load (`Listing.load`): an entry that is looked
at weighs more than the frame of a prefix that is entered for it, and a frame that is left no longer weighs anything
(`Course.step_moved`). Only a page brings new load, and a store can bring pages forever; but a store that gives up
after some calls (`Backend.GivesUp`), as all do that are to break (`Backend.givesUp_brokenAt`), lets every listing
come to its end (`Course.progress`).
-/

namespace ObjectListing

variable {σ α : Type}

/-! ### Stores that give up -/

/-- Whether a reply is a failure for good, after which the call is not made again. -/
def Reply.FailsForGood (r : Reply σ α) : Prop := ∃ e, r.answer = .error e ∧ e.isTransient = false

/-- Whether a call that a listing can make, and that does not fail for good, leads from one state of a store to
another. -/
inductive Backend.Endured (b : Backend σ) : (after before : σ) → Prop
  | page {s : σ} (request : PageRequest) : ¬(b.listObjects request s).FailsForGood →
      Endured b (b.listObjects request s).store s
  | buckets {s : σ} : ¬(b.listBuckets s).FailsForGood → Endured b (b.listBuckets s).store s

/-- Whether a store that is in this state answers some calls only, whatever they ask for and however many they are,
and fails for good at the one after them. -/
def Backend.GivesUp (b : Backend σ) (s : σ) : Prop := Acc b.Endured s

/-- A store that breaks at a call endures the other ones, and counts them. -/
theorem Backend.Endured.of_brokenAt {b : Backend σ} {k : Nat} {e : StoreError} (he : e.isTransient = false)
    {after before : σ × Nat} (h : (b.brokenAt k e).Endured after before) :
    before.2 + 1 ≠ k ∧ after.2 = before.2 + 1 := by
  have hbreaks {β : Type} {r : Reply σ β} (hk : before.2 + 1 = k) :
      ((breaking k e β before.2 before.1 r).counted (before.2 + 1)).FailsForGood := by
    rw [breaking, if_pos hk]
    exact ⟨e, rfl, he⟩
  cases h with
  | page request hgoes => exact ⟨fun hk => hgoes (hbreaks hk), rfl⟩
  | buckets hgoes => exact ⟨fun hk => hgoes (hbreaks hk), rfl⟩

/-- Every store gives up that is to break for good. -/
theorem Backend.givesUp_brokenAt {e : StoreError} (he : e.isTransient = false) (b : Backend σ) {k : Nat}
    {s : σ × Nat} (hahead : s.2 < k) : (b.brokenAt k e).GivesUp s := by
  obtain ⟨left, hleft⟩ := Nat.exists_eq_add_of_lt hahead
  induction left generalizing s with
  | zero =>
    refine .intro s fun after hendured => ?_
    exact absurd hleft.symm (hendured.of_brokenAt he).1
  | succ left ih =>
    refine .intro s fun after hendured => ?_
    obtain ⟨-, hcount⟩ := hendured.of_brokenAt he
    exact ih (by omega) (by omega)

/-- A call under retries that comes to an answer leads a store on, by one attempt or more. -/
theorem Retry.Ran.transGen {p : RetryPolicy} {operation : String} {signal : StopSignal} {f : σ → Reply σ α}
    {Leads : (after before : σ) → Prop} (hleads : ∀ s, ¬(f s).FailsForGood → Leads (f s).store s)
    {left failed : Nat} {w : World σ} {r : Except StoreError α × World σ}
    (h : Ran p operation signal f left failed w r) {value : α} (hr : r.1 = .ok value) :
    Relation.TransGen Leads r.2.store w.store := by
  have hcalled {w w' : World σ} {answer : Except StoreError α} (hc : w.call f = (answer, w'))
      (hgoes : ∀ e, answer = .error e → e.isTransient = true) : Leads w'.store w.store := by
    obtain rfl : (f w.store).answer = answer := congrArg Prod.fst hc
    obtain rfl : (w.call f).2 = w' := congrArg Prod.snd hc
    rw [World.store_call]
    refine hleads w.store ?_
    rintro ⟨e, he, hfinal⟩
    rw [hgoes e he] at hfinal
    cases hfinal
  induction h with
  | stopped _ => cases hr
  | answered _ hc => exact .single (hcalled hc nofun)
  | refused _ _ _ => cases hr
  | exhausted _ _ _ => cases hr
  | interrupted _ _ _ _ => cases hr
  | again _ hc htransient hrest _ ih =>
    have hlater := ih hr
    rw [store_rest hrest] at hlater
    refine hlater.tail (hcalled hc ?_)
    rintro e ⟨⟩
    exact htransient

namespace Listing

variable {l : Lister σ} {signal : StopSignal} {w w' : World σ}

theorem called_of_pageCall {request : PageRequest} {page : Page}
    (h : pageCall l signal request w = (.ok page, w')) :
    w.callTimes.length < w'.callTimes.length ∧ Relation.TransGen l.backend.Endured w'.store w.store := by
  have hran : Retry.Ran l.config.retry "list_objects" signal (l.backend.listObjects request) _ 0 _
      (pageCall l signal request w) := Retry.attempt_ran _ _ _
  rw [h] at hran
  exact ⟨callTimes_lt_of_pageCall h, hran.transGen (fun _ => .page request) rfl⟩

theorem called_of_bucketCall {found : List BucketEntry} (h : bucketCall l signal w = (.ok found, w')) :
    w.callTimes.length < w'.callTimes.length ∧ Relation.TransGen l.backend.Endured w'.store w.store := by
  have hran : Retry.Ran l.config.retry "list_buckets" signal l.backend.listBuckets _ 0 w
      (bucketCall l signal w) := Retry.attempt_ran _ _ _
  rw [h] at hran
  exact ⟨hran.callTimes_lt_of_ok rfl, hran.transGen (fun _ => .buckets) rfl⟩

end Listing

/-! ### The load of a listing -/

/-- What a frame weighs: its entries, each of which can put another frame on top of it, and itself. -/
def Frame.load (f : Frame) : Nat := 2 * f.pending.length + 1

/-- What a stack of frames weighs. -/
def Frame.loads : List Frame → Nat
  | [] => 0
  | f :: outer => f.load + loads outer

/-- The turns that a listing can make, at most, before it calls its store or is over, when it gives nothing out. -/
def Listing.load : Listing → Nat
  | .opened _ => 2
  | .buckets rest _ _ => rest.length
  | .walking walk => Frame.loads walk.stack

section Load

variable {f : Frame} {e : ObjectEntry} {rest : List ObjectEntry} {outer : List Frame} {walk : Walk}

theorem Frame.load_entered (under : Text) : ({ under } : Frame).load = 1 := rfl

theorem Frame.load_of_pending (h : f.pending = e :: rest) :
    f.load = ({ f with pending := rest } : Frame).load + 2 := by
  rw [load, load, h, List.length_cons]
  dsimp only
  omega

theorem Listing.load_of_stack (h : walk.stack = f :: outer) :
    (walking walk).load = f.load + Frame.loads outer := by
  rw [load, h, Frame.loads]

end Load

/-- A listing that begins without a call has less to do after its first turn. -/
theorem Listing.load_lt_of_settled {pageSize : Nat} {request : ListRequest} {now : Instant} {filter : Filter}
    {rest : Listing} (h : opens pageSize request now = .settled filter rest) :
    rest.load < (opened request).load := by
  rw [opens] at h
  split at h
  · cases h
  · split at h
    · cases h
      exact Nat.two_pos
    · split at h
      · cases h
      · cases h
        exact Nat.one_lt_two

/-! ### Single turns -/

namespace Course

variable {l : Lister σ} {signal : StopSignal} {c : Course σ} {listing : Listing}

/-- What one turn makes of a listing that is under way: it is over, or goes on with less to do and the store as it
was, or it called the store and got an answer. -/
inductive Moved (b : Backend σ) (listing : Listing) (c : Course σ) : Course σ → Prop
  | halted {failure : Option StoreError} {w : World σ} {deeds : List Deed} :
      Moved b listing c ⟨.ended failure, w, deeds⟩
  | passed {rest : Listing} {w : World σ} : rest.load < listing.load → w.store = c.world.store →
      Moved b listing c ⟨.underway rest, w, c.deeds⟩
  | gave {rest : Listing} {w : World σ} {item : ListItem} : rest.load < listing.load →
      w.store = c.world.store → Moved b listing c ⟨.underway rest, w, c.deeds ++ [.gave item]⟩
  | called {rest : Listing} {w : World σ} {call : StoreCall} {k : Nat} : 0 < k →
      Relation.TransGen b.Endured w.store c.world.store →
      Moved b listing c ⟨.underway rest, w, c.deeds ++ List.replicate k (.asked call)⟩

theorem moved_of_walking {walk : Walk} (hstage : c.stage = .underway (.walking walk)) :
    Moved l.backend (.walking walk) c (step l signal c) := by
  have hwalked := step_walked l signal hstage
  generalize step l signal c = next at hwalked ⊢
  cases hwalked with
  | finished _ => exact .halted
  | @enter f e rest outer _ hstack hpending _ =>
    -- the entry is used up, and weighs more than the frame that comes for it
    refine .passed ?_ rfl
    have hload := Frame.load_of_pending hpending
    rw [Listing.load_of_stack hstack, Listing.load_of_stack rfl, Frame.loads, Frame.load_entered]
    omega
  | give _ hstack hpending _ _ =>
    refine .gave ?_ rfl
    have hload := Frame.load_of_pending hpending
    rw [Listing.load_of_stack hstack, Listing.load_of_stack rfl]
    omega
  | skip _ hstack hpending _ _ =>
    refine .passed ?_ rfl
    have hload := Frame.load_of_pending hpending
    rw [Listing.load_of_stack hstack, Listing.load_of_stack rfl]
    omega
  | leave _ hstack _ _ =>
    refine .passed ?_ rfl
    rw [Listing.load_of_stack hstack]
    exact Nat.lt_add_of_pos_left (Nat.succ_pos _)
  | refused _ _ _ _ _ _ => exact .halted
  | received _ _ _ _ hpage htimes =>
    obtain ⟨hmade, hled⟩ := Listing.called_of_pageCall hpage
    exact .called (by omega) hled

theorem moved_of_buckets {rest : List BucketEntry} {s : Selection} {emitted : Nat}
    (hstage : c.stage = .underway (.buckets rest s emitted)) :
    Moved l.backend (.buckets rest s emitted) c (step l signal c) := by
  obtain ⟨_, w, deeds⟩ := c
  cases hstage
  obtain ⟨k, hcount, hcalls⟩ := Listing.exists_asks l signal (.buckets rest s emitted) w
  rw [step]
  dsimp only
  rw [hcalls]
  cases rest with
  | nil => exact .halted
  | cons b rest =>
    cases hreached : s.reached emitted with
    | true =>
      rw [Listing.turn, hreached]
      exact .halted
    | false =>
      rw [Listing.turn_bucket b rest hreached] at hcount ⊢
      obtain rfl : k = 0 := Nat.left_eq_add.mp hcount
      rw [List.replicate_zero, List.map_nil, List.append_nil]
      exact .gave (Nat.lt_succ_self _) rfl

theorem moved_of_opened {request : ListRequest} (hstage : c.stage = .underway (.opened request)) :
    Moved l.backend (.opened request) c (step l signal c) := by
  obtain ⟨_, w, deeds⟩ := c
  cases hstage
  obtain ⟨k, hcount, hcalls⟩ := Listing.asks_opened l signal request w
  have hturn : Listing.turn l signal (.opened request) w = _ := Listing.begin_eq_opens l signal request w
  rw [step]
  dsimp only
  rw [hcalls, List.map_replicate]
  rw [hturn] at hcount ⊢
  cases hopens : Listing.opens l.config.pageSize request w.moment with
  | refused e => exact .halted
  | settled filter rest =>
    rw [hopens] at hcount
    obtain rfl : k = 0 := Nat.left_eq_add.mp hcount
    rw [List.replicate_zero, List.append_nil]
    exact .passed (Listing.load_lt_of_settled hopens) rfl
  | asking filter =>
    rw [hopens] at hcount
    dsimp only at hcount ⊢
    obtain ⟨⟨answer, w'⟩, hcall⟩ :
        ∃ r, Listing.bucketCall l signal (Listing.opening l request filter w) = r := ⟨_, rfl⟩
    rw [hcall] at hcount ⊢
    cases answer with
    | error e => exact .halted
    | ok found =>
      obtain ⟨hmade, hled⟩ := Listing.called_of_bucketCall hcall
      have hk : w'.callTimes.length = w.callTimes.length + k := hcount
      have hbefore : w.callTimes.length < w'.callTimes.length := hmade
      exact .called (by omega) hled

/-- Every turn of a listing that is under way gets on in one of these ways. -/
theorem step_moved (l : Lister σ) (signal : StopSignal) (hstage : c.stage = .underway listing) :
    Moved l.backend listing c (step l signal c) := by
  cases listing with
  | opened request => exact moved_of_opened hstage
  | buckets rest s emitted => exact moved_of_buckets hstage
  | walking walk => exact moved_of_walking hstage

/-! ### Runs -/

/-- Whether nothing came of a listing, between one moment and a later one at which it still goes on. -/
structure Quiet (c later : Course σ) : Prop where
  deeds : later.deeds = c.deeds
  underway : ∃ listing, later.stage = .underway listing

/-- Whether something came of a listing, between one moment and a later one: its end, or an item or a call. -/
inductive Eventful (c later : Course σ) : Prop
  | ended {failure : Option StoreError} : later.stage = .ended failure → Eventful c later
  | did {deed : Deed} {more : List Deed} : later.deeds = c.deeds ++ deed :: more → Eventful c later

theorem Quiet.refl (hstage : c.stage = .underway listing) : Quiet c c := ⟨rfl, listing, hstage⟩

theorem Quiet.trans {later last : Course σ} (h : Quiet c later) (h' : Quiet later last) : Quiet c last :=
  ⟨h'.deeds.trans h.deeds, h'.underway⟩

theorem Quiet.eventful {later last : Course σ} (h : Quiet c later) (h' : Eventful later last) :
    Eventful c last := by
  cases h' with
  | ended hstage => exact .ended hstage
  | did hdeeds => exact .did (h.deeds ▸ hdeeds)

variable {change : Nat → World σ → World σ}

/-- Something comes of a listing before its load is used up. -/
theorem exists_eventful {turns : Nat} (hstage : (amid l signal change turns c).stage = .underway listing) :
    ∃ k ≤ listing.load,
      (∀ j ≤ k, Quiet (amid l signal change turns c) (amid l signal change (turns + j) c)) ∧
        Eventful (amid l signal change turns c) (amid l signal change (turns + k + 1) c) := by
  induction hload : listing.load using Nat.strongRecOn generalizing turns listing with
  | _ load ih =>
    have hnow : ∀ j ≤ 0, Quiet (amid l signal change turns c) (amid l signal change (turns + j) c) := by
      intro j hj
      obtain rfl := Nat.le_zero.mp hj
      exact .refl hstage
    have hmoved : Moved l.backend listing ((amid l signal change turns c).within (change turns))
        (amid l signal change (turns + 1) c) := step_moved l signal hstage
    generalize hnext : amid l signal change (turns + 1) c = next at hmoved
    cases hmoved with
    | halted => exact ⟨0, Nat.zero_le _, hnow, .ended (congrArg stage hnext)⟩
    | gave _ _ => exact ⟨0, Nat.zero_le _, hnow, .did (congrArg deeds hnext)⟩
    | @called _ _ call k hk _ =>
      obtain ⟨k, rfl⟩ := Nat.exists_eq_succ_of_ne_zero (Nat.ne_of_gt hk)
      exact ⟨0, Nat.zero_le _, hnow, .did (congrArg deeds hnext)⟩
    | @passed rest w hless _ =>
      have hquiet : Quiet (amid l signal change turns c) (amid l signal change (turns + 1) c) :=
        ⟨(congrArg deeds hnext :), rest, congrArg stage hnext⟩
      obtain ⟨k, hk, hbefore, hafter⟩ := ih rest.load (hload ▸ hless) (congrArg stage hnext) rfl
      refine ⟨k + 1, by omega, fun j hj => ?_, ?_⟩
      · cases j with
        | zero => exact .refl hstage
        | succ j =>
          rw [Nat.add_comm j, ← Nat.add_assoc]
          exact hquiet.trans (hbefore j (Nat.le_of_succ_le_succ hj))
      · rw [Nat.add_comm k, ← Nat.add_assoc]
        exact hquiet.eventful hafter

/-- A listing of a store that gives up is over some time, if the store is left alone. -/
theorem exists_ended_of_givesUp (hchange : ∀ n w, (change n w).store = w.store) {s : σ}
    (hgives : Acc (Relation.TransGen l.backend.Endured) s) {turns : Nat}
    (hstore : (amid l signal change turns c).world.store = s) :
    ∃ last failure, (amid l signal change last c).stage = .ended failure := by
  -- first by the calls that the store has left, then by the load of the listing
  induction hgives generalizing turns with
  | intro s _ ih =>
    cases hstage : (amid l signal change turns c).stage with
    | ended failure => exact ⟨turns, failure, hstage⟩
    | underway listing =>
      induction hload : listing.load using Nat.strongRecOn generalizing turns listing with
      | _ load ihload =>
        have hmoved : Moved l.backend listing ((amid l signal change turns c).within (change turns))
            (amid l signal change (turns + 1) c) := step_moved l signal hstage
        have hbefore : ((amid l signal change turns c).within (change turns)).world.store = s :=
          (hchange _ _).trans hstore
        generalize hnext : amid l signal change (turns + 1) c = next at hmoved
        have hstage' := congrArg stage hnext
        have hstore' := congrArg (fun d => d.world.store) hnext
        cases hmoved with
        | halted => exact ⟨turns + 1, _, hstage'⟩
        | passed hless hkept =>
          exact ihload _ (hload ▸ hless) (hstore'.trans (hkept.trans hbefore)) _ hstage' rfl
        | gave hless hkept =>
          exact ihload _ (hload ▸ hless) (hstore'.trans (hkept.trans hbefore)) _ hstage' rfl
        | called _ hled => exact ih _ (hbefore ▸ hled) hstore'

/-- Listings get on, whatever state they are in, whatever the store answers, and whatever happens to the world between
two turns. As long as a listing is not over, it gives something out, calls its store or is over after its load of
turns at the latest, and nothing comes of the turns before. If the store gives up after some calls and is left alone,
the listing is over some time. -/
theorem progress (l : Lister σ) (signal : StopSignal) (change : Nat → World σ → World σ) (c : Course σ) :
    (∀ listing, c.stage = .underway listing → ∃ k ≤ listing.load,
      (∀ j ≤ k, Quiet c (amid l signal change j c)) ∧ Eventful c (amid l signal change (k + 1) c)) ∧
    (l.backend.GivesUp c.world.store → (∀ n w, (change n w).store = w.store) →
      ∃ turns failure, (amid l signal change turns c).stage = .ended failure) := by
  refine ⟨fun listing hstage => ?_, fun hgives hchange => ?_⟩
  · have hstart : (amid l signal change 0 c).stage = .underway listing := hstage
    obtain ⟨k, hk, hquiet, heventful⟩ := exists_eventful hstart
    refine ⟨k, hk, fun j hj => ?_, ?_⟩
    · have hj := hquiet j hj
      rwa [Nat.zero_add] at hj
    · rwa [Nat.zero_add] at heventful
  · have hstart : (amid l signal change 0 c).world.store = c.world.store := rfl
    exact exists_ended_of_givesUp hchange hgives.transGen hstart

/-- What is listed among its own prefixes, with a token, on every page. -/
def inCircles (_ under : Text) (_ : Option Text) : Except StoreError Page :=
  .ok ⟨[.commonPrefix under, .commonPrefix (under ++ ['a', '/']), .commonPrefix []], some ['t']⟩

/-- A listing that is led back to where it began gets on, and ends when its store breaks. -/
theorem progress_inCircles :
    let l : Lister (Unit × Nat) := (Lister.answering inCircles).wrapped (Backend.brokenAt 9 (.accessDenied "no"))
    let request : ListRequest := { uri := ⟨.s3, ['b'], []⟩, recursive := true }
    let c := run l {} 2 (start request { store := ((), 0) })
    (∃ k ≤ 7, Eventful c (amid l {} (fun _ w => w) (k + 1) c)) ∧
      ∃ turns failure, (amid l {} (fun _ w => w) turns c).stage = .ended failure := by
  intro l request c
  let walk : Walk :=
    { bucket := ['b'], selection := { recursive := true }, configured := 1000,
      stack := [⟨[], [.commonPrefix [], .commonPrefix ['a', '/'], .commonPrefix []], .after ['t']⟩] }
  have hstage : c.stage = .underway (.walking walk) := by decide +kernel
  have hcalls : c.world.store.2 < 9 := by decide +kernel
  obtain ⟨hsoon, hends⟩ := progress l {} (fun _ w => w) c
  obtain ⟨k, hk, -, heventful⟩ := hsoon _ hstage
  exact ⟨⟨k, hk, heventful⟩, hends (Backend.givesUp_brokenAt rfl _ hcalls) fun _ _ => rfl⟩

end Course

end ObjectListing
