import ObjectListing.Proofs.Listing.Course

/-!
The same listing over two stores, side by side. A turn calls a store for one thing at most
(`Listing.call?`), and does everything else without it; so when the calls of two courses come to the
same, or the second one is cut short, the turns do as well (`Course.step_paired`). What the calls come to,
and what relates the worlds around the two courses, is left open: facts about faults, signals and retries,
and about stores that hold the same, are facts about single calls then.
-/

namespace ObjectListing

variable {σ τ : Type}

/-- What one call comes to over two stores: the same answer, or it is cut short over the second one. -/
inductive SideBySide {α : Type} (Both : World σ → World τ → Prop)
    (Cut : World σ → StoreError → World τ → Prop) :
    Except StoreError α × World σ → Except StoreError α × World τ → Prop
  | same {answer : Except StoreError α} {w : World σ} {v : World τ} : Both w v →
      SideBySide Both Cut (answer, w) (answer, v)
  | cut {answer : Except StoreError α} {w : World σ} {e : StoreError} {v : World τ} : Cut w e v →
      SideBySide Both Cut (answer, w) (.error e, v)

theorem SideBySide.imp {α : Type} {Both Both' : World σ → World τ → Prop}
    {Cut Cut' : World σ → StoreError → World τ → Prop} {r : Except StoreError α × World σ}
    {r' : Except StoreError α × World τ} (h : SideBySide Both Cut r r')
    (hboth : ∀ w v, Both w v → Both' w v) (hcut : ∀ w e v, Cut w e v → Cut' w e v) :
    SideBySide Both' Cut' r r' := by
  cases h with
  | same h => exact .same (hboth _ _ h)
  | cut h => exact .cut (hcut _ _ _ h)

namespace Listing

/-! ### The call of a turn -/

/-- What the first turn of a listing is up to, as its request and the moment have it: its filter can not be
read, or it goes on without a call, or it asks for the buckets. -/
inductive Opening
  | refused (e : StoreError)
  | settled (filter : Filter) (rest : Listing)
  | asking (filter : Filter)

/-- What the first turn is up to. -/
def opens (pageSize : Nat) (request : ListRequest) (now : Instant) : Opening :=
  match request.filter.compile now with
  | .error e => .refused e
  | .ok filter =>
    if (request.selection filter).reached 0 then
      .settled filter (.buckets [] (request.selection filter) 0)
    else if request.uri.isEnumeration then .asking filter
    else .settled filter (.walking (request.walk filter pageSize))

theorem begin_eq_opens (l : Lister σ) (signal : StopSignal) (request : ListRequest) (w : World σ) :
    begin l signal request w =
      match opens l.config.pageSize request w.moment with
      | .refused e => .failed e (w.reportAll request.filter.notices)
      | .settled filter rest => .going rest (opening l request filter w)
      | .asking filter =>
        .ofBuckets (request.selection filter) (bucketCall l signal (opening l request filter w)) := by
  rw [begin_eq, opens]
  cases request.filter.compile w.moment with
  | error e => rfl
  | ok filter =>
    have hselection : (⟨request.recursive, filter, request.cap⟩ : Selection) =
      request.selection filter := rfl
    dsimp only
    rw [hselection]
    by_cases hreached : (request.selection filter).reached 0 = true
    · rw [if_pos hreached, if_pos hreached]
    · rw [if_neg hreached, if_neg hreached]
      by_cases hall : request.uri.isEnumeration = true
      · rw [if_pos hall, if_pos hall]
      · rw [if_neg hall, if_neg hall]
        rfl

/-- Only the beginning of a listing is its request. -/
theorem turn_ne_opened (l : Lister σ) (signal : StopSignal) (listing : Listing) (w : World σ)
    (request : ListRequest) :
    (∀ item w', turn l signal listing w ≠ .item item (.opened request) w') ∧
      ∀ w', turn l signal listing w ≠ .going (.opened request) w' := by
  cases listing with
  | opened first =>
    have hturn : turn l signal (.opened first) w = begin l signal first w := rfl
    rw [hturn, begin_eq]
    cases first.filter.compile w.moment with
    | error e => simp
    | ok filter =>
      dsimp only
      split
      · simp
      · split
        · rcases bucketCall l signal (opening l first filter w) with ⟨e | found, w'⟩
          · simp [Turn.ofBuckets]
          · simp [Turn.ofBuckets]
        · simp
  | buckets rest selection emitted =>
    cases rest with
    | nil => simp [turn]
    | cons b rest =>
      rw [turn]
      split
      · simp
      · simp
  | walking walk =>
    cases hstep : walk.step with
    | finished => simp [turn_finished hstep]
    | emit e rest => simp [turn_emit hstep]
    | pass events rest => simp [turn_pass hstep]
    | ask request waiting =>
      rw [turn_ask hstep]
      rcases pageCall l signal request w with ⟨e | page, w'⟩
      · simp [Turn.ofPage]
      · simp [Turn.ofPage]

/-- What the next turn of a listing calls the store for, once or more often, if for anything. -/
def call? (now : Instant) : Listing → Option StoreCall
  | .opened request =>
    match opens 0 request now with
    | .asking _ => some .listBuckets
    | _ => none
  | .buckets .. => none
  | .walking walk =>
    match walk.step with
    | .ask request _ => some (.listObjects request)
    | _ => none

/-- The size of pages does not matter to whether the buckets are asked for. -/
theorem call?_opened (pageSize : Nat) (request : ListRequest) (now : Instant) :
    call? now (.opened request) =
      match opens pageSize request now with
      | .asking _ => some .listBuckets
      | _ => none := by
  rw [call?, opens, opens]
  cases request.filter.compile now with
  | error e => rfl
  | ok filter =>
    dsimp only
    by_cases hreached : (request.selection filter).reached 0 = true
    · rw [if_pos hreached, if_pos hreached]
    · rw [if_neg hreached, if_neg hreached]
      by_cases hall : request.uri.isEnumeration = true
      · rw [if_pos hall, if_pos hall]
      · rw [if_neg hall, if_neg hall]

variable {l : Lister σ} {signal : StopSignal} {listing : Listing} {w : World σ}

@[simp] theorem Turn.world_ofBuckets (selection : Selection)
    (r : Except StoreError (List BucketEntry) × World σ) :
    (Turn.ofBuckets selection r).world = r.2 := by
  match r with
  | (.error e, w) => rfl
  | (.ok found, w) => rfl

@[simp] theorem Turn.callTimes_ofPage (request : PageRequest) (waiting : Walk)
    (r : Except StoreError Page × World σ) :
    (Turn.ofPage request waiting r).world.callTimes = r.2.callTimes := by
  match r with
  | (.error e, w) => rfl
  | (.ok page, w) => rfl

/-- How often a turn calls the store, and for what. -/
structure Asks (l : Lister σ) (signal : StopSignal) (listing : Listing) (w : World σ) (k : Nat) :
    Prop where
  count : (turn l signal listing w).world.callTimes.length = w.callTimes.length + k
  calls : callsOf l signal listing w =
    List.replicate k ((listing.call? w.moment).getD .listBuckets)

theorem asks_nothing (hcalls : callsOf l signal listing w = [])
    (htimes : (turn l signal listing w).world.callTimes = w.callTimes) :
    Asks l signal listing w 0 :=
  ⟨congrArg List.length htimes, hcalls⟩

theorem asks_opened (l : Lister σ) (signal : StopSignal) (request : ListRequest) (w : World σ) :
    ∃ k, Asks l signal (.opened request) w k := by
  have hturn : turn l signal (.opened request) w = begin l signal request w := rfl
  have hwatched : turn l.watched signal (.opened request) (w.watched []) =
    begin l.watched signal request (w.watched []) := rfl
  have hmoment : (w.watched []).moment = w.moment := rfl
  have hsize : l.watched.config.pageSize = l.config.pageSize := rfl
  rw [begin_eq_opens] at hturn
  rw [begin_eq_opens, hmoment, hsize] at hwatched
  cases hopens : opens l.config.pageSize request w.moment with
  | refused e =>
    rw [hopens] at hturn hwatched
    refine ⟨0, asks_nothing (callsOf_eq ?_) ?_⟩
    · rw [hwatched, hturn]
      rfl
    · rw [hturn]
      rfl
  | settled filter rest =>
    rw [hopens] at hturn hwatched
    refine ⟨0, asks_nothing (callsOf_eq ?_) ?_⟩
    · rw [hwatched, hturn]
      rfl
    · rw [hturn]
      rfl
  | asking filter =>
    rw [hopens] at hturn hwatched
    obtain ⟨k, hk, hcalls⟩ := Retry.call_watched l.config.retry "list_buckets" signal
      l.backend.listBuckets (opening l request filter w) .listBuckets
    refine ⟨k, ?_, ?_⟩
    · rw [hturn, Turn.world_ofBuckets]
      exact hk
    · rw [call?_opened l.config.pageSize, hopens]
      refine callsOf_eq ?_
      rw [hwatched, hturn]
      dsimp only
      rw [opening_watched, ← ofBuckets_watched]
      exact congrArg (Turn.ofBuckets (request.selection filter)) (hcalls [])

/-- A turn calls the store for one thing only, once or more often, if it calls it at all. -/
theorem exists_asks (l : Lister σ) (signal : StopSignal) (listing : Listing) (w : World σ) :
    ∃ k, Asks l signal listing w k := by
  cases listing with
  | opened request => exact asks_opened l signal request w
  | buckets rest selection emitted =>
    refine ⟨0, asks_nothing (callsOf_eq ?_) ?_⟩
    · cases rest with
      | nil => rfl
      | cons b rest =>
        rw [turn, turn]
        split
        · rfl
        · rfl
    · cases rest with
      | nil => rfl
      | cons b rest =>
        rw [turn]
        split
        · rfl
        · rfl
  | walking walk =>
    cases hstep : walk.step with
    | finished => exact ⟨0, asks_nothing (callsOf_finished hstep) (by rw [turn_finished hstep]; rfl)⟩
    | emit e rest => exact ⟨0, asks_nothing (callsOf_emit hstep) (by rw [turn_emit hstep]; rfl)⟩
    | pass events rest => exact ⟨0, asks_nothing (callsOf_pass hstep) (by rw [turn_pass hstep]; rfl)⟩
    | ask request waiting =>
      obtain ⟨k, hk, hcalls⟩ := callsOf_ask l signal w hstep
      refine ⟨k, ?_, ?_⟩
      · rw [turn_ask hstep, Turn.callTimes_ofPage]
        exact hk
      · rw [call?, hstep]
        exact hcalls

/-! ### Pairs of turns -/

section Pairs

variable {Both : World σ → World τ → Prop} {Cut : World σ → StoreError → World τ → Prop}

/-- What a turn comes to over two stores: the same, or the second one fails, cut short. -/
inductive Turn.Paired (Both : World σ → World τ → Prop)
    (Cut : World σ → StoreError → World τ → Prop) : Turn σ → Turn τ → Prop
  | item {item : ListItem} {rest : Listing} {w : World σ} {v : World τ} : Both w v →
      Paired Both Cut (.item item rest w) (.item item rest v)
  | going {rest : Listing} {w : World σ} {v : World τ} : Both w v →
      Paired Both Cut (.going rest w) (.going rest v)
  | failed {e : StoreError} {w : World σ} {v : World τ} : Both w v →
      Paired Both Cut (.failed e w) (.failed e v)
  | ended {w : World σ} {v : World τ} : Both w v → Paired Both Cut (.ended w) (.ended v)
  | cutGoing {rest : Listing} {w : World σ} {e : StoreError} {v : World τ} : Cut w e v →
      Paired Both Cut (.going rest w) (.failed e v)
  | cutFailed {e' : StoreError} {w : World σ} {e : StoreError} {v : World τ} : Cut w e v →
      Paired Both Cut (.failed e' w) (.failed e v)

theorem ofBuckets_paired (selection : Selection)
    {r : Except StoreError (List BucketEntry) × World σ}
    {r' : Except StoreError (List BucketEntry) × World τ} (h : SideBySide Both Cut r r') :
    Turn.Paired Both Cut (.ofBuckets selection r) (.ofBuckets selection r') := by
  cases h with
  | @same answer _ _ hboth =>
    cases answer with
    | error e => exact .failed hboth
    | ok found => exact .going hboth
  | @cut answer _ _ _ hcut =>
    cases answer with
    | error e => exact .cutFailed hcut
    | ok found => exact .cutGoing hcut

/-- Relations between worlds that do not look at the events so far. -/
structure Heedless (Both : World σ → World τ → Prop)
    (Cut : World σ → StoreError → World τ → Prop) : Prop where
  both : ∀ {w v} (journal journal' : List Event), Both w v →
    Both { w with journal } { v with journal := journal' }
  cut : ∀ {w e v} (journal : List Event), Cut w e v → Cut { w with journal } e v

theorem ofPage_paired (h : Heedless Both Cut) (request : PageRequest) (waiting : Walk)
    {r : Except StoreError Page × World σ} {r' : Except StoreError Page × World τ}
    (hpage : SideBySide Both Cut r r') :
    Turn.Paired Both Cut (.ofPage request waiting r) (.ofPage request waiting r') := by
  cases hpage with
  | @same answer _ _ hboth =>
    cases answer with
    | error e => exact .failed hboth
    | ok page => exact .going (h.both _ _ hboth)
  | @cut answer _ _ _ hcut =>
    cases answer with
    | error e => exact .cutFailed hcut
    | ok page => exact .cutGoing (h.cut _ hcut)

variable {l : Lister σ} {l' : Lister τ} {signal signal' : StopSignal} {listing : Listing}
  {w : World σ} {v : World τ}

/-- The moment matters to what a listing calls its store for only in its first turn. -/
theorem call?_congr {now now' : Instant}
    (h : ∀ request, listing = .opened request → now' = now) :
    listing.call? now' = listing.call? now := by
  cases listing with
  | opened request => rw [h request rfl]
  | buckets rest selection emitted => rfl
  | walking walk => rfl

/-- A turn over two stores comes to the same, or is cut short over the second one, if its call does so. -/
theorem turn_paired (h : Heedless Both Cut) (hsize : l'.config.pageSize = l.config.pageSize)
    (hmoment : ∀ request, listing = .opened request → v.moment = w.moment)
    (hquiet : listing.call? w.moment = none → Both w v)
    (hbuckets : listing.call? w.moment = some .listBuckets → ∀ journal journal',
      SideBySide Both Cut (bucketCall l signal { w with journal })
        (bucketCall l' signal' { v with journal := journal' }))
    (hpages : ∀ request, listing.call? w.moment = some (.listObjects request) →
      SideBySide Both Cut (pageCall l signal request w) (pageCall l' signal' request v)) :
    Turn.Paired Both Cut (turn l signal listing w) (turn l' signal' listing v) := by
  cases listing with
  | opened request =>
    have hturn : turn l signal (.opened request) w = begin l signal request w := rfl
    have hturn' : turn l' signal' (.opened request) v = begin l' signal' request v := rfl
    have hcall := call?_opened l.config.pageSize request w.moment
    rw [hturn, hturn', begin_eq_opens, begin_eq_opens, hsize, hmoment request rfl]
    cases hopens : opens l.config.pageSize request w.moment with
    | refused e =>
      rw [hopens] at hcall
      exact .failed (h.both _ _ (hquiet hcall))
    | settled filter rest =>
      rw [hopens] at hcall
      have hopened := h.both (opening l request filter w).journal
        (opening l' request filter v).journal (hquiet hcall)
      exact .going hopened
    | asking filter =>
      rw [hopens] at hcall
      exact ofBuckets_paired _ (hbuckets hcall _ _)
  | buckets rest selection emitted =>
    have hboth := hquiet rfl
    cases rest with
    | nil => exact .ended (h.both _ _ hboth)
    | cons b rest =>
      rw [turn, turn]
      split
      · exact .ended (h.both _ _ hboth)
      · exact .item hboth
  | walking walk =>
    rw [call?] at hquiet hpages
    cases hstep : walk.step with
    | finished =>
      rw [turn_finished hstep, turn_finished hstep]
      rw [hstep] at hquiet
      exact .ended (h.both _ _ (hquiet rfl))
    | emit e rest =>
      rw [turn_emit hstep, turn_emit hstep]
      rw [hstep] at hquiet
      exact .item (hquiet rfl)
    | pass events rest =>
      rw [turn_pass hstep, turn_pass hstep]
      rw [hstep] at hquiet
      exact .going (h.both _ _ (hquiet rfl))
    | ask request waiting =>
      rw [turn_ask hstep, turn_ask hstep]
      rw [hstep] at hpages
      exact ofPage_paired h request waiting (hpages request rfl)

end Pairs

end Listing

/-! ### Pairs of courses -/

namespace Course

/-- What the next turn calls the store for, if for anything. -/
def call? (c : Course σ) : Option StoreCall :=
  match c.stage with
  | .underway listing => listing.call? c.world.moment
  | .ended _ => none

theorem step_ne_opened (l : Lister σ) (signal : StopSignal) (c : Course σ) (request : ListRequest) :
    (c.step l signal).stage ≠ .underway (.opened request) := by
  cases hstage : c.stage with
  | ended failure =>
    rw [step_ended hstage, hstage]
    simp
  | underway listing =>
    obtain ⟨hitem, hgoing⟩ := Listing.turn_ne_opened l signal listing c.world request
    rw [step, hstage]
    dsimp only
    intro h
    cases hturn : Listing.turn l signal listing c.world with
    | item item rest w =>
      rw [hturn] at h
      cases h
      exact hitem _ _ hturn
    | going rest w =>
      rw [hturn] at h
      cases h
      exact hgoing _ hturn
    | failed e w =>
      rw [hturn] at h
      cases h
    | ended w =>
      rw [hturn] at h
      cases h

/-- What two courses come to by one turn each: they do the same, but for how often they call the store,
or the second one fails, cut short. -/
inductive Paired (Both : World σ → World τ → Prop) (Cut : World σ → StoreError → World τ → Prop)
    (p : Course σ) (q : Course τ) : Course σ → Course τ → Prop
  | same {stage : Stage} {w : World σ} {v : World τ} {call : StoreCall} {k k' : Nat}
      {given : List Deed} : Both w v →
      w.callTimes.length = p.world.callTimes.length + k →
      v.callTimes.length = q.world.callTimes.length + k' →
      given.filterMap Deed.call? = [] →
      Paired Both Cut p q ⟨stage, w, p.deeds ++ List.replicate k (.asked call) ++ given⟩
        ⟨stage, v, q.deeds ++ List.replicate k' (.asked call) ++ given⟩
  | cut {stage : Stage} {w : World σ} {e : StoreError} {v : World τ} {call : StoreCall}
      {k k' : Nat} : Cut w e v →
      w.callTimes.length = p.world.callTimes.length + k →
      v.callTimes.length = q.world.callTimes.length + k' →
      Paired Both Cut p q ⟨stage, w, p.deeds ++ List.replicate k (.asked call)⟩
        ⟨.ended (some e), v, q.deeds ++ List.replicate k' (.asked call)⟩

variable {Both : World σ → World τ → Prop} {Cut : World σ → StoreError → World τ → Prop}
  {l : Lister σ} {l' : Lister τ} {signal signal' : StopSignal} {p : Course σ} {q : Course τ}

/-- Two courses that give out nothing in their turns. -/
theorem Paired.of_calls {stage : Stage} {w : World σ} {v : World τ} {call : StoreCall} {k k' : Nat}
    (hboth : Both w v) (hk : w.callTimes.length = p.world.callTimes.length + k)
    (hk' : v.callTimes.length = q.world.callTimes.length + k') :
    Paired Both Cut p q ⟨stage, w, p.deeds ++ List.replicate k (.asked call)⟩
      ⟨stage, v, q.deeds ++ List.replicate k' (.asked call)⟩ := by
  have hsame : Paired Both Cut p q
      ⟨stage, w, p.deeds ++ List.replicate k (.asked call) ++ []⟩
      ⟨stage, v, q.deeds ++ List.replicate k' (.asked call) ++ []⟩ := .same hboth hk hk' rfl
  rwa [List.append_nil, List.append_nil] at hsame

/-- Courses at the same stage come to the same by a turn, or the second one is cut short, if the call of
the turn does so. -/
theorem step_paired (h : Listing.Heedless Both Cut)
    (hsize : l'.config.pageSize = l.config.pageSize) (hstage : q.stage = p.stage)
    (hmoment : ∀ request, p.stage = .underway (.opened request) →
      q.world.moment = p.world.moment)
    (hquiet : p.call? = none → Both p.world q.world)
    (hbuckets : p.call? = some .listBuckets → ∀ journal journal',
      SideBySide Both Cut (Listing.bucketCall l signal { p.world with journal })
        (Listing.bucketCall l' signal' { q.world with journal := journal' }))
    (hpages : ∀ request, p.call? = some (.listObjects request) →
      SideBySide Both Cut (Listing.pageCall l signal request p.world)
        (Listing.pageCall l' signal' request q.world)) :
    Paired Both Cut p q (p.step l signal) (q.step l' signal') := by
  obtain ⟨stage, w, deeds⟩ := p
  obtain ⟨stage', v, deeds'⟩ := q
  cases hstage
  rw [call?] at hquiet hbuckets hpages
  cases stage with
  | ended failure =>
    rw [step_ended rfl, step_ended rfl]
    have hsame : Paired Both Cut ⟨.ended failure, w, deeds⟩ ⟨.ended failure, v, deeds'⟩
        ⟨.ended failure, w, deeds ++ List.replicate 0 (.asked .listBuckets)⟩
        ⟨.ended failure, v, deeds' ++ List.replicate 0 (.asked .listBuckets)⟩ :=
      .of_calls (hquiet rfl) rfl rfl
    rwa [List.replicate_zero, List.append_nil, List.append_nil] at hsame
  | underway listing =>
    have hmoment' : ∀ request, listing = .opened request → v.moment = w.moment := by
      rintro request rfl
      exact hmoment request rfl
    obtain ⟨k, hk, hcalls⟩ := Listing.exists_asks l signal listing w
    obtain ⟨k', hk', hcalls'⟩ := Listing.exists_asks l' signal' listing v
    rw [Listing.call?_congr hmoment'] at hcalls'
    have hturns := Listing.turn_paired h hsize hmoment' hquiet hbuckets hpages
    rw [step, step]
    dsimp only
    rw [hcalls, hcalls', List.map_replicate, List.map_replicate]
    generalize Listing.turn l signal listing w = t at hk hturns
    generalize Listing.turn l' signal' listing v = t' at hk' hturns
    cases hturns with
    | item hboth => exact .same hboth hk hk' rfl
    | going hboth => exact .of_calls hboth hk hk'
    | failed hboth => exact .of_calls hboth hk hk'
    | ended hboth => exact .of_calls hboth hk hk'
    | cutGoing hcut => exact .cut hcut hk hk'
    | cutFailed hcut => exact .cut hcut hk hk'

end Course

end ObjectListing
