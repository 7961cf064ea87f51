import ObjectListing.Listing.Basic
import ObjectListing.Proofs.Listing.Walk
import ObjectListing.Proofs.Store.Watched

/-!
Single turns of a listing. A turn keeps what calls to the store keep (`turn_lasting`), it is the same over
the watched store (`turn_watched`), and it asks the store for at most one thing, though maybe more than
once: for the page that the walk asks for (`callsOf_ask`), or, first of all, for the buckets.
-/

namespace ObjectListing

variable {σ : Type}

/-- A lister over the watched store. -/
def Lister.watched (l : Lister σ) : Lister (σ × List StoreCall) := ⟨l.backend.watched, l.config⟩

namespace Listing

/-- The world that a turn leaves. -/
def Turn.world : Turn σ → World σ
  | .item _ _ w => w
  | .going _ w => w
  | .failed _ w => w
  | .ended w => w

/-- A turn over a watched store, from a turn over the store itself. -/
def Turn.watched (calls : List StoreCall) : Turn σ → Turn (σ × List StoreCall)
  | .item i rest w => .item i rest (w.watched calls)
  | .going rest w => .going rest (w.watched calls)
  | .failed e w => .failed e (w.watched calls)
  | .ended w => .ended (w.watched calls)

/-- The calls that the store gets in one turn. -/
def callsOf (l : Lister σ) (signal : StopSignal) (listing : Listing) (w : World σ) :
    List StoreCall :=
  (turn l.watched signal listing (w.watched [])).world.store.2

variable {l : Lister σ} {signal : StopSignal} {w : World σ} {walk waiting rest : Walk}

/-! ### What turns come to -/

/-- The world in which a listing begins whose filter is read. -/
def opening (l : Lister σ) (request : ListRequest) (filter : Filter) (w : World σ) : World σ :=
  (w.reportAll request.filter.notices).report (.listingStarted l.backend.name request.uri.text
    request.recursive request.cap filter.description)

/-- The call for the buckets, with its retries. -/
def bucketCall (l : Lister σ) (signal : StopSignal) (w : World σ) :
    Except StoreError (List BucketEntry) × World σ :=
  Retry.call l.config.retry "list_buckets" signal l.backend.listBuckets w

/-- The call for a page, with its retries. -/
def pageCall (l : Lister σ) (signal : StopSignal) (request : PageRequest) (w : World σ) :
    Except StoreError Page × World σ :=
  Retry.call l.config.retry "list_objects" signal (l.backend.listObjects request)
    (w.report (.requestingPage request.bucket request.under request.size request.token.isSome))

/-- What a turn comes to that asked for the buckets. -/
def Turn.ofBuckets (selection : Selection) : Except StoreError (List BucketEntry) × World σ → Turn σ
  | (.error e, w) => .failed e w
  | (.ok found, w) => .going (.buckets found selection 0) w

/-- What a turn comes to that asked for a page. -/
def Turn.ofPage (request : PageRequest) (waiting : Walk) :
    Except StoreError Page × World σ → Turn σ
  | (.error e, w) => .failed e w
  | (.ok page, w) => .going (.walking (waiting.receive page))
      (w.report (.pageReceived request.under page.entries.length page.next.isSome))

/-- The first turn, by what the request is. -/
theorem begin_eq (l : Lister σ) (signal : StopSignal) (request : ListRequest) (w : World σ) :
    begin l signal request w =
      match request.filter.compile w.moment with
      | .error e => .failed e (w.reportAll request.filter.notices)
      | .ok filter =>
        let selection : Selection := ⟨request.recursive, filter, request.cap⟩
        if selection.reached 0 then
          .going (.buckets [] selection 0) (opening l request filter w)
        else if request.uri.isEnumeration then
          .ofBuckets selection (bucketCall l signal (opening l request filter w))
        else
          .going (.walking (.start request.uri.bucket request.uri.listed selection
            l.config.pageSize)) (opening l request filter w) := by
  rw [begin]
  dsimp only
  rw [show (w.reportAll request.filter.notices).moment = w.moment from rfl]
  cases request.filter.compile w.moment with
  | error e => rfl
  | ok filter =>
    dsimp only
    split
    · rfl
    · split
      · match hcall : bucketCall l signal (opening l request filter w) with
        | (.error e, w') =>
          rw [bucketCall, opening] at hcall
          rw [hcall]
          rfl
        | (.ok found, w') =>
          rw [bucketCall, opening] at hcall
          rw [hcall]
          rfl
      · rfl

theorem turn_finished (h : walk.step = .finished) :
    turn l signal (.walking walk) w = .ended (w.report (.listingFinished walk.emitted)) := by
  rw [turn]
  dsimp only
  rw [h]

theorem turn_emit {e : ObjectEntry} (h : walk.step = .emit e rest) :
    turn l signal (.walking walk) w = .item (.object e) (.walking rest) w := by
  rw [turn]
  dsimp only
  rw [h]

theorem turn_pass {events : List Event} (h : walk.step = .pass events rest) :
    turn l signal (.walking walk) w = .going (.walking rest) (w.reportAll events) := by
  rw [turn]
  dsimp only
  rw [h]

theorem turn_ask {request : PageRequest} (h : walk.step = .ask request waiting) :
    turn l signal (.walking walk) w = .ofPage request waiting (pageCall l signal request w) := by
  rw [turn]
  dsimp only
  rw [h]
  match hcall : pageCall l signal request w with
  | (.error e, w') =>
    rw [pageCall] at hcall
    dsimp only
    rw [hcall]
    rfl
  | (.ok page, w') =>
    rw [pageCall] at hcall
    dsimp only
    rw [hcall]
    rfl

theorem turn_bucket {s : Selection} {emitted : Nat} (b : BucketEntry) (found : List BucketEntry)
    (h : s.reached emitted = false) :
    turn l signal (.buckets (b :: found) s emitted) w =
      .item (.bucket b) (.buckets found s (emitted + 1)) w := by
  rw [turn, h]
  rfl

/-! ### What turns keep -/

variable {I : World σ → Prop}

theorem pageCall_lasting (hI : World.Lasting I)
    (hpages : ∀ request w, I w → I (w.call (l.backend.listObjects request)).2)
    (signal : StopSignal) (request : PageRequest) (hw : I w) : I (pageCall l signal request w).2 :=
  Retry.call_lasting hI (hpages request) (hI.report _ w hw)

/-- A page that comes was the answer to an attempt. -/
theorem pageCall_exists_answered (hI : World.Lasting I)
    (hpages : ∀ request w, I w → I (w.call (l.backend.listObjects request)).2)
    {request : PageRequest} (hw : I w) {page : Page} {w' : World σ}
    (h : pageCall l signal request w = (.ok page, w')) :
    ∃ v, I v ∧ (l.backend.listObjects request v.store).answer = .ok page :=
  Retry.call_exists_answered hI (hpages request) (hI.report _ w hw) (congrArg Prod.fst h)

/-- A page that comes at the first attempt. -/
theorem pageCall_of_ok {request : PageRequest} {page : Page} (hstop : w.isStopped signal = false)
    (h : (l.backend.listObjects request w.store).answer = .ok page) :
    ∃ e, pageCall l signal request w =
      (.ok page, ((w.report e).call (l.backend.listObjects request)).2) :=
  ⟨_, Retry.call_of_ok (w := w.report _) hstop h⟩

theorem pageCall_fst_of_ok {request : PageRequest} {page : Page}
    (hstop : w.isStopped signal = false)
    (h : (l.backend.listObjects request w.store).answer = .ok page) :
    (pageCall l signal request w).1 = .ok page := by
  obtain ⟨e, hcall⟩ := pageCall_of_ok hstop h
  rw [hcall]

theorem begin_lasting (hI : World.Lasting I)
    (hbuckets : ∀ w, I w → I (w.call l.backend.listBuckets).2) (request : ListRequest) (hw : I w) :
    I (begin l signal request w).world := by
  have hnotices := hI.reportAll request.filter.notices w hw
  rw [begin_eq]
  cases request.filter.compile w.moment with
  | error e => exact hnotices
  | ok filter =>
    have hopening : I (opening l request filter w) := hI.report _ _ hnotices
    dsimp only
    split
    · exact hopening
    · split
      · have hcalled : I (bucketCall l signal (opening l request filter w)).2 :=
          Retry.call_lasting hI hbuckets hopening
        match hc : bucketCall l signal (opening l request filter w) with
        | (.error e, w') => rwa [hc] at hcalled
        | (.ok found, w') => rwa [hc] at hcalled
      · exact hopening

/-- What single calls to the store keep is kept by turns. -/
theorem turn_lasting (hI : World.Lasting I)
    (hpages : ∀ request w, I w → I (w.call (l.backend.listObjects request)).2)
    (hbuckets : ∀ w, I w → I (w.call l.backend.listBuckets).2) (listing : Listing) (hw : I w) :
    I (turn l signal listing w).world := by
  cases listing with
  | opened request => exact begin_lasting hI hbuckets request hw
  | buckets rest selection emitted =>
    cases rest with
    | nil => exact hI.report _ w hw
    | cons b rest =>
      rw [turn]
      split
      · exact hI.report _ w hw
      · exact hw
  | walking walk =>
    cases hstep : walk.step with
    | finished =>
      rw [turn_finished hstep]
      exact hI.report _ w hw
    | emit e rest =>
      rw [turn_emit hstep]
      exact hw
    | pass events rest =>
      rw [turn_pass hstep]
      exact hI.reportAll events w hw
    | ask request waiting =>
      have hcalled := pageCall_lasting hI hpages signal request hw
      rw [turn_ask hstep]
      match hc : pageCall l signal request w with
      | (.error e, w') => rwa [hc] at hcalled
      | (.ok page, w') =>
        rw [hc] at hcalled
        exact hI.report _ _ hcalled

/-! ### Turns over a watched store -/

theorem opening_watched (request : ListRequest) (filter : Filter) (calls : List StoreCall) :
    opening l.watched request filter (w.watched calls) =
      (opening l request filter w).watched calls := rfl

theorem bucketCall_watched (l : Lister σ) (signal : StopSignal) (w : World σ) :
    ∃ k, ∀ calls, bucketCall l.watched signal (w.watched calls) = ((bucketCall l signal w).1,
      (bucketCall l signal w).2.watched (calls ++ List.replicate k .listBuckets)) := by
  obtain ⟨k, -, hcalls⟩ :=
    Retry.call_watched l.config.retry "list_buckets" signal l.backend.listBuckets w .listBuckets
  exact ⟨k, hcalls⟩

theorem pageCall_watched (l : Lister σ) (signal : StopSignal) (request : PageRequest)
    (w : World σ) :
    ∃ k, (pageCall l signal request w).2.callTimes.length = w.callTimes.length + k ∧ ∀ calls,
      pageCall l.watched signal request (w.watched calls) = ((pageCall l signal request w).1,
        (pageCall l signal request w).2.watched
          (calls ++ List.replicate k (.listObjects request))) :=
  Retry.call_watched l.config.retry "list_objects" signal (l.backend.listObjects request)
    (w.report (.requestingPage request.bucket request.under request.size request.token.isSome))
    (.listObjects request)

theorem ofBuckets_watched (selection : Selection)
    (r : Except StoreError (List BucketEntry) × World σ) (calls : List StoreCall) :
    Turn.ofBuckets selection (r.1, r.2.watched calls) =
      (Turn.ofBuckets selection r).watched calls := by
  match r with
  | (.error e, w) => rfl
  | (.ok found, w) => rfl

theorem ofPage_watched (request : PageRequest) (waiting : Walk)
    (r : Except StoreError Page × World σ) (calls : List StoreCall) :
    Turn.ofPage request waiting (r.1, r.2.watched calls) =
      (Turn.ofPage request waiting r).watched calls := by
  match r with
  | (.error e, w) => rfl
  | (.ok page, w) => rfl

theorem begin_watched (l : Lister σ) (signal : StopSignal) (request : ListRequest) (w : World σ) :
    ∃ asked : List StoreCall, ∀ calls, begin l.watched signal request (w.watched calls) =
      (begin l signal request w).watched (calls ++ asked) := by
  have hmoment calls : (w.watched calls).moment = w.moment := rfl
  have hnothing calls : calls ++ ([] : List StoreCall) = calls := List.append_nil calls
  simp only [begin_eq, hmoment]
  cases request.filter.compile w.moment with
  | error e => exact ⟨[], fun calls => by rw [hnothing]; rfl⟩
  | ok filter =>
    dsimp only
    split
    · exact ⟨[], fun calls => by rw [hnothing]; rfl⟩
    · split
      · obtain ⟨k, hcalls⟩ := bucketCall_watched l signal (opening l request filter w)
        refine ⟨List.replicate k .listBuckets, ?_⟩
        intro calls
        rw [opening_watched, hcalls, ofBuckets_watched]
      · exact ⟨[], fun calls => by rw [hnothing]; rfl⟩

/-- A turn of a walk that asks for a page, over a watched store. -/
theorem turn_ask_watched (l : Lister σ) (signal : StopSignal) (w : World σ) {request : PageRequest}
    (h : walk.step = .ask request waiting) :
    ∃ k, (pageCall l signal request w).2.callTimes.length = w.callTimes.length + k ∧ ∀ calls,
      turn l.watched signal (.walking walk) (w.watched calls) =
        (turn l signal (.walking walk) w).watched
          (calls ++ List.replicate k (.listObjects request)) := by
  obtain ⟨k, hk, hcalls⟩ := pageCall_watched l signal request w
  refine ⟨k, hk, ?_⟩
  intro calls
  rw [turn_ask h, turn_ask h, hcalls, ofPage_watched]

/-- A turn over a watched store is the turn itself, and some calls are written down. -/
theorem exists_turn_watched (l : Lister σ) (signal : StopSignal) (listing : Listing) (w : World σ) :
    ∃ asked : List StoreCall, ∀ calls, turn l.watched signal listing (w.watched calls) =
      (turn l signal listing w).watched (calls ++ asked) := by
  have hnothing calls : calls ++ ([] : List StoreCall) = calls := List.append_nil calls
  cases listing with
  | opened request => exact begin_watched l signal request w
  | buckets rest selection emitted =>
    refine ⟨[], ?_⟩
    intro calls
    rw [hnothing]
    cases rest with
    | nil => rfl
    | cons b rest =>
      rw [turn, turn]
      split
      · rfl
      · rfl
  | walking walk =>
    cases hstep : walk.step with
    | finished =>
      refine ⟨[], ?_⟩
      intro calls
      rw [hnothing, turn_finished hstep, turn_finished hstep]
      rfl
    | emit e rest =>
      refine ⟨[], ?_⟩
      intro calls
      rw [hnothing, turn_emit hstep, turn_emit hstep]
      rfl
    | pass events rest =>
      refine ⟨[], ?_⟩
      intro calls
      rw [hnothing, turn_pass hstep, turn_pass hstep]
      rfl
    | ask request waiting =>
      obtain ⟨k, -, hcalls⟩ := turn_ask_watched l signal w hstep
      exact ⟨_, hcalls⟩

/-! ### The calls of a turn -/

@[simp] theorem Turn.world_watched (t : Turn σ) (calls : List StoreCall) :
    (t.watched calls).world = t.world.watched calls := by
  cases t <;> rfl

theorem callsOf_eq {listing : Listing} {asked : List StoreCall}
    (h : turn l.watched signal listing (w.watched []) = (turn l signal listing w).watched asked) :
    callsOf l signal listing w = asked := by
  rw [callsOf, h, Turn.world_watched]
  rfl

/-- A turn over a watched store is the turn itself, and its calls are written down. -/
theorem turn_watched (l : Lister σ) (signal : StopSignal) (listing : Listing) (w : World σ)
    (calls : List StoreCall) :
    turn l.watched signal listing (w.watched calls) =
      (turn l signal listing w).watched (calls ++ callsOf l signal listing w) := by
  obtain ⟨asked, h⟩ := exists_turn_watched l signal listing w
  rw [h, callsOf_eq (h [])]
  rfl

/-- A walk that asks for a page asks for it alone, once in every attempt. -/
theorem callsOf_ask (l : Lister σ) (signal : StopSignal) (w : World σ) {request : PageRequest}
    (h : walk.step = .ask request waiting) :
    ∃ k, (pageCall l signal request w).2.callTimes.length = w.callTimes.length + k ∧
      callsOf l signal (.walking walk) w = List.replicate k (.listObjects request) := by
  obtain ⟨k, hk, hcalls⟩ := turn_ask_watched l signal w h
  exact ⟨k, hk, callsOf_eq (hcalls [])⟩

theorem callsOf_opened {request : ListRequest} (h : request.uri.bucket ≠ []) :
    callsOf l signal (.opened request) w = [] := by
  refine callsOf_eq ?_
  have hnamed : request.uri.isEnumeration = false := by simpa [Uri.isEnumeration] using h
  have hmoment : (w.watched []).moment = w.moment := rfl
  rw [turn, turn, begin_eq, begin_eq, hmoment, hnamed]
  cases request.filter.compile w.moment with
  | error e => rfl
  | ok filter =>
    dsimp only
    split
    · rfl
    · rfl

theorem callsOf_unread {request : ListRequest} {e : StoreError}
    (h : request.filter.compile w.moment = .error e) : callsOf l signal (.opened request) w = [] := by
  refine callsOf_eq ?_
  have hmoment : (w.watched []).moment = w.moment := rfl
  rw [turn, turn, begin_eq, begin_eq, hmoment, h]
  rfl

theorem callsOf_finished (h : walk.step = .finished) :
    callsOf l signal (.walking walk) w = [] := by
  refine callsOf_eq ?_
  rw [turn_finished h, turn_finished h]
  rfl

theorem callsOf_emit {e : ObjectEntry} (h : walk.step = .emit e rest) :
    callsOf l signal (.walking walk) w = [] := by
  refine callsOf_eq ?_
  rw [turn_emit h, turn_emit h]
  rfl

theorem callsOf_pass {events : List Event} (h : walk.step = .pass events rest) :
    callsOf l signal (.walking walk) w = [] := by
  refine callsOf_eq ?_
  rw [turn_pass h, turn_pass h]
  rfl

end Listing

end ObjectListing
