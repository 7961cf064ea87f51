import Mathlib.Logic.Function.Iterate
import ObjectListing.Proofs.Listing.Turn

/-!
The course of a listing, turn by turn. A course is what a listing has come to, with the history of what
it did so far: the calls that the store got, as a watched store writes them down, and the items that were
given out. Between two turns the world may change (`Course.amid`); when nothing meddles, the course ends
as gathering does (`collect_eq_run`).
-/

namespace ObjectListing

variable {σ : Type}

/-- The first of these, as many as the cap allows. -/
def upToCap {α : Type} (cap : Option Nat) (as : List α) : List α :=
  match cap with
  | some most => as.take most
  | none => as

/-- A selection that is reached has a cap, and as much is given out. -/
theorem Selection.reached_iff {s : Selection} {emitted : Nat} :
    s.reached emitted = true ↔ ∃ most, s.cap = some most ∧ most ≤ emitted := by
  cases hcap : s.cap with
  | none => simp [Selection.reached, hcap]
  | some most => simp [Selection.reached, hcap]

section UpToCap

variable {α : Type} {cap : Option Nat} {as given : List α}

theorem upToCap_eq_self (h : ∀ most, cap = some most → as.length ≤ most) :
    upToCap cap as = as := by
  cases cap with
  | none => rfl
  | some most => exact List.take_of_length_le (h most rfl)

theorem upToCap_isPrefix (cap : Option Nat) (as : List α) : upToCap cap as <+: as := by
  cases cap with
  | none => exact List.prefix_rfl
  | some most => exact List.take_prefix most as

/-- The first of a list, as many as the cap allows, are the ones that are up to the cap. -/
theorem upToCap_eq_of_isPrefix (h : given <+: as) (hcap : cap = some given.length) :
    upToCap cap as = given := by
  rw [hcap, upToCap]
  exact (List.prefix_iff_eq_take.mp h).symm

/-- Nothing is within a cap that is reached before anything is given out. -/
theorem upToCap_eq_nil {s : Selection} (hreached : s.reached 0 = true) (as : List α) :
    upToCap s.cap as = [] := by
  obtain ⟨most, hcap, hmost⟩ := Selection.reached_iff.mp hreached
  refine upToCap_eq_of_isPrefix List.nil_prefix ?_
  rw [hcap, Nat.le_zero.mp hmost, List.length_nil]

end UpToCap

namespace ListRequest

/-- What a listing is to give out whose filter is read. -/
def selection (request : ListRequest) (filter : Filter) : Selection :=
  ⟨request.recursive, filter, request.cap⟩

/-- The walk that a listing of one bucket makes. -/
def walk (request : ListRequest) (filter : Filter) (pageSize : Nat) : Walk :=
  .start request.uri.bucket request.uri.listed (request.selection filter) pageSize

end ListRequest

/-- A request for a page, whatever the size of the page. -/
def PageRequest.sizeless (request : PageRequest) : PageRequest := { request with size := 0 }

/-- A call, whatever the size of the page that it asks for. -/
def StoreCall.sizeless : StoreCall → StoreCall
  | listObjects request => listObjects request.sizeless
  | call => call

/-- What a listing does that others see. -/
inductive Deed
  | asked (call : StoreCall)
  | gave (item : ListItem)
  deriving DecidableEq

namespace Deed

/-- The item that was given out. -/
def item? : Deed → Option ListItem
  | gave item => some item
  | asked _ => none

/-- The call that was made. -/
def call? : Deed → Option StoreCall
  | asked call => some call
  | gave _ => none

/-- The deed, whatever the size of the page that was asked for. -/
def sizeless : Deed → Deed
  | asked call => asked call.sizeless
  | gave item => gave item

end Deed

/-- How far a listing is: it goes on, or it is over, with a failure or without. -/
inductive Stage
  | underway (listing : Listing)
  | ended (failure : Option StoreError)
  deriving DecidableEq

/-- How a listing ended that is in this stage. -/
def Stage.ending : Stage → Listing.Ending
  | underway _ => .unfinished
  | ended none => .complete
  | ended (some e) => .failed e

/-- Only a listing that is over without a failure ended completely. -/
theorem Stage.eq_ended_of_ending {stage : Stage} (h : stage.ending = .complete) :
    stage = .ended none := by
  cases stage with
  | underway listing => cases h
  | ended failure =>
    cases failure with
    | none => rfl
    | some e => cases h

/-- A listing on its way: how far it is, the world around it, and what it did, oldest first. -/
structure Course (σ : Type) where
  stage : Stage
  world : World σ
  deeds : List Deed := []

namespace Course

/-- The items given out so far. -/
def items (c : Course σ) : List ListItem := c.deeds.filterMap Deed.item?

/-- The calls made so far. -/
def calls (c : Course σ) : List StoreCall := c.deeds.filterMap Deed.call?

/-- A course at its beginning. -/
def start (request : ListRequest) (w : World σ) : Course σ := ⟨.underway (.opened request), w, []⟩

/-- One turn more; a listing that is over stays so. -/
def step (l : Lister σ) (signal : StopSignal) (c : Course σ) : Course σ :=
  match c.stage with
  | .ended _ => c
  | .underway listing =>
    let deeds := c.deeds ++ (Listing.callsOf l signal listing c.world).map Deed.asked
    match Listing.turn l signal listing c.world with
    | .item item rest w => ⟨.underway rest, w, deeds ++ [.gave item]⟩
    | .going rest w => ⟨.underway rest, w, deeds⟩
    | .failed e w => ⟨.ended (some e), w, deeds⟩
    | .ended w => ⟨.ended none, w, deeds⟩

/-- So many turns more. -/
def run (l : Lister σ) (signal : StopSignal) (turns : Nat) (c : Course σ) : Course σ :=
  (step l signal)^[turns] c

/-- The course in another world. -/
def within (c : Course σ) (change : World σ → World σ) : Course σ :=
  { c with world := change c.world }

/-- So many turns more, where the world changes before each of them. -/
def amid (l : Lister σ) (signal : StopSignal) (change : Nat → World σ → World σ) :
    (turns : Nat) → Course σ → Course σ
  | 0, c => c
  | turns + 1, c => step l signal ((amid l signal change turns c).within (change turns))

/-- The page that the next turn brings. -/
def page? (l : Lister σ) (signal : StopSignal) (c : Course σ) : Option Page :=
  match c.stage with
  | .underway (.walking walk) =>
    match walk.step with
    | .ask request _ => (Listing.pageCall l signal request c.world).1.toOption
    | _ => none
  | _ => none

/-- What was gathered on the way. -/
def gathered (c : Course σ) : Listing.Gathered σ := ⟨c.items, c.stage.ending, c.world⟩

variable {l : Lister σ} {signal : StopSignal} {c : Course σ}

theorem amid_id (turns : Nat) (c : Course σ) :
    amid l signal (fun _ w => w) turns c = run l signal turns c := by
  induction turns with
  | zero => rfl
  | succ turns ih =>
    rw [amid, ih, run, run, Function.iterate_succ_apply']
    rfl

/-- A turn leaves the world as the turn of some listing does, or as it is. -/
theorem step_world (l : Lister σ) (signal : StopSignal) (c : Course σ) :
    (step l signal c).world = c.world ∨
      ∃ listing, (step l signal c).world = (Listing.turn l signal listing c.world).world := by
  rw [step]
  cases c.stage with
  | ended failure => exact Or.inl rfl
  | underway listing =>
    refine Or.inr ⟨listing, ?_⟩
    dsimp only
    cases Listing.turn l signal listing c.world <;> rfl

theorem step_ended {failure : Option StoreError} (h : c.stage = .ended failure) :
    step l signal c = c := by
  rw [step, h]

theorem run_ended {failure : Option StoreError} (h : c.stage = .ended failure) (turns : Nat) :
    run l signal turns c = c :=
  Function.iterate_fixed (step_ended h) turns

theorem run_add (m n : Nat) (c : Course σ) :
    run l signal (m + n) c = run l signal n (run l signal m c) := by
  rw [run, Nat.add_comm, Function.iterate_add_apply]
  rfl

theorem run_succ (turns : Nat) (c : Course σ) :
    run l signal (turns + 1) c = run l signal turns (step l signal c) :=
  Function.iterate_succ_apply ..

theorem run_succ' (turns : Nat) (c : Course σ) :
    run l signal (turns + 1) c = step l signal (run l signal turns c) :=
  Function.iterate_succ_apply' ..

/-- Once over, a course is what it was. -/
theorem run_of_le {m n : Nat} (hle : m ≤ n) {failure : Option StoreError}
    (h : (run l signal m c).stage = .ended failure) : run l signal n c = run l signal m c := by
  obtain ⟨k, rfl⟩ := Nat.exists_eq_add_of_le hle
  rw [run_add, run_ended h]

/-! ### Items and calls -/

@[simp] theorem filterMap_item?_gave (item : ListItem) :
    [Deed.gave item].filterMap Deed.item? = [item] := rfl

@[simp] theorem filterMap_call?_gave (item : ListItem) :
    [Deed.gave item].filterMap Deed.call? = [] := rfl

theorem filterMap_item?_asked (calls : List StoreCall) :
    (calls.map Deed.asked).filterMap Deed.item? = [] := by
  rw [List.filterMap_map]
  exact List.filterMap_eq_nil_iff.mpr fun _ _ => rfl

theorem filterMap_call?_asked (calls : List StoreCall) :
    (calls.map Deed.asked).filterMap Deed.call? = calls := by
  rw [List.filterMap_map]
  exact List.filterMap_some ..

@[simp] theorem filterMap_item?_replicate (k : Nat) (call : StoreCall) :
    (List.replicate k (Deed.asked call)).filterMap Deed.item? = [] := by
  rw [← List.map_replicate, filterMap_item?_asked]

@[simp] theorem filterMap_call?_replicate (k : Nat) (call : StoreCall) :
    (List.replicate k (Deed.asked call)).filterMap Deed.call? = List.replicate k call := by
  rw [← List.map_replicate, filterMap_call?_asked]

theorem filterMap_item?_sizeless (deeds : List Deed) :
    (deeds.map Deed.sizeless).filterMap Deed.item? = deeds.filterMap Deed.item? := by
  rw [List.filterMap_map]
  congr 1
  funext d
  cases d <;> rfl

theorem filterMap_call?_sizeless (deeds : List Deed) :
    (deeds.map Deed.sizeless).filterMap Deed.call? =
      (deeds.filterMap Deed.call?).map StoreCall.sizeless := by
  rw [List.filterMap_map, List.map_filterMap]
  congr 1
  funext d
  cases d <;> rfl

/-! ### The first turns -/

theorem step_start {request : ListRequest} {filter : Filter} {w : World σ}
    (hbucket : request.uri.bucket ≠ []) (hfilter : request.filter.compile w.moment = .ok filter) :
    step l signal (start request w) =
      ⟨.underway (if (request.selection filter).reached 0 then
          .buckets [] (request.selection filter) 0
        else .walking (request.walk filter l.config.pageSize)),
        Listing.opening l request filter w, []⟩ := by
  have hnamed : request.uri.isEnumeration = false := by simpa [Uri.isEnumeration] using hbucket
  rw [step, start]
  dsimp only
  rw [Listing.callsOf_opened hbucket, Listing.turn, Listing.begin_eq, hfilter, hnamed]
  dsimp only
  rw [show (⟨request.recursive, filter, request.cap⟩ : Selection) = request.selection filter from rfl]
  by_cases hreached : (request.selection filter).reached 0 = true
  · rw [if_pos hreached, if_pos hreached]
    rfl
  · rw [if_neg hreached, if_neg hreached]
    rfl

theorem step_start_unread {request : ListRequest} {e : StoreError} {w : World σ}
    (hfilter : request.filter.compile w.moment = .error e) :
    step l signal (start request w) = ⟨.ended (some e), w.reportAll request.filter.notices, []⟩ := by
  rw [step, start]
  dsimp only
  rw [Listing.callsOf_unread hfilter, Listing.turn, Listing.begin_eq, hfilter]
  rfl

/-- A listing whose filter cannot be read fails in its first turn, and does nothing. -/
theorem amid_start_unread {change : Nat → World σ → World σ} {request : ListRequest} {e : StoreError}
    {w : World σ} (hfilter : request.filter.compile (change 0 w).moment = .error e) (turns : Nat) :
    (amid l signal change (turns + 1) (start request w)).stage = .ended (some e) ∧
      (amid l signal change (turns + 1) (start request w)).deeds = [] := by
  induction turns with
  | zero =>
    have hfirst : amid l signal change 1 (start request w) = _ := step_start_unread hfilter
    exact ⟨congrArg stage hfirst, congrArg deeds hfirst⟩
  | succ turns ih =>
    obtain ⟨hstage, hdeeds⟩ := ih
    have hover : ((amid l signal change (turns + 1) (start request w)).within (change (turns + 1))).stage =
        .ended (some e) := hstage
    rw [amid, step_ended hover]
    exact ⟨hstage, hdeeds⟩

/-- A listing that is to give out nothing is over before it asks for anything. -/
theorem run_start_reached {request : ListRequest} {filter : Filter} {w : World σ}
    (hbucket : request.uri.bucket ≠ []) (hfilter : request.filter.compile w.moment = .ok filter)
    (hreached : (request.selection filter).reached 0 = true) :
    run l signal 2 (start request w) =
      ⟨.ended none, (Listing.opening l request filter w).report (.listingFinished 0), []⟩ := by
  rw [run_succ, step_start hbucket hfilter, if_pos hreached]
  rfl

/-! ### Turns of a walk -/

section Turns

variable {walk : Walk} {f : Frame} {e : ObjectEntry} {rest : List ObjectEntry} {outer : List Frame}

theorem step_finished (hstage : c.stage = .underway (.walking walk))
    (h : walk.selection.reached walk.emitted = true ∨ walk.stack = []) :
    step l signal c = ⟨.ended none, c.world.report (.listingFinished walk.emitted), c.deeds⟩ := by
  have hstep := Walk.step_eq_finished h
  rw [step, hstage]
  dsimp only
  rw [Listing.callsOf_finished hstep, Listing.turn_finished hstep, List.map_nil, List.append_nil]

theorem step_pass {events : List Event} {next : Walk}
    (hstage : c.stage = .underway (.walking walk)) (hstep : walk.step = .pass events next) :
    step l signal c = ⟨.underway (.walking next), c.world.reportAll events, c.deeds⟩ := by
  rw [step, hstage]
  dsimp only
  rw [Listing.callsOf_pass hstep, Listing.turn_pass hstep, List.map_nil, List.append_nil]

theorem step_enter (hstage : c.stage = .underway (.walking walk))
    (hreached : walk.selection.reached walk.emitted = false) (hstack : walk.stack = f :: outer)
    (hpending : f.pending = e :: rest) (henters : walk.selection.enters e = true) :
    step l signal c = ⟨.underway (.walking { walk with
        stack := { under := e.key } :: { f with pending := rest } :: outer }),
      c.world.report (.descending e.key (outer.length + 1)), c.deeds⟩ :=
  step_pass hstage (Walk.step_eq_enter hreached hstack hpending henters)

theorem step_give (hstage : c.stage = .underway (.walking walk))
    (hreached : walk.selection.reached walk.emitted = false) (hstack : walk.stack = f :: outer)
    (hpending : f.pending = e :: rest) (henters : walk.selection.enters e = false)
    (hemits : walk.selection.emits e = true) :
    step l signal c = ⟨.underway (.walking { walk with
        stack := { f with pending := rest } :: outer, emitted := walk.emitted + 1 }),
      c.world, c.deeds ++ [.gave (.object e)]⟩ := by
  have hstep := Walk.step_eq_give hreached hstack hpending henters hemits
  rw [step, hstage]
  dsimp only
  rw [Listing.callsOf_emit hstep, Listing.turn_emit hstep, List.map_nil, List.append_nil]

theorem step_skip (hstage : c.stage = .underway (.walking walk))
    (hreached : walk.selection.reached walk.emitted = false) (hstack : walk.stack = f :: outer)
    (hpending : f.pending = e :: rest) (henters : walk.selection.enters e = false)
    (hemits : walk.selection.emits e = false) :
    step l signal c = ⟨.underway (.walking { walk with
        stack := { f with pending := rest } :: outer }), c.world, c.deeds⟩ :=
  step_pass hstage (Walk.step_eq_skip hreached hstack hpending henters hemits)

theorem step_leave (hstage : c.stage = .underway (.walking walk))
    (hreached : walk.selection.reached walk.emitted = false) (hstack : walk.stack = f :: outer)
    (hpending : f.pending = []) (hresume : f.resume = .nothingLeft) :
    step l signal c = ⟨.underway (.walking { walk with stack := outer }), c.world, c.deeds⟩ :=
  step_pass hstage (Walk.step_eq_leave hreached hstack hpending hresume)

theorem step_refused {failure : StoreError} {w : World σ} {k : Nat}
    (hstage : c.stage = .underway (.walking walk))
    (hreached : walk.selection.reached walk.emitted = false) (hstack : walk.stack = f :: outer)
    (hpending : f.pending = []) (hresume : f.resume ≠ .nothingLeft)
    (hpage : Listing.pageCall l signal (walk.requestFor f) c.world = (.error failure, w))
    (hk : w.callTimes.length = c.world.callTimes.length + k) :
    step l signal c = ⟨.ended (some failure), w,
      c.deeds ++ List.replicate k (.asked (.listObjects (walk.requestFor f)))⟩ := by
  have hstep := Walk.step_eq_ask hreached hstack hpending hresume
  obtain ⟨k', hk', hcalls⟩ := Listing.callsOf_ask l signal c.world hstep
  rw [hpage] at hk'
  cases Nat.add_left_cancel (hk'.symm.trans hk)
  rw [step, hstage]
  dsimp only
  rw [hcalls, Listing.turn_ask hstep, hpage, List.map_replicate]
  rfl

theorem step_received {page : Page} {w : World σ} {k : Nat}
    (hstage : c.stage = .underway (.walking walk))
    (hreached : walk.selection.reached walk.emitted = false) (hstack : walk.stack = f :: outer)
    (hpending : f.pending = []) (hresume : f.resume ≠ .nothingLeft)
    (hpage : Listing.pageCall l signal (walk.requestFor f) c.world = (.ok page, w))
    (hk : w.callTimes.length = c.world.callTimes.length + k) :
    step l signal c = ⟨.underway (.walking { walk with
        stack := ⟨f.under, page.entries, .ofNext page.next⟩ :: outer }),
      w.report (.pageReceived f.under page.entries.length page.next.isSome),
      c.deeds ++ List.replicate k (.asked (.listObjects (walk.requestFor f)))⟩ := by
  have hstep := Walk.step_eq_ask hreached hstack hpending hresume
  obtain ⟨k', hk', hcalls⟩ := Listing.callsOf_ask l signal c.world hstep
  rw [hpage] at hk'
  cases Nat.add_left_cancel (hk'.symm.trans hk)
  rw [step, hstage]
  dsimp only
  rw [hcalls, Listing.turn_ask hstep, hpage, List.map_replicate, ← Walk.receive_eq hstack]
  rfl

end Turns

/-- What a course comes to by one turn of its walk, by what is on the stack. -/
inductive Walked (l : Lister σ) (signal : StopSignal) (walk : Walk) (c : Course σ) : Course σ → Prop
  | finished : walk.selection.reached walk.emitted = true ∨ walk.stack = [] →
      Walked l signal walk c
        ⟨.ended none, c.world.report (.listingFinished walk.emitted), c.deeds⟩
  | enter {f : Frame} {e : ObjectEntry} {rest : List ObjectEntry} {outer : List Frame} :
      walk.selection.reached walk.emitted = false → walk.stack = f :: outer →
      f.pending = e :: rest → walk.selection.enters e = true →
      Walked l signal walk c
        ⟨.underway (.walking { walk with
            stack := { under := e.key } :: { f with pending := rest } :: outer }),
          c.world.report (.descending e.key (outer.length + 1)), c.deeds⟩
  | give {f : Frame} {e : ObjectEntry} {rest : List ObjectEntry} {outer : List Frame} :
      walk.selection.reached walk.emitted = false → walk.stack = f :: outer →
      f.pending = e :: rest → walk.selection.enters e = false → walk.selection.emits e = true →
      Walked l signal walk c
        ⟨.underway (.walking { walk with
            stack := { f with pending := rest } :: outer, emitted := walk.emitted + 1 }),
          c.world, c.deeds ++ [.gave (.object e)]⟩
  | skip {f : Frame} {e : ObjectEntry} {rest : List ObjectEntry} {outer : List Frame} :
      walk.selection.reached walk.emitted = false → walk.stack = f :: outer →
      f.pending = e :: rest → walk.selection.enters e = false → walk.selection.emits e = false →
      Walked l signal walk c
        ⟨.underway (.walking { walk with stack := { f with pending := rest } :: outer }),
          c.world, c.deeds⟩
  | leave {f : Frame} {outer : List Frame} :
      walk.selection.reached walk.emitted = false → walk.stack = f :: outer → f.pending = [] →
      f.resume = .nothingLeft →
      Walked l signal walk c
        ⟨.underway (.walking { walk with stack := outer }), c.world, c.deeds⟩
  | refused {f : Frame} {outer : List Frame} {e : StoreError} {w : World σ} {k : Nat} :
      walk.selection.reached walk.emitted = false → walk.stack = f :: outer → f.pending = [] →
      f.resume ≠ .nothingLeft →
      Listing.pageCall l signal (walk.requestFor f) c.world = (.error e, w) →
      w.callTimes.length = c.world.callTimes.length + k →
      Walked l signal walk c
        ⟨.ended (some e), w,
          c.deeds ++ List.replicate k (.asked (.listObjects (walk.requestFor f)))⟩
  | received {f : Frame} {outer : List Frame} {page : Page} {w : World σ} {k : Nat} :
      walk.selection.reached walk.emitted = false → walk.stack = f :: outer → f.pending = [] →
      f.resume ≠ .nothingLeft →
      Listing.pageCall l signal (walk.requestFor f) c.world = (.ok page, w) →
      w.callTimes.length = c.world.callTimes.length + k →
      Walked l signal walk c
        ⟨.underway (.walking { walk with
            stack := ⟨f.under, page.entries, .ofNext page.next⟩ :: outer }),
          w.report (.pageReceived f.under page.entries.length page.next.isSome),
          c.deeds ++ List.replicate k (.asked (.listObjects (walk.requestFor f)))⟩

theorem step_walked (l : Lister σ) (signal : StopSignal) {walk : Walk}
    (hstage : c.stage = .underway (.walking walk)) : Walked l signal walk c (step l signal c) := by
  cases hreached : walk.selection.reached walk.emitted with
  | true =>
    rw [step_finished hstage (Or.inl hreached)]
    exact .finished (Or.inl hreached)
  | false =>
    cases hstack : walk.stack with
    | nil =>
      rw [step_finished hstage (Or.inr hstack)]
      exact .finished (Or.inr hstack)
    | cons f outer =>
      cases hpending : f.pending with
      | cons e rest =>
        cases henters : walk.selection.enters e with
        | true =>
          rw [step_enter hstage hreached hstack hpending henters]
          exact .enter hreached hstack hpending henters
        | false =>
          cases hemits : walk.selection.emits e with
          | true =>
            rw [step_give hstage hreached hstack hpending henters hemits]
            exact .give hreached hstack hpending henters hemits
          | false =>
            rw [step_skip hstage hreached hstack hpending henters hemits]
            exact .skip hreached hstack hpending henters hemits
      | nil =>
        by_cases hresume : f.resume = .nothingLeft
        · rw [step_leave hstage hreached hstack hpending hresume]
          exact .leave hreached hstack hpending hresume
        · have hstep := Walk.step_eq_ask hreached hstack hpending hresume
          obtain ⟨k, hk, -⟩ := Listing.callsOf_ask l signal c.world hstep
          match hpage : Listing.pageCall l signal (walk.requestFor f) c.world with
          | (.error e, w) =>
            rw [hpage] at hk
            rw [step_refused hstage hreached hstack hpending hresume hpage hk]
            exact .refused hreached hstack hpending hresume hpage hk
          | (.ok page, w) =>
            rw [hpage] at hk
            rw [step_received hstage hreached hstack hpending hresume hpage hk]
            exact .received hreached hstack hpending hresume hpage hk

/-- A walk fails only with a page that is refused. -/
theorem exists_refused {walk : Walk} {e : StoreError}
    (hstage : c.stage = .underway (.walking walk)) (h : (step l signal c).stage = .ended (some e)) :
    ∃ f w, Listing.pageCall l signal (walk.requestFor f) c.world = (.error e, w) := by
  have hwalked := step_walked l signal hstage
  generalize step l signal c = next at h hwalked
  cases hwalked with
  | finished _ => cases h
  | enter _ _ _ _ => cases h
  | give _ _ _ _ _ => cases h
  | skip _ _ _ _ _ => cases h
  | leave _ _ _ _ => cases h
  | refused _ _ _ _ hpage _ => cases h; exact ⟨_, _, hpage⟩
  | received _ _ _ _ _ _ => cases h

theorem page?_eq_some {walk : Walk} {f : Frame} {outer : List Frame} {page : Page} {w : World σ}
    (hstage : c.stage = .underway (.walking walk))
    (hreached : walk.selection.reached walk.emitted = false) (hstack : walk.stack = f :: outer)
    (hpending : f.pending = []) (hresume : f.resume ≠ .nothingLeft)
    (hpage : Listing.pageCall l signal (walk.requestFor f) c.world = (.ok page, w)) :
    c.page? l signal = some page := by
  rw [page?, hstage]
  dsimp only
  rw [Walk.step_eq_ask hreached hstack hpending hresume]
  dsimp only
  rw [hpage]
  rfl

/-! ### Gathering -/

theorem collectFrom_eq_run : ∀ (turns : Nat) (found : List ListItem) (listing : Listing)
    (w : World σ) (deeds : List Deed), deeds.filterMap Deed.item? = found.reverse →
    Listing.collectFrom l signal turns found listing w =
      (run l signal turns ⟨.underway listing, w, deeds⟩).gathered
  | 0, found, listing, w, deeds, h => by
    rw [Listing.collectFrom, run, Function.iterate_zero, id, gathered, items, h]
    rfl
  | turns + 1, found, listing, w, deeds, h => by
    have hasked : (deeds ++ (Listing.callsOf l signal listing w).map Deed.asked).filterMap
        Deed.item? = found.reverse := by
      rw [List.filterMap_append, filterMap_item?_asked, List.append_nil, h]
    rw [Listing.collectFrom, run_succ, step]
    dsimp only
    match hturn : Listing.turn l signal listing w with
    | .item item rest w' =>
      refine collectFrom_eq_run turns (item :: found) rest w' _ ?_
      rw [List.filterMap_append, hasked, List.reverse_cons]
      rfl
    | .going rest w' => exact collectFrom_eq_run turns found rest w' _ hasked
    | .failed e w' =>
      rw [run_ended rfl, gathered, items, hasked]
      rfl
    | .ended w' =>
      rw [run_ended rfl, gathered, items, hasked]
      rfl

/-- Gathering a listing is running its course. -/
theorem collect_eq_run (l : Lister σ) (signal : StopSignal) (turns : Nat) (request : ListRequest)
    (w : World σ) : Listing.collect l signal turns (.opened request) w =
      (run l signal turns (start request w)).gathered :=
  collectFrom_eq_run turns [] (.opened request) w [] rfl

/-! ### The log of a watched store -/

/-- Whether a course is the same as another, but for a store that is watched, and wrote down the calls. -/
structure Logs (logged : Course (σ × List StoreCall)) (c : Course σ) : Prop where
  stage : logged.stage = c.stage
  items : logged.items = c.items
  world : logged.world = c.world.watched c.calls

theorem Logs.asked {deeds deeds' : List Deed}
    (hitems : deeds.filterMap Deed.item? = deeds'.filterMap Deed.item?) (stage : Stage) (w : World σ)
    (calls calls' : List StoreCall) :
    Logs ⟨stage, w.watched (deeds'.filterMap Deed.call? ++ calls), deeds ++ calls'.map Deed.asked⟩
      ⟨stage, w, deeds' ++ calls.map Deed.asked⟩ := by
  refine ⟨rfl, ?_, ?_⟩
  · simp only [Course.items, List.filterMap_append, filterMap_item?_asked, hitems]
  · simp only [Course.calls, List.filterMap_append, filterMap_call?_asked]

theorem Logs.gave {logged : Course (σ × List StoreCall)} (h : Logs logged c) (item : ListItem) :
    Logs { logged with deeds := logged.deeds ++ [.gave item] }
      { c with deeds := c.deeds ++ [.gave item] } := by
  have hitems := h.items
  have hworld := h.world
  simp only [Course.items, Course.calls] at hitems hworld
  refine ⟨h.stage, ?_, ?_⟩
  · simp [Course.items, hitems]
  · simp [Course.calls, hworld]

theorem Logs.step {logged : Course (σ × List StoreCall)} (h : Logs logged c) :
    Logs (Course.step l.watched signal logged) (Course.step l signal c) := by
  obtain ⟨stage, world, deeds⟩ := logged
  obtain ⟨stage', world', deeds'⟩ := c
  obtain ⟨hstage, hitems, hworld⟩ := h
  dsimp only at hstage hworld
  subst hstage hworld
  rw [Course.step, Course.step]
  cases stage with
  | ended failure => exact ⟨rfl, hitems, rfl⟩
  | underway listing =>
    dsimp only
    rw [Listing.turn_watched]
    cases Listing.turn l signal listing world' with
    | item item rest w => exact (Logs.asked hitems (.underway rest) w _ _).gave item
    | going rest w => exact .asked hitems (.underway rest) w _ _
    | failed e w => exact .asked hitems (.ended (some e)) w _ _
    | ended w => exact .asked hitems (.ended none) w _ _

theorem run_logs (l : Lister σ) (signal : StopSignal) (request : ListRequest) (w : World σ)
    (turns : Nat) : Logs (run l.watched signal turns (start request (w.watched [])))
      (run l signal turns (start request w)) := by
  induction turns with
  | zero => exact ⟨rfl, rfl, rfl⟩
  | succ turns ih =>
    rw [run_succ', run_succ']
    exact ih.step

/-- Gathering a listing of a watched store gives the same, and the calls of the course are in the log. -/
theorem collect_watched (l : Lister σ) (signal : StopSignal) (turns : Nat) (request : ListRequest)
    (w : World σ) :
    Listing.collect l.watched signal turns (.opened request) (w.watched []) =
      ⟨(run l signal turns (start request w)).items,
        (run l signal turns (start request w)).stage.ending,
        (run l signal turns (start request w)).world.watched
          (run l signal turns (start request w)).calls⟩ := by
  obtain ⟨hstage, hitems, hworld⟩ := run_logs l signal request w turns
  rw [collect_eq_run, gathered, hstage, hitems, hworld]

end Course

/-- The calls that a store gets while a listing is gathered, as a watched store writes them down. -/
def Listing.asked (l : Lister σ) (signal : StopSignal) (turns : Nat) (request : ListRequest)
    (w : World σ) : List StoreCall :=
  (collect l.watched signal turns (.opened request) (w.watched [])).world.store.2

theorem Listing.asked_eq (l : Lister σ) (signal : StopSignal) (turns : Nat) (request : ListRequest)
    (w : World σ) : asked l signal turns request w =
      (Course.run l signal turns (.start request w)).calls := by
  rw [asked, Course.collect_watched]
  rfl

end ObjectListing
