import ObjectListing.Proofs.Listing.Course

/-!
Listings as a recursion. `Visits` is the walk through a store by plain recursion: the pages of a prefix in
the order of their tokens, and between one page and the next its entries, each as its kind has it. A
listing with its stack of frames does what that walk does, deed by deed, over every store whose answers
hang on the bucket, the prefix and the token alone (`Listing.run_of_visits`).
-/

namespace ObjectListing

variable {σ : Type}

/-! ### The walk by recursion -/

/-- What becomes of an entry of a page. -/
inductive Expansion
  | contents
  | itself
  | nothing
  deriving DecidableEq

/-- A common prefix stands for what is in it, when directories are entered, or for itself, when there is
no filter; an object stands for itself if the filter accepts it. -/
def Expansion.of (recursive : Bool) (filter : Filter) (e : ObjectEntry) : Expansion :=
  if e.isCommonPrefix then
    if recursive then .contents else if filter.isEmpty then .itself else .nothing
  else if filter.accepts e then .itself else .nothing

/-- What a walk goes through: a bucket of a store that gives such answers. A failure is asked for as often
as `tries` says. -/
structure Excursion where
  bucket : Text
  answer : (bucket under : Text) → (token : Option Text) → Except StoreError Page
  tries : StoreError → Nat
  recursive : Bool
  filter : Filter

/-- Asking for a page, whatever its size. -/
def Excursion.ask (x : Excursion) (under : Text) (token : Option Text) : Deed :=
  .asked (.listObjects ⟨x.bucket, under, token, 0⟩)

/-- A part of a walk: the pages of a prefix from a token on, or the entries of a page. -/
inductive Errand
  | pages (under : Text) (token : Option Text)
  | entries (es : List ObjectEntry)

/-- What a walk by recursion does on an errand, and the failure that ends it, if one does. -/
inductive Visits (x : Excursion) : Errand → List Deed → Option StoreError → Prop
  | refused {under : Text} {token : Option Text} {e : StoreError} :
      x.answer x.bucket under token = .error e →
      Visits x (.pages under token) (List.replicate (x.tries e) (x.ask under token)) (some e)
  | failedInPage {under : Text} {token : Option Text} {page : Page} {e : StoreError}
      {deeds : List Deed} : x.answer x.bucket under token = .ok page →
      Visits x (.entries page.entries) deeds (some e) →
      Visits x (.pages under token) (x.ask under token :: deeds) (some e)
  | lastPage {under : Text} {token : Option Text} {page : Page} {deeds : List Deed} :
      x.answer x.bucket under token = .ok page → page.next = none →
      Visits x (.entries page.entries) deeds none →
      Visits x (.pages under token) (x.ask under token :: deeds) none
  | nextPage {under : Text} {token : Option Text} {page : Page} {t : Text} {deeds more : List Deed}
      {failure : Option StoreError} :
      x.answer x.bucket under token = .ok page → page.next = some t →
      Visits x (.entries page.entries) deeds none → Visits x (.pages under (some t)) more failure →
      Visits x (.pages under token) (x.ask under token :: deeds ++ more) failure
  | done : Visits x (.entries []) [] none
  | nothing {e : ObjectEntry} {rest : List ObjectEntry} {deeds : List Deed}
      {failure : Option StoreError} : Expansion.of x.recursive x.filter e = .nothing →
      Visits x (.entries rest) deeds failure → Visits x (.entries (e :: rest)) deeds failure
  | itself {e : ObjectEntry} {rest : List ObjectEntry} {deeds : List Deed}
      {failure : Option StoreError} : Expansion.of x.recursive x.filter e = .itself →
      Visits x (.entries rest) deeds failure →
      Visits x (.entries (e :: rest)) (.gave (.object e) :: deeds) failure
  | failedInside {e : ObjectEntry} {rest : List ObjectEntry} {deeds : List Deed}
      {failure : StoreError} : Expansion.of x.recursive x.filter e = .contents →
      Visits x (.pages e.key none) deeds (some failure) →
      Visits x (.entries (e :: rest)) deeds (some failure)
  | contents {e : ObjectEntry} {rest : List ObjectEntry} {deeds more : List Deed}
      {failure : Option StoreError} : Expansion.of x.recursive x.filter e = .contents →
      Visits x (.pages e.key none) deeds none → Visits x (.entries rest) more failure →
      Visits x (.entries (e :: rest)) (deeds ++ more) failure

/-! ### Stores that always answer the same -/

/-- A store whose answers hang on the bucket, the prefix and the token alone, and that stops nobody. -/
structure Backend.Steady (b : Backend σ)
    (answer : (bucket under : Text) → (token : Option Text) → Except StoreError Page) : Prop where
  answers : ∀ request s,
    (b.listObjects request s).answer = answer request.bucket request.under request.token
  unstopping : ∀ request s, (b.listObjects request s).stops = false

theorem Listing.pageCall_of_steady {l : Lister σ} {signal : StopSignal}
    {answer : (bucket under : Text) → (token : Option Text) → Except StoreError Page}
    (h : l.backend.Steady answer) (request : PageRequest) {w : World σ}
    (hw : w.stopAt signal = none) :
    ∃ w', pageCall l signal request w =
        (answer request.bucket request.under request.token, w') ∧ w'.stopAt signal = none ∧
      w'.callTimes.length = w.callTimes.length + l.config.retry.attemptsFor
        (answer request.bucket request.under request.token) := by
  have hcalm : ∀ v : World σ, v.stopAt signal = none →
      (v.call (l.backend.listObjects request)).2.stopAt signal = none := fun v hv =>
    (World.stopAt_call (h.unstopping request v.store)).trans hv
  obtain ⟨hanswer, hstop, htimes⟩ := Retry.call_of_constant l.config.retry "list_objects"
    (h.answers request) hcalm (w := w.report (.requestingPage request.bucket request.under
      request.size request.token.isSome)) hw
  exact ⟨_, Prod.ext hanswer rfl, hstop, htimes⟩

/-- Where a frame goes on from a token. -/
def Resume.ofToken : Option Text → Resume
  | none => .fromStart
  | some t => .after t

theorem Resume.ofToken_ne (token : Option Text) : Resume.ofToken token ≠ .nothingLeft := by
  cases token with
  | none => exact nofun
  | some t => exact nofun

theorem Resume.token?_ofToken (token : Option Text) : (Resume.ofToken token).token? = token := by
  cases token with
  | none => rfl
  | some t => rfl

/-! ### What a listing does on an errand -/

/-- The stacks between which a listing runs an errand: prefixes are left again, and entries are used up. -/
inductive Errand.Takes : Errand → List Frame → List Frame → Prop
  | pages {under : Text} {token : Option Text} {outer : List Frame} :
      Takes (.pages under token) (⟨under, [], .ofToken token⟩ :: outer) outer
  | entries {es : List ObjectEntry} {under : Text} {resume : Resume} {outer : List Frame} :
      Takes (.entries es) (⟨under, es, resume⟩ :: outer) (⟨under, [], resume⟩ :: outer)

namespace Course

variable {l : Lister σ} {signal : StopSignal} {x : Excursion} {walk : Walk} {c : Course σ}
  {stack outer : List Frame} {f : Frame} {base deeds : List Deed} {failure : Option StoreError}

/-- A course that did these deeds: it failed, or it is at a walk with this stack, and nothing stops it. -/
inductive Arrives (signal : StopSignal) (walk : Walk) (stack : List Frame) (deeds : List Deed) :
    Option StoreError → Course σ → Prop
  | failed {c : Course σ} {e : StoreError} : c.deeds.map Deed.sizeless = deeds →
      c.stage = .ended (some e) → Arrives signal walk stack deeds (some e) c
  | underway {c : Course σ} {emitted : Nat} : c.deeds.map Deed.sizeless = deeds →
      c.stage = .underway (.walking { walk with stack, emitted }) →
      c.world.stopAt signal = none → Arrives signal walk stack deeds none c

end Course

/-- A walk over a store that goes through what an excursion goes through. -/
structure Excursion.Matches (x : Excursion) (l : Lister σ) (walk : Walk) : Prop where
  steady : l.backend.Steady x.answer
  tries : ∀ e, x.tries e = l.config.retry.attemptsFor (.error e : Except StoreError Page)
  bucket : walk.bucket = x.bucket
  recursive : walk.selection.recursive = x.recursive
  filter : walk.selection.filter = x.filter
  cap : walk.selection.cap = none

namespace Excursion.Matches

open Course

variable {l : Lister σ} {signal : StopSignal} {x : Excursion} {walk : Walk} {c : Course σ}
  {stack outer : List Frame} {under : Text} {resume : Resume} {token : Option Text}
  {e : ObjectEntry} {rest : List ObjectEntry} {base deeds : List Deed}
  {failure : Option StoreError} (h : x.Matches l walk)

include h

theorem reached (emitted : Nat) : walk.selection.reached emitted = false := by
  rw [Selection.reached, h.cap]

theorem enters_iff : walk.selection.enters e = true ↔
    Expansion.of x.recursive x.filter e = .contents := by
  rw [Selection.enters, h.recursive, Expansion.of]
  cases e.isCommonPrefix with
  | true =>
    cases x.recursive with
    | true => simp
    | false => cases hf : x.filter.isEmpty <;> simp
  | false => cases hf : x.filter.accepts e <;> simp

theorem emits_of_itself (hself : Expansion.of x.recursive x.filter e = .itself) :
    walk.selection.enters e = false ∧ walk.selection.emits e = true := by
  rw [Expansion.of] at hself
  rw [Selection.enters, Selection.emits, h.recursive, h.filter]
  cases hkind : e.isCommonPrefix <;> cases hr : x.recursive <;> simp_all

theorem emits_of_nothing (hnothing : Expansion.of x.recursive x.filter e = .nothing) :
    walk.selection.enters e = false ∧ walk.selection.emits e = false := by
  rw [Expansion.of] at hnothing
  rw [Selection.enters, Selection.emits, h.recursive, h.filter]
  cases hkind : e.isCommonPrefix <;> cases hr : x.recursive <;> simp_all

/-! One lemma for each kind of turn. -/

theorem enter (hinto : Expansion.of x.recursive x.filter e = .contents)
    (hc : Arrives signal walk (⟨under, e :: rest, resume⟩ :: outer) base none c) :
    Arrives signal walk (⟨e.key, [], .ofToken none⟩ :: ⟨under, rest, resume⟩ :: outer) base none
      (c.step l signal) := by
  cases hc with
  | underway hdeeds hstage hstop =>
    rw [step_enter hstage (h.reached _) rfl rfl (h.enters_iff.mpr hinto)]
    exact .underway hdeeds rfl hstop

theorem give (hself : Expansion.of x.recursive x.filter e = .itself)
    (hc : Arrives signal walk (⟨under, e :: rest, resume⟩ :: outer) base none c) :
    Arrives signal walk (⟨under, rest, resume⟩ :: outer) (base ++ [.gave (.object e)]) none
      (c.step l signal) := by
  cases hc with
  | underway hdeeds hstage hstop =>
    obtain ⟨henters, hemits⟩ := h.emits_of_itself hself
    rw [step_give hstage (h.reached _) rfl rfl henters hemits]
    refine .underway ?_ rfl hstop
    rw [List.map_append, hdeeds]
    rfl

theorem skip (hnothing : Expansion.of x.recursive x.filter e = .nothing)
    (hc : Arrives signal walk (⟨under, e :: rest, resume⟩ :: outer) base none c) :
    Arrives signal walk (⟨under, rest, resume⟩ :: outer) base none (c.step l signal) := by
  cases hc with
  | underway hdeeds hstage hstop =>
    obtain ⟨henters, hemits⟩ := h.emits_of_nothing hnothing
    rw [step_skip hstage (h.reached _) rfl rfl henters hemits]
    exact .underway hdeeds rfl hstop

theorem leave (hc : Arrives signal walk (⟨under, [], .nothingLeft⟩ :: outer) base none c) :
    Arrives signal walk outer base none (c.step l signal) := by
  cases hc with
  | underway hdeeds hstage hstop =>
    rw [step_leave hstage (h.reached _) rfl rfl rfl]
    exact .underway hdeeds rfl hstop

/-- The call for a page, and what it writes down. -/
theorem exists_pageCall (outer : List Frame) (under : Text) (token : Option Text) (emitted : Nat)
    (hstop : c.world.stopAt signal = none) :
    let walk' : Walk := { walk with stack := ⟨under, [], .ofToken token⟩ :: outer, emitted }
    ∃ w k, Listing.pageCall l signal (walk'.requestFor ⟨under, [], .ofToken token⟩) c.world =
        (x.answer x.bucket under token, w) ∧ w.stopAt signal = none ∧
      w.callTimes.length = c.world.callTimes.length + k ∧
      k = l.config.retry.attemptsFor (x.answer x.bucket under token) ∧
      Deed.sizeless (.asked (.listObjects
        (walk'.requestFor ⟨under, [], .ofToken token⟩))) = x.ask under token := by
  intro walk'
  obtain ⟨w, hpage, hstop', htimes⟩ := Listing.pageCall_of_steady h.steady
    (walk'.requestFor ⟨under, [], .ofToken token⟩) hstop
  rw [Walk.requestFor, Resume.token?_ofToken, show walk'.bucket = x.bucket from h.bucket] at *
  exact ⟨w, _, hpage, hstop', htimes, rfl, rfl⟩

theorem receive {page : Page} (hanswer : x.answer x.bucket under token = .ok page)
    (hc : Arrives signal walk (⟨under, [], .ofToken token⟩ :: outer) base none c) :
    Arrives signal walk (⟨under, page.entries, .ofNext page.next⟩ :: outer)
      (base ++ [x.ask under token]) none (c.step l signal) := by
  cases hc with
  | @underway _ emitted hdeeds hstage hstop =>
    obtain ⟨w, k, hpage, hstop', htimes, hk, hsizeless⟩ :=
      h.exists_pageCall outer under token emitted hstop
    rw [hanswer] at hpage hk
    rw [step_received hstage (h.reached _) rfl rfl (Resume.ofToken_ne token) hpage htimes]
    refine .underway ?_ rfl hstop'
    rw [List.map_append, hdeeds, List.map_replicate, hsizeless, hk]
    rfl

theorem refuse {failure : StoreError} (hanswer : x.answer x.bucket under token = .error failure)
    (hc : Arrives signal walk (⟨under, [], .ofToken token⟩ :: outer) base none c) :
    Arrives signal walk outer (base ++ List.replicate (x.tries failure) (x.ask under token))
      (some failure) (c.step l signal) := by
  cases hc with
  | @underway _ emitted hdeeds hstage hstop =>
    obtain ⟨w, k, hpage, hstop', htimes, hk, hsizeless⟩ :=
      h.exists_pageCall outer under token emitted hstop
    rw [hanswer] at hpage hk
    rw [step_refused hstage (h.reached _) rfl rfl (Resume.ofToken_ne token) hpage htimes]
    refine .failed ?_ rfl
    rw [List.map_append, hdeeds, List.map_replicate, hsizeless, hk, h.tries]

/-- What a walk by recursion does on an errand, a listing does with its stack. -/
theorem run {errand : Errand} (hvisits : Visits x errand deeds failure) :
    ∀ {stack outer : List Frame} {base : List Deed} {c : Course σ}, errand.Takes stack outer →
    Arrives signal walk stack base none c →
    ∃ m, Arrives signal walk outer (base ++ deeds) failure (c.run l signal m) := by
  induction hvisits with
  | refused hanswer =>
    rintro _ _ base c ⟨⟩ hc
    exact ⟨1, h.refuse hanswer hc⟩
  | failedInPage hanswer _ ih =>
    rintro _ outer base c ⟨⟩ hc
    obtain ⟨m, hm⟩ := ih .entries (h.receive hanswer hc)
    refine ⟨m + 1, ?_⟩
    rw [run_succ]
    cases hm with
    | failed hdeeds hstage => exact .failed (by rw [hdeeds, List.append_assoc]; rfl) hstage
  | lastPage hanswer hnext _ ih =>
    rintro _ _ base c ⟨⟩ hc
    have hreceived := h.receive hanswer hc
    rw [hnext] at hreceived
    obtain ⟨m, hm⟩ := ih .entries hreceived
    refine ⟨m + 1 + 1, ?_⟩
    rw [run_succ', run_succ]
    rw [List.append_assoc] at hm
    exact h.leave hm
  | nextPage hanswer hnext _ _ ih ih' =>
    rintro _ _ base c ⟨⟩ hc
    have hreceived := h.receive hanswer hc
    rw [hnext] at hreceived
    obtain ⟨m, hm⟩ := ih .entries hreceived
    obtain ⟨m', hm'⟩ := ih' .pages hm
    refine ⟨m + 1 + m', ?_⟩
    rw [run_add, run_succ]
    simpa using hm'
  | done =>
    rintro _ _ base c ⟨⟩ hc
    refine ⟨0, ?_⟩
    rw [List.append_nil]
    exact hc
  | nothing hnothing _ ih =>
    rintro _ _ base c ⟨⟩ hc
    obtain ⟨m, hm⟩ := ih .entries (h.skip hnothing hc)
    exact ⟨m + 1, by rwa [run_succ]⟩
  | itself hself _ ih =>
    rintro _ _ base c ⟨⟩ hc
    obtain ⟨m, hm⟩ := ih .entries (h.give hself hc)
    refine ⟨m + 1, ?_⟩
    rw [run_succ]
    simpa using hm
  | failedInside hinto _ ih =>
    rintro _ _ base c ⟨⟩ hc
    obtain ⟨m, hm⟩ := ih .pages (h.enter hinto hc)
    refine ⟨m + 1, ?_⟩
    rw [run_succ]
    cases hm with
    | failed hdeeds hstage => exact .failed hdeeds hstage
  | contents hinto _ _ ih ih' =>
    rintro _ _ base c ⟨⟩ hc
    obtain ⟨m, hm⟩ := ih .pages (h.enter hinto hc)
    obtain ⟨m', hm'⟩ := ih' .entries hm
    refine ⟨m + 1 + m', ?_⟩
    rw [run_add, run_succ]
    simpa using hm'

end Excursion.Matches

/-! ### Listings -/

/-- The walk by recursion that stands for a listing. -/
def Listing.excursion (l : Lister σ) (request : ListRequest) (filter : Filter)
    (answer : (bucket under : Text) → (token : Option Text) → Except StoreError Page) :
    Excursion where
  bucket := request.uri.bucket
  answer := answer
  tries e := l.config.retry.attemptsFor (.error e : Except StoreError Page)
  recursive := request.recursive
  filter := filter

/-- A listing that nothing stops comes to its end with what the walk by recursion does. -/
theorem Course.exists_ended_of_visits (l : Lister σ) (signal : StopSignal) {request : ListRequest}
    {w : World σ} {filter : Filter}
    {answer : (bucket under : Text) → (token : Option Text) → Except StoreError Page}
    {deeds : List Deed} {failure : Option StoreError} (hbucket : request.uri.bucket ≠ [])
    (hcap : request.cap = none) (hfilter : request.filter.compile w.moment = .ok filter)
    (hsteady : l.backend.Steady answer) (hunstopped : w.stopAt signal = none)
    (hvisits : Visits (Listing.excursion l request filter answer) (.pages request.uri.listed none)
      deeds failure) :
    ∃ n, (run l signal n (.start request w)).stage = .ended failure ∧
      (run l signal n (.start request w)).deeds.map Deed.sizeless = deeds := by
  have hmatches : (Listing.excursion l request filter answer).Matches l
      (request.walk filter l.config.pageSize) := ⟨hsteady, fun _ => rfl, rfl, rfl, rfl, hcap⟩
  have hreached : ¬ (request.selection filter).reached 0 = true := by
    rw [Selection.reached, ListRequest.selection, hcap]
    exact Bool.false_ne_true
  have hopened : Arrives signal (request.walk filter l.config.pageSize)
      [⟨request.uri.listed, [], .ofToken none⟩] [] none (step l signal (.start request w)) := by
    rw [step_start hbucket hfilter, if_neg hreached]
    exact .underway rfl rfl hunstopped
  obtain ⟨m, hm⟩ := hmatches.run hvisits .pages hopened
  rw [← run_succ] at hm
  cases hm with
  | failed hdeeds hstage => exact ⟨m + 1, hstage, hdeeds⟩
  | underway hdeeds hstage _ =>
    refine ⟨m + 1 + 1, ?_⟩
    rw [run_succ', step_finished hstage (Or.inr rfl)]
    exact ⟨rfl, hdeeds⟩

/-- A listing that nothing stops does what the walk by recursion does, when that walk comes to an end: it
asks for the same pages and gives out the same entries in between, and ends with the same failure, if
there is one. -/
theorem Listing.run_of_visits (l : Lister σ) (signal : StopSignal) (request : ListRequest)
    (w : World σ) {filter : Filter}
    {answer : (bucket under : Text) → (token : Option Text) → Except StoreError Page}
    {deeds : List Deed} {failure : Option StoreError} (hbucket : request.uri.bucket ≠ [])
    (hcap : request.cap = none) (hfilter : request.filter.compile w.moment = .ok filter)
    (hsteady : l.backend.Steady answer) (hunstopped : w.stopAt signal = none)
    (hvisits : Visits (excursion l request filter answer) (.pages request.uri.listed none)
      deeds failure) :
    ∃ n, ∀ turns ≥ n,
      (Course.run l signal turns (.start request w)).deeds.map Deed.sizeless = deeds ∧
      (collect l signal turns (.opened request) w).items = deeds.filterMap Deed.item? ∧
      (collect l signal turns (.opened request) w).ending = (Stage.ended failure).ending ∧
      (asked l signal turns request w).map StoreCall.sizeless = deeds.filterMap Deed.call? := by
  obtain ⟨n, hended, hdeeds⟩ := Course.exists_ended_of_visits l signal hbucket hcap hfilter
    hsteady hunstopped hvisits
  refine ⟨n, ?_⟩
  intro turns hturns
  rw [asked_eq, Course.collect_eq_run, Course.run_of_le hturns hended, Course.gathered, hended]
  refine ⟨hdeeds, ?_, rfl, ?_⟩
  · rw [← hdeeds, Course.filterMap_item?_sizeless]
    rfl
  · rw [← hdeeds, Course.filterMap_call?_sizeless]
    rfl

/-- A lister of a store that answers so. -/
def Lister.answering
    (answer : (bucket under : Text) → (token : Option Text) → Except StoreError Page) :
    Lister Unit where
  backend :=
    { name := "answering"
      listObjects := fun request _ =>
        { answer := answer request.bucket request.under request.token, store := () }
      listBuckets := fun _ => { answer := .ok [], store := () }
      getObject := fun _ _ _ => { answer := .ok (.zeros 0), store := () } }

theorem Lister.answering_steady
    (answer : (bucket under : Text) → (token : Option Text) → Except StoreError Page) :
    (Lister.answering answer).backend.Steady answer :=
  ⟨fun _ _ => rfl, fun _ _ => rfl⟩

/-- A prefix with two pages, of which the second can not be had, and a directory on the first. -/
def halfAnswered (_ under : Text) (token : Option Text) : Except StoreError Page :=
  if under = ['a', '/'] then .ok ⟨[.object ['a', '/', 'x'] 1 {}], none⟩
  else match token with
    | none => .ok ⟨[.commonPrefix ['a', '/']], some ['t']⟩
    | some _ => .error (.transient "busy")

/-- A listing goes through the directory between the two pages, and tries for the second one three
times. -/
theorem Listing.run_halfAnswered : ∃ n, ∀ turns ≥ n,
    (Course.run (.answering halfAnswered) {} turns
        (.start { uri := ⟨.s3, ['b'], []⟩, recursive := true } { store := () })).deeds.map
        Deed.sizeless =
      [.asked (.listObjects ⟨['b'], [], none, 0⟩),
        .asked (.listObjects ⟨['b'], ['a', '/'], none, 0⟩),
        .gave (.object (.object ['a', '/', 'x'] 1 {})),
        .asked (.listObjects ⟨['b'], [], some ['t'], 0⟩),
        .asked (.listObjects ⟨['b'], [], some ['t'], 0⟩),
        .asked (.listObjects ⟨['b'], [], some ['t'], 0⟩)] := by
  have hvisits : Visits (Listing.excursion (.answering halfAnswered)
      { uri := ⟨.s3, ['b'], []⟩, recursive := true } {} halfAnswered) (.pages [] none) _
      (some (.transient "busy")) :=
    .nextPage rfl rfl (.contents rfl (.lastPage rfl rfl (.itself rfl .done)) .done) (.refused rfl)
  obtain ⟨n, hn⟩ := Listing.run_of_visits (.answering halfAnswered) {}
    { uri := ⟨.s3, ['b'], []⟩, recursive := true } { store := () } (by decide) rfl rfl
    (Lister.answering_steady halfAnswered) rfl hvisits
  exact ⟨n, fun turns hturns => (hn turns hturns).1⟩

/-- A store that is always busy. -/
def alwaysBusy (_ _ : Text) (_ : Option Text) : Except StoreError Page := .error (.transient "busy")

/-- A page is not asked for just once if the answer is a transient failure. -/
theorem Listing.not_run_of_visits_once :
    ¬ ∀ (l : Lister Unit) (signal : StopSignal) (request : ListRequest) (w : World Unit)
      (filter : Filter)
      (answer : (bucket under : Text) → (token : Option Text) → Except StoreError Page)
      (deeds : List Deed) (failure : Option StoreError), request.uri.bucket ≠ [] →
      request.cap = none → request.filter.compile w.moment = .ok filter →
      l.backend.Steady answer → w.stopAt signal = none →
      Visits ⟨request.uri.bucket, answer, fun _ => 1, request.recursive, filter⟩
        (.pages request.uri.listed none) deeds failure →
      ∃ n, ∀ turns ≥ n,
        (Course.run l signal turns (.start request w)).deeds.map Deed.sizeless = deeds := by
  intro h
  have honce : Visits ⟨['b'], alwaysBusy, fun _ => 1, true, {}⟩ (.pages [] none) _ _ :=
    .refused rfl
  have hthrice : Visits (Listing.excursion (.answering alwaysBusy)
      { uri := ⟨.s3, ['b'], []⟩, recursive := true } {} alwaysBusy) (.pages [] none) _ _ :=
    .refused rfl
  obtain ⟨n, hn⟩ := h (.answering alwaysBusy) {} { uri := ⟨.s3, ['b'], []⟩, recursive := true }
    { store := () } {} alwaysBusy _ _ (by decide) rfl rfl (Lister.answering_steady alwaysBusy) rfl
    honce
  obtain ⟨m, hended, hdeeds⟩ := Course.exists_ended_of_visits (.answering alwaysBusy) {}
    (w := { store := () }) (by decide) rfl rfl (Lister.answering_steady alwaysBusy) rfl hthrice
  have hn := hn (max n m) (Nat.le_max_left n m)
  rw [Course.run_of_le (Nat.le_max_right n m) hended] at hn
  have hlength := congrArg List.length (hdeeds.symm.trans hn)
  rw [List.length_replicate] at hlength
  cases hlength

end ObjectListing
