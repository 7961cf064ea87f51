import ObjectListing.Proofs.Listing.Visit
import ObjectListing.Proofs.Store.SizeBlind

/-!
Filters and caps. A listing with a filter and a cap is compared, turn by turn, with the plain listing of the
same prefix: it gives out the first of what the filter leaves of the plain one, asks for the same pages in
the same order, and for none once it gave out enough (`Listing.collect_truncated`). The stores are those
that do not look at the size of pages, since a cap makes pages smaller.
-/

namespace ObjectListing

variable {σ : Type}

/-! ### What a filter leaves -/

/-- The request without its filter and without its cap. -/
def ListRequest.plain (request : ListRequest) : ListRequest :=
  { request with filter := {}, cap := none }

namespace Filter

/-- Whether an item is an object that the filter accepts. -/
def takes (filter : Filter) : ListItem → Bool
  | .object e => !e.isCommonPrefix && filter.accepts e
  | .bucket _ => false

/-- What a filter leaves of a plain listing: everything if it has no clause, and else the objects that it
accepts. -/
def selected (filter : Filter) (items : List ListItem) : List ListItem :=
  if filter.isEmpty then items else items.filter filter.takes

variable {filter : Filter}

@[simp] theorem selected_nil : filter.selected [] = [] := by simp [selected]

@[simp] theorem selected_append (items more : List ListItem) :
    filter.selected (items ++ more) = filter.selected items ++ filter.selected more := by
  simp only [selected]
  split
  · rfl
  · exact List.filter_append ..

/-- A filter without clauses accepts everything. -/
theorem accepts_of_isEmpty (h : filter.isEmpty = true) (e : ObjectEntry) :
    filter.accepts e = true := by
  simp only [isEmpty, Bool.and_eq_true, Option.isNone_iff_eq_none] at h
  obtain ⟨⟨hname, hsize⟩, hage⟩ := h
  simp [accepts, hname, hsize, hage]

end Filter

namespace ListRequest

variable {filter : Filter} {e : ObjectEntry}

theorem plain_compile (request : ListRequest) (now : Instant) :
    request.plain.filter.compile now = .ok {} := rfl

/-- An entry that is not entered is given out if there is no filter, or if the filter takes it. -/
theorem emits_of_not_enters (request : ListRequest)
    (henters : (request.selection filter).enters e = false) :
    (request.selection filter).emits e = (filter.isEmpty || filter.takes (.object e)) := by
  simp only [Selection.enters, selection] at henters
  simp only [Selection.emits, selection, Filter.takes]
  cases hempty : filter.isEmpty with
  | true =>
    have haccepts := Filter.accepts_of_isEmpty hempty e
    cases hkind : e.isCommonPrefix <;> simp_all
  | false => cases hkind : e.isCommonPrefix <;> simp

/-- A plain listing gives out every entry that it does not enter. -/
theorem plain_emits (request : ListRequest)
    (henters : (request.plain.selection {}).enters e = false) :
    (request.plain.selection {}).emits e = true := by
  rw [emits_of_not_enters _ henters]
  rfl

/-- Of an entry that is not entered, the filter leaves what a listing gives out. -/
theorem selected_singleton (request : ListRequest)
    (henters : (request.selection filter).enters e = false) :
    filter.selected [.object e] =
      if (request.selection filter).emits e then [.object e] else [] := by
  rw [emits_of_not_enters _ henters]
  cases hempty : filter.isEmpty with
  | true => simp [Filter.selected, hempty]
  | false => simp [Filter.selected, hempty, List.filter_cons]

end ListRequest

/-! ### No calls once enough is given out -/

/-- Whether no call was made once as many items were given out as the cap allows. -/
def Capped (cap : Option Nat) (deeds : List Deed) : Prop :=
  ∀ most, cap = some most → ∀ before after, deeds = before ++ after →
    most ≤ (before.filterMap Deed.item?).length → after.filterMap Deed.call? = []

namespace Capped

variable {cap : Option Nat} {deeds : List Deed}

theorem nil : Capped cap [] := by
  intro most _ before after h _
  obtain ⟨-, rfl⟩ := List.append_eq_nil_iff.mp h.symm
  rfl

theorem gave (h : Capped cap deeds) (item : ListItem) : Capped cap (deeds ++ [.gave item]) := by
  intro most hcap before after hsplit hmost
  obtain rfl | ⟨after, d, rfl⟩ := after.eq_nil_or_concat
  · rfl
  · rw [List.concat_eq_append, ← List.append_assoc] at hsplit
    obtain ⟨hdeeds, hlast⟩ := List.append_inj' hsplit rfl
    cases hlast
    simp [h most hcap before after hdeeds hmost]

/-- Calls are no harm as long as there is something left to give out. -/
theorem of_room
    (hroom : ∀ most, cap = some most → (deeds.filterMap Deed.item?).length < most) :
    Capped cap deeds := by
  intro most hcap before after hsplit hmost
  have hless := hroom most hcap
  rw [hsplit, List.filterMap_append, List.length_append] at hless
  omega

end Capped

namespace Course

variable {l : Lister σ} {signal : StopSignal} {c p q : Course σ} {cap : Option Nat}
  {request : ListRequest} {filter : Filter} {w : World σ}

/-- What a listing did stays done. -/
theorem step_deeds (l : Lister σ) (signal : StopSignal) (c : Course σ) :
    ∃ more, (step l signal c).deeds = c.deeds ++ more := by
  rw [step]
  cases c.stage with
  | ended failure => exact ⟨[], (List.append_nil _).symm⟩
  | underway listing =>
    dsimp only
    cases Listing.turn l signal listing c.world with
    | item item rest w => exact ⟨_, List.append_assoc ..⟩
    | going rest w => exact ⟨_, rfl⟩
    | failed e w => exact ⟨_, rfl⟩
    | ended w => exact ⟨_, rfl⟩

theorem run_deeds (l : Lister σ) (signal : StopSignal) (turns : Nat) (c : Course σ) :
    ∃ more, (run l signal turns c).deeds = c.deeds ++ more := by
  induction turns with
  | zero => exact ⟨[], (List.append_nil _).symm⟩
  | succ turns ih =>
    obtain ⟨more, hmore⟩ := ih
    obtain ⟨last, hlast⟩ := step_deeds l signal (run l signal turns c)
    refine ⟨more ++ last, ?_⟩
    rw [run_succ', hlast, hmore, List.append_assoc]

/-- A course of a walk that counts what it gives out, and keeps to its cap. -/
structure Counts (cap : Option Nat) (c : Course σ) : Prop where
  capped : Capped cap c.deeds
  within : ∀ most, cap = some most → c.items.length ≤ most
  stage : (∃ failure, c.stage = .ended failure) ∨ ∃ walk, c.stage = .underway (.walking walk) ∧
    walk.selection.cap = cap ∧ walk.emitted = c.items.length

/-- A walk that counts has something left to give out until it reached its cap. -/
theorem Counts.room {walk : Walk} (h : Counts cap c)
    (hstage : c.stage = .underway (.walking walk))
    (hreached : walk.selection.reached walk.emitted = false) :
    ∀ most, cap = some most → c.items.length < most := by
  intro most hcap
  rcases h.stage with ⟨failure, hended⟩ | ⟨walk', hstage', hwalk, hcount⟩
  · cases hended.symm.trans hstage
  · cases hstage'.symm.trans hstage
    simpa [Selection.reached, hwalk, hcap, hcount] using hreached

/-- A walk that counts and reached its cap gave out just as much. -/
theorem Counts.cap_eq {walk : Walk} (h : Counts cap c)
    (hstage : c.stage = .underway (.walking walk))
    (hreached : walk.selection.reached walk.emitted = true) : cap = some c.items.length := by
  rcases h.stage with ⟨failure, hended⟩ | ⟨walk', hstage', hwalk, hcount⟩
  · cases hended.symm.trans hstage
  · cases hstage'.symm.trans hstage
    obtain ⟨most, hmost, hle⟩ := Selection.reached_iff.mp hreached
    rw [hwalk] at hmost
    have hwithin := h.within most hmost
    rw [hmost, Nat.le_antisymm hwithin (hcount ▸ hle)]

theorem Counts.step (h : Counts cap c) : Counts cap (c.step l signal) := by
  rcases h.stage with ⟨failure, hended⟩ | ⟨walk, hstage, hwalk, hcount⟩
  · rw [step_ended hended]
    exact h
  have hroom := h.room hstage
  have hwalked := step_walked l signal hstage
  generalize c.step l signal = next at hwalked ⊢
  cases hwalked with
  | finished _ => exact ⟨h.capped, h.within, Or.inl ⟨_, rfl⟩⟩
  | enter _ _ _ _ => exact ⟨h.capped, h.within, Or.inr ⟨_, rfl, hwalk, hcount⟩⟩
  | give hreached _ _ _ _ =>
    refine ⟨h.capped.gave _, ?_, Or.inr ⟨_, rfl, hwalk, ?_⟩⟩
    · intro most hcap
      have hless := hroom hreached most hcap
      simp only [Course.items, List.filterMap_append, filterMap_item?_gave, List.length_append,
        List.length_singleton] at hless ⊢
      omega
    · simp [Course.items, hcount]
  | skip _ _ _ _ _ => exact ⟨h.capped, h.within, Or.inr ⟨_, rfl, hwalk, hcount⟩⟩
  | leave _ _ _ _ => exact ⟨h.capped, h.within, Or.inr ⟨_, rfl, hwalk, hcount⟩⟩
  | refused hreached _ _ _ _ _ =>
    refine ⟨.of_room ?_, ?_, Or.inl ⟨_, rfl⟩⟩
    · simpa [Course.items] using hroom hreached
    · simpa [Course.items] using h.within
  | received hreached _ _ _ _ _ =>
    refine ⟨.of_room ?_, ?_, Or.inr ⟨_, rfl, hwalk, ?_⟩⟩
    · simpa [Course.items] using hroom hreached
    · simpa [Course.items] using h.within
    · simpa [Course.items] using hcount

/-! ### Side by side with the plain listing -/

/-- How a listing is to the plain one after as many turns: at the same place, or over, having given out
the first of what the filter leaves of what the plain one gave out. -/
inductive Tracks (l : Lister σ) (signal : StopSignal) (timed : Bool) (request : ListRequest)
    (filter : Filter) (p q : Course σ) : Prop
  | abreast {bucket : Text} {configured m n : Nat} {stack : List Frame} :
      p.stage = .underway (.walking ⟨bucket, request.plain.selection {}, configured, stack, m⟩) →
      q.stage = .underway (.walking ⟨bucket, request.selection filter, configured, stack, n⟩) →
      World.Alike l.backend timed signal p.world q.world →
      q.items = filter.selected p.items →
      q.calls.map StoreCall.sizeless = p.calls.map StoreCall.sizeless →
      Tracks l signal timed request filter p q
  | ahead : q.stage = .ended none →
      q.items = upToCap request.cap (filter.selected p.items) →
      q.calls.map StoreCall.sizeless <+: p.calls.map StoreCall.sizeless →
      (p.stage = .ended none ∨ request.cap = some q.items.length) →
      Tracks l signal timed request filter p q
  | failed {e : StoreError} : p.stage = .ended (some e) → Tracks l signal timed request filter p q

/-- What a listing gave out that reached its cap stays the first of what the plain one gives out. -/
theorem Tracks.ahead_of_more {timed : Bool} {p' q' : Course σ} {more : List Deed}
    (hended : q'.stage = .ended none) (hdeeds : q'.deeds = q.deeds)
    (hmore : p'.deeds = p.deeds ++ more) (hcap : request.cap = some q.items.length)
    (hitems : q.items = upToCap request.cap (filter.selected p.items))
    (hcalls : q.calls.map StoreCall.sizeless <+: p.calls.map StoreCall.sizeless) :
    Tracks l signal timed request filter p' q' := by
  have hsame : q'.items = q.items := congrArg (List.filterMap Deed.item?) hdeeds
  have hitems' : p'.items = p.items ++ more.filterMap Deed.item? := by
    simp [Course.items, hmore]
  refine .ahead hended ?_ ?_ (Or.inr (by rw [hsame, hcap]))
  · have hfirst : q.items <+: filter.selected p.items := hitems ▸ upToCap_isPrefix ..
    rw [hsame, hitems', Filter.selected_append]
    exact (upToCap_eq_of_isPrefix (hfirst.trans (List.prefix_append ..)) hcap).symm
  · simp only [Course.calls, hdeeds, hmore, List.filterMap_append, List.map_append]
    exact hcalls.trans (List.prefix_append ..)

/-- A turn of the plain walk, and the one of the walk at the same place that has not given out enough. -/
theorem Tracks.of_walked {timed : Bool} {bucket : Text} {configured m n : Nat} {stack : List Frame}
    {p' : Course σ} (hquiet : l.backend.Quiet timed)
    (hwalked : Walked l signal ⟨bucket, request.plain.selection {}, configured, stack, m⟩ p p')
    (hq : q.stage = .underway
      (.walking ⟨bucket, request.selection filter, configured, stack, n⟩))
    (hreached : (request.selection filter).reached n = false)
    (halike : World.Alike l.backend timed signal p.world q.world)
    (hitems : q.items = filter.selected p.items)
    (htaken : q.items = upToCap request.cap (filter.selected p.items))
    (hcalls : q.calls.map StoreCall.sizeless = p.calls.map StoreCall.sizeless) :
    Tracks l signal timed request filter p' (q.step l signal) := by
  cases hwalked with
  | finished hend =>
    have hstack : stack = [] := hend.resolve_left (by simp [Selection.reached,
      ListRequest.selection, ListRequest.plain])
    rw [step_finished hq (Or.inr hstack)]
    exact .ahead rfl htaken (hcalls ▸ List.prefix_rfl) (Or.inl rfl)
  | enter _ hstack hpending henters =>
    rw [step_enter hq hreached hstack hpending henters]
    exact .abreast rfl rfl (halike.report _ _) hitems hcalls
  | @give f e rest outer _ hstack hpending henters _ =>
    have henters' : (request.selection filter).enters e = false := henters
    have hselected := request.selected_singleton henters'
    cases hemits : (request.selection filter).emits e with
    | true =>
      rw [step_give hq hreached hstack hpending henters hemits]
      refine .abreast rfl rfl halike ?_ ?_
      · simpa [Course.items, hselected, hemits] using hitems
      · simpa [Course.calls] using hcalls
    | false =>
      rw [step_skip hq hreached hstack hpending henters hemits]
      refine .abreast rfl rfl halike ?_ ?_
      · simpa [Course.items, hselected, hemits] using hitems
      · simpa [Course.calls] using hcalls
  | skip _ _ _ henters hemits => exact absurd (request.plain_emits henters) (by simp [hemits])
  | leave _ hstack hpending hresume =>
    rw [step_leave hq hreached hstack hpending hresume]
    exact .abreast rfl rfl halike hitems hcalls
  | refused _ _ _ _ _ _ => exact .failed rfl
  | @received f outer page w k _ hstack hpending hresume hpage hk =>
    -- the two ask for pages of different sizes, and get the same page
    have hsame : (Walk.requestFor ⟨bucket, request.plain.selection {}, configured, stack, m⟩
        f).sizeless = (Walk.requestFor ⟨bucket, request.selection filter, configured, stack, n⟩
        f).sizeless := rfl
    obtain ⟨w', hpage', halike'⟩ := Listing.pageCall_alike hquiet hsame halike hpage
    have hk' : w'.callTimes.length = q.world.callTimes.length + k := by
      rw [← halike'.calls, ← halike.calls, hk]
    rw [step_received hq hreached hstack hpending hresume hpage' hk']
    refine .abreast rfl rfl (halike'.report _ _) ?_ ?_
    · simpa [Course.items] using hitems
    · simpa [Course.calls, StoreCall.sizeless, hsame] using hcalls

/-- One turn of both leaves the listing where it is to the plain one. -/
theorem Tracks.step {timed : Bool} (hquiet : l.backend.Quiet timed)
    (h : Tracks l signal timed request filter p q) (hcounts : Counts request.cap q) :
    Tracks l signal timed request filter (p.step l signal) (q.step l signal) := by
  obtain ⟨more, hmore⟩ := step_deeds l signal p
  cases h with
  | failed hp => rw [step_ended hp]; exact .failed hp
  | ahead hq hitems hcalls hend =>
    rw [step_ended hq]
    rcases hend with hp | hcap
    · rw [step_ended hp]
      exact .ahead hq hitems hcalls (Or.inl hp)
    · exact .ahead_of_more hq rfl hmore hcap hitems hcalls
  | @abreast bucket configured m n stack hp hq halike hitems hcalls =>
    have htaken : q.items = upToCap request.cap (filter.selected p.items) := by
      rw [← hitems, upToCap_eq_self hcounts.within]
    cases hreached : (request.selection filter).reached n with
    | true =>
      -- enough is given out, and the plain listing goes on alone
      rw [step_finished hq (Or.inl hreached)]
      exact .ahead_of_more rfl rfl hmore (hcounts.cap_eq hq hreached) htaken
        (hcalls ▸ List.prefix_rfl)
    | false =>
      exact .of_walked hquiet (step_walked l signal hp) hq hreached halike hitems htaken hcalls

/-! ### The whole of both listings -/

/-- A listing that is to give out nothing makes no calls. -/
theorem run_deeds_of_reached (l : Lister σ) (signal : StopSignal)
    (hbucket : request.uri.bucket ≠ []) (hfilter : request.filter.compile w.moment = .ok filter)
    (hreached : (request.selection filter).reached 0 = true) (turns : Nat) :
    (run l signal turns (start request w)).deeds = [] := by
  obtain ⟨more, hmore⟩ := run_deeds l signal 2 (run l signal turns (start request w))
  rw [← run_add, Nat.add_comm, run_add, run_start_reached hbucket hfilter hreached,
    run_ended rfl] at hmore
  exact (List.append_eq_nil_iff.mp hmore.symm).1

theorem counts_run (l : Lister σ) (signal : StopSignal) (hbucket : request.uri.bucket ≠ [])
    (hfilter : request.filter.compile w.moment = .ok filter)
    (hreached : (request.selection filter).reached 0 = false) (turns : Nat) :
    Counts request.cap (run l signal (turns + 1) (start request w)) := by
  induction turns with
  | zero =>
    have hone : run l signal 1 (start request w) = _ := step_start hbucket hfilter
    rw [hone, hreached]
    exact ⟨.nil, fun most _ => Nat.zero_le most, Or.inr ⟨_, rfl, rfl, rfl⟩⟩
  | succ turns ih =>
    rw [run_succ']
    exact ih.step

/-- A listing makes no calls once it gave out as much as its cap allows. -/
theorem run_capped (l : Lister σ) (signal : StopSignal) (hbucket : request.uri.bucket ≠ [])
    (hfilter : request.filter.compile w.moment = .ok filter) (turns : Nat) :
    Capped request.cap (run l signal turns (start request w)).deeds := by
  cases hreached : (request.selection filter).reached 0 with
  | true =>
    rw [run_deeds_of_reached l signal hbucket hfilter hreached]
    exact .nil
  | false =>
    cases turns with
    | zero => exact .nil
    | succ turns => exact (counts_run l signal hbucket hfilter hreached turns).capped

theorem tracks_run {timed : Bool} (hbucket : request.uri.bucket ≠ [])
    (hfilter : request.filter.compile w.moment = .ok filter)
    (hreached : (request.selection filter).reached 0 = false)
    (hblind : l.backend.SizeBlind timed) (hquiet : l.backend.Quiet timed)
    (hunstopped : timed = false → w.stopAt signal = none) (turns : Nat) :
    Tracks l signal timed request filter (run l signal (turns + 1) (start request.plain w))
      (run l signal (turns + 1) (start request w)) := by
  induction turns with
  | zero =>
    have hp : run l signal 1 (start request.plain w) = _ :=
      step_start hbucket (request.plain_compile w.moment)
    have hq : run l signal 1 (start request w) = _ := step_start hbucket hfilter
    rw [hp, hq, hreached]
    refine .abreast rfl rfl ⟨?_, rfl, fun _ => ⟨rfl, rfl, rfl, rfl⟩, fun htimed => ?_⟩ ?_ rfl
    · exact hblind _
    · exact ⟨hunstopped htimed, hunstopped htimed⟩
    · exact (Filter.selected_nil).symm
  | succ turns ih =>
    rw [run_succ' (turns + 1), run_succ' (turns + 1)]
    exact ih.step hquiet (counts_run l signal hbucket hfilter hreached turns)

/-- Calls that were made when enough is given out are all that are made. -/
theorem calls_run_of_enough (l : Lister σ) (signal : StopSignal) (hbucket : request.uri.bucket ≠ [])
    (hfilter : request.filter.compile w.moment = .ok filter) {enough turns : Nat}
    (hle : enough ≤ turns)
    (hcap : request.cap = some (run l signal enough (start request w)).items.length) :
    (run l signal turns (start request w)).calls = (run l signal enough (start request w)).calls := by
  obtain ⟨more, rfl⟩ := Nat.exists_eq_add_of_le hle
  obtain ⟨deeds, hdeeds⟩ := run_deeds l signal more (run l signal enough (start request w))
  rw [← run_add] at hdeeds
  have hcapped := run_capped l signal hbucket hfilter (enough + more)
  have hnone := hcapped _ hcap _ _ hdeeds (Nat.le_refl _)
  rw [calls, hdeeds, List.filterMap_append, hnone, List.append_nil]
  rfl

/-- A plain listing is not over before its second turn. -/
theorem two_le_of_ended {failure : Option StoreError} {turns : Nat}
    (hbucket : request.uri.bucket ≠ [])
    (hended : (run l signal turns (start request.plain w)).stage = .ended failure) : 2 ≤ turns := by
  match turns with
  | 0 => cases hended
  | 1 =>
    have hone : run l signal 1 (start request.plain w) = _ :=
      step_start hbucket (request.plain_compile w.moment)
    rw [hone] at hended
    cases hended
  | turns + 2 => omega

/-- When the plain listing is over, the one with a filter and a cap is over as well. -/
theorem Tracks.of_ended {timed : Bool} (h : Tracks l signal timed request filter p q)
    (hended : p.stage = .ended none) :
    q.stage = .ended none ∧ q.items = upToCap request.cap (filter.selected p.items) ∧
      q.calls.map StoreCall.sizeless <+: p.calls.map StoreCall.sizeless := by
  cases h with
  | abreast hp _ _ _ _ => cases hp.symm.trans hended
  | ahead hq hitems hcalls _ => exact ⟨hq, hitems, hcalls⟩
  | failed hp => cases hp.symm.trans hended

end Course

/-- Stores that always answer the same do not look at sizes. -/
theorem Backend.Steady.sizeBlind {b : Backend σ}
    {answer : (bucket under : Text) → (token : Option Text) → Except StoreError Page}
    (h : b.Steady answer) : b.SizeBlind false := by
  intro s requests
  suffices hall : ∀ s t requests', requests.map PageRequest.sizeless =
      requests'.map PageRequest.sizeless →
      b.replies false requests s = b.replies false requests' t from hall s s
  induction requests with
  | nil =>
    intro s t requests' hrs
    rw [List.map_eq_nil_iff.mp hrs.symm]
    rfl
  | cons request rest ih =>
    intro s t requests' hrs
    cases requests' with
    | nil => cases hrs
    | cons request' rest' =>
      obtain ⟨hr, hrest⟩ := List.cons.inj hrs
      have hanswer : (b.listObjects request s).answer = (b.listObjects request' t).answer := by
        rw [h.answers, h.answers]
        injection hr with hbucket hunder htoken
        rw [hbucket, hunder, htoken]
      simp only [replies, hanswer, Bool.false_eq_true, if_false]
      rw [ih _ (b.listObjects request' t).store rest' hrest]

/-- A listing gives out the first of what the filter leaves of the plain listing, as many as the cap allows:
it ends without a failure if the plain one does, asks for pages that the plain one asks for, in that
order, and for none once it gave out enough. -/
theorem Listing.collect_truncated (l : Lister σ) (signal : StopSignal) (request : ListRequest)
    (w : World σ) (turns : Nat) {timed : Bool} {filter : Filter}
    (hbucket : request.uri.bucket ≠ []) (hfilter : request.filter.compile w.moment = .ok filter)
    (hblind : l.backend.SizeBlind timed)
    (hunstopped : timed = true ∨ (w.stopAt signal = none ∧
      ∀ request s, (l.backend.listObjects request s).stops = false))
    (hplain : (collect l signal turns (.opened request.plain) w).ending = .complete) :
    (collect l signal turns (.opened request) w).ending = .complete ∧
      (collect l signal turns (.opened request) w).items = upToCap request.cap
        (filter.selected (collect l signal turns (.opened request.plain) w).items) ∧
      (asked l signal turns request w).map StoreCall.sizeless <+:
        (asked l signal turns request.plain w).map StoreCall.sizeless ∧
      ∀ enough ≤ turns, request.cap = some
          (collect l signal enough (.opened request) w).items.length →
        asked l signal turns request w = asked l signal enough request w := by
  have hquiet : l.backend.Quiet timed := by
    rintro rfl
    exact (hunstopped.resolve_left nofun).2
  have hstill : timed = false → w.stopAt signal = none := by
    rintro rfl
    exact (hunstopped.resolve_left nofun).1
  simp only [asked_eq, Course.collect_eq_run, Course.gathered] at hplain ⊢
  have hended := Stage.eq_ended_of_ending hplain
  have hlate := Course.two_le_of_ended hbucket hended
  obtain ⟨hstage, hitems, hcalls⟩ :
      (Course.run l signal turns (.start request w)).stage = .ended none ∧
      (Course.run l signal turns (.start request w)).items = upToCap request.cap
        (filter.selected (Course.run l signal turns (.start request.plain w)).items) ∧
      (Course.run l signal turns (.start request w)).calls.map StoreCall.sizeless <+:
        (Course.run l signal turns (.start request.plain w)).calls.map StoreCall.sizeless := by
    cases hreached : (request.selection filter).reached 0 with
    | true =>
      have htwo : Course.run l signal 2 (.start request w) = _ :=
        Course.run_start_reached hbucket hfilter hreached
      rw [Course.run_of_le hlate (by rw [htwo]), htwo]
      refine ⟨rfl, ?_, List.nil_prefix⟩
      exact (upToCap_eq_nil hreached _).symm
    | false =>
      obtain ⟨turns, rfl⟩ := Nat.exists_eq_add_of_le' (Nat.le_of_succ_le hlate)
      exact (Course.tracks_run hbucket hfilter hreached hblind hquiet hstill turns).of_ended hended
  refine ⟨by rw [hstage]; rfl, hitems, hcalls, ?_⟩
  intro enough hle hcap
  exact Course.calls_run_of_enough l signal hbucket hfilter hle hcap

/-- A directory and two objects on two pages. -/
def directoryAhead (_ under : Text) (token : Option Text) : Except StoreError Page :=
  if under = ['a', '/'] then .ok ⟨[.object ['a', '/', 'x'] 1 {}], none⟩
  else match token with
    | none => .ok ⟨[.commonPrefix ['a', '/'], .object ['b'] 5 {}], some ['t']⟩
    | some _ => .ok ⟨[.object ['c'] 7 {}], none⟩

/-- A request for the first object of two bytes at least. -/
def firstOfTwoBytes : ListRequest where
  uri := ⟨.s3, ['b'], []⟩
  recursive := true
  cap := some 1
  filter := { size := some (.single ['>', '=', '2']) }

/-- The small object in the directory is passed over, and the second page is not asked for. -/
theorem Listing.collect_firstOfTwoBytes :
    (collect (.answering directoryAhead) {} 11 (.opened firstOfTwoBytes) { store := () }).items =
        [.object (.object ['b'] 5 {})] ∧
      asked (.answering directoryAhead) {} 11 firstOfTwoBytes { store := () } =
        [.listObjects ⟨['b'], [], none, 1000⟩, .listObjects ⟨['b'], ['a', '/'], none, 1000⟩] := by
  obtain ⟨-, hitems, -, hasked⟩ := collect_truncated (.answering directoryAhead) {} firstOfTwoBytes
    { store := () } 11 (by decide) (by rfl)
    (Lister.answering_steady directoryAhead).sizeBlind (Or.inr ⟨rfl, fun _ _ => rfl⟩) (by rfl)
  exact ⟨hitems.trans (by rfl), (hasked 7 (by decide) (by rfl)).trans (by rfl)⟩

end ObjectListing
