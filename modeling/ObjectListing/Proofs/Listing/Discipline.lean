import ObjectListing.Environment.Basic
import ObjectListing.Proofs.Listing.Absorption
import ObjectListing.Proofs.Listing.Happenings

/-!
The discipline with which a listing of one bucket asks for pages. What happens in its turns is read off its course
(`Course.happenings`), and the frames of its walk are the directories that it is inside of by its history
(`Standing.Matches`); so each turn may follow what happened before (`Course.step_goesOn`), and all turns are
disciplined, whatever the store answers and whatever happens to the world between two of them
(`Course.disciplined_amid`).
-/

namespace ObjectListing

open scoped List

variable {σ : Type}

/-- Settings whose page size was brought within bounds have one. -/
theorem EngineConfig.pageSize_ne_zero {config : EngineConfig}
    (h : (∃ c n, config = withPageSize c n) ∨ ∃ env : Environment, config = env.engineConfig) :
    config.pageSize ≠ 0 := by
  have hclamped (n : Nat) : clampPageSize n ≠ 0 := by
    rw [clampPageSize]
    omega
  rcases h with ⟨c, n, rfl⟩ | ⟨env, rfl⟩
  · exact hclamped n
  · rw [Environment.engineConfig]
    dsimp only
    cases env.number? "BUCKETWALK_PAGE_SIZE" limit32 with
    | none => decide
    | some n => exact hclamped n

/-! ### What a walk does -/

theorem Selection.sized_pageSize {s : Selection} {given : Nat} (configured : Nat)
    (hreached : s.reached given = false) : Sized s configured given (s.pageSize configured given) := by
  have hgiven (most : Nat) (hcap : s.cap = some most) : given < most := by
    rcases Nat.lt_or_ge given most with hlt | hle
    · exact hlt
    · rw [Selection.reached_iff.mpr ⟨most, hcap, hle⟩] at hreached
      cases hreached
  rw [Selection.pageSize]
  cases hcap : s.cap with
  | none => exact ⟨fun _ => rfl, by simp [hcap], hgiven, Nat.le_refl _, id⟩
  | some most =>
    have hlt := hgiven most hcap
    cases hfilter : s.filter.isEmpty with
    | false => exact ⟨fun _ => rfl, by simp [hfilter], hgiven, Nat.le_refl _, id⟩
    | true =>
      refine ⟨by simp [hcap, hfilter], ?_, hgiven, Nat.min_le_right _ _, ?_⟩
      · intro _ hmost _
        cases hcap.symm.trans hmost
        exact Nat.min_comm _ _
      · intro hsize
        dsimp only at hsize
        rw [if_pos rfl] at hsize
        omega

/-- Whether a frame of a walk is a directory whose latest page is known: what is still to be looked at is the
end of that page, and the walk resumes behind it. -/
inductive Inside.Matches : Inside → Frame → Prop
  | unopened (under : Text) : Matches { under } { under }
  | opened {under : Text} {page : Page} {pending : List ObjectEntry} : pending <:+ page.entries →
      Matches ⟨under, some page⟩ ⟨under, pending, .ofNext page.next⟩

namespace Inside.Matches

variable {i : Inside} {f : Frame}

theorem under_eq (h : i.Matches f) : i.under = f.under := by
  cases h with
  | unopened under => rfl
  | opened _ => rfl

/-- What is to be looked at next is an entry of the latest page. -/
theorem exists_mem {e : ObjectEntry} {rest : List ObjectEntry} (h : i.Matches f)
    (hpending : f.pending = e :: rest) :
    ∃ page, i.latest = some page ∧ e ∈ page.entries ∧ i.Matches { f with pending := rest } := by
  cases h with
  | unopened under => cases hpending
  | @opened under page pending hsuffix =>
    dsimp only at hpending
    subst hpending
    exact ⟨page, rfl, hsuffix.subset List.mem_cons_self,
      .opened ((List.suffix_cons e rest).trans hsuffix)⟩

/-- Nothing is left behind the latest page when it has no token. -/
theorem exists_last (h : i.Matches f) (hresume : f.resume = .nothingLeft) :
    ∃ page, i.latest = some page ∧ page.next = none := by
  cases h with
  | unopened under => cases hresume
  | @opened under page pending _ =>
    cases hnext : page.next with
    | none => exact ⟨page, rfl, hnext⟩
    | some t =>
      rw [hnext] at hresume
      cases hresume

/-- A walk resumes with the token of the latest page, and without one when no page came. -/
theorem token_eq (h : i.Matches f) (hresume : f.resume ≠ .nothingLeft) :
    (i.latest = none ∧ f.resume.token? = none) ∨
      ∃ page t, i.latest = some page ∧ page.next = some t ∧ f.resume.token? = some t := by
  cases h with
  | unopened under => exact Or.inl ⟨rfl, rfl⟩
  | @opened under page pending _ =>
    cases hnext : page.next with
    | none =>
      rw [hnext] at hresume
      exact absurd rfl hresume
    | some t =>
      refine Or.inr ⟨page, t, rfl, hnext, ?_⟩
      dsimp only
      rw [Resume.ofNext, Resume.token?]

end Inside.Matches

/-- Whether a walk through a bucket stands as its history says. -/
structure Standing.Matches (bucket : Text) (s : Selection) (configured : Nat) (st : Standing)
    (walk : Walk) : Prop where
  bucket : walk.bucket = bucket
  selection : walk.selection = s
  configured : walk.configured = configured
  given : walk.emitted = st.given
  inside : List.Forall₂ Inside.Matches st.inside walk.stack

namespace Standing.Matches

variable {bucket : Text} {s : Selection} {configured : Nat} {st : Standing} {walk : Walk} {f : Frame}
  {outer : List Frame} {e : ObjectEntry} {rest : List ObjectEntry}

theorem exists_inside (h : st.Matches bucket s configured walk) (hstack : walk.stack = f :: outer) :
    ∃ i inside, st.inside = i :: inside ∧ i.Matches f ∧ List.Forall₂ Inside.Matches inside outer := by
  have hinside := h.inside
  rw [hstack, List.forall₂_cons_right_iff] at hinside
  obtain ⟨i, inside, hi, houter, hst⟩ := hinside
  exact ⟨i, inside, hst, hi, houter⟩

/-- An entry that a walk looks at next is one of the latest page, and the walk goes on behind it. -/
theorem look (h : st.Matches bucket s configured walk) (hstack : walk.stack = f :: outer)
    (hpending : f.pending = e :: rest) :
    (∃ i inside page, st.inside = i :: inside ∧ i.latest = some page ∧ e ∈ page.entries) ∧
      List.Forall₂ Inside.Matches st.inside ({ f with pending := rest } :: outer) := by
  obtain ⟨i, inside, hinside, hi, houter⟩ := h.exists_inside hstack
  obtain ⟨page, hlatest, hmem, hmatches⟩ := hi.exists_mem hpending
  exact ⟨⟨i, inside, page, hinside, hlatest, hmem⟩, hinside ▸ .cons hmatches houter⟩

theorem skip (h : st.Matches bucket s configured walk) (hstack : walk.stack = f :: outer)
    (hpending : f.pending = e :: rest) :
    st.Matches bucket s configured { walk with stack := { f with pending := rest } :: outer } :=
  ⟨h.bucket, h.selection, h.configured, h.given, (h.look hstack hpending).2⟩

theorem enter (h : st.Matches bucket s configured walk) (hstack : walk.stack = f :: outer)
    (hpending : f.pending = e :: rest) (henters : walk.selection.enters e = true) :
    Permits bucket s configured st (.entered e.key) ∧
      (st.after (.entered e.key)).Matches bucket s configured
        { walk with stack := { under := e.key } :: { f with pending := rest } :: outer } := by
  obtain ⟨⟨i, inside, page, hinside, hlatest, hmem⟩, hmatches⟩ := h.look hstack hpending
  rw [h.selection] at henters
  exact ⟨.entered hinside hlatest hmem henters,
    h.bucket, h.selection, h.configured, h.given, .cons (.unopened e.key) hmatches⟩

theorem give (h : st.Matches bucket s configured walk) (hstack : walk.stack = f :: outer)
    (hpending : f.pending = e :: rest) (hemits : walk.selection.emits e = true) :
    Permits bucket s configured st (.gave e) ∧
      (st.after (.gave e)).Matches bucket s configured
        { walk with stack := { f with pending := rest } :: outer, emitted := walk.emitted + 1 } := by
  obtain ⟨⟨i, inside, page, hinside, hlatest, hmem⟩, hmatches⟩ := h.look hstack hpending
  rw [h.selection] at hemits
  exact ⟨.gave hinside hlatest hmem hemits,
    h.bucket, h.selection, h.configured, congrArg (· + 1) h.given, hmatches⟩

theorem leave (h : st.Matches bucket s configured walk) (hstack : walk.stack = f :: outer)
    (hresume : f.resume = .nothingLeft) :
    Permits bucket s configured st .left ∧
      (st.after .left).Matches bucket s configured { walk with stack := outer } := by
  obtain ⟨i, inside, hinside, hi, houter⟩ := h.exists_inside hstack
  obtain ⟨page, hlatest, hnext⟩ := hi.exists_last hresume
  have hafter : (st.after .left).inside = inside := by rw [Standing.after, hinside, List.tail_cons]
  exact ⟨.left hinside hlatest hnext,
    h.bucket, h.selection, h.configured, h.given, hafter ▸ houter⟩

/-- The page that a walk asks for is one that it may ask for. -/
theorem permits_asked (h : st.Matches bucket s configured walk) (hstack : walk.stack = f :: outer)
    (hreached : walk.selection.reached walk.emitted = false) (hresume : f.resume ≠ .nothingLeft)
    {attempts : Nat} {answer : Except StoreError Page}
    (hanswer : ∀ page, answer = .ok page → 0 < attempts) :
    Permits bucket s configured st (.asked (walk.requestFor f) attempts answer) := by
  obtain ⟨i, inside, hinside, hi, -⟩ := h.exists_inside hstack
  have hsized := Selection.sized_pageSize walk.configured hreached
  rw [Walk.requestFor, ← hi.under_eq]
  rw [h.selection, h.configured, h.given] at hsized ⊢
  rw [h.bucket]
  rcases hi.token_eq hresume with ⟨hlatest, htoken⟩ | ⟨page, t, hlatest, hnext, htoken⟩
  · rw [htoken]
    exact .opened hinside hlatest hsized hanswer
  · rw [htoken]
    exact .resumed hinside hlatest hnext hsized hanswer

theorem receive (h : st.Matches bucket s configured walk) (hstack : walk.stack = f :: outer)
    (request : PageRequest) (attempts : Nat) (page : Page) :
    (st.after (.asked request attempts (.ok page))).Matches bucket s configured
      { walk with stack := ⟨f.under, page.entries, .ofNext page.next⟩ :: outer } := by
  obtain ⟨i, inside, hinside, hi, houter⟩ := h.exists_inside hstack
  rw [Standing.after, hinside]
  dsimp only
  rw [hi.under_eq]
  exact ⟨h.bucket, h.selection, h.configured, h.given, .cons (.opened List.suffix_rfl) houter⟩

end Standing.Matches

/-- Whether a listing has come so far as its history says: it walks on, or nothing more will happen. -/
inductive Standing.Stands (bucket : Text) (s : Selection) (configured : Nat) (st : Standing) :
    Stage → Prop
  | walking {walk : Walk} : st.Matches bucket s configured walk →
      Stands bucket s configured st (.underway (.walking walk))
  | emptied {emitted : Nat} : Stands bucket s configured st (.underway (.buckets [] s emitted))
  | ended {failure : Option StoreError} : Stands bucket s configured st (.ended failure)

/-- What happened when the frames of a walk changed so. -/
def Happening.ofStacks (before after : List Frame) : Option Happening :=
  if before.length < after.length then after.head?.map fun f => .entered f.under
  else if after.length < before.length then some .left
  else none

@[simp] theorem Happening.ofStacks_enter (f f' g : Frame) (outer : List Frame) :
    ofStacks (f :: outer) (g :: f' :: outer) = some (.entered g.under) := by
  simp [ofStacks]

@[simp] theorem Happening.ofStacks_skip (f f' : Frame) (outer : List Frame) :
    ofStacks (f :: outer) (f' :: outer) = none := by
  simp [ofStacks]

@[simp] theorem Happening.ofStacks_leave (f : Frame) (outer : List Frame) :
    ofStacks (f :: outer) outer = some .left := by
  simp [ofStacks]

/-- A page that comes was asked for. -/
theorem Listing.callTimes_lt_of_pageCall {l : Lister σ} {signal : StopSignal} {request : PageRequest}
    {w w' : World σ} {page : Page} (h : pageCall l signal request w = (.ok page, w')) :
    w.callTimes.length < w'.callTimes.length := by
  have hran : Retry.Ran l.config.retry "list_objects" signal (l.backend.listObjects request)
      (l.config.retry.attempts - 1) 0
      (w.report (.requestingPage request.bucket request.under request.size request.token.isSome))
      (.ok page, w') :=
    h ▸ Retry.attempt_ran _ _ _
  exact hran.callTimes_lt_of_ok rfl

namespace Course

/-- What happens in the next turn of a listing of one bucket. -/
def happening? (l : Lister σ) (signal : StopSignal) (c : Course σ) : Option Happening :=
  match c.stage with
  | .underway (.walking walk) =>
    match walk.step with
    | .finished => none
    | .emit e _ => some (.gave e)
    | .pass _ next => Happening.ofStacks walk.stack next.stack
    | .ask request _ =>
      let called := Listing.pageCall l signal request c.world
      some (.asked request (called.2.callTimes.length - c.world.callTimes.length) called.1)
  | _ => none

/-- What happens in so many turns, where the world changes before each of them. -/
def happenings (l : Lister σ) (signal : StopSignal) (change : Nat → World σ → World σ) :
    (turns : Nat) → Course σ → List Happening
  | 0, _ => []
  | turns + 1, c => happenings l signal change turns c ++
      (((amid l signal change turns c).within (change turns)).happening? l signal).toList

/-- Whether a course went on with what happened, which was permitted, and stands accordingly. -/
structure GoesOn (bucket : Text) (s : Selection) (configured : Nat) (st : Standing)
    (happening : Option Happening) (c next : Course σ) : Prop where
  permits : ∀ h ∈ happening, Permits bucket s configured st h
  deeds : next.deeds = c.deeds ++ happening.toList.flatMap Happening.deeds
  stands : (st.afterAll happening.toList).Stands bucket s configured next.stage

variable {l : Lister σ} {signal : StopSignal} {c : Course σ} {bucket : Text} {s : Selection}
  {configured : Nat} {st : Standing}

theorem GoesOn.nothing {next : Course σ} (hdeeds : next.deeds = c.deeds)
    (hstands : st.Stands bucket s configured next.stage) :
    GoesOn bucket s configured st none c next :=
  ⟨by simp, hdeeds.trans (List.append_nil _).symm, hstands⟩

theorem GoesOn.something {h : Happening} {next : Course σ} (hpermits : Permits bucket s configured st h)
    (hdeeds : next.deeds = c.deeds ++ h.deeds)
    (hstands : (st.after h).Stands bucket s configured next.stage) :
    GoesOn bucket s configured st (some h) c next :=
  ⟨by simpa using hpermits, by simpa using hdeeds, hstands⟩

section Turns

variable {walk : Walk} (hstage : c.stage = .underway (.walking walk))

include hstage

theorem happening?_finished (hstep : walk.step = .finished) : c.happening? l signal = none := by
  rw [happening?, hstage]
  dsimp only
  rw [hstep]

theorem happening?_emit {e : ObjectEntry} {next : Walk} (hstep : walk.step = .emit e next) :
    c.happening? l signal = some (.gave e) := by
  rw [happening?, hstage]
  dsimp only
  rw [hstep]

theorem happening?_pass {events : List Event} {next : Walk} (hstep : walk.step = .pass events next) :
    c.happening? l signal = Happening.ofStacks walk.stack next.stack := by
  rw [happening?, hstage]
  dsimp only
  rw [hstep]

theorem happening?_ask {request : PageRequest} {waiting : Walk} {answer : Except StoreError Page}
    {w : World σ} {k : Nat} (hstep : walk.step = .ask request waiting)
    (hpage : Listing.pageCall l signal request c.world = (answer, w))
    (hk : w.callTimes.length = c.world.callTimes.length + k) :
    c.happening? l signal = some (.asked request k answer) := by
  rw [happening?, hstage]
  dsimp only
  rw [hstep]
  dsimp only
  rw [hpage, hk, Nat.add_sub_cancel_left]

/-- Each turn of a walk is one that is permitted. -/
theorem step_walking_goesOn (hst : st.Matches bucket s configured walk) :
    GoesOn bucket s configured st (c.happening? l signal) c (step l signal c) := by
  have hwalked := step_walked l signal hstage
  generalize step l signal c = next at hwalked
  cases hwalked with
  | finished h =>
    rw [happening?_finished hstage (Walk.step_eq_finished h)]
    exact .nothing rfl .ended
  | enter hreached hstack hpending henters =>
    rw [happening?_pass hstage (Walk.step_eq_enter hreached hstack hpending henters), hstack,
      Happening.ofStacks_enter]
    obtain ⟨hpermits, hnext⟩ := hst.enter hstack hpending henters
    exact .something hpermits (List.append_nil _).symm (.walking hnext)
  | give hreached hstack hpending henters hemits =>
    rw [happening?_emit hstage (Walk.step_eq_give hreached hstack hpending henters hemits)]
    obtain ⟨hpermits, hnext⟩ := hst.give hstack hpending hemits
    exact .something hpermits rfl (.walking hnext)
  | skip hreached hstack hpending henters hemits =>
    rw [happening?_pass hstage (Walk.step_eq_skip hreached hstack hpending henters hemits), hstack,
      Happening.ofStacks_skip]
    exact .nothing rfl (.walking (hst.skip hstack hpending))
  | leave hreached hstack hpending hresume =>
    rw [happening?_pass hstage (Walk.step_eq_leave hreached hstack hpending hresume), hstack,
      Happening.ofStacks_leave]
    obtain ⟨hpermits, hnext⟩ := hst.leave hstack hresume
    exact .something hpermits (List.append_nil _).symm (.walking hnext)
  | refused hreached hstack hpending hresume hpage hk =>
    rw [happening?_ask hstage (Walk.step_eq_ask hreached hstack hpending hresume) hpage hk]
    exact .something (hst.permits_asked hstack hreached hresume (by simp)) rfl .ended
  | @received f outer page w k hreached hstack hpending hresume hpage hk =>
    rw [happening?_ask hstage (Walk.step_eq_ask hreached hstack hpending hresume) hpage hk]
    have hasked : 0 < k := by
      have hlt := Listing.callTimes_lt_of_pageCall hpage
      omega
    exact .something (hst.permits_asked hstack hreached hresume fun _ _ => hasked) rfl
      (.walking (hst.receive hstack _ _ _))

end Turns

theorem step_goesOn (hst : st.Stands bucket s configured c.stage) :
    GoesOn bucket s configured st (c.happening? l signal) c (step l signal c) := by
  generalize hstage : c.stage = stage at hst
  cases hst with
  | walking hmatches => exact step_walking_goesOn hstage hmatches
  | emptied =>
    rw [happening?, step, hstage]
    exact .nothing (List.append_nil _) .ended
  | ended =>
    have hhappening : c.happening? l signal = none := by rw [happening?, hstage]
    rw [hhappening, step_ended hstage]
    exact .nothing rfl (hstage ▸ .ended)

/-- Whether a history is disciplined, and tells what a course did and where it stands. -/
structure Tells (bucket : Text) (s : Selection) (configured : Nat) (st : Standing)
    (history : List Happening) (c : Course σ) : Prop where
  disciplined : Disciplined bucket s configured st history
  deeds : c.deeds = history.flatMap Happening.deeds
  stands : (st.afterAll history).Stands bucket s configured c.stage

theorem Tells.goesOn {history : List Happening} {happening : Option Happening} {next : Course σ}
    (h : Tells bucket s configured st history c)
    (hnext : GoesOn bucket s configured (st.afterAll history) happening c next) :
    Tells bucket s configured st (history ++ happening.toList) next := by
  refine ⟨?_, ?_, ?_⟩
  · cases happening with
    | none => exact (List.append_nil history).symm ▸ h.disciplined
    | some happening => exact h.disciplined.concat (hnext.permits happening rfl)
  · rw [hnext.deeds, h.deeds, List.flatMap_append]
  · have hstands := hnext.stands
    rwa [Standing.afterAll, Standing.afterAll, ← List.foldl_append] at hstands

variable {change : Nat → World σ → World σ} {request : ListRequest} {filter : Filter} {w : World σ}

/-- What happens in the turns of a listing is disciplined. -/
theorem amid_tells (hbucket : request.uri.bucket ≠ [])
    (hfilter : request.filter.compile (change 0 w).moment = .ok filter) (turns : Nat) :
    Tells request.uri.bucket (request.selection filter) l.config.pageSize (.start request.uri.listed)
      (happenings l signal change (turns + 1) (start request w))
      (amid l signal change (turns + 1) (start request w)) := by
  induction turns with
  | zero =>
    -- the first turn reads the filter, and asks for nothing
    have hstep : step l signal (start request (change 0 w)) = _ := step_start hbucket hfilter
    refine ⟨.nil, ?_, ?_⟩
    · exact congrArg Course.deeds hstep
    · have hstage := congrArg Course.stage hstep
      refine (congrArg _ hstage).mpr ?_
      dsimp only
      split
      · exact .emptied
      · exact .walking ⟨rfl, rfl, rfl, rfl, .cons (.unopened _) .nil⟩
  | succ turns ih =>
    let c := (amid l signal change (turns + 1) (start request w)).within (change (turns + 1))
    have hgoes : GoesOn _ _ _ _ (c.happening? l signal) c (step l signal c) := step_goesOn ih.stands
    exact ih.goesOn ⟨hgoes.permits, hgoes.deeds, hgoes.stands⟩

/-- Once over, a course does nothing more, whatever the world does. -/
theorem amid_ended {turns : Nat} {failure : Option StoreError}
    (h : (amid l signal change turns c).stage = .ended failure) (more : Nat) :
    (amid l signal change (turns + more) c).stage = .ended failure ∧
      (amid l signal change (turns + more) c).deeds = (amid l signal change turns c).deeds ∧
        happenings l signal change (turns + more) c = happenings l signal change turns c := by
  induction more with
  | zero => exact ⟨h, rfl, rfl⟩
  | succ more ih =>
    obtain ⟨hstage, hdeeds, hhappenings⟩ := ih
    have hover : ((amid l signal change (turns + more) c).within (change (turns + more))).stage =
        .ended failure := hstage
    have hnone : ((amid l signal change (turns + more) c).within (change (turns + more))).happening?
        l signal = none := by
      rw [happening?, hover]
    rw [← Nat.add_assoc, amid, step_ended hover, happenings, hnone]
    exact ⟨hstage, hdeeds, (List.append_nil _).trans hhappenings⟩

/-- What a listing of one bucket does is what happens in it, and that is disciplined. -/
theorem amid_happenings (hbucket : request.uri.bucket ≠ []) (turns : Nat) :
    (amid l signal change turns (start request w)).deeds =
        (happenings l signal change turns (start request w)).flatMap Happening.deeds ∧
      match request.filter.compile (change 0 w).moment with
      | .error _ => happenings l signal change turns (start request w) = []
      | .ok filter => Disciplined request.uri.bucket (request.selection filter) l.config.pageSize
          (.start request.uri.listed) (happenings l signal change turns (start request w)) := by
  cases turns with
  | zero =>
    refine ⟨rfl, ?_⟩
    cases request.filter.compile (change 0 w).moment with
    | error e => rfl
    | ok filter => exact .nil
  | succ turns =>
    cases hfilter : request.filter.compile (change 0 w).moment with
    | error e =>
      have hfirst : amid l signal change 1 (start request w) =
          ⟨.ended (some e), (change 0 w).reportAll request.filter.notices, []⟩ :=
        step_start_unread hfilter
      obtain ⟨-, hdeeds, hhappenings⟩ := amid_ended (congrArg Course.stage hfirst) turns
      rw [Nat.add_comm, hdeeds, hhappenings, hfirst]
      exact ⟨rfl, rfl⟩
    | ok filter =>
      have htells : Tells _ _ _ _ _ (amid l signal change (turns + 1) (start request w)) :=
        amid_tells hbucket hfilter turns
      exact ⟨htells.deeds, htells.disciplined⟩

/-- A listing of one bucket asks for pages with discipline, whatever the store answers and whatever happens to
the world between two turns. What it does is what happens in it, every attempt at a page being the same call; what
happens is permitted by what happened before; tokens are used at most as often as they came; the first call is for
the first page of what is listed, and others without a token are for the first page of a directory that was entered
just before; pages of size zero are asked for only with settings that were not brought within bounds; and once the
listing is over nothing more is asked for. -/
theorem disciplined_amid (l : Lister σ) (signal : StopSignal) (change : Nat → World σ → World σ)
    (request : ListRequest) (w : World σ) (turns : Nat) (hbucket : request.uri.bucket ≠ []) :
    let c := amid l signal change turns (start request w)
    let history := happenings l signal change turns (start request w)
    c.deeds = history.flatMap Happening.deeds ∧
      (match request.filter.compile (change 0 w).moment with
        | .error _ => history = []
        | .ok filter => Disciplined request.uri.bucket (request.selection filter) l.config.pageSize
            (.start request.uri.listed) history) ∧
      history.filterMap Happening.token? <+~ history.filterMap Happening.next? ∧
      (∀ call ∈ c.calls.head?,
        ∃ size, call = .listObjects ⟨request.uri.bucket, request.uri.listed, none, size⟩) ∧
      (∀ before after asked attempts answer,
        history = before ++ .asked asked attempts answer :: after → asked.token = none →
          before = [] ∨ ∃ earlier, before = earlier ++ [.entered asked.under]) ∧
      ((∃ config n, l.config = EngineConfig.withPageSize config n) ∨
          (∃ env : Environment, l.config = env.engineConfig) →
        ∀ asked, .listObjects asked ∈ c.calls → asked.size ≠ 0) ∧
      ∀ failure, c.stage = .ended failure → ∀ more,
        (amid l signal change (turns + more) (start request w)).deeds = c.deeds := by
  intro c history
  obtain ⟨hdeeds, hhistory⟩ : c.deeds = history.flatMap Happening.deeds ∧ _ :=
    amid_happenings hbucket turns
  have hdisciplined : ∃ s, Disciplined request.uri.bucket s l.config.pageSize
      (.start request.uri.listed) history := by
    cases hfilter : request.filter.compile (change 0 w).moment with
    | error e =>
      rw [hfilter] at hhistory
      exact ⟨{}, (show history = [] from hhistory) ▸ .nil⟩
    | ok filter =>
      rw [hfilter] at hhistory
      exact ⟨_, hhistory⟩
  obtain ⟨s, hdisciplined⟩ := hdisciplined
  refine ⟨hdeeds, hhistory, ?_, ?_, ?_, ?_, fun failure hover more => (amid_ended hover more).2.1⟩
  · have hnone : [] ++ (Standing.start request.uri.listed).tokens <+~ [] := List.Subperm.refl _
    exact hdisciplined.tokens_subperm hnone
  · rw [calls, hdeeds]
    exact hdisciplined.exists_first
  · intro before after asked attempts answer hsplit
    rw [hsplit] at hdisciplined
    exact hdisciplined.entered_before
  · intro hconfig asked hasked
    rw [calls, hdeeds] at hasked
    obtain ⟨attempts, answer, hmem⟩ := Happening.exists_asked hasked
    obtain ⟨given, hsized⟩ := hdisciplined.exists_sized hmem
    exact fun hzero => EngineConfig.pageSize_ne_zero hconfig (hsized.eq_zero hzero)

/-- A store that fails in every other call, listed in pages of two entries. -/
def busyInPairs : Lister (Unit × Nat) :=
  ⟨(Lister.answering directoryAhead).backend.flaky Client.everyOther, EngineConfig.withPageSize {} 2⟩

/-- A request for the first three objects of a bucket. -/
def firstThree : ListRequest := { uri := ⟨.s3, ['b'], []⟩, recursive := true, cap := some 3 }

/-- Every page has to be asked for twice, and of the last one only one entry is wanted. -/
theorem disciplined_amid_firstThree :
    (amid busyInPairs {} (fun _ w => w) 12 (start firstThree { store := ((), 0) })).calls =
        [.listObjects ⟨['b'], [], none, 2⟩, .listObjects ⟨['b'], [], none, 2⟩,
          .listObjects ⟨['b'], ['a', '/'], none, 2⟩, .listObjects ⟨['b'], ['a', '/'], none, 2⟩,
          .listObjects ⟨['b'], [], some ['t'], 1⟩, .listObjects ⟨['b'], [], some ['t'], 1⟩] ∧
      Disciplined ['b'] ⟨true, {}, some 3⟩ 2 (.start [])
        (happenings busyInPairs {} (fun _ w => w) 12 (start firstThree { store := ((), 0) })) := by
  obtain ⟨-, hhistory, -⟩ := disciplined_amid busyInPairs {} (fun _ w => w) firstThree
    { store := ((), 0) } 12 (by decide)
  exact ⟨by decide +kernel, hhistory⟩

end Course

end ObjectListing
