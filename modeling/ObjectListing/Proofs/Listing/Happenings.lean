import Mathlib.Data.List.Perm.Subperm
import ObjectListing.Proofs.Listing.Course

/-!
What a listing of one bucket asks for, told as a history of `Happening`s. From a history alone it follows which
directories the listing is inside of, and which page of each came last (`Standing`), and so which happenings may
follow (`Permits`): a page is asked for in the innermost directory, without a token as long as no page of it came,
and with the token of its latest page afterwards. In a history in which every happening may follow
(`Disciplined`) tokens are used at most as often as they came (`Disciplined.tokens_subperm`), and what is asked for
without a token was entered just before (`Disciplined.entered_before`).
-/

namespace ObjectListing

open scoped List

/-- What a listing of one bucket does, as far as pages are concerned: it enters a directory or leaves the
innermost one, gives out an entry, or asks for a page and gets an answer, after so many attempts. -/
inductive Happening
  | entered (key : Text)
  | left
  | gave (e : ObjectEntry)
  | asked (request : PageRequest) (attempts : Nat) (answer : Except StoreError Page)

namespace Happening

/-- What others see of it: every attempt is a call, and all attempts are the same. -/
def deeds : Happening → List Deed
  | gave e => [.gave (.object e)]
  | asked request attempts _ => List.replicate attempts (.asked (.listObjects request))
  | _ => []

/-- The token that is used. -/
def token? : Happening → Option Text
  | asked request _ _ => request.token
  | _ => none

/-- The token of the page that comes. -/
def next? : Happening → Option Text
  | asked _ _ (.ok page) => page.next
  | _ => none

end Happening

/-- A directory that a listing is inside of, and the page of it that came last. -/
structure Inside where
  under : Text
  latest : Option Page := none

/-- How a listing stands: the directories that it is inside of, the innermost first, and how many entries it gave
out. -/
structure Standing where
  inside : List Inside
  given : Nat := 0

namespace Standing

/-- A listing that begins. -/
def start (under : Text) : Standing := { inside := [{ under }] }

/-- How a listing stands after one more happening. It is inside of nothing any more when no page came. -/
def after (st : Standing) : Happening → Standing
  | .entered key => { st with inside := { under := key } :: st.inside }
  | .left => { st with inside := st.inside.tail }
  | .gave _ => { st with given := st.given + 1 }
  | .asked _ _ (.error _) => { st with inside := [] }
  | .asked _ _ (.ok page) =>
    match st.inside with
    | [] => st
    | i :: outer => { st with inside := { i with latest := some page } :: outer }

/-- How a listing stands after a history. -/
def afterAll (st : Standing) (history : List Happening) : Standing := history.foldl after st

/-- Whether a page came of every directory but the innermost one. -/
def Opened (st : Standing) : Prop := ∀ i ∈ st.inside.tail, i.latest ≠ none

/-- The tokens of the latest pages, the one of the innermost directory first. -/
def tokens (st : Standing) : List Text := st.inside.filterMap fun i => i.latest.bind (·.next)

end Standing

/-- The size of a page that is asked for when so many entries are given out: as the settings have it, and without a
filter no more than the cap leaves. The cap leaves something, so that the size is zero only if the settings say
so. -/
structure Sized (s : Selection) (configured given size : Nat) : Prop where
  whole : s.cap = none ∨ s.filter.isEmpty = false → size = configured
  capped : ∀ most, s.cap = some most → s.filter.isEmpty = true → size = min configured (most - given)
  given_lt : ∀ most, s.cap = some most → given < most
  le : size ≤ configured
  eq_zero : size = 0 → configured = 0

/-- What a listing may do next. It enters a directory that is an entry of the latest page of the innermost one,
and leaves the innermost one when its latest page has no token. It gives out entries of that page. It asks for
pages in the innermost directory, for the first one without a token, and for others with the token of the latest
one; a page comes only if there was an attempt. -/
inductive Permits (bucket : Text) (s : Selection) (configured : Nat) (st : Standing) : Happening → Prop
  | entered {i : Inside} {outer : List Inside} {page : Page} {e : ObjectEntry} :
      st.inside = i :: outer → i.latest = some page → e ∈ page.entries → s.enters e = true →
      Permits bucket s configured st (.entered e.key)
  | left {i : Inside} {outer : List Inside} {page : Page} :
      st.inside = i :: outer → i.latest = some page → page.next = none →
      Permits bucket s configured st .left
  | gave {i : Inside} {outer : List Inside} {page : Page} {e : ObjectEntry} :
      st.inside = i :: outer → i.latest = some page → e ∈ page.entries → s.emits e = true →
      Permits bucket s configured st (.gave e)
  | opened {i : Inside} {outer : List Inside} {size attempts : Nat} {answer : Except StoreError Page} :
      st.inside = i :: outer → i.latest = none → Sized s configured st.given size →
      (∀ page, answer = .ok page → 0 < attempts) →
      Permits bucket s configured st (.asked ⟨bucket, i.under, none, size⟩ attempts answer)
  | resumed {i : Inside} {outer : List Inside} {page : Page} {t : Text} {size attempts : Nat}
      {answer : Except StoreError Page} :
      st.inside = i :: outer → i.latest = some page → page.next = some t →
      Sized s configured st.given size → (∀ page, answer = .ok page → 0 < attempts) →
      Permits bucket s configured st (.asked ⟨bucket, i.under, some t, size⟩ attempts answer)

/-- Histories in which every happening is permitted by how the listing stands. -/
inductive Disciplined (bucket : Text) (s : Selection) (configured : Nat) :
    Standing → List Happening → Prop
  | nil {st : Standing} : Disciplined bucket s configured st []
  | cons {st : Standing} {h : Happening} {history : List Happening} :
      Permits bucket s configured st h → Disciplined bucket s configured (st.after h) history →
      Disciplined bucket s configured st (h :: history)

namespace Disciplined

variable {bucket : Text} {s : Selection} {configured : Nat} {st : Standing} {h : Happening}
  {history : List Happening}

theorem concat (hhistory : Disciplined bucket s configured st history)
    (hpermits : Permits bucket s configured (st.afterAll history) h) :
    Disciplined bucket s configured st (history ++ [h]) := by
  induction hhistory with
  | nil => exact .cons hpermits .nil
  | cons hfirst _ ih => exact .cons hfirst (ih hpermits)

end Disciplined

theorem filterMap_cons_toList {α β : Type} (f : α → Option β) (a : α) (as : List α) :
    (a :: as).filterMap f = (f a).toList ++ as.filterMap f := by
  rw [List.filterMap_cons]
  cases f a <;> rfl

namespace Permits

variable {bucket : Text} {s : Selection} {configured : Nat} {st : Standing} {h : Happening}

theorem exists_inside (hpermits : Permits bucket s configured st h) :
    ∃ i outer, st.inside = i :: outer := by
  cases hpermits with
  | entered hinside _ _ _ => exact ⟨_, _, hinside⟩
  | left hinside _ _ => exact ⟨_, _, hinside⟩
  | gave hinside _ _ _ => exact ⟨_, _, hinside⟩
  | opened hinside _ _ _ => exact ⟨_, _, hinside⟩
  | resumed hinside _ _ _ _ => exact ⟨_, _, hinside⟩

/-- The tokens that are used, and those that still can be, are tokens of pages that came. -/
theorem tokens_subperm (hpermits : Permits bucket s configured st h) {used came : List Text}
    (hused : used ++ st.tokens <+~ came) :
    used ++ h.token?.toList ++ (st.after h).tokens <+~ came ++ h.next?.toList := by
  -- a page that comes to the innermost directory brings its token
  have hcame {used outer next : List Text} (hused : used ++ outer <+~ came) :
      used ++ (next ++ outer) <+~ came ++ next := by
    have hperm : used ++ (next ++ outer) ~ used ++ outer ++ next := by
      rw [List.append_assoc]
      exact List.perm_append_comm.append_left used
    exact hperm.subperm.trans ((List.subperm_append_right next).mpr hused)
  have hfailed {tokens : List Text} (hsub : tokens <+ st.tokens) : used ++ tokens <+~ came :=
    ((List.Sublist.refl used).append hsub).subperm.trans hused
  cases hpermits with
  | entered _ _ _ _ =>
    simpa [Happening.token?, Happening.next?, Standing.after, Standing.tokens] using hused
  | left hinside hlatest hnext =>
    simpa [Happening.token?, Happening.next?, Standing.after, Standing.tokens, hinside, hlatest, hnext]
      using hused
  | gave _ _ _ _ =>
    simpa [Happening.token?, Happening.next?, Standing.after, Standing.tokens] using hused
  | @opened i outer _ _ answer hinside hlatest _ _ =>
    have htokens : st.tokens = Standing.tokens { inside := outer } := by
      rw [Standing.tokens, hinside, filterMap_cons_toList, hlatest]
      rfl
    cases answer with
    | error e =>
      simpa [Happening.token?, Happening.next?, Standing.after, Standing.tokens]
        using hfailed (List.nil_sublist _)
    | ok page =>
      rw [htokens] at hused
      have hafter : used ++ (page.next.toList ++ Standing.tokens { inside := outer }) <+~
          came ++ page.next.toList := hcame hused
      simpa [Happening.token?, Happening.next?, Standing.after, Standing.tokens, hinside,
        filterMap_cons_toList] using hafter
  | @resumed i outer page t _ _ answer hinside hlatest hnext _ _ =>
    have htokens : st.tokens = [t] ++ Standing.tokens { inside := outer } := by
      rw [Standing.tokens, hinside, filterMap_cons_toList, hlatest, Option.bind_some, hnext]
      rfl
    cases answer with
    | error e =>
      have hsub : [t] <+ st.tokens := htokens ▸ List.sublist_append_left ..
      simpa [Happening.token?, Happening.next?, Standing.after, Standing.tokens] using hfailed hsub
    | ok next =>
      rw [htokens, ← List.append_assoc] at hused
      have hafter : used ++ [t] ++ (next.next.toList ++ Standing.tokens { inside := outer }) <+~
          came ++ next.next.toList := hcame hused
      simpa [Happening.token?, Happening.next?, Standing.after, Standing.tokens, hinside,
        filterMap_cons_toList] using hafter

theorem opened_after (hpermits : Permits bucket s configured st h) (hst : st.Opened) :
    (st.after h).Opened := by
  have hfailed : Standing.Opened { st with inside := [] } := by simp [Standing.Opened]
  cases hpermits with
  | entered hinside hlatest _ _ =>
    intro i hi
    rw [Standing.after, hinside] at hi
    rcases List.mem_cons.mp hi with rfl | houter
    · rw [hlatest]
      nofun
    · exact hst i (hinside ▸ houter)
  | left _ _ _ => exact fun i hi => hst i (List.mem_of_mem_tail hi)
  | gave _ _ _ _ => exact hst
  | @opened _ _ _ _ answer hinside _ _ _ =>
    cases answer with
    | error e => exact hfailed
    | ok page =>
      rw [Standing.Opened, hinside] at hst
      rw [Standing.after, hinside]
      exact hst
  | @resumed _ _ _ _ _ _ answer hinside _ _ _ _ =>
    cases answer with
    | error e => exact hfailed
    | ok page =>
      rw [Standing.Opened, hinside] at hst
      rw [Standing.after, hinside]
      exact hst

/-- Only a directory that was entered just now is one of which no page came. -/
theorem eq_entered (hpermits : Permits bucket s configured st h) (hst : st.Opened) {i : Inside}
    {outer : List Inside} (hinside : (st.after h).inside = i :: outer) (hlatest : i.latest = none) :
    h = .entered i.under := by
  cases hpermits with
  | entered _ _ _ _ =>
    cases hinside
    rfl
  | left _ _ _ =>
    have htail : st.inside.tail = i :: outer := hinside
    exact absurd hlatest (hst i (htail ▸ List.mem_cons_self))
  | gave hbefore hsome _ _ =>
    cases hbefore.symm.trans hinside
    cases hlatest.symm.trans hsome
  | @opened _ _ _ _ answer hbefore _ _ _ =>
    cases answer with
    | error e => cases hinside
    | ok page =>
      rw [Standing.after, hbefore] at hinside
      cases hinside
      cases hlatest
  | @resumed _ _ _ _ _ _ answer hbefore _ _ _ _ =>
    cases answer with
    | error e => cases hinside
    | ok page =>
      rw [Standing.after, hbefore] at hinside
      cases hinside
      cases hlatest

end Permits

namespace Disciplined

variable {bucket : Text} {s : Selection} {configured : Nat} {st : Standing} {h : Happening}
  {history : List Happening}

/-- Nothing is permitted when a listing is inside of nothing. -/
theorem eq_nil (hhistory : Disciplined bucket s configured st history) (hst : st.inside = []) :
    history = [] := by
  cases hhistory with
  | nil => rfl
  | cons hpermits _ =>
    obtain ⟨i, outer, hinside⟩ := hpermits.exists_inside
    rw [hst] at hinside
    cases hinside

/-- Tokens that are used are tokens of pages that came, each at most as often as it came. -/
theorem tokens_subperm (hhistory : Disciplined bucket s configured st history) :
    ∀ {used came : List Text}, used ++ st.tokens <+~ came →
      used ++ history.filterMap Happening.token? <+~ came ++ history.filterMap Happening.next? := by
  induction hhistory with
  | nil =>
    intro used came hused
    rw [List.filterMap_nil, List.filterMap_nil, List.append_nil, List.append_nil]
    exact (List.sublist_append_left ..).subperm.trans hused
  | cons hpermits _ ih =>
    intro used came hused
    rw [filterMap_cons_toList, filterMap_cons_toList, ← List.append_assoc, ← List.append_assoc]
    exact ih (hpermits.tokens_subperm hused)

/-- Every page that is asked for has the size that the settings and the cap give it. -/
theorem exists_sized (hhistory : Disciplined bucket s configured st history) {request : PageRequest}
    {attempts : Nat} {answer : Except StoreError Page} (hmem : .asked request attempts answer ∈ history) :
    ∃ given, Sized s configured given request.size := by
  induction hhistory with
  | nil => cases hmem
  | cons hpermits _ ih =>
    rcases List.mem_cons.mp hmem with heq | hlater
    · subst heq
      cases hpermits with
      | opened _ _ hsized _ => exact ⟨_, hsized⟩
      | resumed _ _ _ hsized _ => exact ⟨_, hsized⟩
    · exact ih hlater

theorem of_append {before after : List Happening} (h : Disciplined bucket s configured st (before ++ after)) :
    Disciplined bucket s configured st before ∧
      Disciplined bucket s configured (st.afterAll before) after := by
  induction before generalizing st with
  | nil => exact ⟨.nil, h⟩
  | cons first before ih =>
    cases h with
    | cons hpermits hlater =>
      obtain ⟨hbefore, hafter⟩ := ih hlater
      exact ⟨.cons hpermits hbefore, hafter⟩

theorem opened_afterAll (hhistory : Disciplined bucket s configured st history) (hst : st.Opened) :
    (st.afterAll history).Opened := by
  induction hhistory with
  | nil => exact hst
  | cons hpermits _ ih => exact ih (hpermits.opened_after hst)

/-- A page that is asked for without a token is the first one of a directory that was entered just before. -/
theorem entered_before {under : Text} {before after : List Happening} {request : PageRequest}
    {attempts : Nat} {answer : Except StoreError Page}
    (h : Disciplined bucket s configured (.start under) (before ++ .asked request attempts answer :: after))
    (htoken : request.token = none) :
    before = [] ∨ ∃ earlier, before = earlier ++ [.entered request.under] := by
  rcases List.eq_nil_or_concat before with rfl | ⟨earlier, last, rfl⟩
  · exact Or.inl rfl
  · rw [List.concat_eq_append] at h ⊢
    obtain ⟨hbefore, hfirst⟩ := h.of_append
    obtain ⟨hearlier, hlast⟩ := hbefore.of_append
    have hopened : ((Standing.start under).afterAll earlier).Opened := hearlier.opened_afterAll nofun
    cases hlast with
    | cons hpermits _ =>
      cases hfirst with
      | cons hasked _ =>
        rw [Standing.afterAll, List.foldl_append] at hasked
        cases hasked with
        | resumed _ _ _ _ _ => cases htoken
        | opened hinside hlatest _ _ =>
          exact Or.inr ⟨earlier, by rw [hpermits.eq_entered hopened hinside hlatest]⟩

/-- The first call asks for the first page of the directory that is listed. -/
theorem exists_first {under : Text} (hhistory : Disciplined bucket s configured (.start under) history) :
    ∀ call ∈ ((history.flatMap Happening.deeds).filterMap Deed.call?).head?,
      ∃ size, call = .listObjects ⟨bucket, under, none, size⟩ := by
  cases hhistory with
  | nil => nofun
  | cons hpermits hlater =>
    cases hpermits with
    | entered hinside hlatest _ _ => cases hinside; cases hlatest
    | left hinside hlatest _ => cases hinside; cases hlatest
    | gave hinside hlatest _ _ => cases hinside; cases hlatest
    | resumed hinside hlatest _ _ _ => cases hinside; cases hlatest
    | @opened i outer size attempts answer hinside hlatest _ hanswer =>
      cases hinside
      cases attempts with
      | succ attempts =>
        intro call hcall
        cases hcall
        exact ⟨size, rfl⟩
      | zero =>
        -- when nothing was asked no page came, and nothing more happens
        cases answer with
        | ok page => exact absurd (hanswer page rfl) (Nat.lt_irrefl 0)
        | error e =>
          rw [hlater.eq_nil rfl]
          nofun

end Disciplined

/-- A page that a history was to ask for was asked for in one of its happenings. -/
theorem Happening.exists_asked {history : List Happening} {request : PageRequest}
    (hmem : .listObjects request ∈ (history.flatMap deeds).filterMap Deed.call?) :
    ∃ attempts answer, asked request attempts answer ∈ history := by
  obtain ⟨deed, hdeed, hcall⟩ := List.mem_filterMap.mp hmem
  obtain ⟨happening, hhappening, hdeed⟩ := List.mem_flatMap.mp hdeed
  cases happening with
  | entered key => cases hdeed
  | left => cases hdeed
  | gave e =>
    cases List.mem_singleton.mp hdeed
    cases hcall
  | asked request attempts answer =>
    cases List.eq_of_mem_replicate hdeed
    cases hcall
    exact ⟨attempts, answer, hhappening⟩

end ObjectListing
