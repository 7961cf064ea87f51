import Mathlib.Data.List.Basic
import ObjectListing.Proofs.Retry
import ObjectListing.Store.Remote

/-!
The buckets of a remote service, which come page by page. A request may fail in any attempt and for any
page, and an attempt that fails begins anew. How one attempt ends is told by what it meets
(`BucketService.goesOn`), and a call under retries ends as its last attempt does
(`RemoteStore.exists_lastAttempt`). So it has what this attempt has, and nothing of the others
(`RemoteStore.listBuckets_retried`).
-/

namespace ObjectListing

/-! ### Times on the way -/

/-- A time that can be read from a document has a date. -/
theorem Instant.isDated_of_delivered {t read : Instant} (h : t.delivered? = some read) :
    read.isDated = true := by
  rw [Instant.delivered?] at h
  split at h
  · cases h
  · rename_i hyear
    have hsecond : second - 1 < second := by decide
    split at h
    · rename_i hleap
      obtain rfl := Option.some.inj h
      have hnanos : t.nanos < second := by simpa [Instant.isLeap] using hleap
      simp only [Instant.isDated, Bool.and_eq_true, Bool.or_eq_true, decide_eq_true_eq]
      omega
    · split at h
      · obtain rfl := Option.some.inj h
        simp only [Instant.isDated, Bool.and_eq_true, Bool.or_eq_true, decide_eq_true_eq]
        omega
      · cases h

theorem datedTime_of_delivered {time read : Option Instant} (h : deliveredTime? time = some read) :
    datedTime read = read := by
  cases time with
  | none =>
    obtain rfl := Option.some.inj h
    rfl
  | some t =>
    obtain ⟨t', hread, rfl⟩ := Option.map_eq_some_iff.mp h
    rw [datedTime, Option.filter_some, if_pos (Instant.isDated_of_delivered hread)]

theorem RemoteBucket.datedTime_created {b read : RemoteBucket} (h : b.delivered? = some read) :
    datedTime read.created = read.created := by
  rw [delivered?] at h
  split at h
  · obtain ⟨created, hcreated, rfl⟩ := Option.map_eq_some_iff.mp h
    exact datedTime_of_delivered hcreated
  · cases h

/-- The times that come with buckets are kept. -/
theorem Response.datedTime_created {response : Response} {found : List RemoteBucket}
    {token : Option Text} (h : response.delivered = .buckets found token) :
    ∀ b ∈ found, datedTime b.created = b.created := by
  have hread : ∀ (sent read : List RemoteBucket), sent.mapM RemoteBucket.delivered? = some read →
      ∀ b ∈ read, datedTime b.created = b.created := by
    intro sent
    induction sent with
    | nil => simp
    | cons b sent ih =>
      intro read hread
      rw [List.mapM_cons] at hread
      obtain ⟨c, hc, hread⟩ := Option.bind_eq_some_iff.mp hread
      obtain ⟨rest, hrest, hread⟩ := Option.bind_eq_some_iff.mp hread
      obtain rfl := Option.some.inj hread
      exact List.forall_mem_cons.mpr ⟨RemoteBucket.datedTime_created hc, ih rest hrest⟩
  cases response with
  | page p =>
    rw [delivered] at h
    cases hread : p.delivered? <;> simp [hread] at h
  | data d => cases h
  | failed fault => cases h
  | buckets sent sentToken =>
    rw [delivered] at h
    cases hsent : sent.mapM RemoteBucket.delivered? with
    | none => simp [hsent] at h
    | some read =>
      simp only [hsent] at h
      split at h
      · cases h
        exact hread sent found hsent
      · cases h

/-! ### One page -/

/-- What a bucket in a response is as an entry. -/
def RemoteBucket.entry? (b : RemoteBucket) : Option BucketEntry :=
  b.name.map fun name => ⟨name, datedTime b.created⟩

namespace RemoteStore

variable {found : List RemoteBucket}

theorem bucketEntries_of_named (h : ∀ b ∈ found, b.name ≠ none) :
    bucketEntries found = .ok (found.filterMap RemoteBucket.entry?) := by
  induction found with
  | nil => rfl
  | cons b found ih =>
    obtain ⟨hb, hfound⟩ := List.forall_mem_cons.mp h
    obtain ⟨name, hname⟩ := Option.ne_none_iff_exists'.mp hb
    have hentry : b.entry? = some ⟨name, datedTime b.created⟩ := by rw [RemoteBucket.entry?, hname]; rfl
    rw [List.filterMap_cons_some hentry, bucketEntries, hname]
    dsimp only
    rw [ih hfound]
    rfl

theorem bucketEntries_of_nameless (h : ∃ b ∈ found, b.name = none) :
    ∃ detail, bucketEntries found = .error (.malformed detail) := by
  induction found with
  | nil => simp at h
  | cons b found ih =>
    rw [bucketEntries]
    cases hname : b.name with
    | none => exact ⟨_, rfl⟩
    | some name =>
      obtain ⟨detail, hdetail⟩ := ih (by simpa [hname] using h)
      exact ⟨detail, by rw [hdetail]; rfl⟩

variable {sign : RemoteRequest → SignedRequest} {silence fault : RemoteFault} {token next : Option Text}
  {response : Response} {rest : List Response} {asked : List SignedRequest} {e : StoreError} {t : Text}

/-- Pages end with a response that brings none that can be read, or none that another one follows. -/
theorem bucketsFrom_cons (sign : RemoteRequest → SignedRequest) (silence : RemoteFault) (token : Option Text)
    (response : Response) (rest : List Response) (asked : List SignedRequest) :
    bucketsFrom sign silence token (response :: rest) asked =
      let asked := sign (.listBuckets token) :: asked
      match response.delivered with
      | .buckets found next =>
        match bucketEntries found with
        | .error e => (.error e, rest, asked)
        | .ok entries =>
          match RemotePage.usable next with
          | none => (.ok entries, rest, asked)
          | some token =>
            let later := bucketsFrom sign silence (some token) rest asked
            (later.1.map (entries ++ ·), later.2)
      | other => (.error (other.fault.error "ListBuckets" anywhere), rest, asked) := rfl

theorem bucketsFrom_of_failed (h : response.delivered = .failed fault) :
    bucketsFrom sign silence token (response :: rest) asked =
      (.error (fault.error "ListBuckets" anywhere), rest, sign (.listBuckets token) :: asked) := by
  rw [bucketsFrom_cons, h]
  rfl

theorem bucketsFrom_of_nameless (h : response.delivered = .buckets found next)
    (hfound : bucketEntries found = .error e) :
    bucketsFrom sign silence token (response :: rest) asked =
      (.error e, rest, sign (.listBuckets token) :: asked) := by
  rw [bucketsFrom_cons, h]
  simp only [hfound]

theorem bucketsFrom_of_last (h : response.delivered = .buckets found next)
    (hfound : ∀ b ∈ found, b.name ≠ none) (hnext : RemotePage.usable next = none) :
    bucketsFrom sign silence token (response :: rest) asked =
      (.ok (found.filterMap RemoteBucket.entry?), rest, sign (.listBuckets token) :: asked) := by
  rw [bucketsFrom_cons, h]
  simp only [bucketEntries_of_named hfound, hnext]

theorem bucketsFrom_of_more (h : response.delivered = .buckets found next)
    (hfound : ∀ b ∈ found, b.name ≠ none) (hnext : RemotePage.usable next = some t) :
    bucketsFrom sign silence token (response :: rest) asked =
      let later := bucketsFrom sign silence (some t) rest (sign (.listBuckets token) :: asked)
      (later.1.map (found.filterMap RemoteBucket.entry? ++ ·), later.2) := by
  rw [bucketsFrom_cons, h]
  simp only [bucketEntries_of_named hfound, hnext]

end RemoteStore

/-! ### One attempt -/

/-- A service that has its buckets on pages, `found 0` to `found lastPage`. What it sends for a page may
differ from attempt to attempt; the same buckets are read from it. The token that comes with a page may
differ, too: with every page but the last one it is a token that is not empty, and with the last one an
empty token or none. -/
structure BucketService where
  lastPage : Nat
  found : (page : Nat) → List RemoteBucket
  token : (attempt page : Nat) → Option Text
  response : (attempt page : Nat) → Response
  delivered_eq : ∀ attempt page, page ≤ lastPage →
    (response attempt page).delivered = .buckets (found page) (token attempt page)
  chained : ∀ attempt page, page < lastPage → ∃ t, token attempt page = some t ∧ t ≠ []
  ended : ∀ attempt, token attempt lastPage = none ∨ token attempt lastPage = some []

namespace BucketService

variable (s : BucketService) (fails : (attempt page : Nat) → Option RemoteFault) (attempt : Nat)

/-- The token that a page is asked for with in an attempt: the first one without any, and every other one
with the token that came with the page before it in the same attempt. -/
def asked : (page : Nat) → Option Text
  | 0 => none
  | page + 1 => s.token attempt page

/-- The response to the request for a page. -/
def answer (page : Nat) : Response :=
  match fails attempt page with
  | some fault => .failed fault
  | none => s.response attempt page

/-- The responses to an attempt that goes on from a page, with `left` pages behind it: those up to the last
page, or up to the request that fails. -/
def responsesFrom : (left page : Nat) → List Response
  | 0, page => [s.answer fails attempt page]
  | left + 1, page => s.answer fails attempt page ::
      if (fails attempt page).isSome then [] else responsesFrom left (page + 1)

/-- The responses to a whole attempt. -/
def responses : List Response := s.responsesFrom fails attempt s.lastPage 0

/-- The number of pages that are asked for in an attempt that goes on from a page: those up to the last page,
or up to the request that fails, or up to the page that has a bucket without a name. -/
def requestsFrom : (left page : Nat) → Nat
  | 0, _ => 1
  | left + 1, page =>
    if (fails attempt page).isSome || (s.found page).any fun b => b.name.isNone then 1
    else requestsFrom left (page + 1) + 1

/-- The requests of a whole attempt, in their order. -/
def requests : List RemoteRequest :=
  (List.range (s.requestsFrom fails attempt s.lastPage 0)).map fun page => .listBuckets (s.asked attempt page)

/-- What becomes of an attempt that has come to a page. -/
inductive Ends (page : Nat) : Except StoreError (List BucketEntry) → Prop
  | nameless {d : Nat} {detail : String} : page ≤ d → d ≤ s.lastPage →
      (∀ i, page ≤ i → i ≤ d → fails attempt i = none) → (∃ b ∈ s.found d, b.name = none) →
      Ends page (.error (.malformed detail))
  | failed {d : Nat} {e : StoreError} : page ≤ d → d ≤ s.lastPage → fails attempt d ≠ none →
      (∀ i, page ≤ i → i < d → ∀ b ∈ s.found i, b.name ≠ none) → e.isTransient = true →
      Ends page (.error e)
  | through {entries : List BucketEntry} : (∀ i, page ≤ i → i ≤ s.lastPage → fails attempt i = none) →
      (∀ i, page ≤ i → i ≤ s.lastPage → ∀ b ∈ s.found i, b.name ≠ none) →
      entries = (List.range' page (s.lastPage + 1 - page)).flatMap
        (fun i => (s.found i).filterMap RemoteBucket.entry?) →
      Ends page (.ok entries)

variable {s fails attempt} {left page : Nat}

theorem delivered_answer_of_failed {fault : RemoteFault} (h : fails attempt page = some fault) :
    (s.answer fails attempt page).delivered = .failed fault.delivered := by
  rw [answer, h]
  rfl

theorem delivered_answer (h : fails attempt page = none) (hpage : page ≤ s.lastPage) :
    (s.answer fails attempt page).delivered = .buckets (s.found page) (s.token attempt page) := by
  rw [answer, h]
  exact s.delivered_eq attempt page hpage

theorem not_any_isNone {found : List RemoteBucket} (h : ∀ b ∈ found, b.name ≠ none) :
    (found.any fun b => b.name.isNone) = false := by
  simpa using h

/-- An attempt that has read a page ends as it does from the next page on. -/
theorem Ends.of_next {answer : Except StoreError (List BucketEntry)}
    (h : s.Ends fails attempt (page + 1) answer) (hpage : page < s.lastPage)
    (hgiven : fails attempt page = none) (hnamed : ∀ b ∈ s.found page, b.name ≠ none) :
    s.Ends fails attempt page (answer.map ((s.found page).filterMap RemoteBucket.entry? ++ ·)) := by
  cases h with
  | nameless hle hlast hbefore hnameless =>
    refine .nameless (by omega) hlast (fun i hi hid => ?_) hnameless
    obtain rfl | hlt := Nat.eq_or_lt_of_le hi
    · exact hgiven
    · exact hbefore i hlt hid
  | failed hle hlast hfails hbefore htransient =>
    refine .failed (by omega) hlast hfails (fun i hi hid => ?_) htransient
    obtain rfl | hlt := Nat.eq_or_lt_of_le hi
    · exact hnamed
    · exact hbefore i hlt hid
  | through hgiven' hnamed' hentries =>
    refine .through (fun i hi hilast => ?_) (fun i hi hilast => ?_) ?_
    · obtain rfl | hlt := Nat.eq_or_lt_of_le hi
      · exact hgiven
      · exact hgiven' i hlt hilast
    · obtain rfl | hlt := Nat.eq_or_lt_of_le hi
      · exact hnamed
      · exact hnamed' i hlt hilast
    · rw [hentries, show s.lastPage + 1 - page = s.lastPage + 1 - (page + 1) + 1 by omega,
        List.range'_succ, List.flatMap_cons]

/-- An attempt that fails for a transient cause meets a request that fails before any bucket without a
name. -/
theorem Ends.exists_failed {e : StoreError} (h : s.Ends fails attempt 0 (.error e))
    (htransient : e.isTransient = true) :
    ∃ d ≤ s.lastPage, fails attempt d ≠ none ∧ ∀ i < d, ∀ b ∈ s.found i, b.name ≠ none := by
  cases h with
  | nameless => cases htransient
  | @failed d _ _ hlast hfails hbefore _ => exact ⟨d, hlast, hfails, fun i => hbefore i (Nat.zero_le i)⟩

/-- When all buckets have names, an attempt that does not fail for a transient cause has the buckets of all
pages. -/
theorem Ends.eq_ok {answer : Except StoreError (List BucketEntry)} (h : s.Ends fails attempt 0 answer)
    (hfinal : ∀ e, answer = .error e → e.isTransient = false)
    (hnamed : ∀ page ≤ s.lastPage, ∀ b ∈ s.found page, b.name ≠ none) :
    answer = .ok ((List.range (s.lastPage + 1)).flatMap fun page =>
      (s.found page).filterMap RemoteBucket.entry?) := by
  cases h with
  | nameless _ hlast _ hnameless =>
    obtain ⟨b, hb, hnone⟩ := hnameless
    exact absurd hnone (hnamed _ hlast b hb)
  | failed _ _ _ _ htransient => exact absurd htransient (Bool.eq_false_iff.mp (hfinal _ rfl))
  | through _ _ hentries => rw [hentries, Nat.sub_zero, ← List.range_eq_range']

/-- When a bucket has no name, an attempt that does not fail for a transient cause finds this out. -/
theorem Ends.malformed {answer : Except StoreError (List BucketEntry)} (h : s.Ends fails attempt 0 answer)
    (hfinal : ∀ e, answer = .error e → e.isTransient = false) (hpage : page ≤ s.lastPage)
    (hnameless : ∃ b ∈ s.found page, b.name = none) : ∃ detail, answer = .error (.malformed detail) := by
  cases h with
  | nameless => exact ⟨_, rfl⟩
  | failed _ _ _ _ htransient => exact absurd htransient (Bool.eq_false_iff.mp (hfinal _ rfl))
  | through _ hnamed =>
    obtain ⟨b, hb, hnone⟩ := hnameless
    exact absurd hnone (hnamed page (Nat.zero_le page) hpage b hb)

/-- Buckets of a page with their names and times are read as they are: what comes on the way keeps its time. -/
theorem filterMap_entry?_found {entries : List BucketEntry} (hpage : page ≤ s.lastPage)
    (hentries : s.found page = entries.map fun b => ⟨some b.name, b.created⟩) :
    (s.found page).filterMap RemoteBucket.entry? = entries := by
  have hkept := Response.datedTime_created (s.delivered_eq 0 page hpage)
  rw [hentries] at hkept ⊢
  rw [List.filterMap_map]
  refine (List.filterMap_congr fun entry hentry => ?_).trans List.filterMap_some
  have htime : datedTime entry.created = entry.created := hkept _ (List.mem_map_of_mem hentry)
  simp [RemoteBucket.entry?, htime]

/-- How an attempt goes on from a page, whatever responses come after its own: how it ends, that it takes all
of its responses when it fails for a transient cause, and what it asks for. -/
def GoesOn (s : BucketService) (fails : (attempt page : Nat) → Option RemoteFault) (attempt : Nat)
    (sign : RemoteRequest → SignedRequest) (silence : RemoteFault) (more : List Response)
    (left page : Nat) (asked : List SignedRequest) : Prop :=
  ∃ answer rest,
    RemoteStore.bucketsFrom sign silence (s.asked attempt page)
        (s.responsesFrom fails attempt left page ++ more) asked =
      (answer, rest, ((List.range' page (s.requestsFrom fails attempt left page)).map fun i =>
        sign (.listBuckets (s.asked attempt i))).reverse ++ asked) ∧
    s.Ends fails attempt page answer ∧
    ∀ e, answer = .error e → e.isTransient = true → rest = more

variable {sign : RemoteRequest → SignedRequest} {silence : RemoteFault} {more : List Response}
  {asked : List SignedRequest}

theorem goesOn_of_failed {fault : RemoteFault} (hfail : fails attempt page = some fault)
    (hpage : page ≤ s.lastPage)
    (htransient : (fault.delivered.error "ListBuckets" RemoteStore.anywhere).isTransient = true) :
    s.GoesOn fails attempt sign silence more left page asked := by
  have hresponses : s.responsesFrom fails attempt left page = [s.answer fails attempt page] := by
    cases left <;> simp [responsesFrom, hfail]
  have hrequests : s.requestsFrom fails attempt left page = 1 := by
    cases left <;> simp [requestsFrom, hfail]
  rw [GoesOn, hresponses, hrequests]
  refine ⟨_, _, RemoteStore.bucketsFrom_of_failed (delivered_answer_of_failed hfail), ?_, fun _ _ _ => rfl⟩
  exact .failed (Nat.le_refl page) hpage (by simp [hfail]) (fun i hi hlt => by omega) htransient

theorem goesOn_of_nameless (hgiven : fails attempt page = none) (hpage : page ≤ s.lastPage)
    (hnameless : ∃ b ∈ s.found page, b.name = none) :
    s.GoesOn fails attempt sign silence more left page asked := by
  obtain ⟨later, hresponses⟩ : ∃ later, s.responsesFrom fails attempt left page =
      s.answer fails attempt page :: later := by
    cases left <;> exact ⟨_, rfl⟩
  have hrequests : s.requestsFrom fails attempt left page = 1 := by
    have hany : ((s.found page).any fun b => b.name.isNone) = true := by simpa using hnameless
    cases left <;> simp [requestsFrom, hany]
  obtain ⟨detail, hdetail⟩ := RemoteStore.bucketEntries_of_nameless hnameless
  rw [GoesOn, hresponses, hrequests]
  refine ⟨_, _, RemoteStore.bucketsFrom_of_nameless (delivered_answer hgiven hpage) hdetail, ?_, ?_⟩
  · refine .nameless (Nat.le_refl page) hpage (fun i hi hle => ?_) hnameless
    obtain rfl := Nat.le_antisymm hle hi
    exact hgiven
  · rintro _ ⟨⟩ htransient
    cases htransient

theorem goesOn_of_last (hgiven : fails attempt s.lastPage = none)
    (hnamed : ∀ b ∈ s.found s.lastPage, b.name ≠ none) :
    s.GoesOn fails attempt sign silence more 0 s.lastPage asked := by
  have hnext : RemotePage.usable (s.token attempt s.lastPage) = none := by
    obtain hnone | hempty := s.ended attempt
    · rw [hnone]; rfl
    · rw [hempty]; rfl
  refine ⟨_, _, RemoteStore.bucketsFrom_of_last (delivered_answer hgiven (Nat.le_refl _)) hnamed hnext, ?_,
    fun _ h => nomatch h⟩
  refine .through (fun i hi hle => ?_) (fun i hi hle => ?_) (by simp)
  · obtain rfl := Nat.le_antisymm hle hi
    exact hgiven
  · obtain rfl := Nat.le_antisymm hle hi
    exact hnamed

theorem GoesOn.of_next
    (h : s.GoesOn fails attempt sign silence more left (page + 1)
      (sign (.listBuckets (s.asked attempt page)) :: asked))
    (hpage : page < s.lastPage) (hgiven : fails attempt page = none)
    (hnamed : ∀ b ∈ s.found page, b.name ≠ none) :
    s.GoesOn fails attempt sign silence more (left + 1) page asked := by
  obtain ⟨t, htoken, hne⟩ := s.chained attempt page hpage
  have hnext : RemotePage.usable (s.token attempt page) = some t := by
    rw [htoken, RemotePage.usable, Option.filter_some, if_pos (by simpa using hne)]
  have hresponses : s.responsesFrom fails attempt (left + 1) page =
      s.answer fails attempt page :: s.responsesFrom fails attempt left (page + 1) := by
    simp [responsesFrom, hgiven]
  have hrequests : s.requestsFrom fails attempt (left + 1) page =
      s.requestsFrom fails attempt left (page + 1) + 1 := by
    simp [requestsFrom, hgiven, not_any_isNone hnamed]
  obtain ⟨answer, rest, hlater, hends, hrest⟩ := h
  rw [show s.asked attempt (page + 1) = some t from htoken] at hlater
  rw [GoesOn, hresponses, hrequests, List.cons_append,
    RemoteStore.bucketsFrom_of_more (delivered_answer hgiven (Nat.le_of_lt hpage)) hnamed hnext]
  dsimp only
  rw [hlater]
  refine ⟨_, rest, by simp [List.range'_succ], hends.of_next hpage hgiven hnamed, fun e he htransient => ?_⟩
  cases answer with
  | ok entries => cases he
  | error e' =>
    cases he
    exact hrest e rfl htransient

/-- An attempt goes on from every page it comes to. -/
theorem goesOn (hfails : ∀ i fault, fails attempt i = some fault →
      (fault.delivered.error "ListBuckets" RemoteStore.anywhere).isTransient = true)
    (sign : RemoteRequest → SignedRequest) (silence : RemoteFault) (more : List Response) :
    ∀ (left page : Nat) (asked : List SignedRequest), page + left = s.lastPage →
      s.GoesOn fails attempt sign silence more left page asked := by
  intro left
  induction left with
  | zero =>
    intro page asked hpage
    obtain rfl : page = s.lastPage := hpage
    cases hfail : fails attempt s.lastPage with
    | some fault => exact goesOn_of_failed hfail (Nat.le_refl _) (hfails _ fault hfail)
    | none =>
      by_cases hnamed : ∀ b ∈ s.found s.lastPage, b.name ≠ none
      · exact goesOn_of_last hfail hnamed
      · push Not at hnamed
        exact goesOn_of_nameless hfail (Nat.le_refl _) hnamed
  | succ left ih =>
    intro page asked hpage
    have hlt : page < s.lastPage := by omega
    cases hfail : fails attempt page with
    | some fault => exact goesOn_of_failed hfail (Nat.le_of_lt hlt) (hfails _ fault hfail)
    | none =>
      by_cases hnamed : ∀ b ∈ s.found page, b.name ≠ none
      · exact (ih (page + 1) _ (by omega)).of_next hlt hfail hnamed
      · push Not at hnamed
        exact goesOn_of_nameless hfail (Nat.le_of_lt hlt) hnamed

end BucketService

/-! ### All attempts -/

namespace RemoteStore

variable {p : RetryPolicy} {operation : String} {signal : StopSignal} {settings : RemoteSettings}
  {caller : Nat} {s : BucketService} {fails : (attempt page : Nat) → Option RemoteFault}
  {responses more : List Response} {start e : Endpoint} {attempt : Nat}

/-- What an endpoint is like at which some attempts have been made, when these responses are left: it is
the place that it was, and has the requests of the attempts. -/
structure Attempted (s : BucketService) (fails : (attempt page : Nat) → Option RemoteFault)
    (settings : RemoteSettings) (start : Endpoint) (attempts : Nat) (responses : List Response)
    (e : Endpoint) : Prop where
  isHostName : isHostName (e.regionOf settings) = true
  canSign : canSign settings e = true
  sign_eq : e.sign settings = start.sign settings
  responses_eq : e.responses = responses
  requests_eq : e.requests =
    (((List.range attempts).flatMap (s.requests fails)).map (start.sign settings)).reverse ++ start.requests

theorem listBuckets_eq (hhost : isHostName (e.regionOf settings) = true) (hsign : canSign settings e = true)
    (caller : Nat) : ∃ events connected,
      listBuckets settings caller e =
        { answer := (bucketsFrom (e.sign settings) e.silence none e.responses e.requests).1, events, waits := true
          store := { e with
            connected
            responses := (bucketsFrom (e.sign settings) e.silence none e.responses e.requests).2.1
            requests := (bucketsFrom (e.sign settings) e.silence none e.responses e.requests).2.2 } } := by
  obtain ⟨events, connected, hconnect⟩ : ∃ events connected,
      connect settings caller e = (events, { e with connected }) := by
    rw [connect]
    split
    · exact ⟨_, e.connected, rfl⟩
    · exact ⟨_, _, rfl⟩
  have hallowed : (isHostName (e.regionOf settings) && canSign settings e) = true := by
    rw [hhost, hsign]
    rfl
  refine ⟨events, connected, ?_⟩
  rw [listBuckets, hconnect]
  exact if_pos hallowed

theorem stops_listBuckets (h : Attempted s fails settings start attempt responses e) (caller : Nat) :
    (listBuckets settings caller e).stops = false := by
  obtain ⟨events, connected, hreply⟩ := listBuckets_eq h.isHostName h.canSign caller
  rw [hreply]

/-- One more attempt. When it fails for a transient cause, all of its responses are taken. -/
theorem Attempted.listBuckets (h : Attempted s fails settings start attempt (s.responses fails attempt ++ more) e)
    (hfails : ∀ page fault, fails attempt page = some fault →
      (fault.delivered.error "ListBuckets" anywhere).isTransient = true) (caller : Nat) :
    s.Ends fails attempt 0 (listBuckets settings caller e).answer ∧
      ∃ rest, Attempted s fails settings start (attempt + 1) rest (listBuckets settings caller e).store ∧
        ∀ fault, (listBuckets settings caller e).answer = .error fault → fault.isTransient = true →
          rest = more := by
  obtain ⟨events, connected, hreply⟩ := listBuckets_eq h.isHostName h.canSign caller
  obtain ⟨answer, rest, hbuckets, hends, hrest⟩ :=
    BucketService.goesOn hfails (e.sign settings) e.silence more s.lastPage 0 e.requests (Nat.zero_add _)
  rw [BucketService.asked, ← BucketService.responses, ← h.responses_eq] at hbuckets
  rw [hreply, hbuckets]
  refine ⟨hends, rest, ⟨h.isHostName, h.canSign, h.sign_eq, rfl, ?_⟩, hrest⟩
  dsimp only
  rw [h.requests_eq, h.sign_eq, List.range_succ, List.flatMap_append, List.map_append, List.reverse_append,
    List.append_assoc, List.flatMap_singleton, BucketService.requests, List.map_map, ← List.range_eq_range']
  rfl

/-- What the world is like before attempt number `i`: nothing stops it, and the responses to this attempt
and to all later ones are left. -/
def Due (p : RetryPolicy) (signal : StopSignal) (settings : RemoteSettings) (s : BucketService)
    (fails : (attempt page : Nat) → Option RemoteFault) (more : List Response) (start : Endpoint) (i : Nat)
    (w : World Endpoint) : Prop :=
  w.stopAt signal = none ∧ Attempted s fails settings start i
    ((List.range' i (p.attempts - i)).flatMap (s.responses fails) ++ more) w.store

/-- What the world is like after attempt number `i`. -/
def Made (settings : RemoteSettings) (s : BucketService)
    (fails : (attempt page : Nat) → Option RemoteFault) (start : Endpoint) (i : Nat) (w : World Endpoint) :
    Prop :=
  ∃ rest, Attempted s fails settings start (i + 1) rest w.store

theorem lasting_due (i : Nat) : World.Lasting (Due p signal settings s fails more start i) := by
  refine ⟨fun _ _ h => h, fun _ _ h => h, fun milliseconds t v h => ?_⟩
  rwa [Due, World.stopAt_wait, World.store_wait]

theorem lasting_made (i : Nat) : World.Lasting (Made settings s fails start i) := by
  refine ⟨fun _ _ h => h, fun _ _ h => h, fun milliseconds t v h => ?_⟩
  rwa [Made, World.store_wait]

/-- An attempt that is made when it is due. After a transient failure the next one is due. -/
theorem Due.call {w : World Endpoint} (h : Due p signal settings s fails more start attempt w)
    (hfails : ∀ page fault, fails attempt page = some fault →
      (fault.delivered.error "ListBuckets" anywhere).isTransient = true)
    (hattempt : attempt < p.attempts) (caller : Nat) :
    s.Ends fails attempt 0 (w.call (listBuckets settings caller)).1 ∧
      Made settings s fails start attempt (w.call (listBuckets settings caller)).2 ∧
      ∀ fault, (w.call (listBuckets settings caller)).1 = .error fault → fault.isTransient = true →
        Due p signal settings s fails more start (attempt + 1) (w.call (listBuckets settings caller)).2 := by
  obtain ⟨hstop, hattempted⟩ := h
  rw [show p.attempts - attempt = p.attempts - (attempt + 1) + 1 by omega, List.range'_succ,
    List.flatMap_cons, List.append_assoc] at hattempted
  obtain ⟨hends, rest, hrest, hmore⟩ := hattempted.listBuckets hfails caller
  refine ⟨hends, ⟨rest, by rwa [World.store_call]⟩, fun fault herror htransient => ⟨?_, ?_⟩⟩
  · rw [World.stopAt_call (stops_listBuckets hattempted caller), hstop]
  · rw [World.store_call, ← hmore fault herror htransient]
    exact hrest

/-- A call under retries ends as its last attempt does. It fails for a transient cause only if all attempts
that are allowed fail so. -/
theorem exists_lastAttempt {w : World Endpoint} (operation : String) (caller : Nat)
    (hhost : isHostName (w.store.regionOf settings) = true) (hsign : canSign settings w.store = true)
    (hcalm : w.stopAt signal = none)
    (hfails : ∀ attempt page fault, fails attempt page = some fault →
      (fault.delivered.error "ListBuckets" anywhere).isTransient = true)
    (hresponses : w.store.responses = (List.range p.attempts).flatMap (s.responses fails) ++ more) :
    let r := Retry.call p operation signal (listBuckets settings caller) w
    ∃ m < p.attempts, Made settings s fails w.store m r.2 ∧ s.Ends fails m 0 r.1 ∧
      ∀ e, r.1 = .error e → e.isTransient = true → ∀ i < p.attempts,
        ∃ e' : StoreError, e'.isTransient = true ∧ s.Ends fails i 0 (.error e') := by
  intro r
  have hpos : 0 < p.attempts := by rw [RetryPolicy.attempts]; omega
  have hstart : Due p signal settings s fails more w.store 0 w := by
    refine ⟨hcalm, hhost, hsign, rfl, ?_, rfl⟩
    rw [Nat.sub_zero, ← List.range_eq_range', hresponses]
  obtain ⟨m, hm, hmade, hends, hearlier, hmore⟩ :=
    (Retry.attempt_ran (p.attempts - 1) 0 w).exists_last (Due p signal settings s fails more w.store)
      (Made settings s fails w.store) (fun i answer => s.Ends fails i 0 answer) lasting_due lasting_made
      (fun _ _ h => h.1)
      (fun i v hi hv => by
        obtain ⟨hends, hmade, -⟩ := hv.call (hfails i) (by omega) caller
        exact ⟨hends, hmade⟩)
      (fun i v e hi hv => (hv.call (hfails i) (by omega) caller).2.2 e) hstart
  rw [Nat.zero_add] at hmade hends
  simp only [Nat.zero_add] at hearlier
  refine ⟨m, by omega, hmade, hends, fun e herror htransient i hi => ?_⟩
  have hlast : ¬ m < p.attempts - 1 := fun hlt => by
    rw [hmore hlt e herror] at htransient
    cases htransient
  obtain hlt | rfl := Nat.lt_or_eq_of_le (show i ≤ m by omega)
  · exact hearlier i hlt
  · exact ⟨e, htransient, herror ▸ hends⟩

/-- Buckets come back whole, however often requests fail for a transient cause. A service has them on pages,
and in every attempt any request may fail. If no request of one of the allowed attempts fails, the answer has
the buckets of all pages, in their order and each with its time, and nothing else. If an attempt gets to a page
with a bucket that has no name, the answer is that this is malformed. And every attempt that is made asks
for the first page without a token and for every other page with the token of the page before it, which it
got itself. -/
theorem listBuckets_retried (p : RetryPolicy) (operation : String) (signal : StopSignal)
    (settings : RemoteSettings) (caller : Nat) (s : BucketService)
    (fails : (attempt page : Nat) → Option RemoteFault) (more : List Response) (w : World Endpoint)
    (hhost : isHostName (w.store.regionOf settings) = true) (hsign : canSign settings w.store = true)
    (hcalm : w.stopAt signal = none)
    (hfails : ∀ attempt page fault, fails attempt page = some fault →
      (fault.delivered.error "ListBuckets" anywhere).isTransient = true)
    (hresponses : w.store.responses = (List.range p.attempts).flatMap (s.responses fails) ++ more) :
    let r := Retry.call p operation signal (backend settings caller).listBuckets w
    (∀ entries : (page : Nat) → List BucketEntry,
      (∀ page ≤ s.lastPage, s.found page = (entries page).map fun b => ⟨some b.name, b.created⟩) →
      (∃ attempt < p.attempts, ∀ page ≤ s.lastPage, fails attempt page = none) →
      r.1 = .ok ((List.range (s.lastPage + 1)).flatMap entries)) ∧
    (∀ d ≤ s.lastPage, (∃ b ∈ s.found d, b.name = none) →
      (∃ attempt < p.attempts, ∀ page ≤ d, fails attempt page = none) →
      ∃ detail, r.1 = .error (.malformed detail)) ∧
    ∃ made, 0 < made ∧ made ≤ p.attempts ∧
      r.2.store.requests = (((List.range made).flatMap (s.requests fails)).map (w.store.sign settings)).reverse ++
        w.store.requests := by
  intro r
  obtain ⟨m, hm, ⟨rest, hrest⟩, hends, hall⟩ :=
    exists_lastAttempt operation caller hhost hsign hcalm hfails hresponses
  refine ⟨fun entries hentries hgiven => ?_, fun d hd hnameless hgiven => ?_, m + 1, Nat.succ_pos m, hm, ?_⟩
  · obtain ⟨attempt, hattempt, hgiven⟩ := hgiven
    have hnamed : ∀ page ≤ s.lastPage, ∀ b ∈ s.found page, b.name ≠ none := by
      intro page hpage b hb
      rw [hentries page hpage] at hb
      obtain ⟨entry, -, rfl⟩ := List.mem_map.mp hb
      exact Option.some_ne_none entry.name
    have hfinal : ∀ e, r.1 = .error e → e.isTransient = false := fun e he => by
      by_contra htransient
      obtain ⟨e', htransient', hends'⟩ := hall e he (eq_true_of_ne_false htransient) attempt hattempt
      obtain ⟨d, hd, hfailed, -⟩ := hends'.exists_failed htransient'
      exact hfailed (hgiven d hd)
    refine (hends.eq_ok hfinal hnamed).trans (congrArg Except.ok (List.flatMap_congr fun page hpage => ?_))
    have hle : page ≤ s.lastPage := Nat.le_of_lt_succ (List.mem_range.mp hpage)
    exact BucketService.filterMap_entry?_found hle (hentries page hle)
  · obtain ⟨attempt, hattempt, hgiven⟩ := hgiven
    have hfinal : ∀ e, r.1 = .error e → e.isTransient = false := fun e he => by
      by_contra htransient
      obtain ⟨e', htransient', hends'⟩ := hall e he (eq_true_of_ne_false htransient) attempt hattempt
      -- the request that fails is for a page behind the one with the bucket
      obtain ⟨d', -, hfailed, hnamed⟩ := hends'.exists_failed htransient'
      have hlt : d < d' := Nat.lt_of_not_le fun hle => hfailed (hgiven d' hle)
      obtain ⟨b, hb, hnone⟩ := hnameless
      exact hnamed d hlt b hb hnone
    exact hends.malformed hfinal hd hnameless
  · exact hrest.requests_eq

/-- A service with three buckets on two pages. The first page has another token in each attempt, and the
last one has an empty token. -/
def twoPages : BucketService where
  lastPage := 1
  found page :=
    if page = 0 then [⟨some (Text.of "logs"), some ⟨1700000000, 0⟩⟩, ⟨some (Text.of "backups"), none⟩]
    else [⟨some (Text.of "media"), some ⟨951782400, 500000000⟩⟩]
  token attempt page := if page = 0 then some (Text.of (if attempt = 0 then "first" else "second")) else some []
  response attempt page :=
    if page = 0 then
      .buckets [⟨some (Text.of "logs"), some ⟨1700000000, 0⟩⟩, ⟨some (Text.of "backups"), none⟩]
        (some (Text.of (if attempt = 0 then "first" else "second")))
    else .buckets [⟨some (Text.of "media"), some ⟨951782400, 500000000⟩⟩] (some [])
  delivered_eq attempt page _ := by
    by_cases hpage : page = 0 <;> by_cases hattempt : attempt = 0 <;>
      simp only [hpage, hattempt, if_true, if_false] <;> decide
  chained attempt page hpage := by
    obtain rfl : page = 0 := by omega
    by_cases hattempt : attempt = 0 <;> simp only [hattempt, if_true, if_false] <;>
      exact ⟨_, rfl, by decide⟩
  ended _ := .inr rfl

/-- The second page of `twoPages` cannot be had in the first attempt. The second attempt begins anew, and has
the three buckets. -/
theorem listBuckets_twoPages :
    let fails (attempt page : Nat) : Option RemoteFault :=
      if attempt = 0 ∧ page = 1 then some .brokenOff else none
    let w : World Endpoint :=
      { store := { responses := (List.range 2).flatMap (twoPages.responses fails) } }
    (Retry.call { maxAttempts := 2 } "list_buckets" {} (backend {} 0).listBuckets w).1 =
      .ok [⟨Text.of "logs", some ⟨1700000000, 0⟩⟩, ⟨Text.of "backups", none⟩,
        ⟨Text.of "media", some ⟨951782400, 500000000⟩⟩] := by
  intro fails w
  have hfails : ∀ attempt page fault, fails attempt page = some fault →
      (fault.delivered.error "ListBuckets" anywhere).isTransient = true := by
    intro attempt page fault hfail
    dsimp only [fails] at hfail
    split at hfail
    · cases hfail
      rfl
    · cases hfail
  obtain ⟨hwhole, -⟩ := listBuckets_retried { maxAttempts := 2 } "list_buckets" {} {} 0 twoPages fails [] w
    (by decide) (by decide) rfl hfails (List.append_nil _).symm
  refine hwhole (fun page => if page = 0 then
      [⟨Text.of "logs", some ⟨1700000000, 0⟩⟩, ⟨Text.of "backups", none⟩]
    else [⟨Text.of "media", some ⟨951782400, 500000000⟩⟩]) (fun page _ => ?_) ⟨1, by decide, fun _ _ => rfl⟩
  by_cases hpage : page = 0 <;> simp [twoPages, hpage]

end RemoteStore

end ObjectListing
