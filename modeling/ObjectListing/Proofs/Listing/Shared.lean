import ObjectListing.Proofs.Listing.Halting
import ObjectListing.Proofs.Listing.Sound
import ObjectListing.Proofs.Store.Interference

/-!
Listings of a store in memory that others use meanwhile. Whatever others do before each turn, such a
listing is sound and covers what it wants (`SharedListing.follows`); it ends once they no longer write
(`SharedListing.exists_ended`); and nothing but a planned failure or a signal makes it fail
(`SharedListing.stage_ne_failed`).
-/

namespace ObjectListing

open Text MemoryStore Listing Walk

namespace Course

variable {config : EngineConfig} {signal : StopSignal}

theorem step_buckets (config : EngineConfig) (signal : StopSignal) (c : Course MemoryStore) :
    (c.step (lister config) signal).world.store.buckets = c.world.store.buckets := by
  rcases c.step_world (lister config) signal with h | ⟨listing, h⟩
  · rw [h]
  · rw [h]
    exact turn_buckets config signal listing c.world

theorem step_calm (config : EngineConfig) {c : Course MemoryStore} (h : Calm signal c.world) :
    Calm signal (c.step (lister config) signal).world := by
  rcases c.step_world (lister config) signal with hw | ⟨listing, hw⟩
  · rw [hw]
    exact h
  · rw [hw]
    exact turn_calm config signal listing h

end Course

/-- A listing of a store in memory, and what others do before each of its turns. -/
structure SharedListing where
  config : EngineConfig
  signal : StopSignal
  request : ListRequest
  world : World MemoryStore
  others : Nat → List Interference := fun _ => []

namespace SharedListing

variable (s : SharedListing)

/-- The listing after so many turns. -/
def course (n : Nat) : Course MemoryStore :=
  Course.amid (lister s.config) s.signal (fun k => Interference.applyAll (s.others k)) n
    (.start s.request s.world)

/-- The listing right before a turn. -/
def before (k : Nat) : Course MemoryStore :=
  (s.course k).within (Interference.applyAll (s.others k))

/-- The bucket that is listed, right before a turn. -/
def bucketAt? (k : Nat) : Option MemoryBucket :=
  (s.before k).world.store.bucket? s.request.uri.bucket

/-- The page that a turn brings. -/
def pageAt? (k : Nat) : Option Page := (s.before k).page? (lister s.config) s.signal

/-- Whether one of the first `n` turns brought an entry that an object gave which was in the bucket at
that turn. -/
def Served (n : Nat) (under : Text) (e : ObjectEntry) : Prop :=
  ∃ k < n, ∃ page b, s.pageAt? k = some page ∧ e ∈ page.entries ∧ s.bucketAt? k = some b ∧
    ∃ o ∈ b.objects, FoldsTo under o e

theorem course_succ (n : Nat) :
    s.course (n + 1) = (s.before n).step (lister s.config) s.signal := rfl

variable {s}

theorem Served.mono {n : Nat} {under : Text} {e : ObjectEntry} (h : s.Served n under e) :
    s.Served (n + 1) under e := by
  obtain ⟨k, hk, h⟩ := h
  exact ⟨k, Nat.lt_succ_of_lt hk, h⟩

/-! ### The bucket -/

theorem buckets_before_succ (n : Nat) (h : ∀ i ∈ s.others (n + 1), i.writes = false) :
    (s.before (n + 1)).world.store.buckets = (s.before n).world.store.buckets := by
  rw [before, Course.within, Interference.applyAll_buckets _ _ h, course_succ]
  exact Course.step_buckets ..

theorem before_extends (s : SharedListing) : ∀ n : Nat,
    (s.before n).world.store.Extends s.world.store
  | 0 => Interference.applyAll_extends _ _
  | n + 1 => by
    refine (Interference.applyAll_extends (s.others (n + 1)) _).trans (.trans ?_ (s.before_extends n))
    rw [course_succ]
    exact .of_buckets (Course.step_buckets ..)

/-- The bucket is there before every turn, with every key that it had at the beginning. -/
theorem exists_bucketAt? {b : MemoryBucket}
    (h : s.world.store.bucket? s.request.uri.bucket = some b) (k : Nat) :
    ∃ b', s.bucketAt? k = some b' ∧ ∀ o ∈ b.objects, ∃ p ∈ b'.objects, p.key = o.key :=
  s.before_extends k _ b h

/-- When others no longer write, the bucket stays as it is. -/
theorem bucketAt?_of_le {m : Nat} (hquiet : ∀ k ≥ m, ∀ i ∈ s.others k, i.writes = false) {n : Nat}
    (hle : m ≤ n) : s.bucketAt? n = s.bucketAt? m := by
  induction n, hle using Nat.le_induction with
  | base => rfl
  | succ n hle ih =>
    rw [← ih]
    exact bucket?_congr (buckets_before_succ n (hquiet (n + 1) (Nat.le_succ_of_le hle))) _

theorem before_calm (h : Calm s.signal s.world) : ∀ n : Nat, Calm s.signal (s.before n).world
  | 0 => Interference.applyAll_calm _ h
  | n + 1 => by
    refine Interference.applyAll_calm (s.others (n + 1)) ?_
    rw [course_succ]
    exact Course.step_calm s.config (before_calm h n)

/-! ### What holds all along -/

/-- A listing of one bucket whose filter is read as `filter` and which is to give out something. -/
structure Opens (s : SharedListing) (filter : Filter) : Prop where
  bucket : s.request.uri.bucket ≠ []
  reads : s.request.filter.compile (s.before 0).world.moment = .ok filter
  cap : (s.request.selection filter).reached 0 = false

/-- Keys that the listing gives out when it comes to them, that it is to come to at the beginning, and
that lead to an object of the bucket at every turn. -/
structure Wants (s : SharedListing) (filter : Filter) (wanted : Text → Prop) : Prop where
  sought : ∀ n t, wanted t → Sought s.request filter (s.Served n) t
  start : ∀ t, wanted t → Covers t (s.request.walk filter s.config.pageSize) []
  held : ∀ k t, wanted t → ∃ b, s.bucketAt? k = some b ∧ ∃ o ∈ b.objects, LeadsTo true t o.key

variable {filter : Filter} {wanted : Text → Prop}

theorem course_one (ho : s.Opens filter) : s.course 1 =
    ⟨.underway (.walking (s.request.walk filter s.config.pageSize)),
      opening (lister s.config) s.request filter (s.before 0).world, []⟩ := by
  have hstep : (s.before 0).step (lister s.config) s.signal = _ :=
    Course.step_start ho.bucket ho.reads
  rw [ho.cap, if_neg Bool.false_ne_true] at hstep
  exact hstep

/-- A page that a turn brings is the page of the bucket, and counts as served after the turn. -/
theorem served_of_received {n : Nat} {walk : Walk} {f : Frame} {outer : List Frame} {page : Page}
    {w : World MemoryStore} (hbucket : walk.bucket = s.request.uri.bucket)
    (hstage : (s.before n).stage = .underway (.walking walk))
    (hreached : walk.selection.reached walk.emitted = false) (hstack : walk.stack = f :: outer)
    (hpending : f.pending = []) (hresume : f.resume ≠ .nothingLeft)
    (hpage : pageCall (lister s.config) s.signal (walk.requestFor f) (s.before n).world =
      (.ok page, w)) :
    ∃ b, s.bucketAt? n = some b ∧ page = b.pageFor (walk.requestFor f) ∧
      ∀ e ∈ page.entries, s.Served (n + 1) f.under e := by
  obtain ⟨b, hb, rfl⟩ := pageCall_ok hpage
  rw [show (walk.requestFor f).bucket = s.request.uri.bucket from hbucket] at hb
  refine ⟨b, hb, rfl, ?_⟩
  intro e he
  obtain ⟨hfolded, -⟩ := MemoryBucket.mem_of_mem_pageFor he
  exact ⟨n, Nat.lt_succ_self n, _, b,
    Course.page?_eq_some hstage hreached hstack hpending hresume hpage, he, hb, hfolded⟩

/-- All along, the listing is sound and covers what it wants. -/
theorem follows (ho : s.Opens filter) (hwants : s.Wants filter wanted) : ∀ n : Nat,
    ∃ walk given, Course.Follows (fun walk given =>
      Sound s.request filter (s.Served (n + 1)) walk given ∧ ∀ t, wanted t → Covers t walk given)
      (s.course (n + 1)) walk given
  | 0 => by
    refine ⟨s.request.walk filter s.config.pageSize, [], ?_, ?_, Sound.start _, hwants.start⟩
    · rw [course_one ho]
      rfl
    · rw [course_one ho]
      exact Or.inl rfl
  | n + 1 => by
    obtain ⟨walk, given, h⟩ := follows ho hwants n
    have hsound : Sound s.request filter (s.Served (n + 2)) walk given :=
      h.holds.1.mono fun _ _ => Served.mono
    have hbefore : Course.Follows (fun walk given => Sound s.request filter (s.Served (n + 2)) walk
        given ∧ ∀ t, wanted t → Covers t walk given) (s.before (n + 1)) walk given :=
      (h.imp fun hI => ⟨hsound, hI.2⟩).within _
    rw [course_succ]
    refine hbefore.turn (Sound.covers_kept (hwants.sought (n + 2))) ?_
    intro f outer page w hstage hreached hstack hpending hresume hpage
    obtain ⟨b, hb, rfl, hserved⟩ :=
      served_of_received hsound.bucket hstage hreached hstack hpending hresume hpage
    refine ⟨hsound.receive hstack hresume hserved, ?_⟩
    intro t ht
    obtain ⟨b', hb', o, hmem, hleads⟩ := hwants.held (n + 1) t ht
    cases hb.symm.trans hb'
    exact Sound.covers_receive hmem hleads (h.holds.2 t ht) hstack hpending hresume

/-- At its end, the listing is sound and covers what it wants, and if it did not fail, enough is given out
or every prefix is left. -/
theorem follows_ended (ho : s.Opens filter) (hwants : s.Wants filter wanted) {n : Nat}
    {failure : Option StoreError} (hended : (s.course n).stage = .ended failure) :
    ∃ walk given, (s.course n).items = given.map .object ∧
      Sound s.request filter (s.Served n) walk given ∧ (∀ t, wanted t → Covers t walk given) ∧
      (failure = none → walk.selection.reached walk.emitted = true ∨ walk.stack = []) := by
  cases n with
  | zero => cases hended
  | succ n =>
    obtain ⟨walk, given, h⟩ := follows ho hwants n
    refine ⟨walk, given, h.items, h.holds.1, h.holds.2, ?_⟩
    rintro rfl
    rcases h.stage with hstage | ⟨-, hend⟩ | ⟨e, hstage⟩
    · cases hended.symm.trans hstage
    · exact hend
    · cases hended.symm.trans hstage

/-- All along, the listing is sound. -/
theorem follows_sound (ho : s.Opens filter) (n : Nat) : ∃ walk given,
    Course.Follows (Sound s.request filter (s.Served (n + 1))) (s.course (n + 1)) walk given := by
  have hnone : s.Wants filter fun _ => False := ⟨by simp, by simp, by simp⟩
  obtain ⟨walk, given, h⟩ := follows ho hnone n
  exact ⟨walk, given, h.imp And.left⟩

/-! ### The end -/

/-- A listing whose bucket stays as it is from some turn on comes to its end. -/
theorem exists_ended_of_halts {b : MemoryBucket} {m : Nat} (hb : ∀ n ≥ m, s.bucketAt? n = some b)
    {walk : Walk} (h : Walk.Halts b.pageFor walk) : ∀ n ≥ m,
    walk.bucket = s.request.uri.bucket → (s.course n).stage = .underway (.walking walk) →
    ∃ n failure, (s.course n).stage = .ended failure := by
  induction h with
  | intro walk _ ih =>
    intro n hn hbucket hstage
    have hwalked := Course.step_walked (c := s.before n) (lister s.config) s.signal hstage
    rw [← course_succ] at hwalked
    have hn' : n + 1 ≥ m := Nat.le_succ_of_le hn
    generalize hnext : s.course (n + 1) = next at hwalked
    cases hwalked with
    | finished _ => exact ⟨n + 1, none, by rw [hnext]⟩
    | enter _ hstack hpending _ =>
      exact ih _ (.enter hstack hpending) (n + 1) hn' hbucket (by rw [hnext])
    | give _ hstack hpending _ _ =>
      exact ih _ (.give hstack hpending) (n + 1) hn' hbucket (by rw [hnext])
    | skip _ hstack hpending _ _ =>
      exact ih _ (.skip hstack hpending) (n + 1) hn' hbucket (by rw [hnext])
    | leave _ hstack _ _ => exact ih _ (.leave hstack) (n + 1) hn' hbucket (by rw [hnext])
    | refused _ _ _ _ _ _ => exact ⟨n + 1, _, by rw [hnext]⟩
    | received hreached hstack hpending hresume hpage _ =>
      obtain ⟨b', hb', rfl, -⟩ :=
        served_of_received (n := n) hbucket hstage hreached hstack hpending hresume hpage
      cases (hb n hn).symm.trans hb'
      exact ih _ (.receive hstack hpending hresume) (n + 1) hn' hbucket (by rw [hnext])

/-- A listing that is over stays so, and did what it did. -/
theorem ended_of_le {m : Nat} {failure : Option StoreError} (h : (s.course m).stage = .ended failure)
    {n : Nat} (hle : m ≤ n) :
    (s.course n).stage = .ended failure ∧ (s.course n).deeds = (s.course m).deeds := by
  induction n, hle using Nat.le_induction with
  | base => exact ⟨h, rfl⟩
  | succ n _ ih =>
    rw [course_succ, Course.step_ended (c := s.before n) ih.1]
    exact ih

/-- When others no longer write, the listing comes to its end. -/
theorem exists_ended (ho : s.Opens filter) {b : MemoryBucket}
    (hb : s.world.store.bucket? s.request.uri.bucket = some b) {m : Nat}
    (hquiet : ∀ k ≥ m, ∀ i ∈ s.others k, i.writes = false) :
    ∃ n failure, (s.course n).stage = .ended failure := by
  obtain ⟨walk, given, h⟩ := follows_sound ho m
  rcases h.stage with hstage | ⟨hstage, -⟩ | ⟨e, hstage⟩
  · obtain ⟨b', hb', -⟩ := exists_bucketAt? hb m
    exact exists_ended_of_halts (fun n hn => (bucketAt?_of_le hquiet hn).trans hb')
      (b'.halts walk) (m + 1) (Nat.le_succ m) h.holds.bucket hstage
  · exact ⟨m + 1, none, hstage⟩
  · exact ⟨m + 1, some e, hstage⟩

/-- When no failure is planned and nothing stops it, the listing does not fail. -/
theorem stage_ne_failed (ho : s.Opens filter) (hcalm : Calm s.signal s.world) {b : MemoryBucket}
    (hb : s.world.store.bucket? s.request.uri.bucket = some b) (e : StoreError) : ∀ n : Nat,
    (s.course n).stage ≠ .ended (some e)
  | 0 => by simp [course, Course.amid, Course.start]
  | 1 => by simp [course_one ho]
  | n + 2 => by
    intro hfailed
    obtain ⟨walk, given, h⟩ := follows_sound ho n
    rcases h.stage with hstage | ⟨hstage, -⟩ | ⟨e', hstage⟩
    · obtain ⟨f, w, hrefused⟩ := Course.exists_refused (c := s.before (n + 1)) hstage hfailed
      obtain ⟨b', hb', -⟩ := exists_bucketAt? hb (n + 1)
      refine pageCall_ne_error (b := b') (before_calm hcalm (n + 1)) ?_ hrefused
      rw [show (walk.requestFor f).bucket = s.request.uri.bucket from h.holds.bucket]
      exact hb'
    · rw [course_succ, Course.step_ended (c := s.before (n + 1)) hstage] at hfailed
      cases hstage.symm.trans hfailed
    · rw [course_succ, Course.step_ended (c := s.before (n + 1)) hstage] at hfailed
      exact stage_ne_failed ho hcalm hb e (n + 1) hfailed

end SharedListing

end ObjectListing
