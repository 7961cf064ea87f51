import Mathlib.Data.List.TakeWhile
import ObjectListing.Proofs.Listing.Attempts
import ObjectListing.Proofs.Listing.History
import ObjectListing.Proofs.Store.Numbered
import ObjectListing.Proofs.Time.Tick

/-!
Listings that are cancelled, at any moment: when the clock reaches a tick, between two turns, or in the middle
of a call to the store. The attempts of a cancelled listing are those of the undisturbed one that start before the
moment; if there are others, the listing ends as cancelled just before the first of them, and if there are none, it
ends as the undisturbed one (`Course.cancelled_at`).
-/

namespace ObjectListing

variable {σ α : Type}

/-- A moment at which a listing is cancelled: when the clock reaches a tick, before a turn, or during a call,
both counted from zero. -/
inductive Moment
  | reached (tick : Tick)
  | between (turn : Nat)
  | during (call : Nat)
  deriving DecidableEq

namespace Moment

/-- Whether an attempt starts before the moment. -/
def follows : Moment → Attempt → Bool
  | reached tick, a => decide (a.start < tick)
  | between turn, a => decide (a.turn < turn)
  | during call, a => decide (a.number ≤ call)

/-- The signal of a listing that is cancelled: at a tick by a timer, and by the signal that it shares. -/
def signal : Moment → StopSignal
  | reached tick => ⟨some tick, true⟩
  | _ => ⟨none, true⟩

/-- What happens before a turn. -/
def change (m : Moment) (turn : Nat) (w : World σ) : World σ :=
  if m = between turn then w.giveSharedSignal else w

@[simp] theorem change_store (m : Moment) (turn : Nat) (w : World σ) :
    (m.change turn w).store = w.store := by
  rw [change]
  split <;> rfl

/-- What becomes of the reply to a call: it stops the caller if this is the moment. -/
def stopping (m : Moment) (α : Type) (n : Nat) (_ : σ) (r : Reply σ α) : Reply σ α :=
  { r with stops := decide (m = during n) }

/-- Whether the shared signal is given when so many turns have begun and so many calls were made. -/
def given (begun made : Nat) : Moment → Bool
  | reached _ => false
  | between turn => decide (turn < begun)
  | during call => decide (call < made)

variable {m : Moment}

/-- No moment is past before a listing begins. -/
theorem given_zero (m : Moment) : m.given 0 0 = false := by
  cases m <;> rfl

/-- Only the turn before which it comes makes a moment past. -/
theorem given_succ_turn {turn : Nat} (h : m ≠ between turn) (made : Nat) :
    m.given (turn + 1) made = m.given turn made := by
  cases m with
  | reached tick => rfl
  | between t =>
    have hne : t ≠ turn := fun ht => h (by rw [ht])
    simp only [given, decide_eq_decide]
    omega
  | during call => rfl

/-- Only the call during which it comes makes a moment past. -/
theorem given_succ_call {made : Nat} (h : m ≠ during made) (begun : Nat) :
    m.given begun (made + 1) = m.given begun made := by
  cases m with
  | reached tick => rfl
  | between t => rfl
  | during call =>
    have hne : call ≠ made := fun hcall => h (by rw [hcall])
    simp only [given, decide_eq_decide]
    omega

end Moment

/-- A store in the middle of whose calls a listing is cancelled, if that is the moment. -/
def Backend.stoppedAt (m : Moment) (b : Backend σ) : Backend (σ × Nat) := b.numbered m.stopping

namespace World

/-- Worlds around a listing and around the same one that is cancelled at a moment, when so many turns have
begun: the shared signal is given once the moment has come. -/
structure Heeds (m : Moment) (begun base : Nat) (w : World σ) (v : World (σ × Nat)) : Prop extends
    Beside base w v where
  signalled : m.given begun v.store.2 = true → ∃ tick, v.sharedSignal = some tick ∧ ¬ v.clock < tick
  silent : m.given begun v.store.2 = false → v.sharedSignal = none

namespace Heeds

variable {m : Moment} {begun turn base : Nat} {w w' : World σ} {v : World (σ × Nat)}
  {f : σ → Reply σ α}

/-- An operation is stopped when its next attempt would come after the moment. -/
theorem isStopped_eq (h : Heeds m (turn + 1) base w v) :
    v.isStopped m.signal = !m.follows ⟨turn, v.store.2, v.clock⟩ := by
  have hsignalled := h.signalled
  have hsilent := h.silent
  cases m with
  | reached tick =>
    rw [isStopped, stopAt, hsilent rfl]
    rfl
  | between t =>
    have hstop : v.stopAt (Moment.between t).signal = v.sharedSignal := rfl
    rw [isStopped, hstop]
    by_cases hgiven : t < turn + 1
    · obtain ⟨tick, hshared, hreached⟩ := hsignalled (decide_eq_true hgiven)
      rw [hshared]
      simp [hreached, Moment.follows]
      omega
    · rw [hsilent (decide_eq_false hgiven)]
      simp [Moment.follows]
      omega
  | during k =>
    have hstop : v.stopAt (Moment.during k).signal = v.sharedSignal := rfl
    rw [isStopped, hstop]
    by_cases hgiven : k < v.store.2
    · obtain ⟨tick, hshared, hreached⟩ := hsignalled (decide_eq_true hgiven)
      rw [hshared]
      simp [hreached, Moment.follows]
      omega
    · rw [hsilent (decide_eq_false hgiven)]
      simp [Moment.follows]
      omega

theorem journal (h : Heeds m begun base w v) (journal journal' : List Event) :
    Heeds m begun base { w with journal } { v with journal := journal' } :=
  ⟨⟨⟨h.clock, h.epoch, h.first, h.dice, h.calls⟩, h.store, h.made⟩, h.signalled, h.silent⟩

theorem report (h : Heeds m begun base w v) (e e' : Event) :
    Heeds m begun base (w.report e) (v.report e') :=
  h.journal _ _

theorem draw (h : Heeds m begun base w v) (most : Nat) :
    Heeds m begun base (w.draw most).2 (v.draw most).2 :=
  ⟨h.toBeside.draw most, h.signalled, h.silent⟩

/-- A turn begins, which may be the moment. -/
theorem begin (h : Heeds m turn base w v) : Heeds m (turn + 1) base w (m.change turn v) := by
  by_cases hm : m = .between turn
  · have hshared : v.sharedSignal = none := h.silent (by simp [hm, Moment.given])
    have hchange : m.change turn v = { v with sharedSignal := some v.clock } := by
      rw [Moment.change, if_pos hm, giveSharedSignal, giveSharedSignalAt, hshared]
      rfl
    rw [hchange]
    refine ⟨⟨⟨h.clock, h.epoch, h.first, h.dice, h.calls⟩, h.store, h.made⟩, fun _ => ?_, ?_⟩
    · exact ⟨v.clock, rfl, Tick.not_lt_self _⟩
    · intro hnot
      simp [hm, Moment.given] at hnot
  · have hsame := Moment.given_succ_turn hm v.store.2
    rw [Moment.change, if_neg hm]
    exact ⟨h.toBeside, hsame ▸ h.signalled, hsame ▸ h.silent⟩

/-- A call, which may be the moment. -/
theorem call (h : Heeds m begun base w v) (f : σ → Reply σ α) :
    (v.call (numbering m.stopping f)).1 = (w.call f).1 ∧
      Heeds m begun base (w.call f).2 (v.call (numbering m.stopping f)).2 := by
  have hbeside : Beside base (w.call f).2 (v.call (numbering m.stopping f)).2 :=
    h.toBeside.call f (fun _ _ _ => rfl) (fun _ _ _ => rfl)
  have hreply : numbering m.stopping f v.store =
      { (f w.store).counted (v.store.2 + 1) with stops := decide (m = .during v.store.2) } := by
    rw [numbering, h.store]
    rfl
  have hmade : (v.call (numbering m.stopping f)).2.store.2 = v.store.2 + 1 := by
    rw [store_call, hreply]
    rfl
  have hclock {tick : Tick} (hreached : ¬ v.clock < tick) :
      ¬ (v.call (numbering m.stopping f)).2.clock < tick := by
    rw [clock_call]
    split
    · exact Tick.not_lt_next hreached
    · exact hreached
  have hshared := sharedSignal_call (w := v) (f := numbering m.stopping f)
  rw [hreply] at hshared
  refine ⟨by rw [call_fst, call_fst, hreply]; rfl, hbeside, ?_, ?_⟩
  · intro hgiven
    by_cases hm : m = .during v.store.2
    · have hnone : v.sharedSignal = none := h.silent (by simp [hm, Moment.given])
      rw [if_pos (decide_eq_true hm), hnone] at hshared
      exact ⟨_, hshared, Tick.not_lt_self _⟩
    · rw [hmade, Moment.given_succ_call hm] at hgiven
      rw [if_neg (by simp [hm])] at hshared
      obtain ⟨tick, htick, hreached⟩ := h.signalled hgiven
      exact ⟨tick, hshared.trans htick, hclock hreached⟩
  · intro hnot
    have hm : m ≠ .during v.store.2 := by
      rintro rfl
      rw [hmade] at hnot
      simp [Moment.given] at hnot
    rw [hmade, Moment.given_succ_call hm] at hnot
    rw [if_neg (by simp [hm])] at hshared
    exact hshared.trans (h.silent hnot)

/-- A listing that is to be cancelled goes on with an attempt that the moment follows. -/
theorem goes (h : Heeds m (turn + 1) base w v)
    (hfollows : m.follows ⟨turn, v.store.2, v.clock⟩ = true) : v.isStopped m.signal = false := by
  rw [h.isStopped_eq, hfollows]
  rfl

/-- An attempt of both. -/
theorem called (h : Heeds m (turn + 1) base w v) {f : σ → Reply σ α} {answer : Except StoreError α}
    (hcall : w.call f = (answer, w')) :
    ∃ v', v.call (numbering m.stopping f) = (answer, v') ∧ v'.store.2 = v.store.2 + 1 ∧
      Heeds m (turn + 1) base w' v' := by
  obtain ⟨hanswer, hcalled⟩ := h.call f
  rw [hcall] at hanswer hcalled
  refine ⟨_, Prod.ext hanswer rfl, ?_, hcalled⟩
  rw [store_call]
  rfl

/-- Time passes. -/
theorem pass (h : Heeds m begun base w v) (milliseconds : Nat) :
    Heeds m begun base (w.pass milliseconds) (v.pass milliseconds) := by
  refine ⟨⟨⟨h.toAbreast.waitEnd_eq _, h.epoch, h.first, h.dice, h.calls⟩, h.store, h.made⟩, ?_,
    h.silent⟩
  intro hgiven
  obtain ⟨tick, htick, hreached⟩ := h.signalled hgiven
  exact ⟨tick, htick, Tick.not_lt_after hreached _⟩

/-- A wait comes to its end, or the moment comes before the next attempt. -/
theorem wait (h : Heeds m (turn + 1) base w v) (milliseconds : Nat) :
    v.wait milliseconds m.signal = (true, v.pass milliseconds) ∨
      (v.wait milliseconds m.signal).1 = false ∧
        m.follows ⟨turn, v.store.2, (w.pass milliseconds).clock⟩ = false := by
  have hpass := h.pass milliseconds
  rw [World.wait]
  cases hstop : v.stopAt m.signal with
  | none => exact Or.inl rfl
  | some tick =>
    dsimp only
    split
    · exact Or.inl rfl
    · rename_i hlate
      refine Or.inr ⟨rfl, ?_⟩
      have hreached : ¬ v.waitEnd milliseconds < tick := by
        intro hlt
        exact hlate (Or.inl (Tick.lt_of_lt_of_not_lt hlt (Tick.not_lt_later_left tick v.clock)))
      have hstopped : (v.pass milliseconds).isStopped m.signal = true := by
        have hstop' : (v.pass milliseconds).stopAt m.signal = some tick := hstop
        rw [isStopped, hstop']
        exact congrArg not (decide_eq_false hreached)
      have hfollows := hpass.isStopped_eq
      rw [hstopped, hpass.clock] at hfollows
      exact (Bool.not_eq_true' _).mp hfollows.symm

/-- A pause comes to its end, or the moment comes before the next attempt. -/
theorem rest (h : Heeds m (turn + 1) base w v) {p : RetryPolicy} {operation : String} {failed : Nat}
    {e : StoreError} (hrest : Retry.rest p operation {} failed e w = (true, w')) :
    (∃ v', Retry.rest p operation m.signal failed e v = (true, v') ∧
        Heeds m (turn + 1) base w' v') ∨
      (∃ v', Retry.rest p operation m.signal failed e v = (false, v')) ∧
        m.follows ⟨turn, v.store.2, w'.clock⟩ = false := by
  have hpause : Retry.pause p failed v = Retry.pause p failed w := by
    rw [Retry.pause, Retry.pause, h.draw_fst]
  have hpausing := (h.draw (p.jitterRange failed)).report
    (.backingOff operation (failed + 1) e (Retry.pause p failed w))
    (.backingOff operation (failed + 1) e (Retry.pause p failed w))
  have hw' : w' = World.pass (Retry.pause p failed w) _ := (congrArg Prod.snd hrest).symm
  rw [Retry.rest, hpause, hw']
  rcases hpausing.wait (Retry.pause p failed w) with hended | ⟨hended, hfollows⟩
  · exact Or.inl ⟨_, hended, hpausing.pass _⟩
  · exact Or.inr ⟨⟨_, Prod.ext hended rfl⟩, hfollows⟩

end Heeds

end World

namespace Retry

open World

/-- Worlds after calls whose attempts start at the same ticks, before the moment. -/
structure Spared (m : Moment) (turn base number : Nat) (ticks ticks' : List Tick) (w : World σ)
    (v : World (σ × Nat)) : Prop extends Heeds m (turn + 1) base w v where
  same : ticks' = ticks
  follows : ∀ a ∈ Attempt.inTurn turn number ticks, m.follows a = true

/-- What a call comes to that is cancelled: it is stopped before the first attempt that the moment does not
follow. -/
structure Halted (m : Moment) (turn number : Nat) (ticks ticks' : List Tick) (_ : World σ)
    (e : StoreError) (_ : World (σ × Nat)) : Prop where
  failure : e = .cancelled
  first : (Attempt.inTurn turn number ticks).takeWhile m.follows = Attempt.inTurn turn number ticks'
  fewer : ticks'.length < ticks.length

/-- What a call comes to, and the same call when it is cancelled at a moment, with the ticks at which their
attempts start. -/
def Cancels (m : Moment) (turn base number : Nat) (ticks ticks' : List Tick) :
    Except StoreError α × World σ → Except StoreError α × World (σ × Nat) → Prop :=
  SideBySide (Spared m turn base number ticks ticks') (Halted m turn number ticks ticks')

variable {p : RetryPolicy} {operation : String} {f : σ → Reply σ α} {m : Moment}
  {turn base number : Nat} {tick : Tick}

/-- An attempt more before the others. -/
theorem Cancels.cons {ticks ticks' : List Tick} {r : Except StoreError α × World σ}
    {r' : Except StoreError α × World (σ × Nat)}
    (h : Cancels m turn base (number + 1) ticks ticks' r r')
    (hfollows : m.follows ⟨turn, number, tick⟩ = true) :
    Cancels m turn base number (tick :: ticks) (tick :: ticks') r r' := by
  refine h.imp (fun w v h => ?_) (fun w e v h => ?_)
  · exact ⟨h.toHeeds, congrArg (tick :: ·) h.same, List.forall_mem_cons.mpr ⟨hfollows, h.follows⟩⟩
  · refine ⟨h.failure, ?_, Nat.succ_lt_succ h.fewer⟩
    rw [Attempt.inTurn, Attempt.inTurn, List.takeWhile_cons_of_pos hfollows, h.first]

/-- The moment does not follow the first attempt. -/
theorem Cancels.none {later : List Tick} (r : Except StoreError α × World σ) (v : World (σ × Nat))
    (hfollows : m.follows ⟨turn, number, tick⟩ = false) :
    Cancels m turn base number (tick :: later) [] r (.error .cancelled, v) :=
  .cut ⟨rfl, List.takeWhile_cons_of_neg (by simp [hfollows]), Nat.zero_lt_succ _⟩

theorem Cancels.one {answer : Except StoreError α} {w : World σ} {v : World (σ × Nat)}
    (hfollows : m.follows ⟨turn, number, tick⟩ = true) (h : Heeds m (turn + 1) base w v) :
    Cancels m turn base number [tick] [tick] (answer, w) (answer, v) :=
  .same ⟨h, rfl, List.forall_mem_singleton.mpr hfollows⟩

/-- A call whose next attempt the moment does not follow is stopped. -/
theorem cancelled_here {w : World σ} {v : World (σ × Nat)} (h : Heeds m (turn + 1) base w v)
    (hfollows : ¬ m.follows ⟨turn, v.store.2, v.clock⟩ = true) (left failed : Nat)
    (r : Except StoreError α × World σ) :
    ∃ r', Ran p operation m.signal (numbering m.stopping f) left failed v r' ∧
      Cancels m turn base v.store.2 (starts p operation {} f left failed w)
        (starts p operation m.signal (numbering m.stopping f) left failed v) r r' := by
  have hfollows' := Bool.eq_false_iff.mpr hfollows
  have hstop : v.isStopped m.signal = true := by rw [h.isStopped_eq, hfollows']; rfl
  have hgoes : w.isStopped {} = false := rfl
  obtain ⟨later, hlater⟩ := exists_starts_eq_cons p operation f left failed hgoes
  refine ⟨_, .stopped hstop, ?_⟩
  rw [starts_stopped hstop, hlater, ← h.clock]
  exact .none r v hfollows'

/-- A call comes to the same when it is cancelled after its attempts, and is stopped before the first attempt
that the moment does not follow. -/
theorem Ran.cancelled {left failed : Nat} {w : World σ} {r : Except StoreError α × World σ}
    (h : Ran p operation {} f left failed w r) :
    ∀ {v : World (σ × Nat)}, Heeds m (turn + 1) base w v →
      ∃ r', Ran p operation m.signal (numbering m.stopping f) left failed v r' ∧
        Cancels m turn base v.store.2 (starts p operation {} f left failed w)
          (starts p operation m.signal (numbering m.stopping f) left failed v) r r' := by
  induction h with
  | stopped hstop => cases hstop
  | interrupted _ _ _ hrest => exact absurd (rest_ended hrest rfl) Bool.false_ne_true
  | answered hstop hc =>
    intro v hv
    by_cases hfollows : m.follows ⟨turn, v.store.2, v.clock⟩ = true
    · obtain ⟨v', hc', -, hv'⟩ := hv.called hc
      refine ⟨_, .answered (hv.goes hfollows) hc', ?_⟩
      rw [starts_answered hstop hc, starts_answered (hv.goes hfollows) hc', ← hv.clock]
      exact .one hfollows hv'
    · exact cancelled_here hv hfollows _ _ _
  | @refused _ _ _ _ e hstop hc hfinal =>
    intro v hv
    by_cases hfollows : m.follows ⟨turn, v.store.2, v.clock⟩ = true
    · obtain ⟨v', hc', -, hv'⟩ := hv.called hc
      refine ⟨_, .refused (hv.goes hfollows) hc' hfinal, ?_⟩
      rw [starts_refused hstop hc hfinal, starts_refused (hv.goes hfollows) hc' hfinal, ← hv.clock]
      refine .one hfollows ?_
      split
      · exact hv'.report _ _
      · exact hv'
    · exact cancelled_here hv hfollows _ _ _
  | exhausted hstop hc htransient =>
    intro v hv
    by_cases hfollows : m.follows ⟨turn, v.store.2, v.clock⟩ = true
    · obtain ⟨v', hc', -, hv'⟩ := hv.called hc
      refine ⟨_, .exhausted (hv.goes hfollows) hc' htransient, ?_⟩
      rw [starts_exhausted hstop hc, starts_exhausted (hv.goes hfollows) hc', ← hv.clock]
      exact .one hfollows (hv'.report _ _)
    · exact cancelled_here hv hfollows _ _ _
  | @again left failed _ _ w'' _ _ hstop hc htransient hrest hran ih =>
    intro v hv
    by_cases hfollows : m.follows ⟨turn, v.store.2, v.clock⟩ = true
    · obtain ⟨v', hc', hmade, hv'⟩ := hv.called hc
      rcases hv'.rest hrest with ⟨v'', hrest', hv''⟩ | ⟨⟨v'', hrest'⟩, hnone⟩
      · obtain ⟨r', hran', hcancels⟩ := ih hv''
        refine ⟨r', .again (hv.goes hfollows) hc' htransient hrest' hran', ?_⟩
        rw [starts_again hstop hc htransient hrest,
          starts_again (hv.goes hfollows) hc' htransient hrest', ← hv.clock]
        rw [store_rest hrest', hmade] at hcancels
        exact hcancels.cons hfollows
      · have hfree : w''.isStopped {} = false := rfl
        obtain ⟨later, hlater⟩ := exists_starts_eq_cons p operation f left (failed + 1) hfree
        refine ⟨_, .interrupted (hv.goes hfollows) hc' htransient hrest', ?_⟩
        rw [starts_again hstop hc htransient hrest,
          starts_interrupted (hv.goes hfollows) hc' hrest', ← hv.clock, hlater]
        rw [hmade] at hnone
        exact (Cancels.none _ v'' hnone).cons hfollows
    · exact cancelled_here hv hfollows _ _ _

theorem call_cancelled {w : World σ} {v : World (σ × Nat)} (h : Heeds m (turn + 1) base w v) :
    Cancels m turn base v.store.2 (starts p operation {} f (p.attempts - 1) 0 w)
      (starts p operation m.signal (numbering m.stopping f) (p.attempts - 1) 0 v)
      (call p operation {} f w) (call p operation m.signal (numbering m.stopping f) v) := by
  have hran : Ran p operation {} f (p.attempts - 1) 0 w (call p operation {} f w) :=
    attempt_ran _ _ w
  obtain ⟨r', hran', hcancels⟩ := hran.cancelled h
  have hcall : call p operation m.signal (numbering m.stopping f) v = r' := hran'.attempt_eq
  rwa [hcall]

end Retry

namespace Course

open World

variable {l : Lister σ} {m : Moment} {turn base : Nat} {p : Course σ} {q : Course (σ × Nat)}

theorem starts_eq_nil {signal : StopSignal} (h : p.call? = none) : p.starts l signal = [] := by
  obtain ⟨stage, w, deeds⟩ := p
  cases stage with
  | ended failure => rfl
  | underway listing =>
    have hcall : listing.call? w.moment = none := h
    rw [starts]
    dsimp only
    rw [Listing.starts, hcall]

theorem starts_of_buckets {signal : StopSignal} (h : p.call? = some .listBuckets) :
    p.starts l signal = Retry.starts l.config.retry "list_buckets" signal l.backend.listBuckets
      (l.config.retry.attempts - 1) 0 p.world := by
  obtain ⟨stage, w, deeds⟩ := p
  cases stage with
  | ended failure => cases h
  | underway listing =>
    have hcall : listing.call? w.moment = some .listBuckets := h
    rw [starts]
    dsimp only
    rw [Listing.starts, hcall]

theorem starts_of_page {signal : StopSignal} {request : PageRequest}
    (h : p.call? = some (.listObjects request)) :
    p.starts l signal = Retry.starts l.config.retry "list_objects" signal
      (l.backend.listObjects request) (l.config.retry.attempts - 1) 0 p.world := by
  obtain ⟨stage, w, deeds⟩ := p
  cases stage with
  | ended failure => cases h
  | underway listing =>
    have hcall : listing.call? w.moment = some (.listObjects request) := h
    rw [starts]
    dsimp only
    rw [Listing.starts, hcall]

/-- One turn of a listing, and of the same one that is cancelled at a moment. -/
theorem step_cancels (hstage : q.stage = p.stage) (h : Heeds m (turn + 1) base p.world q.world) :
    let ticks := p.starts l {}
    let ticks' := q.starts (l.wrapped (Backend.stoppedAt m)) m.signal
    Paired (Retry.Spared m turn base q.world.store.2 ticks ticks')
      (Retry.Halted m turn q.world.store.2 ticks ticks') p q (p.step l {})
      (q.step (l.wrapped (Backend.stoppedAt m)) m.signal) := by
  intro ticks ticks'
  have hcall : q.call? = p.call? := by
    rw [call?, call?, hstage, h.moment_eq]
  refine step_paired ⟨?_, ?_⟩ rfl hstage (fun _ _ => h.moment_eq) ?_ ?_ ?_
  · intro w v journal journal' hspared
    exact ⟨hspared.toHeeds.journal _ _, hspared.same, hspared.follows⟩
  · intro w e v journal hhalted
    exact ⟨hhalted.failure, hhalted.first, hhalted.fewer⟩
  · intro hnone
    have hticks : ticks = [] := starts_eq_nil hnone
    have hticks' : ticks' = [] := starts_eq_nil (hcall.trans hnone)
    rw [hticks, hticks']
    refine ⟨h, rfl, ?_⟩
    intro t ht
    cases ht
  · intro hbuckets journal journal'
    have hticks : ticks = _ := starts_of_buckets hbuckets
    have hticks' : ticks' = _ := starts_of_buckets (hcall.trans hbuckets)
    rw [hticks, hticks', ← Retry.starts_journal _ _ p.world journal,
      ← Retry.starts_journal _ _ q.world journal']
    exact Retry.call_cancelled (h.journal journal journal')
  · intro request hpages
    have hticks : ticks = _ := starts_of_page hpages
    have hticks' : ticks' = _ := starts_of_page (hcall.trans hpages)
    let asking : Event := .requestingPage request.bucket request.under request.size
      request.token.isSome
    rw [hticks, hticks', ← Retry.starts_journal _ _ p.world (asking :: p.world.journal),
      ← Retry.starts_journal _ _ q.world (asking :: q.world.journal), Listing.pageCall,
      Listing.pageCall]
    exact Retry.call_cancelled (h.report asking asking)

/-- How a cancelled listing is to the undisturbed one after as many turns, with the attempts that they made: it
is the same as long as the moment follows all attempts, and else it was over before the first attempt that
the moment does not follow. -/
inductive Foregoes (m : Moment) (turns base : Nat) (made made' : List Attempt) (p : Course σ)
    (q : Course (σ × Nat)) : Prop
  | abreast : q.stage = p.stage → q.deeds = p.deeds → made' = made →
      (∀ a ∈ made, m.follows a = true) → Heeds m turns base p.world q.world →
      q.world.store.2 = made.length → Foregoes m turns base made made' p q
  | stopped : q.stage = .ended (some .cancelled) → q.deeds = Deed.untilCall made'.length p.deeds →
      made' = made.takeWhile m.follows → made'.length < made.length →
      Foregoes m turns base made made' p q

/-- The attempts up to the first one that the moment does not follow. -/
theorem takeWhile_of_first {before : List Attempt} {ticks ticks' : List Tick} {turn : Nat}
    (hall : ∀ a ∈ before, m.follows a = true)
    (hfirst : (Attempt.inTurn turn before.length ticks).takeWhile m.follows =
      Attempt.inTurn turn before.length ticks') :
    (before ++ Attempt.inTurn turn before.length ticks).takeWhile m.follows =
      before ++ Attempt.inTurn turn before.length ticks' := by
  rw [List.takeWhile_append_of_pos hall, hfirst]

/-- One turn of both that begins at the same place, after the same attempts. -/
theorem foregoes_step {made : List Attempt} (hstage : q.stage = p.stage) (hdeeds : q.deeds = p.deeds)
    (hall : ∀ a ∈ made, m.follows a = true) (hheeds : Heeds m (turn + 1) base p.world q.world)
    (hnumber : q.world.store.2 = made.length) (hmade : made.length = p.calls.length) :
    let l' := l.wrapped (Backend.stoppedAt m)
    Foregoes m (turn + 1) base (made ++ Attempt.inTurn turn made.length (p.starts l {}))
      (made ++ Attempt.inTurn turn made.length (q.starts l' m.signal)) (p.step l {})
      (q.step l' m.signal) := by
  intro l'
  have hpaired := step_cancels (l := l) hstage hheeds
  have hticks := congrArg List.length (callTimes_step l {} p)
  have hticks' := congrArg List.length (callTimes_step l' m.signal q)
  have hcalls : q.world.callTimes.length = p.world.callTimes.length := by rw [hheeds.calls]
  have hbase := hheeds.made
  rw [hnumber] at hpaired hbase
  dsimp only at hpaired
  rw [List.length_append, List.length_reverse, List.length_map] at hticks hticks'
  generalize p.starts l {} = ticks at hpaired hticks ⊢
  generalize q.starts l' m.signal = ticks' at hpaired hticks' ⊢
  generalize p.step l {} = p' at hpaired hticks ⊢
  generalize q.step l' m.signal = q' at hpaired hticks' ⊢
  cases hpaired with
  | @same stage w v call k k' given hboth hk hk' hgiven =>
    have hmade' := hboth.made
    have hsame : k' = k := by
      rw [hboth.same] at hticks'
      dsimp only at hticks hticks'
      omega
    refine .abreast rfl (by rw [hsame, ← hdeeds]) (by rw [hboth.same]) ?_ hboth.toHeeds ?_
    · exact List.forall_mem_append.mpr ⟨hall, hboth.follows⟩
    · rw [List.length_append, Attempt.length_inTurn, ← hboth.same]
      dsimp only at hticks' ⊢
      omega
  | @cut stage w e v call k k' hcut hk hk' =>
    have hfewer := hcut.fewer
    dsimp only at hticks hticks'
    have hsome : k' = ticks'.length := by omega
    have hle : k' ≤ k := by omega
    refine .stopped (by rw [hcut.failure]) ?_ (takeWhile_of_first hall hcut.first).symm ?_
    · have hbefore : (p.deeds.filterMap Deed.call?).length ≤
          (made ++ Attempt.inTurn turn made.length ticks').length := by
        rw [List.length_append, hmade, calls]
        exact Nat.le_add_right _ _
      have hrest : (made ++ Attempt.inTurn turn made.length ticks').length -
          (p.deeds.filterMap Deed.call?).length = k' := by
        rw [List.length_append, Attempt.length_inTurn, hmade, calls, hsome]
        omega
      rw [Deed.untilCall_append_of_le hbefore, hrest, Deed.untilCall_replicate call hle, hdeeds]
    · rw [List.length_append, List.length_append, Attempt.length_inTurn, Attempt.length_inTurn]
      omega

/-- One turn of both. -/
theorem Foregoes.step {made made' : List Attempt} {turns : Nat}
    (h : Foregoes m turns base made made' p q) (hmade : made.length = p.calls.length) :
    let l' := l.wrapped (Backend.stoppedAt m)
    let q' := q.within (m.change turns)
    Foregoes m (turns + 1) base (made ++ Attempt.inTurn turns made.length (p.starts l {}))
      (made' ++ Attempt.inTurn turns made'.length (q'.starts l' m.signal)) (p.step l {})
      (q'.step l' m.signal) := by
  intro l' q'
  cases h with
  | abreast hstage hdeeds hsame hall hheeds hcount =>
    rw [hsame]
    have hstore : q'.world.store = q.world.store := Moment.change_store m turns q.world
    exact foregoes_step hstage hdeeds hall hheeds.begin (by rw [hstore, hcount]) hmade
  | stopped hstage hdeeds hwhile hfewer =>
    obtain ⟨more, hmore⟩ := step_deeds l {} p
    have hstage' : q'.stage = .ended (some .cancelled) := hstage
    have hnothing : q'.starts l' m.signal = [] := by rw [starts, hstage']
    rw [hnothing, Attempt.inTurn, List.append_nil, step_ended hstage']
    refine .stopped hstage ?_ ?_ ?_
    · rw [hmore, Deed.untilCall_append_of_lt (hmade ▸ hfewer), ← hdeeds]
      rfl
    · rw [List.takeWhile_append, if_neg (by rw [← hwhile]; omega), hwhile]
    · rw [List.length_append]
      omega

/-- A listing that is cancelled at a moment, and the undisturbed one. -/
theorem run_foregoes (l : Lister σ) (m : Moment) (request : ListRequest) (w : World σ) (turns : Nat) :
    let l' := l.wrapped (Backend.stoppedAt m)
    let fresh := { w.numbered with sharedSignal := none }
    Foregoes m turns w.callTimes.length
      (attempts l {} (fun _ w => w) turns (start request w))
      (attempts l' m.signal m.change turns (start request fresh))
      (amid l {} (fun _ w => w) turns (start request w))
      (amid l' m.signal m.change turns (start request fresh)) := by
  intro l' fresh
  induction turns with
  | zero =>
    refine .abreast rfl rfl rfl nofun ⟨⟨⟨rfl, rfl, rfl, rfl, rfl⟩, rfl, rfl⟩, ?_, fun _ => rfl⟩ rfl
    exact fun hgiven => absurd (m.given_zero.symm.trans hgiven) Bool.false_ne_true
  | succ turns ih => exact ih.step (length_attempts l {} turns request w)

/-- A listing that is cancelled at a moment makes the attempts of the undisturbed one up to the first that the
moment does not follow, and gives out what comes before that one. If there is such an attempt it ends as
cancelled, and if there is none it is what the undisturbed one is. -/
theorem cancelled_at (l : Lister σ) (m : Moment) (request : ListRequest) (w : World σ) (turns : Nat) :
    let l' := l.wrapped (Backend.stoppedAt m)
    let fresh := { w.numbered with sharedSignal := none }
    let plain := run l {} turns (start request w)
    let made := attempts l {} (fun _ w => w) turns (start request w)
    let cancelled := amid l' m.signal m.change turns (start request fresh)
    let made' := attempts l' m.signal m.change turns (start request fresh)
    made' = made.takeWhile m.follows ∧
      cancelled.deeds = Deed.untilCall made'.length plain.deeds ∧
      cancelled.items <+: plain.items ∧
      cancelled.stage = if made' = made then plain.stage else .ended (some .cancelled) := by
  intro l' fresh plain made cancelled made'
  have hforegoes := run_foregoes l m request w turns
  have hcount : made.length = plain.calls.length := by
    rw [length_attempts, amid_id]
  obtain ⟨hmade, hdeeds, hstage⟩ : made' = made.takeWhile m.follows ∧
      cancelled.deeds = Deed.untilCall made'.length plain.deeds ∧
      cancelled.stage = if made' = made then plain.stage else .ended (some .cancelled) := by
    dsimp only at hforegoes
    rw [amid_id] at hforegoes
    cases hforegoes with
    | abreast hstage hdeeds hsame hall _ _ =>
      have hsame' : made' = made := hsame
      refine ⟨?_, ?_, ?_⟩
      · rw [hsame', List.takeWhile_eq_self_iff.mpr hall]
      · rw [hsame', Deed.untilCall_eq_self (Nat.le_of_eq hcount.symm)]
        exact hdeeds
      · rw [if_pos hsame']
        exact hstage
    | stopped hstage hdeeds hwhile hfewer =>
      refine ⟨hwhile, hdeeds, ?_⟩
      rw [if_neg fun hsame => absurd (congrArg List.length hsame) (Nat.ne_of_lt hfewer)]
      exact hstage
  refine ⟨hmade, hdeeds, ?_, hstage⟩
  rw [items, hdeeds]
  exact (Deed.untilCall_isPrefix _ _).filterMap _

/-- Cancelled while the directory is asked for, a listing still gives out what is in it and what the first page
of the bucket holds, and asks for nothing more. -/
example :
    let c := amid ((Lister.answering directoryAhead).wrapped (Backend.stoppedAt (.during 1)))
      (Moment.during 1).signal (Moment.during 1).change 9
      (start { uri := ⟨.s3, ['b'], []⟩, recursive := true } { store := ((), 0) })
    c.items = [.object (.object ['a', '/', 'x'] 1 {}), .object (.object ['b'] 5 {})] ∧
      c.stage = .ended (some .cancelled) ∧ c.calls.length = 2 := by
  decide +kernel

end Course

end ObjectListing
