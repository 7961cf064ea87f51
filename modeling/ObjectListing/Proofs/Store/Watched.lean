import ObjectListing.Proofs.Retry
import ObjectListing.Store.Scripted

/-!
Watching a store. A watched store answers as the store itself does, and writes down the calls that it
gets. A call under retries comes to the same over both, and what is written down is that call, once for
each attempt (`Ran.watched`).
-/

namespace ObjectListing

variable {σ α : Type}

/-- A reply, with its call written down behind the calls before it. -/
def Reply.noted (r : Reply σ α) (call : StoreCall) (calls : List StoreCall) :
    Reply (σ × List StoreCall) α :=
  ⟨r.answer, (r.store, calls ++ [call]), r.events, r.stops, r.waits⟩

/-- The question to a store that a watched store asks. -/
def noting (f : σ → Reply σ α) (call : StoreCall) (s : σ × List StoreCall) :
    Reply (σ × List StoreCall) α :=
  (f s.1).noted call s.2

/-- A store that writes down the calls it gets, oldest first. -/
def Backend.watched (b : Backend σ) : Backend (σ × List StoreCall) where
  name := b.name
  listObjects request := noting (b.listObjects request) (.listObjects request)
  listBuckets := noting b.listBuckets .listBuckets
  getObject bucket key := noting (b.getObject bucket key) (.getObject bucket key)

namespace World

/-- The world with a watched store that got these calls. -/
def watched (calls : List StoreCall) (w : World σ) : World (σ × List StoreCall) where
  store := (w.store, calls)
  clock := w.clock
  epoch := w.epoch
  sharedSignal := w.sharedSignal
  waitEndsFirst := w.waitEndsFirst
  dice := w.dice
  callTimes := w.callTimes
  journal := w.journal

variable {w : World σ} {calls : List StoreCall}

@[simp] theorem watched_report (e : Event) :
    (w.watched calls).report e = (w.report e).watched calls := rfl

theorem watched_call (f : σ → Reply σ α) (call : StoreCall) :
    (w.watched calls).call (noting f call) =
      ((w.call f).1, (w.call f).2.watched (calls ++ [call])) := by
  rw [World.call, World.call]
  cases hstops : (f w.store).stops with
  | false => simp only [noting, Reply.noted, watched, hstops]; rfl
  | true => simp only [noting, Reply.noted, watched, hstops]; rfl

theorem watched_wait (milliseconds : Nat) (s : StopSignal) :
    (w.watched calls).wait milliseconds s =
      ((w.wait milliseconds s).1, (w.wait milliseconds s).2.watched calls) := by
  rw [World.wait, World.wait]
  have hstop : (w.watched calls).stopAt s = w.stopAt s := rfl
  rw [hstop]
  cases w.stopAt s with
  | none => rfl
  | some tick =>
    have hend : (w.watched calls).waitEnd milliseconds = w.waitEnd milliseconds := rfl
    have hclock : (w.watched calls).clock = w.clock := rfl
    have hfirst : (w.watched calls).waitEndsFirst = w.waitEndsFirst := rfl
    dsimp only
    rw [hend, hclock, hfirst]
    by_cases h : w.waitEnd milliseconds < tick.later w.clock ∨
        w.waitEnd milliseconds = tick.later w.clock ∧ w.waitEndsFirst = true
    · rw [if_pos h, if_pos h]
      rfl
    · rw [if_neg h, if_neg h]
      rfl

end World

namespace Retry

variable {p : RetryPolicy} {operation : String} {signal : StopSignal} {f : σ → Reply σ α}

theorem watched_rest (failed : Nat) (e : StoreError) (w : World σ) (calls : List StoreCall) :
    rest p operation signal failed e (w.watched calls) =
      ((rest p operation signal failed e w).1,
        (rest p operation signal failed e w).2.watched calls) := by
  rw [rest, rest, ← World.watched_wait]
  rfl

/-- A world, and the same world with a watched store that noted one call for every call made since there were
`base` of them. -/
def Noted (base : Nat) (call : StoreCall) (calls : List StoreCall) (w : World σ)
    (v : World (σ × List StoreCall)) : Prop :=
  ∃ k, w.callTimes.length = base + k ∧ v = w.watched (calls ++ List.replicate k call)

theorem inStep_noted (p : RetryPolicy) (operation : String) (signal : StopSignal) (base : Nat)
    (call : StoreCall) (calls : List StoreCall) :
    InStep (σ := σ) p operation signal signal (Noted base call calls) where
  isStopped := by
    rintro w _ ⟨k, -, rfl⟩
    rfl
  report := by
    rintro w _ e ⟨k, hk, rfl⟩
    exact ⟨k, hk, World.watched_report e⟩
  rest := by
    rintro w w' _ failed e ended ⟨k, hk, rfl⟩ hrest
    refine ⟨_, ?_, k, (congrArg List.length (callTimes_rest hrest)).trans hk, rfl⟩
    rw [watched_rest, hrest]

/-- A call over a watched store comes to the same, and is written down once for each attempt. -/
theorem Ran.watched {left failed : Nat} {w : World σ} {r : Except StoreError α × World σ}
    (h : Ran p operation signal f left failed w r) (call : StoreCall) :
    ∃ k, r.2.callTimes.length = w.callTimes.length + k ∧ ∀ calls,
      Ran p operation signal (noting f call) left failed (w.watched calls)
        (r.1, r.2.watched (calls ++ List.replicate k call)) := by
  refine ⟨_, (Nat.add_sub_of_le h.callTimes_le).symm, fun calls => ?_⟩
  -- one attempt, and the world after it
  have hcall {w' : World σ} {v : World (σ × List StoreCall)}
      (hv : Noted w.callTimes.length call calls w' v) (a : Except StoreError α) (w'' : World σ)
      (hc : w'.call f = (a, w'')) :
      ∃ v', v.call (noting f call) = (a, v') ∧ Noted w.callTimes.length call calls w'' v' := by
    obtain ⟨k, hk, rfl⟩ := hv
    refine ⟨w''.watched (calls ++ List.replicate k call ++ [call]), ?_, k + 1, ?_, ?_⟩
    · rw [World.watched_call, hc]
    · rw [show w'' = (w'.call f).2 by rw [hc], World.callTimes_call, List.length_cons, hk]
      rfl
    · rw [List.append_assoc, List.replicate_succ']
  obtain ⟨⟨answer, v⟩, hran, rfl, k, hk, rfl⟩ := h.inStep
    (inStep_noted p operation signal w.callTimes.length call calls)
    (fun r r' => r'.1 = r.1 ∧ Noted w.callTimes.length call calls r.2 r'.2) (fun hv => ⟨rfl, hv⟩)
    (fun hv _ => Or.inl (hcall hv)) ⟨0, rfl, (congrArg w.watched (List.append_nil calls)).symm⟩
  rw [hk, Nat.add_sub_cancel_left]
  exact hran

theorem call_watched (p : RetryPolicy) (operation : String) (signal : StopSignal)
    (f : σ → Reply σ α) (w : World σ) (c : StoreCall) :
    ∃ k, (call p operation signal f w).2.callTimes.length = w.callTimes.length + k ∧ ∀ calls,
      call p operation signal (noting f c) (w.watched calls) =
        ((call p operation signal f w).1,
          (call p operation signal f w).2.watched (calls ++ List.replicate k c)) := by
  have hran : Ran p operation signal f (p.attempts - 1) 0 w (call p operation signal f w) :=
    attempt_ran _ _ w
  obtain ⟨k, hk, hcalls⟩ := hran.watched c
  exact ⟨k, hk, fun calls => (hcalls calls).attempt_eq⟩

end Retry

end ObjectListing
