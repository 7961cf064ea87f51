import ObjectListing.Proofs.Listing.SideBySide
import ObjectListing.Proofs.Store.Numbered

/-!
Stores that fail for a while. Some calls of a flaky store, by number, fail for a transient cause and leave the
store as it is (`Backend.flaky`). As long as not all attempts at a call fail, a call under retries comes to what
one call of the store itself comes to (`Retry.call_flaky`).
-/

namespace ObjectListing

variable {σ α : Type}

/-- What becomes of a reply when certain calls fail for a transient cause and leave the store as it is. -/
def flaking (fails : Nat → Option String) (α : Type) (n : Nat) (s : σ) (r : Reply σ α) : Reply σ α :=
  match fails n with
  | some detail => { answer := .error (.transient detail), store := s, waits := r.waits }
  | none => r

/-- A store that fails for a transient cause in certain calls, counted from zero. -/
def Backend.flaky (fails : Nat → Option String) (b : Backend σ) : Backend (σ × Nat) :=
  b.numbered (flaking fails)

/-- Whether `most` calls in a row fail among the first `made`. -/
def Overtaxed (fails : Nat → Option String) (most made : Nat) : Prop :=
  ∃ first, first + most ≤ made ∧ ∀ j < most, fails (first + j) ≠ none

theorem Overtaxed.mono {fails : Nat → Option String} {most made made' : Nat}
    (h : Overtaxed fails most made) (hle : made ≤ made') : Overtaxed fails most made' := by
  obtain ⟨first, hmade, hfails⟩ := h
  exact ⟨first, Nat.le_trans hmade hle, hfails⟩

/-- An answer that is not a transient failure. -/
def Reply.Final (r : Reply σ α) : Prop := ∀ e, r.answer = .error e → e.isTransient = false

/-- A store that never fails for a transient cause of its own. -/
structure Backend.Final (b : Backend σ) : Prop where
  pages : ∀ request s, (b.listObjects request s).Final
  buckets : ∀ s, (b.listBuckets s).Final
  objects : ∀ bucket key s, (b.getObject bucket key s).Final

/-- A sequence that repeats each element of another one in its place, at least once and at most `most`
times. -/
inductive Repeats {β : Type} (most : Nat) : List β → List β → Prop
  | nil : Repeats most [] []
  | cons {b : β} {bs cs : List β} {k : Nat} : 1 ≤ k → k ≤ most → Repeats most bs cs →
      Repeats most (b :: bs) (List.replicate k b ++ cs)

namespace Repeats

variable {β : Type} {most k : Nat} {b : β} {bs cs : List β}

theorem concat (h : Repeats most bs cs) (hk : 1 ≤ k) (hmost : k ≤ most) :
    Repeats most (bs ++ [b]) (cs ++ List.replicate k b) := by
  induction h with
  | nil =>
    rw [← List.append_nil ([] ++ List.replicate k b)]
    exact .cons hk hmost .nil
  | cons hk' hmost' _ ih =>
    rw [List.append_assoc]
    exact .cons hk' hmost' ih

theorem once (hk : 1 ≤ k) (hmost : k ≤ most) : Repeats most [b] (List.replicate k b) :=
  Repeats.nil.concat hk hmost

end Repeats

namespace World

/-- Worlds around a store and around the same store that is flaky, where nothing stops an operation. -/
structure Mirrors (signal : StopSignal) (w : World σ) (v : World (σ × Nat)) : Prop where
  store : v.store.1 = w.store
  unstopped : w.stopAt signal = none
  unstopped' : v.stopAt signal = none

theorem stopAt_call_eq {w : World σ} {f : σ → Reply σ α} {signal : StopSignal}
    (hcalm : signal.heedsShared = true → (f w.store).stops = false) :
    (w.call f).2.stopAt signal = w.stopAt signal := by
  cases hheeds : signal.heedsShared with
  | true => exact stopAt_call (hcalm hheeds)
  | false => rw [stopAt, stopAt, hheeds, if_neg (by decide), if_neg (by decide)]

end World

namespace Retry

variable {p : RetryPolicy} {operation : String} {signal : StopSignal} {f : σ → Reply σ α}

/-- A call to a store that is not stopped and does not fail for a transient cause is made once. -/
theorem call_of_final (p : RetryPolicy) (operation : String) {w : World σ} (hw : w.stopAt signal = none)
    (hfinal : (f w.store).Final) (hcalm : signal.heedsShared = true → (f w.store).stops = false) :
    ∃ w', call p operation signal f w = ((f w.store).answer, w') ∧
      w'.store = (f w.store).store ∧ w'.stopAt signal = none ∧
      w'.callTimes.length = w.callTimes.length + 1 := by
  have hstop := World.isStopped_eq_false hw
  have hcalled := (World.stopAt_call_eq hcalm).trans hw
  have hmade : (w.call f).2.callTimes.length = w.callTimes.length + 1 := by
    rw [World.callTimes_call, List.length_cons]
  cases hanswer : (f w.store).answer with
  | ok value =>
    have hcall : w.call f = (.ok value, (w.call f).2) := by rw [← hanswer]; rfl
    exact ⟨_, (Ran.answered hstop hcall).attempt_eq, World.store_call, hcalled, hmade⟩
  | error e =>
    have hcall : w.call f = (.error e, (w.call f).2) := by rw [← hanswer]; rfl
    refine ⟨_, (Ran.refused hstop hcall (hfinal e hanswer)).attempt_eq, ?_⟩
    split
    · exact ⟨World.store_call, hcalled, hmade⟩
    · exact ⟨World.store_call, hcalled, hmade⟩

/-- What a call to a flaky store comes to that has some attempts left: what the store itself answers, after
a few failures, or a failure when all attempts fail. -/
inductive Weathers (fails : Nat → Option String) (f : σ → Reply σ α) (signal : StopSignal) (left : Nat)
    (v : World (σ × Nat)) : Except StoreError α × World (σ × Nat) → Prop
  | answered {v' : World (σ × Nat)} {k : Nat} : k ≤ left →
      v'.store.1 = (f v.store.1).store → v'.stopAt signal = none →
      v'.callTimes.length = v.callTimes.length + (k + 1) →
      Weathers fails f signal left v ((f v.store.1).answer, v')
  | refused {v' : World (σ × Nat)} {e : StoreError} : (∀ j ≤ left, fails (v.store.2 + j) ≠ none) →
      v'.store.2 = v.store.2 + (left + 1) → Weathers fails f signal left v (.error e, v')

/-- A call to a flaky store that does not fail just now. -/
theorem weathers_call (fails : Nat → Option String) {left failed : Nat} {v : World (σ × Nat)}
    (hfinal : (f v.store.1).Final)
    (hcalm : signal.heedsShared = true → (f v.store.1).stops = false) (hv : v.stopAt signal = none)
    (hgoes : fails v.store.2 = none) :
    Weathers fails f signal left v
      (attempt p operation signal (numbering (flaking fails) f) left failed v) := by
  have hreply : numbering (flaking fails) f v.store = (f v.store.1).counted (v.store.2 + 1) := by
    rw [numbering, flaking, hgoes]
  have hstop := World.isStopped_eq_false hv
  have hstore : (v.call (numbering (flaking fails) f)).2.store.1 = (f v.store.1).store := by
    rw [World.store_call, hreply]
    rfl
  have hcalled : (v.call (numbering (flaking fails) f)).2.stopAt signal = none :=
    (World.stopAt_call_eq (by rw [hreply]; exact hcalm)).trans hv
  have hmade : (v.call (numbering (flaking fails) f)).2.callTimes.length =
      v.callTimes.length + (0 + 1) := by
    rw [World.callTimes_call, List.length_cons]
  have hcall : v.call (numbering (flaking fails) f) =
      ((f v.store.1).answer, (v.call (numbering (flaking fails) f)).2) := by
    refine Prod.ext ?_ rfl
    rw [World.call_fst, hreply]
    rfl
  have hlift : Weathers fails f signal left v
      ((f v.store.1).answer, (v.call (numbering (flaking fails) f)).2) :=
    .answered (Nat.zero_le left) hstore hcalled hmade
  cases hanswer : (f v.store.1).answer with
  | ok value =>
    rw [hanswer] at hcall hlift
    rw [(Ran.answered hstop hcall).attempt_eq]
    exact hlift
  | error e =>
    rw [hanswer] at hcall
    rw [(Ran.refused hstop hcall (hfinal e hanswer)).attempt_eq, ← hanswer]
    split
    · exact .answered (Nat.zero_le left) hstore hcalled hmade
    · exact .answered (Nat.zero_le left) hstore hcalled hmade

/-- A call to a flaky store that fails just now, and leaves the store as it was. -/
theorem exists_call_failing (f : σ → Reply σ α) {fails : Nat → Option String} {detail : String}
    {v : World (σ × Nat)} (hv : v.stopAt signal = none) (hfails : fails v.store.2 = some detail) :
    ∃ v', v.call (numbering (flaking fails) f) = (.error (.transient detail), v') ∧
      v'.store = (v.store.1, v.store.2 + 1) ∧ v'.stopAt signal = none ∧
      v'.callTimes.length = v.callTimes.length + 1 := by
  have hreply : numbering (flaking fails) f v.store =
      ⟨.error (.transient detail), (v.store.1, v.store.2 + 1), [], false, (f v.store.1).waits⟩ := by
    rw [numbering, flaking, hfails]
    rfl
  refine ⟨(v.call (numbering (flaking fails) f)).2, Prod.ext ?_ rfl, ?_, ?_, ?_⟩
  · rw [World.call_fst, hreply]
  · rw [World.store_call, hreply]
  · exact (World.stopAt_call_eq (by rw [hreply]; exact fun _ => rfl)).trans hv
  · rw [World.callTimes_call, List.length_cons]

/-- What a call comes to whose first attempt fails, from what the others come to. -/
theorem Weathers.again {fails : Nat → Option String} {detail : String} {left : Nat}
    {v v' : World (σ × Nat)} {r : Except StoreError α × World (σ × Nat)}
    (hfails : fails v.store.2 = some detail) (hstore : v'.store = (v.store.1, v.store.2 + 1))
    (hmade : v'.callTimes.length = v.callTimes.length + 1) (h : Weathers fails f signal left v' r) :
    Weathers fails f signal (left + 1) v r := by
  cases h with
  | @answered u k hk hu hunstopped hlength =>
    rw [hstore] at hu ⊢
    refine .answered (Nat.succ_le_succ hk) hu hunstopped ?_
    rw [hlength, hmade]
    omega
  | @refused u e hall hu =>
    rw [hstore] at hall hu
    refine .refused (fun j hj => ?_) (by rw [hu]; omega)
    cases j with
    | zero =>
      rw [Nat.add_zero, hfails]
      exact Option.some_ne_none detail
    | succ j =>
      have hlast := hall j (Nat.le_of_succ_le_succ hj)
      rwa [Nat.add_assoc, Nat.add_comm 1 j] at hlast

/-- What the attempts at a call to a flaky store come to. -/
theorem attempt_flaky (fails : Nat → Option String) (hfinal : ∀ s, (f s).Final)
    (hcalm : signal.heedsShared = true → ∀ s, (f s).stops = false) :
    ∀ (left failed : Nat) (v : World (σ × Nat)), v.stopAt signal = none →
      Weathers fails f signal left v
        (attempt p operation signal (numbering (flaking fails) f) left failed v)
  | left, failed, v, hv => by
    cases hfails : fails v.store.2 with
    | none => exact weathers_call fails (hfinal _) (fun hheeds => hcalm hheeds _) hv hfails
    | some detail =>
      have hstop := World.isStopped_eq_false hv
      obtain ⟨v', hcall, hstore, hcalled, hmade⟩ := exists_call_failing f hv hfails
      match left with
      | 0 =>
        rw [(Ran.exhausted hstop hcall rfl).attempt_eq]
        refine .refused (fun j hj => ?_) ?_
        · rw [Nat.le_zero.mp hj, Nat.add_zero, hfails]
          exact Option.some_ne_none detail
        · rw [World.store_report, hstore]
      | left + 1 =>
        match hrest : rest p operation signal failed (.transient detail) v' with
        | (false, v'') => exact absurd (rest_ended hrest hcalled) Bool.false_ne_true
        | (true, v'') =>
          have hstop'' : v''.stopAt signal = none := (stopAt_rest hrest).trans hcalled
          have hran := (attempt_ran left (failed + 1) v'' :
            Ran p operation signal (numbering (flaking fails) f) left (failed + 1) v'' _)
          rw [(Ran.again hstop hcall rfl hrest hran).attempt_eq]
          exact .again hfails ((store_rest hrest).trans hstore)
            ((congrArg List.length (callTimes_rest hrest)).trans hmade)
            (attempt_flaky fails hfinal hcalm left (failed + 1) v'' hstop'')

/-- Worlds after a call that the one store got once, and the flaky one not too often. -/
structure Weathered (signal : StopSignal) (most : Nat) (w₀ : World σ) (v₀ : World (σ × Nat))
    (w : World σ) (v : World (σ × Nat)) : Prop extends World.Mirrors signal w v where
  once : w.callTimes.length = w₀.callTimes.length + 1
  often : v₀.callTimes.length + 1 ≤ v.callTimes.length
  bounded : v.callTimes.length ≤ v₀.callTimes.length + most

/-- A call under retries to a flaky store comes to what it comes to without the failures, unless all attempts
fail. -/
theorem call_flaky (p : RetryPolicy) (operation : String) (fails : Nat → Option String)
    (hfinal : ∀ s, (f s).Final) (hcalm : signal.heedsShared = true → ∀ s, (f s).stops = false)
    {w : World σ} {v : World (σ × Nat)} (h : World.Mirrors signal w v) :
    SideBySide (Weathered signal p.attempts w v)
      (fun _ _ v' => Overtaxed fails p.attempts v'.store.2) (call p operation signal f w)
      (call p operation signal (numbering (flaking fails) f) v) := by
  obtain ⟨w', hplain, hstore, hunstopped, honce⟩ := call_of_final p operation h.unstopped
    (hfinal w.store) (fun hheeds => hcalm hheeds _)
  have hweathers : Weathers fails f signal (p.attempts - 1) v
      (call p operation signal (numbering (flaking fails) f) v) :=
    attempt_flaky fails hfinal hcalm _ _ v h.unstopped'
  have hpos : 1 ≤ p.attempts := Nat.le_max_right _ _
  rw [hplain]
  generalize call p operation signal (numbering (flaking fails) f) v = r at hweathers
  cases hweathers with
  | @answered v' k hk hstore' hunstopped' hlength =>
    rw [h.store]
    rw [h.store] at hstore'
    exact .same ⟨⟨hstore'.trans hstore.symm, hunstopped, hunstopped'⟩, honce, by omega, by omega⟩
  | refused hall hmade =>
    refine .cut ⟨v.store.2, by omega, fun j hj => hall j (by omega)⟩

end Retry

end ObjectListing
