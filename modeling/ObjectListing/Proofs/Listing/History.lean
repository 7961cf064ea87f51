import ObjectListing.Proofs.Listing.Truncation
import ObjectListing.Session

/-!
What a listing did, and what its caller sees of it. `Deed.untilCall` is what a listing did before a certain
call. A caller who asks a listing for one thing after the other gets its items in order, then its failure
if there is one, and then learns that it is over (`Session.pullMany_of_ended`).
-/

namespace ObjectListing

variable {σ : Type}

namespace Deed

/-- What was done before call number `n`, counted from zero; everything if there is no such call. -/
def untilCall : Nat → List Deed → List Deed
  | _, [] => []
  | n, gave item :: rest => gave item :: untilCall n rest
  | 0, asked _ :: _ => []
  | n + 1, asked call :: rest => asked call :: untilCall n rest

variable {n : Nat} {deeds more : List Deed}

theorem untilCall_nil (n : Nat) : untilCall n [] = [] := rfl

theorem untilCall_gave (n : Nat) (item : ListItem) (rest : List Deed) :
    untilCall n (gave item :: rest) = gave item :: untilCall n rest := rfl

theorem untilCall_succ (n : Nat) (call : StoreCall) (rest : List Deed) :
    untilCall (n + 1) (asked call :: rest) = asked call :: untilCall n rest := rfl

theorem untilCall_isPrefix : ∀ (n : Nat) (deeds : List Deed), untilCall n deeds <+: deeds
  | _, [] => List.prefix_rfl
  | n, gave _ :: rest => (List.prefix_cons_inj _).mpr (untilCall_isPrefix n rest)
  | 0, asked _ :: _ => List.nil_prefix
  | n + 1, asked _ :: rest => (List.prefix_cons_inj _).mpr (untilCall_isPrefix n rest)

/-- The calls before a call. -/
theorem filterMap_call?_untilCall : ∀ (n : Nat) (deeds : List Deed),
    (untilCall n deeds).filterMap call? = (deeds.filterMap call?).take n
  | _, [] => List.take_nil.symm
  | n, gave _ :: rest => filterMap_call?_untilCall n rest
  | 0, asked _ :: _ => rfl
  | n + 1, asked call :: rest => congrArg (call :: ·) (filterMap_call?_untilCall n rest)

theorem untilCall_append_of_le : ∀ {n : Nat} {deeds : List Deed},
    (deeds.filterMap call?).length ≤ n → ∀ more : List Deed,
    untilCall n (deeds ++ more) =
      deeds ++ untilCall (n - (deeds.filterMap call?).length) more
  | _, [], _, _ => rfl
  | n, gave _ :: rest, h, more => by
    have hrest : (rest.filterMap call?).length ≤ n := h
    rw [List.cons_append, untilCall_gave, untilCall_append_of_le hrest more]
    rfl
  | 0, asked _ :: _, h, _ => absurd h (Nat.not_succ_le_zero _)
  | _ + 1, asked _ :: _, h, more => by
    have hrest := untilCall_append_of_le (Nat.le_of_succ_le_succ h) more
    rw [List.cons_append, untilCall_succ, hrest, List.filterMap_cons]
    dsimp only [call?]
    rw [List.length_cons, Nat.succ_sub_succ, List.cons_append]

/-- Everything was done before a call that was not made. -/
theorem untilCall_eq_self (h : (deeds.filterMap call?).length ≤ n) : untilCall n deeds = deeds := by
  have hall := untilCall_append_of_le h []
  rwa [List.append_nil, untilCall_nil, List.append_nil] at hall

/-- What was done before a call stays the same when more is done after it. -/
theorem untilCall_append_of_lt : ∀ {n : Nat} {deeds : List Deed},
    n < (deeds.filterMap call?).length → ∀ more : List Deed,
    untilCall n (deeds ++ more) = untilCall n deeds
  | _, [], h, _ => absurd h (Nat.not_lt_zero _)
  | n, gave _ :: rest, h, more => by
    have hrest : n < (rest.filterMap call?).length := h
    rw [List.cons_append, untilCall_gave, untilCall_gave, untilCall_append_of_lt hrest more]
  | 0, asked _ :: _, _, _ => rfl
  | _ + 1, asked _ :: _, h, more => by
    rw [List.cons_append, untilCall_succ, untilCall_succ,
      untilCall_append_of_lt (Nat.lt_of_succ_lt_succ h) more]

theorem untilCall_replicate (call : StoreCall) : ∀ {n k : Nat}, n ≤ k →
    untilCall n (List.replicate k (asked call)) = List.replicate n (asked call)
  | 0, 0, _ => rfl
  | 0, _ + 1, _ => rfl
  | _ + 1, _ + 1, h =>
    congrArg (asked call :: ·) (untilCall_replicate call (Nat.le_of_succ_le_succ h))

end Deed

namespace Session

open Course

variable {l : Lister σ} {signal : StopSignal} {c : Course σ} {listing : Listing}

/-- What a caller gets of a listing that comes to its end: the items, the failure if there is one, and that
it is over. -/
def everything (items : List ListItem) (failure : Option StoreError) : List Pulled :=
  items.map .item ++ failure.toList.map .failure ++ [.finished]

theorem step_underway (hstage : c.stage = .underway listing) :
    step l signal c =
      let deeds := c.deeds ++ (Listing.callsOf l signal listing c.world).map Deed.asked
      match Listing.turn l signal listing c.world with
      | .item item rest w => ⟨.underway rest, w, deeds ++ [.gave item]⟩
      | .going rest w => ⟨.underway rest, w, deeds⟩
      | .failed e w => ⟨.ended (some e), w, deeds⟩
      | .ended w => ⟨.ended none, w, deeds⟩ := by
  obtain ⟨stage, world, deeds⟩ := c
  cases hstage
  rfl

/-- A listing that comes to its end gives its next item, or it fails, or it is over. -/
theorem next_of_ended : ∀ {n turns : Nat} {c : Course σ} {listing : Listing}
    {failure : Option StoreError}, n ≤ turns → c.stage = .underway listing →
    (run l signal n c).stage = .ended failure →
    (∃ m item rest, m ≤ n ∧ (run l signal m c).stage = .underway rest ∧
        (run l signal m c).items = c.items ++ [item] ∧
        Listing.next l signal turns listing c.world = .item item rest (run l signal m c).world) ∨
      (run l signal n c).items = c.items ∧
        Listing.next l signal turns listing c.world =
          match failure with
          | some e => .failed e (run l signal n c).world
          | none => .ended (run l signal n c).world
  | 0, _, _, _, _, _, hstage, hended => by
    rw [run, Function.iterate_zero, id, hstage] at hended
    cases hended
  | n + 1, 0, _, _, _, hle, _, _ => absurd hle (Nat.not_succ_le_zero n)
  | n + 1, turns + 1, c, listing, failure, hle, hstage, hended => by
    have hasked : (c.deeds ++ (Listing.callsOf l signal listing c.world).map Deed.asked).filterMap
        Deed.item? = c.items := by
      rw [List.filterMap_append, filterMap_item?_asked, List.append_nil, items]
    rw [run_succ] at hended ⊢
    rw [Listing.next]
    have hstep : step l signal c = _ := step_underway hstage
    cases hturn : Listing.turn l signal listing c.world with
    | item item rest w =>
      rw [hturn] at hstep
      refine Or.inl ⟨1, item, rest, Nat.le_add_left 1 n, ?_, ?_, ?_⟩
      · rw [run_succ, hstep]
        rfl
      · rw [run_succ, hstep, items, run, Function.iterate_zero, id, List.filterMap_append, hasked]
        rfl
      · rw [run_succ, hstep]
        rfl
    | going rest w =>
      rw [hturn] at hstep
      have hitems : (step l signal c).items = c.items := by rw [hstep, items, hasked]
      have hstage' : (step l signal c).stage = .underway rest := by rw [hstep]
      rcases next_of_ended (Nat.le_of_succ_le_succ hle) hstage' hended with
        ⟨m, item, rest', hm, hrest, hgiven, hnext⟩ | ⟨hgiven, hnext⟩
      · refine Or.inl ⟨m + 1, item, rest', Nat.succ_le_succ hm, ?_, ?_, ?_⟩
        · rwa [run_succ]
        · rw [run_succ, hgiven, hitems]
        · rw [run_succ, ← hnext, hstep]
      · refine Or.inr ⟨hgiven.trans hitems, ?_⟩
        rw [← hnext, hstep]
    | failed e w =>
      rw [hturn] at hstep
      rw [run_ended (by rw [hstep]), hstep] at hended ⊢
      cases hended
      exact Or.inr ⟨hasked, rfl⟩
    | ended w =>
      rw [hturn] at hstep
      rw [run_ended (by rw [hstep]), hstep] at hended ⊢
      cases hended
      exact Or.inr ⟨hasked, rfl⟩

/-- A caller who asks for `count` things gets the first `count` of everything there is to get. -/
theorem pullMany_of_ended {turns : Nat} : ∀ {count n : Nat} {c : Course σ} {listing : Listing}
    {failure : Option StoreError} {more : List ListItem}, n ≤ turns →
    c.stage = .underway listing → (run l signal n c).stage = .ended failure →
    (run l signal n c).items = c.items ++ more →
    (pullMany turns count ⟨l, signal, some listing⟩ c.world).1 =
      (everything more failure).take count
  | 0, _, _, _, _, _, _, _, _, _ => rfl
  | count + 1, n, c, listing, failure, more, hle, hstage, hended, hmore => by
    rw [pullMany, pull]
    dsimp only
    rcases next_of_ended hle hstage hended with ⟨m, item, rest, hm, hrest, hgiven, hnext⟩ |
      ⟨hgiven, hnext⟩
    · rw [hnext]
      dsimp only
      obtain ⟨k, rfl⟩ := Nat.exists_eq_add_of_le hm
      rw [run_add] at hended hmore
      obtain ⟨deeds, hdeeds⟩ := run_deeds l signal k (run l signal m c)
      have hlater : (run l signal k (run l signal m c)).items =
          (run l signal m c).items ++ deeds.filterMap Deed.item? := by
        rw [items, hdeeds, List.filterMap_append, items]
      have hrestmore : more = item :: deeds.filterMap Deed.item? := by
        rw [hmore, hgiven, List.append_assoc] at hlater
        exact List.append_cancel_left hlater
      rw [pullMany_of_ended (Nat.le_of_add_left_le hle) hrest hended hlater, hrestmore]
      rfl
    · rw [hnext]
      have hnone : more = [] := by
        rw [hgiven] at hmore
        exact List.self_eq_append_right.mp hmore
      rw [hnone]
      cases failure with
      | none => simp [everything]
      | some e =>
        cases count with
        | zero => rfl
        | succ count => simp [everything, pullMany, pull]

end Session

end ObjectListing
