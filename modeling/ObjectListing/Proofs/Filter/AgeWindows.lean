import Mathlib.Data.Set.Insert
import ObjectListing.Proofs.Filter.Ages
import ObjectListing.Proofs.Time.Instant

/-!
What age clauses ask for. An age is an exact number of nanoseconds, and less than nothing for a time to come.
Comparisons are those of the integers, though ages and the ends of windows are spans, which have bounds
(`AgeClause.acceptsAge_iff`). So the windows of the whole numbers of a unit lie side by side, and every age that
is not less than nothing lies in one of them (`AgeClause.accepts_exact_windows`).
-/

namespace ObjectListing

open Text

namespace AgeClause

variable {op : Comparator} {n unit : Nat} {letter : Char} {raw : Text} {clause : AgeClause} {age : Int}
  {now modified : Instant}

/-! ### Ages -/

/-- What a clause asks of an age in nanoseconds, whatever their number. -/
def Asks (clause : AgeClause) (age : Int) : Prop :=
  let least : Int := clause.threshold * Instant.second
  match clause.op with
  | .eq => least ≤ age ∧ age < least + clause.granularity * Instant.second
  | .lt => age < least
  | .gt => least < age
  | .le => age ≤ least
  | .ge => least ≤ age

/-- No span reaches the end of a window that is too late for one. -/
theorem all_checked?_iff {upper : Int} (hage : age.natAbs ≤ Span.limit) (hupper : 0 ≤ upper) :
    ((Span.checked? upper).all fun upper => decide (age < upper)) = true ↔ age < upper := by
  rcases Nat.lt_or_ge Span.limit upper.natAbs with hlate | hfits
  · rw [Span.checked?_of_lt hlate]
    exact ⟨fun _ => by omega, fun _ => rfl⟩
  · rw [Span.checked?_of_le hfits]
    exact decide_eq_true_iff

theorem acceptsAge_iff (hage : age.natAbs ≤ Span.limit) :
    clause.acceptsAge age = true ↔ clause.Asks age := by
  rw [acceptsAge, Asks]
  cases clause.op with
  | eq =>
    rw [Bool.and_eq_true, decide_eq_true_iff, all_checked?_iff hage (by positivity)]
  | lt => exact decide_eq_true_iff
  | gt => exact decide_eq_true_iff
  | le => exact decide_eq_true_iff
  | ge => exact decide_eq_true_iff

/-- Between ordinary instants a clause accepts what it asks for. -/
theorem accepts_iff (hnow : clause.now.Ordinary) (h : modified.Ordinary) :
    clause.accepts (some modified) = true ↔
      clause.Asks (clause.now.nanoseconds - modified.nanoseconds) := by
  rw [accepts, hnow.since?_eq h, Option.any_some]
  have hfits : 2 * 10 ^ 13 * Instant.second ≤ Span.limit := by decide
  exact acceptsAge_iff ((hnow.natAbs_sub_lt h).le.trans hfits)

/-! ### Clauses of one number and one unit -/

/-- Whether a text writes a clause of one operator, one number and one unit. The number may have zeros in front,
and blanks may stand anywhere. -/
def Writes (op : Comparator) (n : Nat) (letter : Char) (raw : Text) : Prop :=
  ∃ sign ∈ op.signs, ∃ digits, IsNumeral digits ∧ value digits = n ∧
    raw.stripped = sign ++ digits ++ [letter]

/-- The letters of units are no blanks. -/
theorem not_isBlank_of_seconds? (h : seconds? letter = some unit) : isBlank letter = false := by
  rw [seconds?.eq_def] at h
  split at h
  case h_13 => cases h
  all_goals rfl

/-- Every clause of one number and one unit can be written. -/
theorem exists_writes (op : Comparator) (n : Nat) (h : seconds? letter = some unit) :
    ∃ raw, Writes op n letter raw := by
  obtain ⟨digits, hnumeral, hvalue⟩ := exists_isNumeral n
  have hdigits : ∀ c ∈ digits, isBlank c = false := by
    intro c hc
    obtain ⟨hfirst, hlast⟩ := hnumeral.digits c hc
    have hle (a b : Char) : a ≤ b ↔ a.toNat ≤ b.toNat := Iff.rfl
    have hzero : '0'.toNat = 48 := rfl
    have hnine : '9'.toNat = 57 := rfl
    rw [hle] at hfirst hlast
    simp only [isBlank]
    grind
  obtain ⟨sign, hsign, hclear⟩ : ∃ sign ∈ op.signs, ∀ c ∈ sign, isBlank c = false := by
    cases op <;> exact ⟨_, List.mem_cons_self, by simp [isBlank]⟩
  refine ⟨sign ++ digits ++ [letter], sign, hsign, digits, hnumeral, hvalue, ?_⟩
  rw [stripped, List.filter_eq_self]
  intro c hc
  rw [Bool.not_eq_true']
  rcases List.mem_append.mp hc with hc | hc
  · exact (List.mem_append.mp hc).elim (hclear c) (hdigits c)
  · rw [List.mem_singleton.mp hc]
    exact not_isBlank_of_seconds? h

/-- Such a clause is read when its seconds are not too many, and it is what it says. -/
theorem parse_of_writes (hletter : seconds? letter = some unit) (h : Writes op n letter raw) :
    parse raw now = .ok clause ↔ n * unit ≤ limit ∧ clause = ⟨op, n * unit, unit, now⟩ := by
  obtain ⟨sign, hsign, digits, hnumeral, rfl, hraw⟩ := h
  let term : Term := ⟨digits, letter, unit⟩
  have hproper : ∀ t ∈ [term], t.Proper := by
    intro t ht
    rw [List.mem_singleton.mp ht]
    exact ⟨hnumeral, hletter⟩
  have hwritten : raw.stripped = sign ++ written [term] := by
    rw [hraw, List.append_assoc, written, List.flatMap_singleton]
    rfl
  have hunits : units [term] = {unit} := by
    ext unit'
    simp [units, term, eq_comm]
  rw [parse_eq_ok_iff, ← parseStripped_eq_ok_iff, hwritten,
    parseStripped_written hsign (List.cons_ne_nil _ _) fun t ht => (hproper t ht).looks]
  constructor
  · rintro ⟨-, hmeans⟩
    have hleast := hmeans.granularity
    rw [hunits] at hleast
    obtain ⟨op', threshold, granularity, now'⟩ := clause
    rw [mk.injEq]
    exact ⟨hmeans.fits, hmeans.op, hmeans.threshold, hleast.unique isLeast_singleton, hmeans.now⟩
  · rintro ⟨hfits, rfl⟩
    refine ⟨fun t ht => (hproper t ht).numeral, rfl, rfl, rfl, hfits, ?_⟩
    rw [hunits]
    exact isLeast_singleton

/-! ### Windows side by side -/

/-- A window is what is left of the ages from its threshold on without those from the next threshold on. -/
theorem acceptsAge_window (hfits : (n + 1) * unit ≤ limit) (now : Instant) (age : Int) :
    (mk .eq (n * unit) unit now).acceptsAge age = ((mk .ge (n * unit) unit now).acceptsAge age &&
      (mk .lt ((n + 1) * unit) unit now).acceptsAge age) := by
  have hupper : ((n * unit : Nat) : Int) * Instant.second + unit * Instant.second =
      ((n + 1) * unit : Nat) * Instant.second := by
    push_cast
    ring
  have hlimit : limit * Instant.second ≤ Span.limit := by decide
  have hend : (n + 1) * unit * Instant.second ≤ Span.limit :=
    (Nat.mul_le_mul_right _ hfits).trans hlimit
  have hspan : (((n + 1) * unit : Nat) * (Instant.second : Int)).natAbs ≤ Span.limit := by
    rw [← Int.natCast_mul, Int.natAbs_natCast]
    exact hend
  simp only [acceptsAge]
  rw [hupper, Span.checked?_of_le hspan]
  rfl

theorem accepts_window (hfits : (n + 1) * unit ≤ limit) (now : Instant) (time : Option Instant) :
    (mk .eq (n * unit) unit now).accepts time = ((mk .ge (n * unit) unit now).accepts time &&
      (mk .lt ((n + 1) * unit) unit now).accepts time) := by
  cases time with
  | none => rfl
  | some modified =>
    simp only [accepts]
    cases now.since? modified with
    | none => rfl
    | some age => exact acceptsAge_window hfits now age

/-- The window of an age is told by its whole number of units. -/
theorem asks_window_iff (hunit : 0 < unit) (now : Instant) :
    (mk .eq (n * unit) unit now).Asks age ↔ (n : Int) = age / (unit * Instant.second) := by
  have hwidth : 0 < (unit : Int) * Instant.second := by
    have hsecond : 0 < Instant.second := by decide
    positivity
  have hleast : ((n * unit : Nat) : Int) * Instant.second = n * (unit * Instant.second) := by
    push_cast
    ring
  have hfloor := Int.le_ediv_iff_mul_le (a := n) (b := age) hwidth
  have hnext := Int.ediv_lt_iff_lt_mul (a := age) (b := n + 1) hwidth
  rw [add_one_mul] at hnext
  simp only [Asks]
  rw [hleast, ← hfloor, ← hnext]
  omega

/-- A clause that is read has the moment it is read at, and its threshold and the width of its window add up in
63 bits. -/
theorem of_parse (h : parse raw now = .ok clause) :
    clause.now = now ∧ clause.threshold + clause.granularity ≤ limit63 := by
  have hspells := parse_eq_ok_iff.mp h
  generalize raw.stripped = t at hspells
  cases hspells with
  | mk _ _ hproper hmeans =>
    obtain ⟨term, hterm, hunit⟩ := hmeans.granularity.1
    have hgranularity := (of_seconds? (hproper term hterm).unit).2.2
    have hthreshold := hmeans.fits
    rw [← hmeans.threshold] at hthreshold
    have htwice : (2 ^ 63 - 1) / 1000 + limit ≤ limit63 := by decide
    exact ⟨hmeans.now, by omega⟩

/-- Ages between ordinary instants that are not less than nothing are shorter than the largest threshold. -/
theorem units_le_limit (hnow : now.Ordinary) (h : modified.Ordinary)
    (hn : (n : Int) * (unit * Instant.second) ≤ now.nanoseconds - modified.nanoseconds) :
    n * unit ≤ limit := by
  have hdistance := hnow.natAbs_sub_lt h
  have hlimit : 2 * 10 ^ 13 ≤ limit := by decide
  have hseconds : ((n * unit * Instant.second : Nat) : Int) =
      n * (unit * Instant.second) := by
    push_cast
    ring
  have hlt : n * unit * Instant.second < 2 * 10 ^ 13 * Instant.second := by omega
  exact (Nat.lt_of_mul_lt_mul_right hlt).le.trans hlimit

/-- A clause that is read asks for exact ages: between ordinary instants no subtraction leaves the spans, and
neither does the addition for the end of a window, but where the window has no end that a span could reach.
The window of `n` units is what both `n` units or more and less than `n + 1` units ask for, and every age that is
not less than nothing lies in the window of exactly one number of units that a clause can name, its whole number
of units. A time to come lies in none of them, and a missing time is accepted by no clause. -/
theorem accepts_exact_windows (now : Instant) (hnow : now.Ordinary) :
    (∀ raw clause, parse raw now = .ok clause → clause.threshold + clause.granularity ≤ limit63 ∧
      clause.accepts none = false ∧ ∀ modified : Instant, modified.Ordinary →
        ∃ age, now.since? modified = some age ∧ age = now.nanoseconds - modified.nanoseconds ∧
          (clause.accepts (some modified) = true ↔ clause.Asks age)) ∧
    ∀ letter unit, seconds? letter = some unit →
      (∀ op n, (∃ raw, Writes op n letter raw) ∧ ∀ raw, Writes op n letter raw →
        ((∃ clause, parse raw now = .ok clause) ↔ n * unit ≤ (2 ^ 63 - 1) / 1000)) ∧
      (∀ n raw raw' raw'' window least next, Writes .eq n letter raw → Writes .ge n letter raw' →
        Writes .lt (n + 1) letter raw'' → parse raw now = .ok window → parse raw' now = .ok least →
        parse raw'' now = .ok next →
          ∀ time, window.accepts time = (least.accepts time && next.accepts time)) ∧
      ∀ modified : Instant, modified.Ordinary →
        let age := now.nanoseconds - modified.nanoseconds
        (∀ n raw clause, Writes .eq n letter raw → parse raw now = .ok clause →
          (clause.accepts (some modified) = true ↔
            0 ≤ age ∧ (n : Int) = age / (unit * Instant.second))) ∧
        (0 ≤ age → ∃! n : Nat, ∃ raw clause, Writes .eq n letter raw ∧ parse raw now = .ok clause ∧
          clause.accepts (some modified) = true) := by
  refine ⟨fun raw clause hparse => ?_, fun letter unit hletter => ⟨fun op n => ⟨?_, ?_⟩, ?_, ?_⟩⟩
  · obtain ⟨hmoment, hsum⟩ := of_parse hparse
    refine ⟨hsum, rfl, fun modified h => ⟨_, hnow.since?_eq h, rfl, ?_⟩⟩
    rw [← hmoment] at hnow ⊢
    exact accepts_iff hnow h
  · exact exists_writes op n hletter
  · intro raw hraw
    constructor
    · rintro ⟨clause, hparse⟩
      exact ((parse_of_writes hletter hraw).mp hparse).1
    · exact fun hfits => ⟨_, (parse_of_writes hletter hraw).mpr ⟨hfits, rfl⟩⟩
  · intro n raw raw' raw'' window least next hwindow hleast hnext hparse hparse' hparse''
    obtain ⟨-, rfl⟩ := (parse_of_writes hletter hwindow).mp hparse
    obtain ⟨-, rfl⟩ := (parse_of_writes hletter hleast).mp hparse'
    obtain ⟨hfits, rfl⟩ := (parse_of_writes hletter hnext).mp hparse''
    exact accepts_window hfits now
  · intro modified h age
    have hunit : 0 < unit := (of_seconds? hletter).2.1
    have hwidth : 0 < (unit : Int) * Instant.second := by
      have hsecond : 0 < Instant.second := by decide
      positivity
    have hfloor (n : Nat) (raw : Text) (clause : AgeClause) (hwrites : Writes .eq n letter raw)
        (hparse : parse raw now = .ok clause) :
        clause.accepts (some modified) = true ↔ (n : Int) = age / (unit * Instant.second) := by
      obtain ⟨-, rfl⟩ := (parse_of_writes hletter hwrites).mp hparse
      rw [accepts_iff hnow h]
      exact asks_window_iff hunit now
    refine ⟨fun n raw clause hwrites hparse => ?_, fun hage => ?_⟩
    · rw [hfloor n raw clause hwrites hparse]
      refine ⟨fun heq => ⟨?_, heq⟩, And.right⟩
      exact (Int.ediv_nonneg_iff_of_pos hwidth).mp (heq ▸ Int.natCast_nonneg n)
    · have hnonneg : 0 ≤ age / (unit * Instant.second) := Int.ediv_nonneg hage hwidth.le
      obtain ⟨n, hn⟩ := Int.eq_ofNat_of_zero_le hnonneg
      have hle : (n : Int) * (unit * Instant.second) ≤ age := by
        rw [← Int.le_ediv_iff_mul_le hwidth, hn]
      obtain ⟨raw, hraw⟩ := exists_writes .eq n hletter
      have hparse : parse raw now = .ok ⟨.eq, n * unit, unit, now⟩ :=
        (parse_of_writes hletter hraw).mpr ⟨units_le_limit hnow h hle, rfl⟩
      refine ⟨n, ⟨raw, _, hraw, hparse, (hfloor n raw _ hraw hparse).mpr hn.symm⟩, ?_⟩
      rintro m ⟨raw', clause, hraw', hparse', haccepts⟩
      have hm := (hfloor m raw' clause hraw' hparse').mp haccepts
      omega

/-- An age of one hour, to the nanosecond, lies in the window of one hour, which is written with a zero too many
and a blank. -/
theorem accepts_exact_windows_hourAgo :
    let now : Instant := ⟨1800000000, 7⟩
    let hourAgo : Instant := ⟨1799996400, 7⟩
    now.Ordinary ∧ hourAgo.Ordinary ∧
      ∃ clause, parse (Text.of "= 01H") now = .ok clause ∧ clause.accepts (some hourAgo) = true := by
  intro now hourAgo
  have hnow : now.Ordinary := ⟨by decide, by decide⟩
  have hago : hourAgo.Ordinary := ⟨by decide, by decide⟩
  have hparse : parse (Text.of "= 01H") now = .ok ⟨.eq, 3600, 3600, now⟩ := rfl
  have hwrites : Writes .eq 1 'H' (Text.of "= 01H") :=
    ⟨['='], by decide, ['0', '1'], ⟨by decide, by simp⟩, by decide, by decide⟩
  obtain ⟨-, -, hages⟩ := (accepts_exact_windows now hnow).2 'H' 3600 rfl
  obtain ⟨hwindow, -⟩ := hages hourAgo hago
  exact ⟨hnow, hago, _, hparse, (hwindow 1 _ _ hwrites hparse).mpr ⟨by decide, by decide⟩⟩

end AgeClause

end ObjectListing
