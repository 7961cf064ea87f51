import ObjectListing.Filter.Spec

/-!
Reading filters. A clause takes effect with one text, the one that is given or the first of a list
(`FilterValue.effective`); a specification without texts in effect has no clauses. Reading a specification fails at
the first clause whose text cannot be read, and otherwise gives the conjunction of the clauses that are in effect
(`FilterSpec.compile_conjunction`): the texts behind the first of a list are never looked at.
-/

namespace ObjectListing

namespace FilterValue

/-- The text that a clause takes effect with. -/
def effective : Option FilterValue → Option Text
  | none => none
  | some (.single text) => some text
  | some (.list []) => none
  | some (.list (text :: _)) => some text

/-- A clause in which only the text that takes effect is left. -/
def settled (value : Option FilterValue) : Option FilterValue := (effective value).map .single

variable {α : Type} {read : Text → Except StoreError α} {value : Option FilterValue} {clause : Option α}
  {e : StoreError}

theorem bind_first? (value : Option FilterValue) : value.bind first? = effective value := by
  rcases value with - | text | - | ⟨text, later⟩ <;> rfl

theorem any_counts (value : Option FilterValue) : value.any counts = (effective value).isSome := by
  rcases value with - | text | - | ⟨text, later⟩ <;> rfl

@[simp] theorem effective_settled (value : Option FilterValue) : effective (settled value) = effective value := by
  rw [settled]
  cases effective value <;> rfl

/-- A clause is refused for a reason: the text that it takes effect with cannot be read. -/
def Refused (read : Text → Except StoreError α) (value : Option FilterValue) (e : StoreError) : Prop :=
  ∃ text, effective value = some text ∧ read text = .error e

theorem readClause_eq_error_iff : readClause read value = .error e ↔ Refused read value e := by
  rw [readClause, bind_first?, Refused]
  cases effective value with
  | none => simp
  | some text => cases hread : read text <;> simp [hread, Except.map]

/-- A clause that is not refused is read. -/
theorem exists_readClause (h : ∀ e, ¬Refused read value e) : ∃ clause, readClause read value = .ok clause := by
  cases hread : readClause read value with
  | error e => exact absurd (readClause_eq_error_iff.mp hread) (h e)
  | ok clause => exact ⟨clause, rfl⟩

theorem not_refused_of_readClause (h : readClause read value = .ok clause) (e : StoreError) :
    ¬Refused read value e := by
  intro hrefused
  rw [readClause_eq_error_iff.mpr hrefused] at h
  cases h

/-- What is read is the clause of the text in effect, and none without such a text. -/
theorem of_readClause (h : readClause read value = .ok clause) :
    (effective value = none ∧ clause = none) ∨
      ∃ text one, effective value = some text ∧ read text = .ok one ∧ clause = some one := by
  rw [readClause, bind_first?] at h
  cases heffective : effective value with
  | none =>
    rw [heffective] at h
    cases h
    exact .inl ⟨rfl, rfl⟩
  | some text =>
    rw [heffective] at h
    cases hread : read text with
    | error e =>
      replace h : (read text).map some = .ok clause := h
      rw [hread] at h
      cases h
    | ok one =>
      replace h : (read text).map some = .ok clause := h
      rw [hread] at h
      cases h
      exact .inr ⟨text, one, rfl, hread, rfl⟩

theorem isNone_of_readClause (h : readClause read value = .ok clause) : clause.isNone = !value.any counts := by
  rw [any_counts]
  rcases of_readClause h with ⟨hnone, rfl⟩ | ⟨text, one, hsome, -, rfl⟩
  · rw [hnone]; rfl
  · rw [hsome]; rfl

/-- A clause that was read lets through what the clause of the text in effect lets through. -/
theorem all_of_readClause (h : readClause read value = .ok clause) (accepts : α → Bool) :
    clause.all accepts = true ↔
      ∀ text, effective value = some text → ∃ one, read text = .ok one ∧ accepts one = true := by
  rcases of_readClause h with ⟨hnone, rfl⟩ | ⟨text, one, hsome, hread, rfl⟩
  · simp [hnone]
  · simp [hsome, hread]

end FilterValue

namespace FilterSpec

open FilterValue

variable {spec other : FilterSpec} {now : Instant} {filter : Filter} {e : StoreError}

/-- The name clause is refused for this reason. -/
def NameRefused (spec : FilterSpec) : StoreError → Prop :=
  FilterValue.Refused (NameClause.parse · spec.caseInsensitive) spec.name

/-- The size clause is refused for this reason. -/
def SizeRefused (spec : FilterSpec) : StoreError → Prop := FilterValue.Refused SizeClause.parse spec.size

/-- The age clause is refused for this reason. -/
def AgeRefused (spec : FilterSpec) (now : Instant) : StoreError → Prop :=
  FilterValue.Refused (AgeClause.parse · now) spec.mtime

/-- Some clause is refused, for this reason. -/
inductive Refused (spec : FilterSpec) (now : Instant) (e : StoreError) : Prop
  | name : spec.NameRefused e → Refused spec now e
  | size : spec.SizeRefused e → Refused spec now e
  | age : spec.AgeRefused now e → Refused spec now e

/-- The first clause that is refused, in the order name, size, age, is refused for this reason. -/
inductive FirstRefused (spec : FilterSpec) (now : Instant) (e : StoreError) : Prop
  | name : spec.NameRefused e → FirstRefused spec now e
  | size : (∀ e, ¬spec.NameRefused e) → spec.SizeRefused e → FirstRefused spec now e
  | age : (∀ e, ¬spec.NameRefused e) → (∀ e, ¬spec.SizeRefused e) → spec.AgeRefused now e →
      FirstRefused spec now e

/-- Every clause that is in effect holds for an entry. -/
structure Holds (spec : FilterSpec) (now : Instant) (entry : ObjectEntry) : Prop where
  name : ∀ text, effective spec.name = some text →
    ∃ clause, NameClause.parse text spec.caseInsensitive = .ok clause ∧ clause.accepts entry.baseName = true
  size : ∀ text, effective spec.size = some text →
    ∃ clause, SizeClause.parse text = .ok clause ∧ clause.accepts entry.size = true
  age : ∀ text, effective spec.mtime = some text →
    ∃ clause, AgeClause.parse text now = .ok clause ∧ clause.accepts entry.modified = true

/-- Two specifications with the same texts in effect. -/
structure Alike (spec other : FilterSpec) : Prop where
  name : effective spec.name = effective other.name
  size : effective spec.size = effective other.size
  mtime : effective spec.mtime = effective other.mtime
  caseInsensitive : spec.caseInsensitive = other.caseInsensitive

/-- The specification in which every list gives way to the text that takes effect. -/
def settled (spec : FilterSpec) : FilterSpec :=
  ⟨FilterValue.settled spec.name, FilterValue.settled spec.size, FilterValue.settled spec.mtime,
    spec.caseInsensitive⟩

theorem alike_settled (spec : FilterSpec) : spec.settled.Alike spec := by
  constructor <;> simp [settled]

/-! ### Reading clause by clause -/

/-- A filter comes out when each of its clauses was read. -/
theorem compile_eq_ok_iff : spec.compile now = .ok filter ↔
    spec.nameClause = .ok filter.name ∧ spec.sizeClause = .ok filter.size ∧
      spec.ageClause now = .ok filter.age := by
  rw [compile]
  cases spec.nameClause with
  | error e => simp
  | ok name =>
    cases spec.sizeClause with
    | error e => simp
    | ok size =>
      cases spec.ageClause now with
      | error e => simp
      | ok age => cases filter; simp

theorem compile_eq_error_iff : spec.compile now = .error e ↔ spec.FirstRefused now e := by
  constructor
  · intro h
    rw [compile] at h
    cases hname : spec.nameClause with
    | error e' =>
      rw [hname] at h
      cases h
      exact .name (readClause_eq_error_iff.mp hname)
    | ok name =>
      cases hsize : spec.sizeClause with
      | error e' =>
        rw [hname, hsize] at h
        cases h
        exact .size (not_refused_of_readClause hname) (readClause_eq_error_iff.mp hsize)
      | ok size =>
        cases hage : spec.ageClause now with
        | error e' =>
          rw [hname, hsize, hage] at h
          cases h
          exact .age (not_refused_of_readClause hname) (not_refused_of_readClause hsize)
            (readClause_eq_error_iff.mp hage)
        | ok age => rw [hname, hsize, hage] at h; cases h
  · rintro (hname | ⟨hname, hsize⟩ | ⟨hname, hsize, hage⟩)
    · have hnameClause : spec.nameClause = .error e := readClause_eq_error_iff.mpr hname
      rw [compile, hnameClause]
    · obtain ⟨name, hnameClause⟩ : ∃ name, spec.nameClause = .ok name := exists_readClause hname
      have hsizeClause : spec.sizeClause = .error e := readClause_eq_error_iff.mpr hsize
      rw [compile, hnameClause, hsizeClause]
    · obtain ⟨name, hnameClause⟩ : ∃ name, spec.nameClause = .ok name := exists_readClause hname
      obtain ⟨size, hsizeClause⟩ : ∃ size, spec.sizeClause = .ok size := exists_readClause hsize
      have hageClause : spec.ageClause now = .error e := readClause_eq_error_iff.mpr hage
      rw [compile, hnameClause, hsizeClause, hageClause]

theorem FirstRefused.refused (h : spec.FirstRefused now e) : spec.Refused now e := by
  rcases h with hname | ⟨-, hsize⟩ | ⟨-, -, hage⟩
  · exact .name hname
  · exact .size hsize
  · exact .age hage

/-- What is read refuses nothing. -/
theorem not_refused_of_compile (h : spec.compile now = .ok filter) (e : StoreError) : ¬spec.Refused now e := by
  obtain ⟨hname, hsize, hage⟩ := compile_eq_ok_iff.mp h
  rintro (hrefused | hrefused | hrefused)
  · exact not_refused_of_readClause hname e hrefused
  · exact not_refused_of_readClause hsize e hrefused
  · exact not_refused_of_readClause hage e hrefused

/-- Reading fails exactly when a clause in effect is refused. -/
theorem exists_compile_error_iff : (∃ e, spec.compile now = .error e) ↔ ∃ e, spec.Refused now e := by
  constructor
  · rintro ⟨e, h⟩
    exact ⟨e, (compile_eq_error_iff.mp h).refused⟩
  · rintro ⟨e, hrefused⟩
    cases h : spec.compile now with
    | error e => exact ⟨e, rfl⟩
    | ok filter => exact absurd hrefused (not_refused_of_compile h e)

theorem accepts_of_compile (h : spec.compile now = .ok filter) (entry : ObjectEntry) :
    filter.accepts entry = true ↔ spec.Holds now entry := by
  obtain ⟨hname, hsize, hage⟩ := compile_eq_ok_iff.mp h
  rw [Filter.accepts, Bool.and_eq_true, Bool.and_eq_true, all_of_readClause hname, all_of_readClause hsize,
    all_of_readClause hage]
  constructor
  · rintro ⟨⟨hname, hsize⟩, hage⟩
    exact ⟨hname, hsize, hage⟩
  · rintro ⟨hname, hsize, hage⟩
    exact ⟨⟨hname, hsize⟩, hage⟩

theorem isEmpty_of_compile (h : spec.compile now = .ok filter) : filter.isEmpty = spec.isEmpty := by
  obtain ⟨hname, hsize, hage⟩ := compile_eq_ok_iff.mp h
  rw [Filter.isEmpty, isNone_of_readClause hname, isNone_of_readClause hsize, isNone_of_readClause hage, isEmpty,
    Bool.not_or, Bool.not_or]

/-- Only the texts in effect are read. -/
theorem Alike.compile_eq (h : spec.Alike other) (now : Instant) : spec.compile now = other.compile now := by
  simp only [compile, nameClause, sizeClause, ageClause, readClause, bind_first?, h.name, h.size, h.mtime,
    h.caseInsensitive]

theorem Alike.isEmpty_eq (h : spec.Alike other) : spec.isEmpty = other.isEmpty := by
  simp only [isEmpty, any_counts, h.name, h.size, h.mtime]

/-- A specification without clauses is read as the filter without clauses. -/
theorem compile_of_isEmpty (h : spec.isEmpty = true) (now : Instant) : spec.compile now = .ok {} := by
  simp only [isEmpty, any_counts, Bool.not_eq_true', Bool.or_eq_false_iff, Option.isSome_eq_false_iff,
    Option.isNone_iff_eq_none] at h
  obtain ⟨⟨hname, hsize⟩, hmtime⟩ := h
  have hbare : spec.Alike { caseInsensitive := spec.caseInsensitive } := ⟨hname, hsize, hmtime, rfl⟩
  rw [hbare.compile_eq now]
  rfl

/-! ### The conjunction of the clauses in effect -/

/-- A specification is read as the conjunction of its clauses in effect. Reading fails exactly when one of them cannot
be read, with the error of the first; else the filter accepts the entries for which each of them holds, and has no
clauses exactly when none is in effect. What stands in a list behind its first text makes no difference. -/
theorem compile_conjunction (spec : FilterSpec) (now : Instant) :
    (∀ e, spec.compile now = .error e ↔ spec.FirstRefused now e) ∧
    ((∃ e, spec.compile now = .error e) ↔ ∃ e, spec.Refused now e) ∧
    ((∀ e, ¬spec.Refused now e) → ∃ filter, spec.compile now = .ok filter ∧
      (∀ entry, filter.accepts entry = true ↔ spec.Holds now entry) ∧ filter.isEmpty = spec.isEmpty) ∧
    spec.settled.compile now = spec.compile now ∧
    ∀ other : FilterSpec, other.Alike spec →
      other.compile now = spec.compile now ∧ other.isEmpty = spec.isEmpty := by
  refine ⟨fun e => compile_eq_error_iff, exists_compile_error_iff, ?_, (alike_settled spec).compile_eq now, ?_⟩
  · intro hread
    cases h : spec.compile now with
    | error e => exact absurd (compile_eq_error_iff.mp h).refused (hread e)
    | ok filter => exact ⟨filter, rfl, accepts_of_compile h, isEmpty_of_compile h⟩
  · intro other halike
    exact ⟨halike.compile_eq now, halike.isEmpty_eq⟩

/-- A pattern that is not closed is not read behind one that is. -/
theorem compile_conjunction_unclosedBehind :
    (∀ e, ¬Refused { name := some (.list [['*'], ['[']]), size := some (.list []) } {} e) ∧
      (∃ e, Refused { name := some (.single ['[']) } {} e) ∧
      ∃ filter, compile { name := some (.list [['*'], ['[']]), size := some (.list []) } {} = .ok filter ∧
        filter.isEmpty = false := by
  have hread : ∀ e, ¬Refused { name := some (.list [['*'], ['[']]), size := some (.list []) } {} e := by
    rintro e (⟨text, hname, herror⟩ | ⟨text, hsize, -⟩ | ⟨text, hmtime, -⟩)
    · cases hname
      cases herror
    · cases hsize
    · cases hmtime
  obtain ⟨filter, hfilter, -, hempty⟩ := (compile_conjunction _ _).2.2.1 hread
  exact ⟨hread, ⟨_, .name ⟨['['], rfl, rfl⟩⟩, filter, hfilter, hempty⟩

end FilterSpec

end ObjectListing
