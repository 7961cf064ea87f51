import ObjectListing.Entry
import ObjectListing.Event
import ObjectListing.Filter.Age
import ObjectListing.Filter.Name
import ObjectListing.Filter.Size

/-!
Filters. A `FilterSpec` is what a caller asks for in words; `FilterSpec.compile` reads its clauses once
and gives a `Filter`, the conjunction of them. A clause may be given as a list of texts, of which only
the first counts.
-/

namespace ObjectListing

/-- A clause as callers give it. -/
inductive FilterValue
  | single (text : Text)
  | list (texts : List Text)
  deriving DecidableEq, Repr

namespace FilterValue

/-- The text that counts; an empty list has none. -/
def first? : FilterValue → Option Text
  | single text => some text
  | list texts => texts.head?

/-- Whether a value stands for a clause; a list without texts stands for none. -/
def counts : FilterValue → Bool
  | single _ => true
  | list texts => !texts.isEmpty

/-- What is reported when the clause with this name is read: texts that do not count. -/
def notices (name : String) : FilterValue → List Event
  | list (used :: dropped) =>
    if dropped.isEmpty then [] else [.filterListShortened name used dropped.length]
  | _ => []

end FilterValue

/-- The clauses that a caller asks for. -/
structure FilterSpec where
  name : Option FilterValue := none
  size : Option FilterValue := none
  mtime : Option FilterValue := none
  caseInsensitive : Bool := false
  deriving DecidableEq, Repr

/-- The conjunction of compiled clauses. -/
structure Filter where
  name : Option NameClause := none
  size : Option SizeClause := none
  age : Option AgeClause := none
  deriving DecidableEq, Repr

namespace Filter

/-- Whether there is no clause. -/
def isEmpty (f : Filter) : Bool := f.name.isNone && f.size.isNone && f.age.isNone

/-- Whether an entry satisfies every clause. -/
def accepts (f : Filter) (e : ObjectEntry) : Bool :=
  f.name.all (·.accepts e.baseName) && f.size.all (·.accepts e.size) &&
    f.age.all (·.accepts e.modified)

/-- The filter as logs show it. -/
def description (f : Filter) : String :=
  let parts := (f.name.map (·.description)).toList ++ (f.size.map (·.description)).toList ++
    (f.age.map (·.description)).toList
  if parts.isEmpty then "all" else " AND ".intercalate parts

end Filter

/-- Reads the clause that a value stands for, if it stands for one. -/
def readClause {α : Type} (read : Text → Except StoreError α) (value : Option FilterValue) :
    Except StoreError (Option α) :=
  match value.bind FilterValue.first? with
  | none => .ok none
  | some text => (read text).map some

namespace FilterSpec

/-- Whether no clause counts. -/
def isEmpty (spec : FilterSpec) : Bool :=
  !(spec.name.any (·.counts) || spec.size.any (·.counts) || spec.mtime.any (·.counts))

/-- The name clause of a specification. -/
def nameClause (spec : FilterSpec) : Except StoreError (Option NameClause) :=
  readClause (NameClause.parse · spec.caseInsensitive) spec.name

/-- The size clause of a specification. -/
def sizeClause (spec : FilterSpec) : Except StoreError (Option SizeClause) :=
  readClause SizeClause.parse spec.size

/-- The age clause of a specification; ages are taken at `now`. -/
def ageClause (spec : FilterSpec) (now : Instant) : Except StoreError (Option AgeClause) :=
  readClause (AgeClause.parse · now) spec.mtime

/-- Reads the clauses: name, then size, then age. The first that cannot be read is the failure. -/
def compile (spec : FilterSpec) (now : Instant) : Except StoreError Filter :=
  match spec.nameClause with
  | .error e => .error e
  | .ok name =>
    match spec.sizeClause with
    | .error e => .error e
    | .ok size =>
      match spec.ageClause now with
      | .error e => .error e
      | .ok age => .ok ⟨name, size, age⟩

/-- What is reported while the clauses are read, up to the first that cannot be read. -/
def notices (spec : FilterSpec) : List Event :=
  let about := fun (name : String) (value : Option FilterValue) =>
    match value with
    | some value => value.notices name
    | none => []
  about "name" spec.name ++
    match spec.nameClause with
    | .error _ => []
    | .ok _ =>
      about "size" spec.size ++
        match spec.sizeClause with
        | .error _ => []
        | .ok _ => about "mtime" spec.mtime

/-- The specification with the clauses of a dictionary; every name must be one of a clause. -/
def ofFields : List (Text × FilterValue) → FilterSpec → Except StoreError FilterSpec
  | [], spec => .ok spec
  | (name, value) :: rest, spec =>
    if name = Text.of "name" then ofFields rest { spec with name := some value }
    else if name = Text.of "size" then ofFields rest { spec with size := some value }
    else if name = Text.of "mtime" then ofFields rest { spec with mtime := some value }
    else .error (.invalidFilter
      s!"unknown filter key '{name.str}' (expected name, size or mtime)")

end FilterSpec

end ObjectListing
