import ObjectListing.Decimal.Numeral
import ObjectListing.Decimal.Shortest
import ObjectListing.Filter.Spec
import ObjectListing.Text.Quoted

/-!
Filter specifications as documents: values, lists and dictionaries, as they come from a configuration
file or a message. A clause is a text or a list of texts, null where there is none; the switch for
letter case is true or false. A specification is a dictionary, or a list in the order of its fields.
-/

namespace ObjectListing

/-- A structured value. -/
inductive Document
  | null
  | bool (b : Bool)
  | number (n : Number)
  | text (t : Text)
  | list (items : List Document)
  | fields (entries : List (Text × Document))

instance : Inhabited Document := ⟨.null⟩

namespace Document

/-- What a number is, in words. -/
def describeNumber : Number → String
  | .integer n => s!"integer `{n}`"
  | .floating negative size =>
    let sign := if negative then "-" else ""
    s!"floating point `{sign}{size.text}`"

/-- What a document is, in words. -/
def describe : Document → String
  | null => "null"
  | bool b => s!"boolean `{b}`"
  | number n => describeNumber n
  | text t => s!"string {t.quoted}"
  | list _ => "sequence"
  | fields _ => "map"

/-- The complaint that a document is not what was expected. -/
def unexpected (d : Document) (expected : String) : String :=
  s!"invalid type: {d.describe}, expected {expected}"

/-- The texts of a list that holds nothing else. -/
def texts? : List Document → Option (List Text)
  | [] => some []
  | text t :: rest => (texts? rest).map (t :: ·)
  | _ :: _ => none

/-- A clause that must be there. -/
def toValue : Document → Except String FilterValue
  | text t => .ok (.single t)
  | list items => match texts? items with
    | some texts => .ok (.list texts)
    | none => .error "data did not match any variant of untagged enum FilterValue"
  | _ => .error "data did not match any variant of untagged enum FilterValue"

/-- A clause, or null where there is none. -/
def toClause : Document → Except String (Option FilterValue)
  | null => .ok none
  | d => d.toValue.map some

/-- A switch. -/
def toSwitch : Document → Except String Bool
  | bool b => .ok b
  | d => .error (d.unexpected "a boolean")

/-- Takes the fields of a dictionary into a specification, in their order. -/
def specOfFields : List (Text × Document) → FilterSpec → Except String FilterSpec
  | [], spec => .ok spec
  | (name, d) :: rest, spec =>
    if name = Text.of "name" then do specOfFields rest { spec with name := ← d.toClause }
    else if name = Text.of "size" then do specOfFields rest { spec with size := ← d.toClause }
    else if name = Text.of "mtime" then do specOfFields rest { spec with mtime := ← d.toClause }
    else if name = Text.of "case_insensitive" then do
      specOfFields rest { spec with caseInsensitive := ← d.toSwitch }
    else .error
      (s!"unknown field `{name.str}`, expected one of " ++
        "`name`, `size`, `mtime`, `case_insensitive`")

/-- Takes the items of a list into a specification; the list has `length` items in all. -/
def specOfItems (length : Nat) : List Document → Except String FilterSpec
  | [] => .ok {}
  | [n] => do pure { name := ← n.toClause }
  | [n, s] => do pure { name := ← n.toClause, size := ← s.toClause }
  | [n, s, m] => do pure { name := ← n.toClause, size := ← s.toClause, mtime := ← m.toClause }
  | n :: s :: m :: c :: rest => do
    let spec : FilterSpec := { name := ← n.toClause, size := ← s.toClause, mtime := ← m.toClause,
                               caseInsensitive := ← c.toSwitch }
    if rest.isEmpty then pure spec
    else .error s!"invalid length {length}, expected fewer elements in array"

/-- The specification that a document is. -/
def toSpec : Document → Except String FilterSpec
  | fields entries => specOfFields entries {}
  | list items => specOfItems items.length items
  | d => .error (d.unexpected "struct FilterSpec")

/-- The clauses of a dictionary by name. -/
def toValues : Document → Except String (List (Text × FilterValue))
  | fields entries => entries.mapM fun (name, d) => d.toValue.map fun value => (name, value)
  | d => .error (d.unexpected "a map")

end Document

end ObjectListing
