/-!
What can go wrong, by cause. Only a transient failure is worth another attempt; the others are final.
-/

namespace ObjectListing

/-- A failure of an operation, with what it says about itself. -/
inductive StoreError
  | invalidUri (uri reason : String)
  | invalidFilter (detail : String)
  | notFound (detail : String)
  | accessDenied (detail : String)
  | transient (detail : String)
  | malformed (detail : String)
  | cancelled
  deriving DecidableEq, Repr

namespace StoreError

/-- The label of the cause. -/
def kind : StoreError → String
  | invalidUri .. => "invalid_uri"
  | invalidFilter _ => "invalid_filter"
  | notFound _ => "not_found"
  | accessDenied _ => "access_denied"
  | transient _ => "transient"
  | malformed _ => "malformed"
  | cancelled => "cancelled"

/-- The failure in words. -/
def message : StoreError → String
  | invalidUri uri reason => s!"invalid URI '{uri}': {reason}"
  | invalidFilter detail => s!"invalid filter: {detail}"
  | notFound detail => s!"not found: {detail}"
  | accessDenied detail => s!"access denied: {detail}"
  | transient detail => s!"transient backend failure: {detail}"
  | malformed detail => s!"malformed backend response: {detail}"
  | cancelled => "operation cancelled"

/-- Whether another attempt may succeed. -/
def isTransient : StoreError → Bool
  | transient _ => true
  | _ => false

/-- Whether the thing asked for does not exist. -/
def isNotFound : StoreError → Bool
  | notFound _ => true
  | _ => false

/-- Whether the store answered with something that makes no sense. -/
def isMalformed : StoreError → Bool
  | malformed _ => true
  | _ => false

/-- The failure with this label; only an invalid URI needs the reason as well. -/
def ofKind? (kind detail reason : String) : Option StoreError :=
  match kind with
  | "invalid_uri" => some (.invalidUri detail reason)
  | "invalid_filter" => some (.invalidFilter detail)
  | "not_found" => some (.notFound detail)
  | "access_denied" => some (.accessDenied detail)
  | "transient" => some (.transient detail)
  | "malformed" => some (.malformed detail)
  | "cancelled" => some .cancelled
  | _ => none

end StoreError

end ObjectListing
