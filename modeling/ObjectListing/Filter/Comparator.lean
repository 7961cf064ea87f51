import ObjectListing.Text.Basic

/-!
Comparators: the operator in front of the number of a size or age clause. A clause without one asks
for equality.
-/

namespace ObjectListing

/-- A comparison with a threshold. -/
inductive Comparator
  | eq
  | lt
  | gt
  | le
  | ge
  deriving DecidableEq, Repr

namespace Comparator

/-- The operator as it is written. -/
def symbol : Comparator → String
  | eq => "="
  | lt => "<"
  | gt => ">"
  | le => "<="
  | ge => ">="

/-- Takes the operator off the front of a text. -/
def split : Text → Comparator × Text
  | '<' :: '=' :: t => (le, t)
  | '>' :: '=' :: t => (ge, t)
  | '=' :: t => (eq, t)
  | '<' :: t => (lt, t)
  | '>' :: t => (gt, t)
  | t => (eq, t)

/-- Whether a number compares so with the threshold. -/
def holds (op : Comparator) (value threshold : Int) : Bool :=
  match op with
  | eq => value == threshold
  | lt => value < threshold
  | gt => value > threshold
  | le => value ≤ threshold
  | ge => value ≥ threshold

end Comparator

end ObjectListing
