import ObjectListing.Error
import ObjectListing.Filter.Comparator
import ObjectListing.Text.Blank
import ObjectListing.Text.Digit
import ObjectListing.Text.Lowercase

/-!
Size clauses: a comparison with a number of bytes, as `>100K`, or a range with both ends in it, as
`1M-5M`. Units are powers of 1024; blanks do not count.
-/

namespace ObjectListing

/-- What a size clause asks of a size. -/
inductive SizeClause
  | compare (op : Comparator) (bytes : Nat)
  | range (lo hi : Nat)
  deriving DecidableEq, Repr

/-- Why a text is no size clause. -/
inductive SizeFault
  | shape
  | outOfRange
  | emptyRange
  deriving DecidableEq, Repr

/-- The fault in words, about the text as it was given. -/
def SizeFault.detail (raw : Text) : SizeFault → String
  | shape => s!"invalid size filter '{raw.str}' (expected e.g. '>100K', '<=2G' or '1M-5M')"
  | outOfRange => s!"size '{raw.str}' is out of range"
  | emptyRange => s!"size range '{raw.str}' has its lower bound above its upper bound"

/-- A written number of bytes: its digits and the value of its unit. -/
structure Quantity where
  digits : Text
  unit : Nat
  deriving DecidableEq, Repr

namespace Quantity

/-- The number of bytes in a unit. -/
def unitBytes? (c : Char) : Option Nat :=
  match Text.asciiSmall c with
  | 'b' => some 1
  | 'k' => some 1024
  | 'm' => some (Nat.pow 1024 2)
  | 'g' => some (Nat.pow 1024 3)
  | 't' => some (Nat.pow 1024 4)
  | _ => none

/-- Takes a quantity off the front of a text: digits, at least one, and a unit if there is one. -/
def split? (t : Text) : Option (Quantity × Text) :=
  let digits := t.takeWhile isDecimalDigit
  let rest := t.dropWhile isDecimalDigit
  if digits.isEmpty then none
  else match rest with
    | c :: cs =>
      match unitBytes? c with
      | some unit => some (⟨digits, unit⟩, cs)
      | none => some (⟨digits, 1⟩, rest)
    | [] => some (⟨digits, 1⟩, rest)

/-- The bytes of a quantity, when they can be counted in 64 bits. -/
def bytes? (q : Quantity) : Option Nat :=
  (Text.naturalUpTo? limit64 q.digits).bind fun n =>
    if n * q.unit ≤ limit64 then some (n * q.unit) else none

end Quantity

namespace SizeClause

/-- The two quantities of a range. -/
def splitRange? (t : Text) : Option (Quantity × Quantity) :=
  match Quantity.split? t with
  | some (lo, '-' :: rest) =>
    match Quantity.split? rest with
    | some (hi, []) => some (lo, hi)
    | _ => none
  | _ => none

/-- The operator and the quantity of a comparison. -/
def splitCompare? (t : Text) : Option (Comparator × Quantity) :=
  let (op, body) := Comparator.split t
  match Quantity.split? body with
  | some (q, []) => some (op, q)
  | _ => none

/-- Reads a text that has no blanks. -/
def parseStripped (t : Text) : Except SizeFault SizeClause :=
  match splitRange? t with
  | some (lo, hi) =>
    match lo.bytes?, hi.bytes? with
    | some lo, some hi => if hi < lo then .error .emptyRange else .ok (.range lo hi)
    | _, _ => .error .outOfRange
  | none =>
    match splitCompare? t with
    | none => .error .shape
    | some (op, q) =>
      match q.bytes? with
      | some n => .ok (.compare op n)
      | none => .error .outOfRange

/-- Reads a size clause. -/
def parse (raw : Text) : Except StoreError SizeClause :=
  match parseStripped raw.stripped with
  | .ok clause => .ok clause
  | .error fault => .error (.invalidFilter (fault.detail raw))

/-- Whether a size satisfies the clause. -/
def accepts (clause : SizeClause) (size : Nat) : Bool :=
  match clause with
  | compare op bytes => op.holds size bytes
  | range lo hi => lo ≤ size && size ≤ hi

/-- The clause as logs show it. -/
def description : SizeClause → String
  | compare op bytes => s!"size{op.symbol}{bytes}"
  | range lo hi => s!"size[{lo}..={hi}]"

end SizeClause

end ObjectListing
