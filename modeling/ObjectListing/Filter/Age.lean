import ObjectListing.Error
import ObjectListing.Filter.Comparator
import ObjectListing.Text.Blank
import ObjectListing.Text.Digit
import ObjectListing.Text.Lowercase
import ObjectListing.Time.Instant
import ObjectListing.Time.Span

/-!
Age clauses: how long ago an object was modified, as `>1D` or `1D12H`. Equality asks for an age in a
window that begins at the threshold and is as wide as the smallest unit of the clause, so that the
windows of the whole numbers of a unit lie side by side.
-/

namespace ObjectListing

/-- What an age clause asks, at the moment `now`; threshold and width are in seconds. -/
structure AgeClause where
  op : Comparator
  threshold : Nat
  granularity : Nat
  now : Instant
  deriving DecidableEq, Repr

/-- Why a text is no age clause. -/
inductive AgeFault
  | shape
  | outOfRange
  deriving DecidableEq, Repr

/-- The fault in words, about the text as it was given. -/
def AgeFault.detail (raw : Text) : AgeFault → String
  | shape => s!"invalid mtime filter '{raw.str}' (expected e.g. '>1D', '<30M' or '1D12H')"
  | outOfRange => s!"mtime '{raw.str}' is out of range"

namespace AgeClause

/-- The largest threshold, in seconds: its milliseconds still fit in 63 bits. -/
def limit : Nat := limit63 / 1000

/-- The number of seconds in a unit. -/
def unitSeconds? (c : Char) : Option Nat :=
  match Text.asciiSmall c with
  | 's' => some 1
  | 'm' => some 60
  | 'h' => some 3600
  | 'd' => some 86400
  | 'w' => some (7 * 86400)
  | 'y' => some (365 * 86400)
  | _ => none

/-- Whether a text is made of numbers with units; `pending` tells whether there are digits before it
that wait for their unit. -/
def isBodyFrom (pending : Bool) : Text → Bool
  | [] => !pending
  | c :: cs =>
    if isDecimalDigit c then isBodyFrom true cs
    else pending && (unitSeconds? c).isSome && isBodyFrom false cs

/-- Whether a text is one or more numbers with units. -/
def isBody (t : Text) : Bool := !t.isEmpty && isBodyFrom false t

/-- The numbers with units that are found in a text, from left to right; whatever belongs to none of them
is passed over. `digits` holds the digits right before the text, last one first. -/
def termsFrom (digits : Text) : Text → List (Text × Nat)
  | [] => []
  | c :: cs =>
    if isDecimalDigit c then termsFrom (c :: digits) cs
    else match unitSeconds? c with
      | some unit =>
        if digits.isEmpty then termsFrom [] cs else (digits.reverse, unit) :: termsFrom [] cs
      | none => termsFrom [] cs

/-- The seconds of a list of numbers with units, added to `total`. Every number, every product and every
sum on the way has to fit in 63 bits. -/
def totalFrom? (total : Nat) : List (Text × Nat) → Option Nat
  | [] => some total
  | (digits, unit) :: terms =>
    (Text.naturalUpTo? limit63 digits).bind fun n =>
      if n * unit ≤ limit63 ∧ total + n * unit ≤ limit63 then totalFrom? (total + n * unit) terms
      else none

/-- The smallest unit of a list of numbers with units. -/
def finest (terms : List (Text × Nat)) : Nat :=
  terms.foldl (fun least term => min least term.2) limit63

/-- Reads a text that has no blanks. -/
def parseStripped (t : Text) (now : Instant) : Except AgeFault AgeClause :=
  let (op, body) := Comparator.split t
  if !isBody body then .error .shape
  else
    let terms := termsFrom [] body
    match totalFrom? 0 terms with
    | none => .error .outOfRange
    | some seconds =>
      if limit < seconds then .error .outOfRange
      else if limit < finest terms then .error .shape
      else .ok ⟨op, seconds, finest terms, now⟩

/-- Reads an age clause; ages are taken at `now`. -/
def parse (raw : Text) (now : Instant) : Except StoreError AgeClause :=
  match parseStripped raw.stripped now with
  | .ok clause => .ok clause
  | .error fault => .error (.invalidFilter (fault.detail raw))

/-- Whether an age in nanoseconds satisfies the clause. A window that would end too late for a span has no
end. -/
def acceptsAge (clause : AgeClause) (age : Int) : Bool :=
  let least : Int := clause.threshold * Instant.second
  match clause.op with
  | .eq => least ≤ age &&
      (Span.checked? (least + clause.granularity * Instant.second)).all fun upper => age < upper
  | op => op.holds age least

/-- Whether a modification time satisfies the clause; a missing time satisfies none. Instants with a date
are never too far apart for a span. -/
def accepts (clause : AgeClause) : Option Instant → Bool
  | some modified => (clause.now.since? modified).any clause.acceptsAge
  | none => false

/-- The clause as logs show it. -/
def description (clause : AgeClause) : String :=
  s!"mtime{clause.op.symbol}{Span.inWords clause.threshold}"

end AgeClause

end ObjectListing
