import ObjectListing.Decimal.Binary64

/-!
Floating point in decimal: the fewest digits that read back as the number, and of those the nearest to
it. Small and large numbers are written with an exponent.
-/

namespace ObjectListing

/-- The number `digits * 10 ^ exponent`. -/
structure Decimal where
  digits : Nat
  exponent : Int
  deriving DecidableEq, Repr

namespace Binary64

/-- The fractions around a number that read back as it, in quarters of its unit: from half a unit below
to half a unit above. Below a power of two the units are half as wide. -/
def quarters (x : Binary64) : Nat × Nat × Nat :=
  let below := if x.significand = Nat.pow 2 (precision - 1) && leastExponent < x.exponent then 1 else 2
  (4 * x.significand - below, 4 * x.significand, 4 * x.significand + 2)

/-- The factors that make a decimal with this exponent and a number of quarters with this unit
comparable: one for the digits, one for the quarters. -/
def scales (unit exponent : Int) : Nat × Nat :=
  (Nat.pow 10 exponent.toNat * Nat.pow 2 (2 - unit).toNat,
    Nat.pow 10 (-exponent).toNat * Nat.pow 2 (unit - 2).toNat)

/-- Whether a decimal reads back as the number. The ends of the range do so if the significand is
even. -/
def readsBack (x : Binary64) (d : Decimal) : Bool :=
  let (low, _, high) := x.quarters
  let (forDigits, forQuarters) := scales x.exponent d.exponent
  let value := d.digits * forDigits
  if x.significand % 2 = 0 then low * forQuarters ≤ value && value ≤ high * forQuarters
  else low * forQuarters < value && value < high * forQuarters

/-- The decimal with this exponent that stands for the number, if one does: of the two next to it the
nearer, and in a tie the even one. -/
def decimalAt? (x : Binary64) (exponent : Int) : Option Decimal :=
  let (_, middle, _) := x.quarters
  let (forDigits, forQuarters) := scales x.exponent exponent
  let lower := middle * forQuarters / forDigits
  let twice := 2 * (middle * forQuarters % forDigits)
  let lowerFirst := twice < forDigits || (twice = forDigits && lower % 2 = 0)
  let candidates : List Decimal := [⟨lower, exponent⟩, ⟨lower + 1, exponent⟩]
  (if lowerFirst then candidates else candidates.reverse).find? x.readsBack

/-- The power of ten in the first digit of a number. -/
def magnitude (x : Binary64) : Int :=
  let (n, d) := x.fraction
  if d ≤ n then (Nat.toDigits 10 (n / d)).length - 1
  else
    match (List.range 400).find? fun places => d ≤ n * Nat.pow 10 places with
    | some places => -places
    | none => 0

/-- The digits that always suffice. -/
def mostDigits : Nat := 17

/-- The shortest decimal that reads back as the number. -/
def shortest (x : Binary64) : Decimal :=
  let first := x.magnitude
  match (List.range mostDigits).findSome? fun (more : Nat) => x.decimalAt? (first - more) with
  | some d => d
  | none =>
    ⟨x.significand * Nat.pow 5 (-x.exponent).toNat * Nat.pow 2 x.exponent.toNat, min x.exponent 0⟩

/-- Digits as texts, without the zeros at their end, and the power of ten in the first of them. -/
def places (d : Decimal) : List Char × Int :=
  let digits := Nat.toDigits 10 d.digits
  ((digits.reverse.dropWhile (· = '0')).reverse, d.exponent + digits.length - 1)

/-- The powers of ten in the first digit of a number that is written without an exponent. -/
def isPlainMagnitude (magnitude : Int) : Bool := -5 ≤ magnitude && magnitude ≤ 15

/-- Writes digits of which the first stands for this power of ten: with a point, and an exponent where
the number is small or large. -/
def layOut (digits : List Char) (magnitude : Int) : String :=
  let zeros (n : Nat) : List Char := List.replicate n '0'
  let whole := magnitude.toNat + 1
  String.ofList
    (if isPlainMagnitude magnitude then
      if magnitude < 0 then ['0', '.'] ++ zeros (-magnitude - 1).toNat ++ digits
      else if digits.length ≤ whole then digits ++ zeros (whole - digits.length) ++ ['.', '0']
      else digits.take whole ++ '.' :: digits.drop whole
    else
      digits.take 1 ++ (if digits.length ≤ 1 then [] else '.' :: digits.drop 1) ++
        ['e', if magnitude < 0 then '-' else '+'] ++ Nat.toDigits 10 magnitude.natAbs)

/-- The number in decimal. -/
def text (x : Binary64) : String :=
  if x.significand = 0 then "0.0"
  else
    let (digits, magnitude) := places x.shortest
    layOut digits magnitude

end Binary64

end ObjectListing
