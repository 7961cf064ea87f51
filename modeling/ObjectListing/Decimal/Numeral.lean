import ObjectListing.Decimal.Binary64
import ObjectListing.Text.Digit

/-!
Numerals, as documents hold them: `12`, `-0.5`, `1e6`. One without a point and an exponent is a whole
number, if it fits in 64 bits, and any other is a number of floating point.

The digits of a numeral are taken for as long as they make a number of 64 bits; a digit in front of the
point that is left out still counts as a place. What they make is rounded, and then multiplied or divided
by a power of ten, each of which is rounded itself.
-/

namespace ObjectListing

/-- A number in a document. -/
inductive Number
  | integer (n : Int)
  | floating (negative : Bool) (size : Binary64)
  deriving DecidableEq, Repr

namespace Numeral

/-- The parts of a numeral: its digits before and behind the point, and its exponent, where there are a
point and an exponent. -/
structure Parts where
  whole : Text
  fraction : Option Text
  exponent : Option Int
  deriving DecidableEq, Repr

/-- The exponent that a text writes. -/
def exponent? : Text → Option Int
  | '+' :: t => (Text.natural? t).map fun n => (n : Int)
  | '-' :: t => (Text.natural? t).map fun n => -(n : Int)
  | t => (Text.natural? t).map fun n => (n : Int)

/-- Takes a numeral without its sign apart. -/
def parts? (t : Text) : Option Parts :=
  let isDigit (c : Char) : Bool := (Text.digitValue? c).isSome
  let whole := t.takeWhile isDigit
  let (fraction, rest) :=
    match t.dropWhile isDigit with
    | '.' :: rest => (some (rest.takeWhile isDigit), rest.dropWhile isDigit)
    | rest => (none, rest)
  match rest with
  | [] => some ⟨whole, fraction, none⟩
  | c :: rest =>
    if c = 'e' || c = 'E' then (exponent? rest).map fun e => ⟨whole, fraction, some e⟩ else none

/-- Takes digits behind a number for as long as 64 bits hold it: the number, and how many were taken. -/
def gather : Nat → Text → Nat × Nat
  | n, [] => (n, 0)
  | n, c :: cs =>
    match Text.digitValue? c with
    | none => (n, 0)
    | some d =>
      if 10 * n + d ≤ limit64 then
        let (n, taken) := gather (10 * n + d) cs
        (n, taken + 1)
      else (n, 0)

/-- The power of ten with this exponent, rounded. -/
def powerOfTen? (exponent : Nat) : Option Binary64 := Binary64.ofNat? (Nat.pow 10 exponent)

/-- The largest exponent of a power of ten among the numbers. -/
def mostPower : Nat := 308

/-- Divides a number by a power of ten, by the largest one first as often as it takes; nothing is left
of the number when that has been done often enough. -/
def dividedByPower : (turns exponent : Nat) → Binary64 → Option Binary64
  | 0, _, _ => some .zero
  | turns + 1, exponent, x =>
    if exponent ≤ mostPower then (powerOfTen? exponent).bind x.over?
    else ((powerOfTen? mostPower).bind x.over?).bind (dividedByPower turns (exponent - mostPower))

/-- A number times a power of ten, if the product is not beyond all numbers. -/
def scaled? (x : Binary64) (exponent : Int) : Option Binary64 :=
  if x.significand = 0 then some x
  else if 0 ≤ exponent then
    if exponent ≤ mostPower then (powerOfTen? exponent.toNat).bind x.times? else none
  else dividedByPower 4 (-exponent).toNat x

/-- The size of a numeral. -/
def size? (p : Parts) : Option Binary64 :=
  let (whole, taken) := gather 0 p.whole
  let leftOut := p.whole.length - taken
  let (significand, behind) := gather whole (p.fraction.getD [])
  let exponent : Int := p.exponent.getD 0 + leftOut - behind
  (Binary64.ofNat? significand).bind fun x => scaled? x exponent

/-- The number that the parts of a numeral make. A zero with a sign is no whole number. -/
def number? (negative : Bool) (p : Parts) : Option Number :=
  let n := (Text.natural? p.whole).getD 0
  if p.fraction.isNone && p.exponent.isNone &&
      (if negative then 0 < n && n ≤ Nat.pow 2 63 else n ≤ limit64) then
    some (.integer (if negative then -n else n))
  else (size? p).map (.floating negative)

/-- Reads a numeral; there is nothing for one that is too large. -/
def read? : Text → Option Number
  | '-' :: t => (parts? t).bind (number? true)
  | t => (parts? t).bind (number? false)

end Numeral

end ObjectListing
