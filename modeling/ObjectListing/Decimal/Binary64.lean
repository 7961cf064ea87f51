/-!
Numbers of binary floating point with 53 bits, without their sign: a whole number times a power of two,
neither too large nor too fine. `nearest?` rounds a fraction to the nearest of them; the products and
quotients of such numbers are rounded the same way.
-/

namespace ObjectListing

/-- The number `significand * 2 ^ exponent`. -/
structure Binary64 where
  significand : Nat
  exponent : Int
  deriving DecidableEq, Repr

namespace Binary64

/-- The bits of a significand. -/
def precision : Nat := 53

/-- The exponent of the finest numbers. -/
def leastExponent : Int := -1074

/-- The exponent of the largest numbers. -/
def mostExponent : Int := 971

/-- No number at all. -/
def zero : Binary64 := ⟨0, leastExponent⟩

/-- The fraction that a number is: numerator and denominator. -/
def fraction (x : Binary64) : Nat × Nat :=
  (x.significand * Nat.pow 2 x.exponent.toNat, Nat.pow 2 (-x.exponent).toNat)

/-- A quotient rounded to the nearest whole number; a tie goes to the even one. -/
def roundedQuotient (num den : Nat) : Nat :=
  let q := num / den
  let twice := 2 * (num % den)
  if twice < den || (twice = den && q % 2 = 0) then q else q + 1

/-- A fraction in units of `2 ^ exponent`, as a fraction. -/
def inUnits (num den : Nat) (exponent : Int) : Nat × Nat :=
  (num * Nat.pow 2 (-exponent).toNat, den * Nat.pow 2 exponent.toNat)

/-- The exponent of the units in which a fraction is rounded: the whole units in it fill the bits, as
far as there are units so fine. -/
def exponentOf (num den : Nat) : Int :=
  let least := max ((Nat.log2 num : Int) - Nat.log2 den - precision) leastExponent
  let (n, d) := inUnits num den least
  if n / d < Nat.pow 2 precision then least else least + 1

/-- The number nearest to a fraction, if it is not beyond all of them. -/
def nearest? (num den : Nat) : Option Binary64 :=
  if num = 0 then some zero
  else
    let exponent := exponentOf num den
    let (n, d) := inUnits num den exponent
    let significand := roundedQuotient n d
    let x : Binary64 :=
      if significand < Nat.pow 2 precision then ⟨significand, exponent⟩
      else ⟨significand / 2, exponent + 1⟩
    if x.exponent ≤ mostExponent then some x else none

/-- The rounded product. -/
def times? (x y : Binary64) : Option Binary64 :=
  let (n, d) := x.fraction
  let (m, e) := y.fraction
  nearest? (n * m) (d * e)

/-- The rounded quotient. -/
def over? (x y : Binary64) : Option Binary64 :=
  let (n, d) := x.fraction
  let (m, e) := y.fraction
  nearest? (n * e) (d * m)

/-- The number nearest to a whole number. -/
def ofNat? (n : Nat) : Option Binary64 := nearest? n 1

end Binary64

end ObjectListing
