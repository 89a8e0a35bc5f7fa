/-!
# Double precision numbers

A JSON number that is no integer of sixty-four bits is kept as a binary number with
fifty-three significant bits.  Its size is a whole number times a power of two,
and every operation computes the exact result first and then rounds it once, to
the nearest number, ties going to the even one.

Main definitions:

- {lit}`Magnitude`: the size of a number.
- {lit}`Magnitude.round`: the number nearest to a fraction.
- {lit}`Magnitude.ofDecimal`: the number read from digits and a power of ten.
- {lit}`Double`: a number with its sign.
-/

namespace ChefAccess
namespace Json

/-- The size of a number: {lit}`significand` times two to the power of {lit}`exponent`. -/
structure Magnitude where
  significand : Nat
  exponent : Int
  deriving DecidableEq, Repr

namespace Magnitude

/-- The exponent of the smallest numbers. -/
def minExponent : Int :=
  -1074

/-- The exponent of the largest numbers. -/
def maxExponent : Int :=
  971

/-- The first significand with fifty-three bits. -/
def fullSignificand : Nat :=
  Nat.pow 2 52

/-- The size zero. -/
def zero : Magnitude :=
  ⟨0, minExponent⟩

/-- Whether a size is zero. -/
def isZero (x : Magnitude) : Bool :=
  x.significand == 0

/-- A quotient rounded to the nearest whole number, ties going to the even one. -/
def roundDiv (num den : Nat) : Nat :=
  let quotient := num / den
  let remainder := num % den
  if den < 2 * remainder ∨ (den = 2 * remainder ∧ quotient % 2 = 1) then quotient + 1
  else quotient

/-- A fraction times a power of two, as a numerator and a denominator. -/
def scaled (num den : Nat) (power : Int) : Nat × Nat :=
  if 0 ≤ power then (num * Nat.pow 2 power.toNat, den)
  else (num, den * Nat.pow 2 (-power).toNat)

/-- The largest power of two that a positive fraction reaches. -/
def floorLog (num den : Nat) : Int :=
  let guess : Int := (num.log2 : Int) - den.log2
  let pair := scaled num den (-guess)
  if pair.2 ≤ pair.1 then guess else guess - 1

/-- The size nearest to a fraction, unless it lies beyond the largest one. -/
def round (num den : Nat) : Option Magnitude :=
  if num = 0 then some zero
  else
    let exponent := max minExponent (floorLog num den - 52)
    let pair := scaled num den (-exponent)
    let significand := roundDiv pair.1 pair.2
    let result : Magnitude :=
      if significand = 2 * fullSignificand then ⟨fullSignificand, exponent + 1⟩
      else ⟨significand, exponent⟩
    if maxExponent < result.exponent then none else some result

/-- A size as a numerator and a denominator. -/
def fraction (x : Magnitude) : Nat × Nat :=
  scaled x.significand 1 x.exponent

/-- The product of two sizes, unless it is too large. -/
def mul (x y : Magnitude) : Option Magnitude :=
  round (x.fraction.1 * y.fraction.1) (x.fraction.2 * y.fraction.2)

/-- The quotient of two sizes, the second of which is not zero. -/
def div (x y : Magnitude) : Option Magnitude :=
  round (x.fraction.1 * y.fraction.2) (x.fraction.2 * y.fraction.1)

/-- The size nearest to a power of ten. -/
def powerOfTen (n : Nat) : Option Magnitude :=
  round (Nat.pow 10 n) 1

/-- The largest power of ten that is a size. -/
def maxPowerOfTen : Nat :=
  308

/-- A size times a power of ten.  A power that is itself no size is taken in steps
down, while there is something left to divide; upwards it is too large. -/
def scaleByTen : Nat → Magnitude → Int → Option Magnitude
  | 0, _, _ => none
  | fuel + 1, x, power =>
    if power.natAbs ≤ maxPowerOfTen then
      (powerOfTen power.natAbs).bind fun factor => if 0 ≤ power then x.mul factor else x.div factor
    else if x.isZero then some x
    else if 0 ≤ power then none
    else
      (powerOfTen maxPowerOfTen).bind fun factor =>
        (x.div factor).bind fun y => scaleByTen fuel y (power + maxPowerOfTen)

/-- The size read from digits and a power of ten: the digits are rounded first and
scaled afterwards. -/
def ofDecimal (digits : Nat) (power : Int) : Option Magnitude :=
  (round digits 1).bind fun x => scaleByTen (power.natAbs / maxPowerOfTen + 1) x power

end Magnitude

/-- A number with its sign; zero has two. -/
structure Double where
  negative : Bool
  size : Magnitude
  deriving DecidableEq, Repr

end Json
end ChefAccess
