import ChefAccess.Json.Double

/-!
# Shortest decimals

A double is written with the fewest digits that read back to it.  Of the decimals
with that many digits the nearest one is taken, and of two equally near the one
with an even last digit.

Main definitions:

- {lit}`Magnitude.shortest`: the digits and the power of ten of the last one.
- {lit}`Layout`: where positional notation ends.
- {lit}`Double.render`: the written form of a number.
-/

namespace ChefAccess
namespace Json

namespace Magnitude

/-! ## The interval of a number -/

/-- Compare two fractions. -/
def fractionLe (p q : Nat × Nat) : Bool :=
  p.1 * q.2 ≤ q.1 * p.2

/-- The bounds of the reals that round to a size: half the distance to the
neighbour on each side.  Below a power of two the neighbour is twice as near. -/
def bounds (x : Magnitude) : (Nat × Nat) × (Nat × Nat) :=
  let low :=
    if x.significand = fullSignificand ∧ minExponent < x.exponent then
      scaled (4 * x.significand - 1) 1 (x.exponent - 2)
    else scaled (2 * x.significand - 1) 1 (x.exponent - 1)
  (low, scaled (2 * x.significand + 1) 1 (x.exponent - 1))

/-- A whole number times a power of ten, as a fraction. -/
def decimal (digits : Nat) (power : Int) : Nat × Nat :=
  if 0 ≤ power then (digits * Nat.pow 10 power.toNat, 1)
  else (digits, Nat.pow 10 (-power).toNat)

/-- Whether a decimal reads back to a size.  The bounds belong to the interval when
the significand is even. -/
def readsBack (x : Magnitude) (digits : Nat) (power : Int) : Bool :=
  let d := decimal digits power
  let b := x.bounds
  if x.significand % 2 = 0 then fractionLe b.1 d && fractionLe d b.2
  else !fractionLe d b.1 && !fractionLe b.2 d

/-! ## The digits -/

/-- The whole number of units of {lit}`10 ^ power` below a size. -/
def unitsBelow (x : Magnitude) (power : Int) : Nat :=
  let f := x.fraction
  if 0 ≤ power then f.1 / (f.2 * Nat.pow 10 power.toNat)
  else f.1 * Nat.pow 10 (-power).toNat / f.2

/-- Whether the size is nearer to the units below it than to the next ones; a tie
goes to the even number. -/
def preferBelow (x : Magnitude) (units : Nat) (power : Int) : Bool :=
  let f := x.fraction
  let middle := decimal (2 * units + 1) power
  let twice := (2 * f.1, f.2)
  if fractionLe twice middle && fractionLe middle twice then units % 2 == 0
  else fractionLe twice middle

/-- The decimal with its last digit at {lit}`10 ^ power` that reads back, if there is one. -/
def candidate (x : Magnitude) (power : Int) : Option Nat :=
  let below := x.unitsBelow power
  match x.readsBack below power, x.readsBack (below + 1) power with
  | true, true => some (if x.preferBelow below power then below else below + 1)
  | true, false => some below
  | false, true => some (below + 1)
  | false, false => none

/-- Try finer and finer powers of ten, at most as often as there is fuel. -/
def searchDown (x : Magnitude) : Nat → Int → Nat × Int
  | 0, power => (x.unitsBelow power, power)
  | fuel + 1, power =>
    match x.candidate power with
    | some digits => if digits = 0 then x.searchDown fuel (power - 1) else (digits, power)
    | none => x.searchDown fuel (power - 1)

/-- The power of ten just above a size. -/
def ceilingPower (x : Magnitude) : Int :=
  let f := x.fraction
  let guess : Int := ((f.1.log2 : Int) - f.2.log2) * 30103 / 100000
  if fractionLe f (decimal 1 guess) then guess
  else if fractionLe f (decimal 1 (guess + 1)) then guess + 1
  else guess + 2

/-- The fewest digits that read back to a size, with the power of ten of the last. -/
def shortest (x : Magnitude) : Nat × Int :=
  x.searchDown 20 x.ceilingPower

end Magnitude

/-! ## Notation -/

/-- Where positional notation ends: the least and the greatest power of ten of the
first digit that is written positionally. -/
structure Layout where
  leastPositional : Int
  greatestPositional : Int

/-- Numbers from 0.00001 up to below 10 to the 16 are written positionally. -/
def layout : Layout :=
  ⟨-5, 15⟩

/-- Drop the trailing zeros of a number, at most as often as there is fuel. -/
def dropZeros : Nat → Nat → Int → Nat × Int
  | 0, digits, power => (digits, power)
  | fuel + 1, digits, power =>
    if digits ≠ 0 ∧ digits % 10 = 0 then dropZeros fuel (digits / 10) (power + 1)
    else (digits, power)

/-- Digits and the power of ten of the last one in positional notation, with a
point and at least one digit on either side of it. -/
def positional (digits : List Char) (power : Int) : List Char :=
  if 0 ≤ power then digits ++ List.replicate power.toNat '0' ++ ['.', '0']
  else
    let places := (-power).toNat
    if places < digits.length then
      digits.take (digits.length - places) ++ ['.'] ++ digits.drop (digits.length - places)
    else ['0', '.'] ++ List.replicate (places - digits.length) '0' ++ digits

/-- Digits in exponent notation, with a sign and as few digits as it takes in the
exponent. -/
def scientific (digits : List Char) (exponent : Int) : List Char :=
  let sign := if exponent < 0 then '-' else '+'
  digits.take 1 ++ (if digits.length ≤ 1 then [] else '.' :: digits.drop 1) ++
    ['e', sign] ++ Nat.toDigits 10 exponent.natAbs

/-- The written form of a size. -/
def Magnitude.renderChars (x : Magnitude) : List Char :=
  if x.isZero then ['0', '.', '0']
  else
    let found := x.shortest
    let (digits, power) := dropZeros 20 found.1 found.2
    let chars := Nat.toDigits 10 digits
    let exponent := power + (chars.length - 1 : Int)
    if layout.leastPositional ≤ exponent ∧ exponent ≤ layout.greatestPositional then
      positional chars power
    else scientific chars exponent

/-- The written form of a number. -/
def Double.renderChars (x : Double) : List Char :=
  (if x.negative then ['-'] else []) ++ x.size.renderChars

end Json
end ChefAccess
