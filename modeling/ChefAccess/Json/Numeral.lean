import ChefAccess.Json.Value

/-!
# Numerals

A number of a JSON text is kept as it is written until a value is asked of it.
The digits are gathered into a word of sixty-four bits.  A whole numeral that fits
stays an integer; any other numeral becomes a double, in which the digits beyond
the word count no more than their places do.

Main definitions:

- {lit}`Numeral`: a written number.
- {lit}`Numeral.value?`: the number that it stands for, unless it is too large.
-/

namespace ChefAccess
namespace Json

/-- A written number.  An empty fraction is a fraction that is not written. -/
structure Numeral where
  negative : Bool
  whole : List Nat
  fraction : List Nat
  exponent : Option Int
  deriving DecidableEq, Repr

namespace Numeral

/-- The largest whole number of a word. -/
def maxWord : Nat :=
  Nat.pow 2 64 - 1

/-- Digits gathered so far, with the power of ten that they are taken to. -/
structure Gathered where
  digits : Nat
  power : Int
  deriving DecidableEq, Repr

/-- Gather the digits before the point.  From the first digit that the word cannot
take on, each digit only moves the others by one place. -/
def gatherWhole : Gathered → List Nat → Gathered
  | g, [] => g
  | g, d :: rest =>
    if g.power = 0 ∧ 10 * g.digits + d ≤ maxWord then
      gatherWhole ⟨10 * g.digits + d, 0⟩ rest
    else gatherWhole ⟨g.digits, g.power + 1⟩ rest

/-- Gather the digits behind the point.  From the first digit that the word cannot
take on, the digits are dropped. -/
def gatherFraction : Gathered → List Nat → Gathered
  | g, [] => g
  | g, d :: rest =>
    if 10 * g.digits + d ≤ maxWord then gatherFraction ⟨10 * g.digits + d, g.power - 1⟩ rest
    else g

/-- The double with the given digits and power of ten. -/
def double? (negative : Bool) (digits : Nat) (power : Int) : Option Number :=
  (Magnitude.ofDecimal digits power).map fun size => .double ⟨negative, size⟩

/-- The number that a numeral stands for, unless it is beyond the largest double.
A negative zero is a double. -/
def value? (n : Numeral) : Option Number :=
  let whole := gatherWhole ⟨0, 0⟩ n.whole
  if n.fraction.isEmpty ∧ n.exponent.isNone ∧ whole.power = 0 then
    if n.negative then
      if 0 < whole.digits ∧ whole.digits ≤ Nat.pow 2 63 then some (.int (-whole.digits))
      else double? true whole.digits 0
    else some (.int whole.digits)
  else
    let all := gatherFraction whole n.fraction
    double? n.negative all.digits (all.power + n.exponent.getD 0)

end Numeral
end Json
end ChefAccess
