/-!
# Numbers as octets

Keys and signatures hold natural numbers as octets, the most significant one first.

Main definitions:

- {lit}`toNat`: the number of some octets.
- {lit}`ofNat`: the octets of a number, in a given width.
- {lit}`width`: how many octets a number takes.

Main results:

- Theorem {lit}`length_ofNat`: a number has as many octets as it is given.
-/

namespace ChefAccess
namespace Key
namespace Octets

/-- The number of some octets, the most significant one first. -/
def toNat (octets : List UInt8) : Nat :=
  octets.foldl (fun value octet => 256 * value + octet.toNat) 0

/-- The octets of a number in a given width; what does not fit is dropped. -/
def ofNat : Nat → Nat → List UInt8
  | 0, _ => []
  | width + 1, n => ofNat width (n / 256) ++ [UInt8.ofNat (n % 256)]

/-- The number of bits that a number takes. -/
def bitLength (n : Nat) : Nat :=
  if n = 0 then 0 else n.log2 + 1

/-- The number of octets that a number takes. -/
def width (n : Nat) : Nat :=
  (bitLength n + 7) / 8

/-- Octets of a given width are that many. -/
@[simp]
theorem length_ofNat (width n : Nat) : (ofNat width n).length = width := by
  induction width generalizing n with
  | zero => rfl
  | succ width ih => simp [ofNat, ih]

end Octets
end Key
end ChefAccess
