/-!
# Hexadecimal text

Bytes written as two lower-case hexadecimal digits each, and read back from
that form alone.

Main results:

- Theorem {lit}`nibble_digit`: every digit that is written is read back.
-/

namespace ChefAccess
namespace Text
namespace Hex

/-- The lower-case digit of a value below sixteen. -/
def digit (n : Nat) : Char :=
  Char.ofNat (if n < 10 then 48 + n else 87 + n)

/-- The value of a hexadecimal digit in either letter case. -/
def nibble (c : Char) : Option Nat :=
  let n := c.toNat
  if 48 ≤ n ∧ n ≤ 57 then some (n - 48)
  else if 97 ≤ n ∧ n ≤ 102 then some (n - 87)
  else if 65 ≤ n ∧ n ≤ 70 then some (n - 55)
  else none

/-- Every digit that is written is read back. -/
theorem nibble_digit : ∀ n < 16, nibble (digit n) = some n := by
  decide

/-- The two digits of each byte in turn. -/
def encode (bytes : List UInt8) : String :=
  String.ofList (bytes.flatMap fun b => [digit (b.toNat / 16), digit (b.toNat % 16)])

/-- Read pairs of digits; an odd digit or any other character is refused. -/
def decodeChars : List Char → Option (List UInt8)
  | [] => some []
  | [_] => none
  | hi :: lo :: rest =>
    match nibble hi, nibble lo, decodeChars rest with
    | some a, some b, some bytes => some (UInt8.ofNat (16 * a + b) :: bytes)
    | _, _, _ => none

/-- Read the bytes written by {lit}`encode`. -/
def decode (s : String) : Option (List UInt8) :=
  decodeChars s.toList

/-- The hexadecimal digits of a number, without leading zeros. -/
def ofNat (n : Nat) : String :=
  String.ofList ((Nat.toDigits 16 n))

end Hex
end Text
end ChefAccess
