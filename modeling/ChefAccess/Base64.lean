import ChefAccess.Error

/-!
# Base64

Digests and signatures travel as base64 text with the standard alphabet.  Three
bytes become four characters, and padding completes the last group.  Reading
accepts exactly what writing produces: the padding has to be there, and the
unused bits of the last character have to be zero.

Main definitions:

- {lit}`encode` and {lit}`decode?`: writing and reading.
- {lit}`decode`: reading, with the failure to do so.

Main results:

- Theorem {lit}`value_digit`: every character that is written is read back.
-/

namespace ChefAccess
namespace Base64

/-! ## The alphabet -/

/-- The character of a value below sixty-four. -/
def digit (n : Nat) : Char :=
  if n < 26 then Char.ofNat (65 + n)
  else if n < 52 then Char.ofNat (71 + n)
  else if n < 62 then Char.ofNat (n - 4)
  else if n = 62 then '+'
  else '/'

/-- The value of a character of the alphabet. -/
def value (c : Char) : Option Nat :=
  let n := c.toNat
  if 65 ≤ n ∧ n ≤ 90 then some (n - 65)
  else if 97 ≤ n ∧ n ≤ 122 then some (n - 71)
  else if 48 ≤ n ∧ n ≤ 57 then some (n + 4)
  else if c = '+' then some 62
  else if c = '/' then some 63
  else none

/-- Every character that is written is read back. -/
theorem value_digit : ∀ n < 64, value (digit n) = some n := by
  decide

/-! ## Groups -/

/-- The characters of one full group of three bytes. -/
def encodeGroup (a b c : UInt8) : List Char :=
  [digit (a.toNat / 4),
   digit (a.toNat % 4 * 16 + b.toNat / 16),
   digit (b.toNat % 16 * 4 + c.toNat / 64),
   digit (c.toNat % 64)]

/-- The characters of some bytes. -/
def encodeChars : List UInt8 → List Char
  | [] => []
  | [a] => [digit (a.toNat / 4), digit (a.toNat % 4 * 16), '=', '=']
  | [a, b] =>
    [digit (a.toNat / 4), digit (a.toNat % 4 * 16 + b.toNat / 16),
     digit (b.toNat % 16 * 4), '=']
  | a :: b :: c :: rest => encodeGroup a b c ++ encodeChars rest

/-- The three bytes of a full group. -/
def decodeGroup (p q r s : Char) : Option (List UInt8) := do
  let a ← value p
  let b ← value q
  let c ← value r
  let d ← value s
  return [UInt8.ofNat (a * 4 + b / 16), UInt8.ofNat (b % 16 * 16 + c / 4),
    UInt8.ofNat (c % 4 * 64 + d)]

/-- The bytes of a last group: three bytes, or fewer with padding. -/
def decodeLast (p q r s : Char) : Option (List UInt8) :=
  if s = '=' then
    if r = '=' then do
      let a ← value p
      let b ← value q
      if b % 16 = 0 then return [UInt8.ofNat (a * 4 + b / 16)] else none
    else do
      let a ← value p
      let b ← value q
      let c ← value r
      if c % 4 = 0 then
        return [UInt8.ofNat (a * 4 + b / 16), UInt8.ofNat (b % 16 * 16 + c / 4)]
      else none
  else decodeGroup p q r s

/-- The bytes of a list of characters. -/
def decodeChars : List Char → Option (List UInt8)
  | [] => some []
  | [p, q, r, s] => decodeLast p q r s
  | p :: q :: r :: s :: rest => do
    let group ← decodeGroup p q r s
    let bytes ← decodeChars rest
    return group ++ bytes
  | _ => none

/-! ## Text -/

/-- The base64 text of some bytes. -/
def encode (bytes : List UInt8) : String :=
  String.ofList (encodeChars bytes)

/-- The bytes of a base64 text, if it is one. -/
def decode? (s : String) : Option (List UInt8) :=
  decodeChars s.toList

/-- The bytes of a base64 text, or the failure to read it. -/
def decode (s : String) : Except Error (List UInt8) :=
  match decode? s with
  | some bytes => .ok bytes
  | none => .error (Error.unexpected "base64 decode failed").withExternal

end Base64
end ChefAccess
