import ChefAccess.Key.Octets

/-!
# Signing keys

A key has a modulus and two exponents that undo each other.  A message is signed by
padding it to the width of the modulus and raising the number of the padded block to
the private exponent.  The signature is checked with the public exponent before it is
handed out.

Main definitions:

- {lit}`Rsa`: a signing key.
- {lit}`Rsa.Parts`: the numbers of a key file, and {lit}`Rsa.Parts.key?`, which checks them.
- {lit}`Rsa.block?`: the padded block of a message.
- {lit}`Rsa.sign?`: the signature of a message.

Main results:

- Theorem {lit}`Rsa.length_block?`: a padded block has the width of the modulus.
-/

namespace ChefAccess
namespace Key

/-- A signing key. -/
structure Rsa where
  modulus : Nat
  publicExponent : Nat
  privateExponent : Nat
  deriving DecidableEq, Repr

namespace Rsa

/-! ## Powers -/

/-- A power modulo a number, by repeated squaring. -/
def powMod (base exponent modulus : Nat) : Nat :=
  if exponent = 0 then 1 % modulus
  else
    let half := powMod base (exponent / 2) modulus
    let square := half * half % modulus
    if exponent % 2 = 1 then square * base % modulus else square
termination_by exponent

/-! ## Key files -/

/-- The numbers of a key file. -/
structure Parts where
  modulus : Nat
  publicExponent : Nat
  privateExponent : Nat
  first : Nat
  second : Nat
  deriving DecidableEq, Repr

/-- The largest public exponent. -/
def maxPublicExponent : Nat :=
  Nat.pow 2 33 - 1

/-- Whether the numbers of a key file fit together: the modulus is the odd product of
the factors, the public exponent is odd and of moderate size, and the exponents undo
each other for either factor.  Only the public exponent is bounded: a private key may
have a modulus of any size. -/
def Parts.fit (parts : Parts) : Bool :=
  parts.first * parts.second == parts.modulus && decide (1 < parts.first) &&
    decide (1 < parts.second) && parts.modulus % 2 == 1 && parts.publicExponent % 2 == 1 &&
    decide (2 ≤ parts.publicExponent) && decide (parts.publicExponent ≤ maxPublicExponent) &&
    decide (parts.publicExponent < parts.modulus) &&
    parts.privateExponent * parts.publicExponent % (parts.first - 1) == 1 &&
    parts.privateExponent * parts.publicExponent % (parts.second - 1) == 1

/-- The key of a key file, if its numbers fit together. -/
def Parts.key? (parts : Parts) : Option Rsa :=
  if parts.fit then
    some ⟨parts.modulus, parts.publicExponent, parts.privateExponent⟩
  else none

/-! ## Signatures -/

/-- The number of octets of a signature. -/
def width (key : Rsa) : Nat :=
  Octets.width key.modulus

/-- The padded block of a message: two fixed octets, at least eight octets of padding,
a zero and the message. -/
def block? (width : Nat) (message : List UInt8) : Option (List UInt8) :=
  if message.length + 11 ≤ width then
    some ([0x00, 0x01] ++ List.replicate (width - message.length - 3) 0xFF ++ [0x00] ++ message)
  else none

/-- A padded block has the given width. -/
theorem length_block? {width : Nat} {message block : List UInt8}
    (hblock : block? width message = some block) : block.length = width := by
  unfold block? at hblock
  split at hblock
  · rw [← Option.some.inj hblock]
    simp
    omega
  · simp at hblock

/-- The signature of a message, unless the message is too long or the exponents do not
undo each other. -/
def sign? (key : Rsa) (message : List UInt8) : Option (List UInt8) :=
  (block? key.width message).bind fun block =>
    let number := Octets.toNat block
    let signature := powMod number key.privateExponent key.modulus
    if powMod signature key.publicExponent key.modulus = number then
      some (Octets.ofNat key.width signature)
    else none

end Rsa
end Key
end ChefAccess
