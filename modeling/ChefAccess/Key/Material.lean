import ChefAccess.Error
import ChefAccess.Key.Der
import ChefAccess.Key.Pem
import ChefAccess.Key.Rsa
import ChefAccess.Text.Blank
import ChefAccess.Text.Escape

/-!
# Key material

A signing key is kept as a block of text, in one of two forms: the numbers of the key
alone, or the same inside an envelope that names the algorithm.  Material from a secret
store may have escapes in place of its line breaks.

Main definitions:

- {lit}`Rsa.ofNumbers?`: the key in the octets of its numbers.
- {lit}`Rsa.fieldsFit`: the fields that may follow the numbers in an envelope.
- {lit}`Rsa.ofEnvelope?`: the key in the octets of an envelope.
- {lit}`Rsa.ofMaterial`: the key in a text.

Main results:

- Theorem {lit}`Rsa.fieldsFit_append`: attributes make no difference to an envelope.
-/

namespace ChefAccess
namespace Key
namespace Rsa

/-- The key in a sequence of nine integers, of which the first is zero.  The last three
are derived from the others and not looked at. -/
def ofNumbers? (octets : List UInt8) : Option Rsa := do
  let contents ← Der.readWhole Der.sequenceTag octets
  let numbers ← Der.naturals? 9 contents
  match numbers with
  | [0, modulus, publicExponent, privateExponent, first, second, _, _, _] =>
    Parts.key? ⟨modulus, publicExponent, privateExponent, first, second⟩
  | _ => none

/-- The octets that name the algorithm, which has no parameters. -/
def algorithm : List UInt8 :=
  [0x06, 0x09, 0x2A, 0x86, 0x48, 0x86, 0xF7, 0x0D, 0x01, 0x01, 0x01, 0x05, 0x00]

/-- Whether a field is a public key: a string of bits that fill octets. -/
def isPublicKey (field : Der.Element) : Bool :=
  field.tag == 0x81 && field.contents.head? == some 0

/-- Whether some fields may follow the numbers in an envelope of a version.  Attributes,
which come first, are not looked at.  Behind them stands the public key, exactly if the
version is one, and then fields that are each around one element. -/
def fieldsFit (version : Nat) (fields : List Der.Element) : Bool :=
  match fields.dropWhile (·.field? == some 0) with
  | [] => version == 0
  | field :: rest =>
    if field.field? = some 1 then
      version == 1 && isPublicKey field && rest.all Der.Element.isAround
    else version == 0 && field.isAround && rest.all Der.Element.isAround

/-- Attributes ahead of the other fields make no difference. -/
theorem fieldsFit_append {attributes : List Der.Element}
    (hattributes : ∀ field ∈ attributes, field.field? = some 0) (version : Nat)
    (fields : List Der.Element) :
    fieldsFit version (attributes ++ fields) = fieldsFit version fields := by
  have hdropped : (attributes ++ fields).dropWhile (·.field? == some 0) =
      fields.dropWhile (·.field? == some 0) :=
    List.dropWhile_append_of_pos fun field hfield => beq_iff_eq.mpr (hattributes field hfield)
  rw [fieldsFit, hdropped, fieldsFit]

/-- The key in an envelope: a version, the algorithm, the octets of the numbers, and the
fields of the version. -/
def ofEnvelope? (octets : List UInt8) : Option Rsa := do
  let contents ← Der.readWhole Der.sequenceTag octets
  let version ← Der.readNatural contents
  let named ← Der.readTagged Der.sequenceTag version.2
  let inner ← Der.readTagged Der.octetsTag named.2
  let fields ← Der.elements? inner.2
  if named.1 = algorithm ∧ fieldsFit version.1 fields then ofNumbers? inner.1 else none

/-- The label of a block with the numbers of a key. -/
def numbersLabel : String :=
  "RSA PRIVATE KEY"

/-- The label of a block with an envelope. -/
def envelopeLabel : String :=
  "PRIVATE KEY"

/-- The key in a text from which escapes and outer white space are gone. -/
def ofBlock (text : String) : Except Error Rsa :=
  if Text.occursIn ("BEGIN " ++ numbersLabel).toList text.toList then
    match (Pem.decode? numbersLabel text).bind ofNumbers? with
    | some key => .ok key
    | none => .error (Error.keyInvalid "failed to parse PKCS#1 private key").withExternal
  else
    match (Pem.decode? envelopeLabel text).bind ofEnvelope? with
    | some key => .ok key
    | none => .error (Error.keyInvalid "failed to parse PKCS#8 private key").withExternal

/-- The key in a text as a secret store holds it. -/
def ofMaterial (text : String) : Except Error Rsa :=
  ofBlock (Text.unescape (Text.trim text))

end Rsa
end Key
end ChefAccess
