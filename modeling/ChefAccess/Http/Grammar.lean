import ChefAccess.Error

/-!
# The parts of a request

HTTP limits what a method, the name of a header, its value and a status may be.

Main definitions:

- {lit}`isToken`: the rule for methods and header names.
- {lit}`isValue`: the rule for header values.
- {lit}`isVisible`: the stricter rule for values that are read as text.
- {lit}`isStatus`: the rule for statuses.

Main results:

- Theorem {lit}`isValueByte_of_isVisibleByte`: what may be read may be sent.
-/

namespace ChefAccess
namespace Http

/-! ## Methods and header names -/

/-- The characters of methods and header names. -/
def isTokenChar (c : Char) : Bool :=
  c.isAlphanum || "!#$%&'*+-.^_\x60|~".toList.contains c

/-- Whether a text can be a method. -/
def isToken (text : List Char) : Bool :=
  !text.isEmpty && text.all isTokenChar

/-- The length that the name of a header may have. -/
def maxNameLength : Nat :=
  65535

/-- Whether a text can be the name of a header. -/
def isHeaderName (text : List Char) : Bool :=
  isToken text && decide (text.length ≤ maxNameLength)

/-- A name that no header can have. -/
def invalidName : Error :=
  Error.ofHttp "invalid HTTP header name"

/-! ## Header values -/

/-- The bytes of header values: all but control characters, of which a tab is allowed. -/
def isValueByte (b : UInt8) : Bool :=
  (decide (32 ≤ b) && b != 127) || b == 9

/-- Whether some bytes can be the value of a header. -/
def isValue (bytes : List UInt8) : Bool :=
  bytes.all isValueByte

/-- A value that no header can have. -/
def invalidValue : Error :=
  Error.ofHttp "failed to parse header value"

/-- The bytes of values that are read as text. -/
def isVisibleByte (b : UInt8) : Bool :=
  (decide (32 ≤ b) && decide (b < 127)) || b == 9

/-- Whether the value of a header can be read as text. -/
def isVisible (bytes : List UInt8) : Bool :=
  bytes.all isVisibleByte

/-- What may be read may be sent. -/
theorem isValueByte_of_isVisibleByte (b : UInt8) (hvisible : isVisibleByte b = true) :
    isValueByte b = true := by
  simp only [isVisibleByte, isValueByte, Bool.or_eq_true, Bool.and_eq_true, decide_eq_true_eq,
    bne_iff_ne, beq_iff_eq] at *
  rcases hvisible with ⟨hlow, hhigh⟩ | htab
  · exact Or.inl ⟨hlow, fun heq => absurd hhigh (by simp [heq])⟩
  · exact Or.inr htab

/-! ## Statuses -/

/-- Whether a number can be a status. -/
def isStatus (n : Nat) : Bool :=
  decide (100 ≤ n) && decide (n ≤ 999)

/-- A number that no status can be. -/
def invalidStatus : Error :=
  Error.ofHttp "invalid status code"

end Http
end ChefAccess
