import ChefAccess.Json.Document
import ChefAccess.Text.Escape

/-!
# Taking values from a text

A decoder takes a value of some type from the tree of a JSON text.  It is told how
many levels of arrays and objects may still be opened, and refuses a deeper tree.
A part of the tree that no decoder asks for is not looked at.

Main definitions:

- {lit}`Decoder`: how a value is taken from a tree.
- {lit}`Decoder.value`: any JSON value.
- {lit}`Decoder.record`: a structure from its named or listed fields.
- {lit}`Decoder.decode` and {lit}`Decoder.decodeBytes`: the value of a whole text.
-/

namespace ChefAccess
namespace Json

/-! ## Strings -/

/-- The character of two code units that form a pair, if they do. -/
def pairChar? (high low : Nat) : Option Char :=
  if 0xD800 ≤ high ∧ high < 0xDC00 ∧ 0xDC00 ≤ low ∧ low < 0xE000 then
    Text.scalar? (0x10000 + (high - 0xD800) * 0x400 + (low - 0xDC00))
  else none

/-- The characters of a written string.  A code unit is a character of its own or
the first of a pair, and nothing malformed may be left. -/
def textChars : List Piece → Option (List Char)
  | [] => some []
  | .char c :: rest => (textChars rest).map (c :: ·)
  | .code n :: .code m :: rest =>
    match Text.scalar? n, pairChar? n m with
    | some c, _ => (textChars (.code m :: rest)).map (c :: ·)
    | none, some c => (textChars rest).map (c :: ·)
    | none, none => none
  | .code n :: rest =>
    (Text.scalar? n).bind fun c => (textChars rest).map (c :: ·)
  | .gap :: _ => none

/-- The text of a written string. -/
def text? (pieces : List Piece) : Option String :=
  (textChars pieces).map String.ofList

/-! ## Decoders -/

/-- How a value is taken from a tree, of which a number of levels may be opened. -/
abbrev Decoder (α : Type) := Nat → Document → Option α

namespace Decoder

/-- The levels of arrays and objects that a text may have. -/
def maxLevels : Nat :=
  127

/-- The value of a whole text. -/
def decode {α : Type} (decoder : Decoder α) (s : String) : Option α :=
  (Document.read s).bind (decoder maxLevels)

/-- The value of a whole text that is given by its bytes. -/
def decodeBytes {α : Type} (decoder : Decoder α) (bytes : List UInt8) : Option α :=
  (Document.readBytes bytes).bind (decoder maxLevels)

/-- A string. -/
def string : Decoder String
  | _, .string pieces => text? pieces
  | _, _ => none

/-- A value that may be missing. -/
def nullable {α : Type} (decoder : Decoder α) : Decoder (Option α)
  | _, .null => some none
  | levels, document => (decoder levels document).map some

/-- A list of values. -/
def list {α : Type} (decoder : Decoder α) : Decoder (List α)
  | levels + 1, .array items => items.mapM (decoder levels)
  | _, _ => none

/-- The members of an object. -/
def members {α : Type} (decoder : Decoder α) : Decoder (List (String × α))
  | levels + 1, .object members =>
    members.mapM fun member =>
      (text? member.1).bind fun key => (decoder levels member.2).map (key, ·)
  | _, _ => none

/-- A dictionary; the last member of a key wins. -/
def dict {α : Type} (decoder : Decoder α) : Decoder (Dict String α) :=
  fun levels document => (members decoder levels document).map Dict.ofList

/-- A set of texts. -/
def names : Decoder Names :=
  fun levels document => (list string levels document).map Names.ofList

/-- The name of a choice without contents, as a string or as the only key of an
object with a null. -/
def choice : Decoder String
  | _, .string pieces => text? pieces
  | _ + 1, .object [(key, .null)] => text? key
  | _, _ => none

/-- One of a few named values. -/
def named {α : Type} (ofName : String → Option α) : Decoder α :=
  fun levels document => (choice levels document).bind ofName

/-! ## Any value -/

mutual

/-- Any value. -/
def value : Nat → Document → Option Value
  | _, .null => some .null
  | _, .bool b => some (.bool b)
  | _, .number n => n.value?.map .number
  | _, .string pieces => (text? pieces).map .string
  | 0, .array _ => none
  | levels + 1, .array items => (valuesOf levels items).map .array
  | 0, .object _ => none
  | levels + 1, .object members => (membersOf levels members).map .ofMembers

/-- The values of the items of an array. -/
def valuesOf : Nat → List Document → Option (List Value)
  | _, [] => some []
  | levels, item :: rest =>
    (value levels item).bind fun v => (valuesOf levels rest).map (v :: ·)

/-- The values of the members of an object. -/
def membersOf : Nat → List (List Piece × Document) → Option (List (String × Value))
  | _, [] => some []
  | levels, (key, member) :: rest =>
    (text? key).bind fun name =>
      (value levels member).bind fun v => (membersOf levels rest).map ((name, v) :: ·)

end

/-! ## Structures -/

/-- A field of a structure: its name, and how the structure changes by its value. -/
structure Field (σ : Type) where
  name : String
  set : Nat → Document → σ → Option σ

/-- The field with a decoder and an update. -/
def Field.of {σ α : Type} (name : String) (decoder : Decoder α) (update : σ → α → σ) :
    Field σ :=
  ⟨name, fun levels document s => (decoder levels document).map (update s)⟩

/-- Set the fields in turn from a list of items.  There may be fewer items than
fields, but not more. -/
def setInTurn {σ : Type} (levels : Nat) : List (Field σ) → List Document → σ → Option σ
  | _, [], s => some s
  | [], _ :: _, _ => none
  | field :: fields, item :: items, s =>
    (field.set levels item s).bind (setInTurn levels fields items)

/-- Set the fields named by the members of an object.  Members with other names are
passed over, and no field may be set twice. -/
def setByName {σ : Type} (levels : Nat) (fields : List (Field σ)) :
    List String → List (List Piece × Document) → σ → Option σ
  | _, [], s => some s
  | seen, (key, item) :: members, s =>
    (text? key).bind fun name =>
      match fields.find? (·.name == name) with
      | none => setByName levels fields seen members s
      | some field =>
        if seen.contains name then none
        else (field.set levels item s).bind (setByName levels fields (name :: seen) members)

/-- A structure whose fields have defaults, from an object or from an array. -/
def record {σ : Type} (fields : List (Field σ)) (default : σ) : Decoder σ
  | levels + 1, .array items => setInTurn levels fields items default
  | levels + 1, .object members => setByName levels fields [] members default
  | _, _ => none

end Decoder
end Json
end ChefAccess
