import ChefAccess.Dict
import ChefAccess.Json.Shortest
import ChefAccess.Text.Hex
import ChefAccess.Text.Quoted

/-!
# JSON values

Entities and results are JSON values.  An integer of sixty-four bits, with or
without sign, is kept exactly, and any other number as a double.  The members of
an object are kept in the order of their keys, so that the written form of a value
is fixed by its contents.

Main definitions:

- {lit}`Value`: a JSON value.
- {lit}`Value.normalize`: the value with the members of each object in order.
- {lit}`Value.render`: the compact text of a value.
- {lit}`Value.describe`: the form of a value shown to people.
-/

namespace ChefAccess
namespace Json

/-- A JSON number. -/
inductive Number where
  | int (n : Int)
  | double (x : Double)
  deriving DecidableEq, Repr

/-- A JSON value. -/
inductive Value where
  | null
  | bool (b : Bool)
  | number (n : Number)
  | string (s : String)
  | array (items : List Value)
  | object (members : List (String × Value))
  deriving Inhabited

namespace Value

/-- An integer as a value. -/
def ofInt (n : Int) : Value :=
  .number (.int n)

/-- A natural number as a value. -/
def ofNat (n : Nat) : Value :=
  .number (.int n)

/-- An object with the given members, of which the last of a key wins. -/
def ofMembers (members : List (String × Value)) : Value :=
  .object (Dict.ofList members).entries

/-- A list of texts as a value. -/
def ofTexts (texts : List String) : Value :=
  .array (texts.map .string)

/-- A dictionary of texts as a value. -/
def ofDict (dict : Dict String String) : Value :=
  .object (dict.entries.map fun entry => (entry.1, .string entry.2))

/-- A text that may be missing as a value. -/
def ofOption (text : Option String) : Value :=
  (text.map .string).getD .null

/-- The value of a key of an object. -/
def get? (v : Value) (key : String) : Option Value :=
  match v with
  | .object members => Entries.get? key members
  | _ => none

/-! ## Normal form -/

mutual

/-- The value with the members of each object in order. -/
def normalize : Value → Value
  | .null => .null
  | .bool b => .bool b
  | .number n => .number n
  | .string s => .string s
  | .array items => .array (normalizeItems items)
  | .object members => .ofMembers (normalizeMembers members)

/-- The normal forms of the items of an array. -/
def normalizeItems : List Value → List Value
  | [] => []
  | v :: rest => v.normalize :: normalizeItems rest

/-- The normal forms of the members of an object, in place. -/
def normalizeMembers : List (String × Value) → List (String × Value)
  | [] => []
  | (key, v) :: rest => (key, v.normalize) :: normalizeMembers rest

end

end Value

/-! ## The written form -/

/-- The written form of one character of a string. -/
def escapeChar (c : Char) : List Char :=
  if c = '"' then ['\\', '"']
  else if c = '\\' then ['\\', '\\']
  else if c = '\x08' then ['\\', 'b']
  else if c = '\t' then ['\\', 't']
  else if c = '\n' then ['\\', 'n']
  else if c = '\x0c' then ['\\', 'f']
  else if c = '\r' then ['\\', 'r']
  else if c.toNat < 0x20 then
    ['\\', 'u', '0', '0', Text.Hex.digit (c.toNat / 16), Text.Hex.digit (c.toNat % 16)]
  else [c]

/-- The written form of a string with its quotes. -/
def renderString (s : String) : List Char :=
  '"' :: (s.toList.flatMap escapeChar ++ ['"'])

/-- The written form of an integer. -/
def renderInt (n : Int) : List Char :=
  (if n < 0 then ['-'] else []) ++ Nat.toDigits 10 n.natAbs

/-- The written form of a number. -/
def Number.renderChars : Number → List Char
  | .int n => renderInt n
  | .double x => x.renderChars

namespace Value

mutual

/-- The compact text of a value. -/
def renderChars : Value → List Char
  | .null => ['n', 'u', 'l', 'l']
  | .bool true => ['t', 'r', 'u', 'e']
  | .bool false => ['f', 'a', 'l', 's', 'e']
  | .number n => n.renderChars
  | .string s => renderString s
  | .array [] => ['[', ']']
  | .array (v :: rest) => '[' :: (v.renderChars ++ renderItems rest)
  | .object [] => ['\x7b', '\x7d']
  | .object ((key, v) :: rest) =>
    '\x7b' :: (renderString key ++ ':' :: (v.renderChars ++ renderMembers rest))

/-- The text of the items after the first, up to the end of the array. -/
def renderItems : List Value → List Char
  | [] => [']']
  | v :: rest => ',' :: (v.renderChars ++ renderItems rest)

/-- The text of the members after the first, up to the end of the object. -/
def renderMembers : List (String × Value) → List Char
  | [] => ['\x7d']
  | (key, v) :: rest =>
    ',' :: (renderString key ++ ':' :: (v.renderChars ++ renderMembers rest))

end

/-- The compact text of a value. -/
def render (v : Value) : String :=
  String.ofList v.renderChars

/-! ## The form shown to people -/

mutual

/-- The form of a value shown to people, which names the kind of each part. -/
def describe : Value → String
  | .null => "Null"
  | .bool b => if b then "Bool(true)" else "Bool(false)"
  | .number n => "Number(" ++ String.ofList n.renderChars ++ ")"
  | .string s => "String(" ++ Text.quoted s ++ ")"
  | .array items => "Array [" ++ ", ".intercalate (describeItems items) ++ "]"
  | .object members => "Object \x7b" ++ ", ".intercalate (describeMembers members) ++ "\x7d"

/-- The forms of the items of an array. -/
def describeItems : List Value → List String
  | [] => []
  | v :: rest => v.describe :: describeItems rest

/-- The forms of the members of an object. -/
def describeMembers : List (String × Value) → List String
  | [] => []
  | (key, v) :: rest => (Text.quoted key ++ ": " ++ v.describe) :: describeMembers rest

end

end Value
end Json
end ChefAccess
