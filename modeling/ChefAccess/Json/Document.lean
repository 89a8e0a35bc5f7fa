import ChefAccess.Json.Numeral
import ChefAccess.Text.Utf8

/-!
# JSON texts

A JSON text is first read into a tree that keeps every part as it is written:
numerals as digits, strings as characters and numbered escapes, members in their
order.  What a part is worth is decided when a value is taken from the tree, so a
part that nobody asks for may hold what no value could.

Main definitions:

- {lit}`Document`: the tree of a text.
- {lit}`Document.read`: the tree of a whole text, if it is well formed.
- {lit}`readValue`: the tree of the value at the head of a text, and the rest.
-/

namespace ChefAccess
namespace Json

/-- A piece of a written string: a character, a numbered code unit, or a malformed
sequence of bytes. -/
inductive Piece where
  | char (c : Char)
  | code (n : Nat)
  | gap
  deriving DecidableEq, Repr

/-- The tree of a JSON text. -/
inductive Document where
  | null
  | bool (b : Bool)
  | number (n : Numeral)
  | string (pieces : List Piece)
  | array (items : List Document)
  | object (members : List (List Piece × Document))
  deriving Inhabited

/-- A text that is being read: characters and malformed sequences. -/
abbrev Source := List (Option Char)

/-! ## Words and blanks -/

/-- The white space of JSON. -/
def isBlank (item : Option Char) : Bool :=
  item == some ' ' || item == some '\n' || item == some '\t' || item == some '\r'

/-- A text without the white space at its head. -/
def skipBlanks (src : Source) : Source :=
  src.dropWhile isBlank

/-- What follows a word, if the text begins with it. -/
def afterWord : List Char → Source → Option Source
  | [], src => some src
  | c :: word, some c' :: src => if c = c' then afterWord word src else none
  | _ :: _, _ => none

/-! ## Strings -/

/-- The piece that the letter after a backslash stands for. -/
def shortPiece (c : Char) : Option Piece :=
  match c with
  | '"' => some (.char '"')
  | '\\' => some (.char '\\')
  | '/' => some (.char '/')
  | 'b' => some (.char '\x08')
  | 'f' => some (.char '\x0c')
  | 'n' => some (.char '\n')
  | 'r' => some (.char '\r')
  | 't' => some (.char '\t')
  | _ => none

/-- The code unit written by four hexadecimal digits. -/
def codePiece (a b c d : Char) : Option Piece :=
  match Text.Hex.nibble a, Text.Hex.nibble b, Text.Hex.nibble c, Text.Hex.nibble d with
  | some p, some q, some r, some s => some (.code (((p * 16 + q) * 16 + r) * 16 + s))
  | _, _, _, _ => none

/-- Put a piece before the pieces that were read after it. -/
def consPiece (piece : Piece) (more : Option (List Piece × Source)) :
    Option (List Piece × Source) :=
  more.map fun found => (piece :: found.1, found.2)

/-- The pieces of a string up to its closing quote, and what follows it. -/
def readPieces : Source → Option (List Piece × Source)
  | [] => none
  | some '"' :: rest => some ([], rest)
  | some '\\' :: some 'u' :: some a :: some b :: some c :: some d :: rest =>
    (codePiece a b c d).bind fun piece => consPiece piece (readPieces rest)
  | some '\\' :: some c :: rest =>
    (shortPiece c).bind fun piece => consPiece piece (readPieces rest)
  | some '\\' :: _ => none
  | some c :: rest => if c.toNat < 0x20 then none else consPiece (.char c) (readPieces rest)
  | none :: rest => consPiece .gap (readPieces rest)

/-! ## Numerals -/

/-- The digits at the head of a text, and the rest. -/
def readDigits : Source → List Nat × Source
  | some c :: rest =>
    if c.isDigit then
      let more := readDigits rest
      ((c.toNat - 48) :: more.1, more.2)
    else ([], some c :: rest)
  | src => ([], src)

/-- The digits at the head of a text, of which there has to be one at least. -/
def readSomeDigits (src : Source) : Option (List Nat × Source) :=
  let found := readDigits src
  if found.1.isEmpty then none else some found

/-- The digits before the point: a zero alone, or digits of which the first is not
zero. -/
def readWhole (src : Source) : Option (List Nat × Source) :=
  (readSomeDigits src).bind fun found =>
    if found.1.head? = some 0 ∧ found.1.length ≠ 1 then none else some found

/-- The digits behind a point, if there is a point. -/
def readFraction : Source → Option (List Nat × Source)
  | some '.' :: rest => readSomeDigits rest
  | src => some ([], src)

/-- The number written by decimal digits. -/
def decimalValue (digits : List Nat) : Nat :=
  digits.foldl (fun value d => 10 * value + d) 0

/-- The digits of an exponent behind its sign. -/
def readPower (negative : Bool) (src : Source) : Option (Option Int × Source) :=
  (readSomeDigits src).map fun found =>
    let power : Int := decimalValue found.1
    (some (if negative then -power else power), found.2)

/-- The exponent, if one is written. -/
def readExponent : Source → Option (Option Int × Source)
  | some c :: rest =>
    if c = 'e' ∨ c = 'E' then
      match rest with
      | some '+' :: rest => readPower false rest
      | some '-' :: rest => readPower true rest
      | rest => readPower false rest
    else some (none, some c :: rest)
  | src => some (none, src)

/-- The numeral behind a sign, and the rest. -/
def readUnsigned (negative : Bool) (src : Source) : Option (Numeral × Source) :=
  (readWhole src).bind fun whole =>
    (readFraction whole.2).bind fun fraction =>
      (readExponent fraction.2).map fun exponent =>
        (⟨negative, whole.1, fraction.1, exponent.1⟩, exponent.2)

/-- The numeral at the head of a text, and the rest. -/
def readNumeral : Source → Option (Numeral × Source)
  | some '-' :: rest => readUnsigned true rest
  | src => readUnsigned false src

/-! ## Values -/

mutual

/-- The tree of the value at the head of a text, and the rest. -/
def readValue : Nat → Source → Option (Document × Source)
  | 0, _ => none
  | fuel + 1, src =>
    match skipBlanks src with
    | some 'n' :: rest => (afterWord ['u', 'l', 'l'] rest).map (Document.null, ·)
    | some 't' :: rest => (afterWord ['r', 'u', 'e'] rest).map (Document.bool true, ·)
    | some 'f' :: rest => (afterWord ['a', 'l', 's', 'e'] rest).map (Document.bool false, ·)
    | some '"' :: rest => (readPieces rest).map fun found => (.string found.1, found.2)
    | some '[' :: rest =>
      match skipBlanks rest with
      | some ']' :: rest => some (.array [], rest)
      | rest => (readItems fuel rest).map fun found => (.array found.1, found.2)
    | some '\x7b' :: rest =>
      match skipBlanks rest with
      | some '\x7d' :: rest => some (.object [], rest)
      | rest => (readMembers fuel rest).map fun found => (.object found.1, found.2)
    | rest => (readNumeral rest).map fun found => (.number found.1, found.2)

/-- The items of an array up to its end, of which there is one at least. -/
def readItems : Nat → Source → Option (List Document × Source)
  | 0, _ => none
  | fuel + 1, src =>
    (readValue fuel src).bind fun found =>
      match skipBlanks found.2 with
      | some ']' :: rest => some ([found.1], rest)
      | some ',' :: rest =>
        (readItems fuel rest).map fun more => (found.1 :: more.1, more.2)
      | _ => none

/-- The members of an object up to its end, of which there is one at least. -/
def readMembers : Nat → Source → Option (List (List Piece × Document) × Source)
  | 0, _ => none
  | fuel + 1, src =>
    match skipBlanks src with
    | some '"' :: rest =>
      (readPieces rest).bind fun key =>
        match skipBlanks key.2 with
        | some ':' :: rest =>
          (readValue fuel rest).bind fun found =>
            match skipBlanks found.2 with
            | some '\x7d' :: rest => some ([(key.1, found.1)], rest)
            | some ',' :: rest =>
              (readMembers fuel rest).map fun more => ((key.1, found.1) :: more.1, more.2)
            | _ => none
        | _ => none
    | _ => none

end

namespace Document

/-- Steps that suffice for a text: two for each of its characters. -/
def fuelFor (src : Source) : Nat :=
  2 * src.length + 2

/-- The tree of a whole text, behind which only white space may stand. -/
def readSource (src : Source) : Option Document :=
  (readValue (fuelFor src) src).bind fun found =>
    if (skipBlanks found.2).isEmpty then some found.1 else none

/-- The tree of a text. -/
def read (s : String) : Option Document :=
  readSource (s.toList.map some)

/-- The tree of a text that is given by its bytes. -/
def readBytes (bytes : List UInt8) : Option Document :=
  readSource (Text.Utf8.decode bytes)

end Document
end Json
end ChefAccess
