import ChefAccess.Base64
import ChefAccess.Text.Affix

/-!
# Key blocks

A key is handed out as a block of text: a line that names what the block holds, its
bytes as base64 in lines of sixty-four characters, and a line that ends the block.

Main definitions:

- {lit}`decode?`: the bytes of the block with a given label.
- {lit}`block?`: the lines between the first line of a block and its last.
- {lit}`joinLines?`: the base64 text of those lines.
-/

namespace ChefAccess
namespace Key
namespace Pem

/-- The start of the first line of a block. -/
def opening : List Char :=
  "-----BEGIN ".toList

/-- The start of the last line of a block. -/
def closing : List Char :=
  "-----END ".toList

/-- The end of the first line of a block and of the last. -/
def dashes : List Char :=
  "-----".toList

/-- The number of characters in a full line. -/
def lineWidth : Nat :=
  64

/-! ## Line ends -/

/-- What follows the line end at the head of a text, if there is one. -/
def afterLineEnd : List Char → Option (List Char)
  | '\r' :: '\n' :: rest => some rest
  | '\n' :: rest => some rest
  | '\r' :: rest => some rest
  | _ => none

/-- What stands before the line end in the reverse of a text. -/
def dropLineEnd : List Char → Option (List Char)
  | '\n' :: '\r' :: rest => some rest
  | '\n' :: rest => some rest
  | '\r' :: rest => some rest
  | _ => none

/-- What stands before the line end at the end of a text, if there is one. -/
def beforeLineEnd (text : List Char) : Option (List Char) :=
  (dropLineEnd text.reverse).map List.reverse

/-- A line end takes at least one character. -/
theorem length_lt_of_afterLineEnd {text rest : List Char}
    (hafter : afterLineEnd text = some rest) : rest.length < text.length := by
  unfold afterLineEnd at hafter
  split at hafter
  · rw [← Option.some.inj hafter]
    simp only [List.length_cons]
    omega
  · rw [← Option.some.inj hafter]
    simp only [List.length_cons]
    omega
  · rw [← Option.some.inj hafter]
    simp only [List.length_cons]
    omega
  · simp at hafter

/-! ## The parts of a block -/

/-- What follows the first line start with the opening of a block.  The text before it
is passed over, if there is no NUL in it. -/
def afterPreamble : List Char → Option (List Char)
  | [] => none
  | c :: rest =>
    if c = '\x00' then none
    else if c = '\n' then
      match Text.after? opening rest with
      | some found => some found
      | none => afterPreamble rest
    else afterPreamble rest

/-- What follows the opening of a block. -/
def afterOpening (text : List Char) : Option (List Char) :=
  match Text.after? opening text with
  | some found => some found
  | none => afterPreamble text

/-- The lines between the first line of a block with a given label and its last.  One
line end may follow the block. -/
def block? (label text : List Char) : Option (List Char) := do
  let labelled ← afterOpening text
  let ended ← Text.after? (label ++ dashes) labelled
  let body ← afterLineEnd ended
  let trimmed := (beforeLineEnd body).getD body
  let front ← Text.before? (closing ++ label ++ dashes) trimmed
  beforeLineEnd front

/-- The base64 text of the lines of a block.  Each line is full but the last, which is
not empty and may be followed by one line end. -/
def joinLines? (text : List Char) : Option (List Char) :=
  if text.length ≤ lineWidth then
    let line := (beforeLineEnd text).getD text
    if line.isEmpty then none else some line
  else
    match _hnext : afterLineEnd (text.drop lineWidth) with
    | none => none
    | some [] => some (text.take lineWidth)
    | some rest => (joinLines? rest).map (text.take lineWidth ++ ·)
termination_by text.length
decreasing_by
  have hlt := length_lt_of_afterLineEnd _hnext
  simp only [List.length_drop] at hlt
  omega

/-- The bytes of the block with a given label. -/
def decode? (label text : String) : Option (List UInt8) :=
  ((block? label.toList text.toList).bind joinLines?).bind Base64.decodeChars

end Pem
end Key
end ChefAccess
