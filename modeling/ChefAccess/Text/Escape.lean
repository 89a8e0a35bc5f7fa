import ChefAccess.Text.Hex

/-!
# Backslash escapes

Secret stores hand key blocks back with backslash escapes in place of line
breaks.  Undoing them reads the text from left to right: a known escape gives its
character, and everything else is copied, backslash included.

Main definitions:

- {lit}`shortEscape`: the characters named by one letter.
- {lit}`codeUnit?`: the number written by the four characters after a
  backslash and {lit}`u`; a plus sign may stand before three digits.
- {lit}`unescape`: the text with its escapes undone.

Main results:

- Theorem {lit}`unescapeChars_eq_self`: a text without a backslash is unchanged.
- Theorem {lit}`unescape_eq`: so such a text need not be read.
-/

namespace ChefAccess
namespace Text

/-- The character named by the letter after a backslash. -/
def shortEscape (c : Char) : Option Char :=
  match c with
  | 'n' => some '\n'
  | 'r' => some '\r'
  | 't' => some '\t'
  | 'b' => some '\x08'
  | 'f' => some '\x0c'
  | '"' => some '"'
  | '\'' => some '\''
  | '\\' => some '\\'
  | _ => none

/-- The number written by hexadecimal digits. -/
def hexValue (digits : List Char) : Option Nat :=
  digits.foldlM (fun value c => (Hex.nibble c).map (16 * value + ·)) 0

/-- The number written in the four characters of a numeric escape: four digits,
or a plus sign and three digits. -/
def codeUnit? (a b c d : Char) : Option Nat :=
  if a = '+' then hexValue [b, c, d] else hexValue [a, b, c, d]

/-- The character with a given code point, if there is one. -/
def scalar? (n : Nat) : Option Char :=
  if n.isValidChar then some (Char.ofNat n) else none

/-- The character of a numeric escape, if its number names one. -/
def numericEscape (a b c d : Char) : Option Char :=
  (codeUnit? a b c d).bind scalar?

/-- Undo the escapes of a list of characters. -/
def unescapeChars : List Char → List Char
  | [] => []
  | '\\' :: 'u' :: a :: b :: c :: d :: rest =>
    match numericEscape a b c d with
    | some decoded => decoded :: unescapeChars rest
    | none => '\\' :: 'u' :: unescapeChars (a :: b :: c :: d :: rest)
  | '\\' :: c :: rest =>
    match shortEscape c with
    | some decoded => decoded :: unescapeChars rest
    | none => '\\' :: c :: unescapeChars rest
  | c :: rest => c :: unescapeChars rest

/-- A text with its escapes undone; a text without a backslash has none. -/
def unescape (s : String) : String :=
  if '\\' ∈ s.toList then String.ofList (unescapeChars s.toList) else s

/-- A list without a backslash is unchanged. -/
theorem unescapeChars_eq_self (l : List Char) (hplain : '\\' ∉ l) : unescapeChars l = l := by
  induction l with
  | nil => rfl
  | cons c rest ih =>
    have hc : c ≠ '\\' := fun heq => hplain (by simp [heq])
    have hrest : '\\' ∉ rest := fun hmem => hplain (by simp [hmem])
    rw [unescapeChars.eq_4 c rest (by intros; simp_all) (by intros; simp_all), ih hrest]

/-- Reading a text without a backslash would give the same. -/
theorem unescape_eq (s : String) : unescape s = String.ofList (unescapeChars s.toList) := by
  unfold unescape
  split
  · rfl
  · rename_i hplain
    rw [unescapeChars_eq_self _ hplain, String.ofList_toList]

/-- A text without a backslash is unchanged. -/
theorem unescape_eq_self {s : String} (hplain : '\\' ∉ s.toList) : unescape s = s :=
  if_neg hplain

end Text
end ChefAccess
