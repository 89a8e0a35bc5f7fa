import ChefAccess.Text.CaseTable

/-!
# Lower-casing

Host names are compared and sent in lower case.  Lower-casing covers the whole
character set: most letters map to one character, U+0130 maps to two, and a
capital sigma depends on its neighbourhood, since it has a form of its own at the
end of a word.

Main definitions:

- {lit}`lowerChar`: the lower-case form of a character outside any context.
- {lit}`endsWord`: whether a sigma between two texts ends a word.
- {lit}`toLower`: the lower-case form of a text.

Main results:

- Theorem {lit}`toLower_eq_map_of_ascii`: within ASCII, lower-casing works
  character by character.
-/

namespace ChefAccess
namespace Text

/-! ## Single characters -/

/-- Whether a character is one of the capital letters of ASCII. -/
def isAsciiUpper (c : Char) : Bool :=
  65 ≤ c.toNat && c.toNat ≤ 90

/-- The lower-case form of a character among the capital letters of ASCII; every
other character stays as it is. -/
def lowerAscii (c : Char) : Char :=
  if isAsciiUpper c then Char.ofNat (c.toNat + 32) else c

/-- The lower-case form of a character outside any context. -/
def lowerChar (c : Char) : List Char :=
  if c.toNat < 0x80 then [lowerAscii c]
  else if c.toNat = 0x130 then ['i', '\u0307']
  else
    match lowerRanges.find? (·.contains c.toNat) with
    | some r => [Char.ofNat (c.toNat + r.offset).toNat]
    | none => [c]

/-- Whether a character is skipped in search of a cased one. -/
def isCaseIgnorable (c : Char) : Bool :=
  inRanges ignorableRanges c.toNat

/-- Whether a character is cased and not skipped in search of one. -/
def isCased (c : Char) : Bool :=
  inRanges casedRanges c.toNat

/-! ## Text -/

/-- Whether the first character that is not skipped is cased. -/
def startsCased (l : List Char) : Bool :=
  match l.dropWhile isCaseIgnorable with
  | [] => false
  | c :: _ => isCased c

/-- A sigma ends a word when a cased letter stands before it and none after it.
The text before it is given in reverse. -/
def endsWord (before after : List Char) : Bool :=
  startsCased before && !startsCased after

/-- The lower-case form of a character between two texts, the first in reverse. -/
def lowerBetween (before : List Char) (c : Char) (after : List Char) : List Char :=
  if c = 'Σ' then (if endsWord before after then ['ς'] else ['σ']) else lowerChar c

/-- The lower-case form of a list of characters that follows another, which is
given in reverse. -/
def lowerAfter : List Char → List Char → List Char
  | _, [] => []
  | before, c :: rest => lowerBetween before c rest ++ lowerAfter (c :: before) rest

/-- The lower-case form of a text. -/
def toLower (s : String) : String :=
  String.ofList (lowerAfter [] s.toList)

/-- Within ASCII, lower-casing works character by character. -/
theorem lowerAfter_eq_map_of_ascii (before l : List Char)
    (hascii : ∀ c ∈ l, c.toNat < 0x80) : lowerAfter before l = l.map lowerAscii := by
  induction l generalizing before with
  | nil => rfl
  | cons c rest ih =>
    have hc : c.toNat < 0x80 := hascii c (by simp)
    have hsigma : c ≠ 'Σ' := by
      intro heq
      rw [heq] at hc
      exact absurd hc (by decide)
    simp [lowerAfter, lowerBetween, hsigma, lowerChar, hc, ih (c :: before)
      fun d hd => hascii d (by simp [hd])]

/-- Within ASCII, lower-casing a text works character by character. -/
theorem toLower_eq_map_of_ascii (s : String) (hascii : ∀ c ∈ s.toList, c.toNat < 0x80) :
    toLower s = String.ofList (s.toList.map lowerAscii) := by
  rw [toLower, lowerAfter_eq_map_of_ascii [] s.toList hascii]

end Text
end ChefAccess
