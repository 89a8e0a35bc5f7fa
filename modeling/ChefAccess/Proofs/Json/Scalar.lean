import ChefAccess.Json.Decode
import Mathlib.Data.List.Nodup
import Mathlib.Tactic.Common

/-!
# Strings and numerals are read back

A string is written with a backslash before the few characters that need one and with a
code unit for each other control character, so that what is read stops at the closing
quote and at no quote before it.  An integer is written by its digits.  They are read as
far as they go, and behind a value there is a comma, a closing bracket or nothing, none of
which goes on with a numeral.

Main definitions:

- {lit}`charPiece`: the piece that a character is written as.
- {lit}`Ended`: what may stand behind a value.
- {lit}`Numeral.ofInt`: the numeral of an integer.

Main results:

- Theorem {lit}`readPieces_renderString`: a written string is read up to its closing quote.
- Theorem {lit}`text?_charPieces`: the pieces of a written string stand for it.
- Theorem {lit}`readNumeral_renderInt`: a written integer is read as its numeral.
- Theorem {lit}`Numeral.value?_ofInt`: the numeral of an integer of sixty-four bits stands
  for it.
-/

namespace ChefAccess
namespace Json

/-! ## Strings -/

/-- The piece that a character is written as. -/
def charPiece (c : Char) : Piece :=
  if c.toNat < 0x20 ∧ c ∉ ['\x08', '\t', '\n', '\x0c', '\r'] then .code c.toNat else .char c

/-- The four digits of a small code unit are read back. -/
theorem codePiece_small {n : Nat} (hsmall : n < 0x20) :
    codePiece '0' '0' (Text.Hex.digit (n / 16)) (Text.Hex.digit (n % 16)) =
      some (.code n) := by
  have hzero : Text.Hex.nibble '0' = some 0 := by decide
  have hhigh := Text.Hex.nibble_digit (n / 16) (by omega)
  have hlow := Text.Hex.nibble_digit (n % 16) (by omega)
  simp only [codePiece, hzero, hhigh, hlow]
  congr 2
  omega

/-- A written character is read as its piece. -/
theorem readPieces_escapeChar (c : Char) (rest : Source) :
    readPieces ((escapeChar c).map some ++ rest) = consPiece (charPiece c) (readPieces rest) := by
  by_cases hshort : c ∈ ['"', '\\', '\x08', '\t', '\n', '\x0c', '\r']
  · simp only [List.mem_cons, List.not_mem_nil, or_false] at hshort
    rcases hshort with rfl | rfl | rfl | rfl | rfl | rfl | rfl <;>
      simp [escapeChar, charPiece, readPieces, shortPiece]
  · simp only [List.mem_cons, List.not_mem_nil, or_false, not_or] at hshort
    obtain ⟨hquote, hslash, hback, htab, hline, hfeed, hreturn⟩ := hshort
    by_cases hcontrol : c.toNat < 0x20
    · simp [escapeChar, charPiece, readPieces, hquote, hslash, hback, htab, hline, hfeed,
        hreturn, hcontrol, codePiece_small hcontrol]
    · simp [escapeChar, charPiece, hquote, hslash, hback, htab, hline, hfeed, hreturn,
        hcontrol, readPieces]

/-- Written characters are read up to the closing quote. -/
theorem readPieces_escapeChars (l : List Char) (rest : Source) :
    readPieces ((l.flatMap escapeChar ++ ['"']).map some ++ rest) =
      some (l.map charPiece, rest) := by
  induction l with
  | nil => simp [readPieces]
  | cons c l ih =>
    rw [List.flatMap_cons, List.append_assoc, List.map_append, List.append_assoc,
      readPieces_escapeChar, ih]
    simp [consPiece]

/-- A written string is read up to its closing quote. -/
theorem readPieces_renderString (s : String) (rest : Source) :
    ∃ inner, (renderString s).map some ++ rest = some '"' :: inner ∧
      readPieces inner = some (s.toList.map charPiece, rest) :=
  ⟨(s.toList.flatMap escapeChar ++ ['"']).map some ++ rest, by simp [renderString],
    readPieces_escapeChars s.toList rest⟩

/-- A code unit that is a character stands for it, whatever follows. -/
theorem textChars_code {n : Nat} {c : Char} (rest : List Piece)
    (hscalar : Text.scalar? n = some c) :
    textChars (.code n :: rest) = (textChars rest).map (c :: ·) := by
  cases rest with
  | nil => simp [textChars, hscalar]
  | cons piece rest => cases piece <;> simp [textChars, hscalar]

/-- The pieces of written characters stand for these characters. -/
theorem textChars_charPieces (l : List Char) : textChars (l.map charPiece) = some l := by
  induction l with
  | nil => simp [textChars]
  | cons c rest ih =>
    rw [List.map_cons]
    by_cases hcode : c.toNat < 0x20 ∧ c ∉ ['\x08', '\t', '\n', '\x0c', '\r']
    · have hscalar : Text.scalar? c.toNat = some c := by
        have hvalid : c.toNat.isValidChar := Or.inl (by omega)
        simp [Text.scalar?, hvalid]
      have hpiece : charPiece c = .code c.toNat := if_pos hcode
      rw [hpiece, textChars_code _ hscalar, ih]
      rfl
    · have hpiece : charPiece c = .char c := if_neg hcode
      simp [hpiece, textChars, ih]

/-- The pieces of a written string stand for it. -/
theorem text?_charPieces (s : String) : text? (s.toList.map charPiece) = some s := by
  simp [text?, textChars_charPieces]

/-! ## Numerals -/

/-- The decimal digits of a number. -/
def digitsOf (n : Nat) : List Nat :=
  (Nat.toDigits 10 n).map fun c => c.toNat - 48

/-- The digits of a number are its own. -/
theorem decimalValue_digitsOf (n : Nat) : decimalValue (digitsOf n) = n := by
  have hread := Nat.ofDigitChars_ten_toDigits (n := n)
  simpa [decimalValue, digitsOf, List.foldl_map, Nat.ofDigitChars_eq_foldl] using hread

/-- The first digit is a zero only if the number is. -/
theorem head?_digitsOf (n : Nat) : (digitsOf n).head? = some 0 → n = 0 := by
  induction n using Nat.strongRecOn with
  | ind n ih =>
    intro hhead
    by_cases hsmall : n < 10
    · have hdigit : ∀ d < 10, (Nat.digitChar d).toNat - 48 = d := by decide
      rw [digitsOf, Nat.toDigits_of_lt_base hsmall] at hhead
      simpa [hdigit n hsmall] using hhead
    · rw [digitsOf, Nat.toDigits_of_base_le (by omega) (by omega), List.map_append,
        List.head?_append_of_ne_nil _ (by simp)] at hhead
      have hzero := ih (n / 10) (by omega) hhead
      omega

/-- What may stand behind a value: a comma, a closing bracket or nothing. -/
def Ended (rest : Source) : Prop :=
  ∀ item ∈ rest.head?, item = some ',' ∨ item = some ']' ∨ item = some '\x7d'

/-- Nothing may stand behind a value. -/
theorem ended_nil : Ended [] := by
  simp [Ended]

/-- A mark that may stand behind a value. -/
theorem ended_cons {c : Char} (rest : Source) (hmark : c = ',' ∨ c = ']' ∨ c = '\x7d') :
    Ended (some c :: rest) := by
  simpa [Ended] using hmark

/-- Digits are read as far as they go. -/
theorem readDigits_append {l : List Char} {rest : Source} (hdigits : ∀ c ∈ l, c.isDigit)
    (hended : Ended rest) :
    readDigits (l.map some ++ rest) = (l.map fun c => c.toNat - 48, rest) := by
  induction l with
  | nil =>
    cases rest with
    | nil => simp [readDigits]
    | cons item rest =>
      have hmark := hended item (by simp)
      rcases hmark with rfl | rfl | rfl <;> simp [readDigits, Char.isDigit]
  | cons c l ih =>
    have hfirst := hdigits c (by simp)
    have hrest := ih fun c hc => hdigits c (by simp [hc])
    simp [readDigits, hfirst, hrest]

/-- Behind a value there is no fraction. -/
theorem readFraction_ended {rest : Source} (hended : Ended rest) :
    readFraction rest = some ([], rest) := by
  cases rest with
  | nil => simp [readFraction]
  | cons item rest =>
    have hmark := hended item (by simp)
    rcases hmark with rfl | rfl | rfl <;> simp [readFraction]

/-- Behind a value there is no exponent. -/
theorem readExponent_ended {rest : Source} (hended : Ended rest) :
    readExponent rest = some (none, rest) := by
  cases rest with
  | nil => simp [readExponent]
  | cons item rest =>
    have hmark := hended item (by simp)
    rcases hmark with rfl | rfl | rfl <;> simp [readExponent]

/-- Written digits are read as a numeral without a fraction or an exponent. -/
theorem readUnsigned_toDigits (negative : Bool) (n : Nat) {rest : Source}
    (hended : Ended rest) :
    readUnsigned negative ((Nat.toDigits 10 n).map some ++ rest) =
      some (⟨negative, digitsOf n, [], none⟩, rest) := by
  have hdigits : readDigits ((Nat.toDigits 10 n).map some ++ rest) = (digitsOf n, rest) :=
    readDigits_append (fun c hc => Nat.isDigit_of_mem_toDigits (by omega) (by omega) hc) hended
  have hsome : (digitsOf n).isEmpty = false := by
    simp [digitsOf]
  have hwhole : ¬ ((digitsOf n).head? = some 0 ∧ (digitsOf n).length ≠ 1) := by
    intro hlead
    have hzero := head?_digitsOf n hlead.1
    subst hzero
    exact hlead.2 (by decide)
  simp [readUnsigned, readWhole, readSomeDigits, hdigits, hsome, hwhole,
    readFraction_ended hended, readExponent_ended hended]

namespace Numeral

/-- The numeral of an integer. -/
def ofInt (n : Int) : Numeral :=
  ⟨decide (n < 0), digitsOf n.natAbs, [], none⟩

/-- Digits are gathered to their number as long as the word can take it. -/
theorem gatherWhole_eq {digits : List Nat} {start : Nat}
    (hword : digits.foldl (fun value d => 10 * value + d) start ≤ maxWord) :
    gatherWhole ⟨start, 0⟩ digits =
      ⟨digits.foldl (fun value d => 10 * value + d) start, 0⟩ := by
  have hgrows : ∀ (l : List Nat) (m : Nat), m ≤ l.foldl (fun value d => 10 * value + d) m := by
    intro l
    induction l with
    | nil => simp
    | cons d l ih =>
      intro m
      have hstep := ih (10 * m + d)
      simp only [List.foldl_cons]
      omega
  induction digits generalizing start with
  | nil => simp [gatherWhole]
  | cons d digits ih =>
    simp only [List.foldl_cons] at hword ⊢
    have hfirst : 10 * start + d ≤ maxWord := Nat.le_trans (hgrows digits _) hword
    simp [gatherWhole, hfirst, ih hword]

/-- The digits of an integer of sixty-four bits, with or without sign, stand for it. -/
theorem value?_ofInt {n : Int} (hlow : -Int.pow 2 63 ≤ n) (hhigh : n < Int.pow 2 64) :
    (ofInt n).value? = some (.int n) := by
  have hleast : Int.pow 2 63 = 9223372036854775808 := by decide
  have hgreatest : Int.pow 2 64 = 18446744073709551616 := by decide
  have hnumber : (digitsOf n.natAbs).foldl (fun value d => 10 * value + d) 0 = n.natAbs :=
    decimalValue_digitsOf n.natAbs
  have hword : n.natAbs ≤ maxWord := by
    have hpow : maxWord = 18446744073709551615 := by decide
    omega
  have hgathered : gatherWhole ⟨0, 0⟩ (digitsOf n.natAbs) = ⟨n.natAbs, 0⟩ := by
    rw [gatherWhole_eq (by rw [hnumber]; exact hword), hnumber]
  by_cases hnegative : n < 0
  · have hsize : 0 < n.natAbs ∧ n.natAbs ≤ Nat.pow 2 63 := by
      have hpow : Nat.pow 2 63 = 9223372036854775808 := by decide
      omega
    have hself : -(n.natAbs : Int) = n := by omega
    simp only [value?, ofInt, hgathered, hnegative, decide_true, List.isEmpty_nil,
      Option.isNone_none, and_self, if_true, hsize, hself]
  · have hself : (n.natAbs : Int) = n := by omega
    simp only [value?, ofInt, hgathered, hnegative, decide_false, List.isEmpty_nil,
      Option.isNone_none, and_self, if_true, Bool.false_eq_true, if_false, hself]

end Numeral

/-- The numeral that a number is written as. -/
def Number.numeral : Number → Numeral
  | .int n => .ofInt n
  | .double x => ((readNumeral (x.renderChars.map some)).map (·.1)).getD (.ofInt 0)

/-- A written integer begins with a sign or a digit. -/
theorem renderInt_head (n : Int) :
    ∃ c tail, renderInt n = c :: tail ∧ (c = '-' ∨ c.isDigit) := by
  by_cases hnegative : n < 0
  · exact ⟨'-', Nat.toDigits 10 n.natAbs, by simp [renderInt, hnegative], Or.inl rfl⟩
  · cases hdigits : Nat.toDigits 10 n.natAbs with
    | nil => simp at hdigits
    | cons c tail =>
      have hdigit : c.isDigit := Nat.isDigit_of_mem_toDigits (b := 10) (n := n.natAbs)
        (by omega) (by omega) (by simp [hdigits])
      exact ⟨c, tail, by simp [renderInt, hnegative, hdigits], Or.inr hdigit⟩

/-- A written integer is read as its numeral. -/
theorem readNumeral_renderInt (n : Int) {rest : Source} (hended : Ended rest) :
    readNumeral ((renderInt n).map some ++ rest) = some (.ofInt n, rest) := by
  by_cases hnegative : n < 0
  · have hread := readUnsigned_toDigits true n.natAbs hended
    simp [renderInt, hnegative, readNumeral, hread, Numeral.ofInt]
  · have hread := readUnsigned_toDigits false n.natAbs hended
    obtain ⟨c, tail, hhead, hfirst⟩ := renderInt_head n
    have hdigits : Nat.toDigits 10 n.natAbs = c :: tail := by
      simpa [renderInt, hnegative] using hhead
    -- The first character is a digit, so that it is not taken for a sign.
    have hsign : c ≠ '-' := by
      rintro rfl
      have hdigit : ('-').isDigit := Nat.isDigit_of_mem_toDigits (b := 10) (n := n.natAbs)
        (by omega) (by omega) (by simp [hdigits])
      simp [Char.isDigit] at hdigit
    rw [hdigits] at hread
    simp only [List.map_cons, List.cons_append] at hread
    simp [hhead, readNumeral, hsign, hread, Numeral.ofInt, hnegative]

end Json
end ChefAccess
