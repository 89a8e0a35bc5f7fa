import ChefAccess.Text.Escape
import Mathlib.Data.List.Induction

/-!
# What escapes stand for

A text with escapes is a run of tokens.  A token is a character that stands for itself, an
escape that names a character, or a backslash that begins no escape, and each token stands for
one character.  Reading goes from left to right and takes an escape wherever one stands, so
every text is read in one way.

The number of a numeric escape should have four hexadecimal digits.  The reader also takes a
plus sign and three digits, which should be copied like any other text.

Main definitions:

- {lit}`HexDigit`, {lit}`Digits` and {lit}`Numeral`: what the number of an escape looks like.
- {lit}`Token`: the tokens, their texts and the characters that they stand for.
- {lit}`Reading`: the tokens of a text.
- {lit}`Spelling`: the ways of writing a text.

Main results:

- Theorems {lit}`exists_reading` and {lit}`Reading.unique`: every text is read in one way.
- Theorem {lit}`Reading.unescapeChars_eq`: undoing escapes gives what the tokens stand for.
- Theorem {lit}`Reading.strict`: how a text is read if numbers have no sign.
- Theorem {lit}`unescape_law`: escapes are undone as they should be exactly if no number has
  a sign.
- Theorem {lit}`Spelling.unescapeChars_eq`: escapes that are written are undone.
-/

namespace ChefAccess
namespace Text

variable {signed : Bool} {text rest digits : List Char} {c : Char} {n : Nat}

/-! ## Numbers -/

/-- A hexadecimal digit, in either letter case, and its value. -/
inductive HexDigit (c : Char) : Nat → Prop
  | decimal (n : Nat) (hn : n < 10) (hc : c.toNat = '0'.toNat + n) : HexDigit c n
  | lower (n : Nat) (hn : n < 6) (hc : c.toNat = 'a'.toNat + n) : HexDigit c (10 + n)
  | upper (n : Nat) (hn : n < 6) (hc : c.toNat = 'A'.toNat + n) : HexDigit c (10 + n)

/-- Hexadecimal digits and the number that they write. -/
inductive Digits : List Char → Nat → Prop
  | nil : Digits [] 0
  | snoc {front : List Char} {c : Char} {n value : Nat} (hfront : Digits front n)
      (hdigit : HexDigit c value) : Digits (front ++ [c]) (16 * n + value)

/-- The number of a numeric escape: four digits or, where a sign may stand, a plus sign and
three digits. -/
inductive Numeral (signed : Bool) : List Char → Nat → Prop
  | plain {digits : List Char} {n : Nat} (hlength : digits.length = 4) (hdigits : Digits digits n) :
      Numeral signed digits n
  | plus {digits : List Char} {n : Nat} (hsigned : signed = true) (hlength : digits.length = 3)
      (hdigits : Digits digits n) : Numeral signed ('+' :: digits) n

/-- The digits are those whose value is known. -/
theorem nibble_eq_some_iff : Hex.nibble c = some n ↔ HexDigit c n := by
  have h0 : '0'.toNat = 48 := rfl
  have ha : 'a'.toNat = 97 := rfl
  have hA : 'A'.toNat = 65 := rfl
  constructor
  · intro hvalue
    simp only [Hex.nibble] at hvalue
    split at hvalue
    · rw [← Option.some.inj hvalue]
      exact .decimal _ (by omega) (by omega)
    split at hvalue
    · have hn : n = 10 + (c.toNat - 97) := by
        have := Option.some.inj hvalue
        omega
      rw [hn]
      exact .lower _ (by omega) (by omega)
    split at hvalue
    · have hn : n = 10 + (c.toNat - 65) := by
        have := Option.some.inj hvalue
        omega
      rw [hn]
      exact .upper _ (by omega) (by omega)
    · cases hvalue
  · intro hdigit
    simp only [Hex.nibble]
    cases hdigit with
    | decimal n hn hc =>
      rw [if_pos (by omega), Option.some.injEq]
      omega
    | lower n hn hc =>
      rw [if_neg (by omega), if_pos (by omega), Option.some.injEq]
      omega
    | upper n hn hc =>
      rw [if_neg (by omega), if_neg (by omega), if_pos (by omega), Option.some.injEq]
      omega

/-- Reading digits gives the number that they write. -/
theorem hexValue_eq_some_iff : hexValue digits = some n ↔ Digits digits n := by
  have hsnoc : ∀ front c, hexValue (front ++ [c]) =
      (hexValue front).bind fun m => (Hex.nibble c).map (16 * m + ·) := by
    intro front c
    simp [hexValue, List.foldlM_append]
  constructor
  · intro hvalue
    induction digits using List.reverseRecOn generalizing n with
    | nil =>
      rw [← Option.some.inj hvalue]
      exact .nil
    | append_singleton front c ih =>
      rw [hsnoc] at hvalue
      obtain ⟨m, hfront, hlast⟩ := Option.bind_eq_some_iff.mp hvalue
      obtain ⟨value, hdigit, rfl⟩ := Option.map_eq_some_iff.mp hlast
      exact .snoc (ih hfront) (nibble_eq_some_iff.mp hdigit)
  · intro hdigits
    induction hdigits with
    | nil => rfl
    | snoc _ hdigit ih => rw [hsnoc, ih, Option.bind_some, nibble_eq_some_iff.mpr hdigit]; rfl

/-- A plus sign is no digit. -/
theorem not_digits_plus : ¬ Digits ('+' :: digits) n := by
  intro hdigits
  rw [← hexValue_eq_some_iff] at hdigits
  cases hdigits

/-- A backslash is no digit. -/
theorem Digits.backslash_not_mem (hdigits : Digits digits n) : '\\' ∉ digits := by
  induction hdigits with
  | nil => exact List.not_mem_nil
  | @snoc front c _ _ _ hdigit ih =>
    have hlast : '\\' ≠ c := by
      rintro rfl
      cases nibble_eq_some_iff.mpr hdigit
    simp [ih, hlast]

namespace Numeral

/-- The number of an escape takes four characters. -/
theorem length_eq (hnumeral : Numeral signed digits n) : digits.length = 4 := by
  cases hnumeral with
  | plain hlength _ => exact hlength
  | plus _ hlength _ => rw [List.length_cons, hlength]

/-- The number of an escape is four characters. -/
theorem exists_four (hnumeral : Numeral signed digits n) : ∃ a b c d, digits = [a, b, c, d] :=
  match digits, hnumeral.length_eq with
  | [a, b, c, d], _ => ⟨a, b, c, d, rfl⟩

/-- Where no sign may stand, a number is the same where one may. -/
theorem weaken (hnumeral : Numeral false digits n) : Numeral signed digits n := by
  cases hnumeral with
  | plain hlength hdigits => exact .plain hlength hdigits
  | plus hsigned => cases hsigned

/-- The four characters of a numeric escape are a number, with or without a sign. -/
theorem codeUnit?_eq_some_iff {a b c d : Char} :
    codeUnit? a b c d = some n ↔ Numeral true [a, b, c, d] n := by
  unfold codeUnit?
  constructor
  · intro hvalue
    split at hvalue
    · rename_i hplus
      rw [hplus]
      exact .plus rfl rfl (hexValue_eq_some_iff.mp hvalue)
    · exact .plain rfl (hexValue_eq_some_iff.mp hvalue)
  · intro hnumeral
    cases hnumeral with
    | plain _ hdigits =>
      have hplus : a ≠ '+' := by
        rintro rfl
        exact not_digits_plus hdigits
      rw [if_neg hplus, hexValue_eq_some_iff]
      exact hdigits
    | plus _ _ hdigits =>
      rw [if_pos rfl, hexValue_eq_some_iff]
      exact hdigits

/-- Four characters write one number. -/
theorem unique {m : Nat} (hnumeral : Numeral signed digits n) (hother : Numeral signed digits m) :
    n = m := by
  cases hnumeral with
  | plain _ hdigits =>
    cases hother with
    | plain _ hdigits' =>
      rw [← hexValue_eq_some_iff] at hdigits hdigits'
      exact Option.some.inj (hdigits.symm.trans hdigits')
    | plus => exact absurd hdigits not_digits_plus
  | plus _ _ hdigits =>
    cases hother with
    | plain _ hdigits' => exact absurd hdigits' not_digits_plus
    | plus _ _ hdigits' =>
      rw [← hexValue_eq_some_iff] at hdigits hdigits'
      exact Option.some.inj (hdigits.symm.trans hdigits')

end Numeral

/-- The character of a number is the one with that code. -/
theorem scalar?_eq_some_iff : scalar? n = some c ↔ c.toNat = n := by
  unfold scalar?
  constructor
  · intro hscalar
    split at hscalar
    · rename_i hvalid
      rw [← Option.some.inj hscalar]
      have hof : Char.ofNat n = Char.ofNatAux n hvalid := dif_pos hvalid
      rw [hof]
      rfl
    · cases hscalar
  · rintro rfl
    have hvalid : c.toNat.isValidChar := c.valid
    rw [if_pos hvalid, Char.ofNat_toNat]

/-- The characters of a numeric escape name a character if they are the number of one. -/
theorem numericEscape_eq_some_iff {a b c d decoded : Char} :
    numericEscape a b c d = some decoded ↔ Numeral true [a, b, c, d] decoded.toNat := by
  rw [numericEscape, Option.bind_eq_some_iff, ← Numeral.codeUnit?_eq_some_iff]
  constructor
  · rintro ⟨n, hnumber, hscalar⟩
    rw [scalar?_eq_some_iff.mp hscalar]
    exact hnumber
  · intro hnumber
    exact ⟨_, hnumber, scalar?_eq_some_iff.mpr rfl⟩

/-! ## Tokens -/

/-- The letters that name a character behind a backslash, with their characters. -/
def shortEscapes : List (Char × Char) :=
  [('n', '\n'), ('r', '\r'), ('t', '\t'), ('b', '\x08'), ('f', '\x0c'), ('"', '"'), ('\'', '\''),
    ('\\', '\\')]

/-- A piece of a text with escapes. -/
inductive Token
  /-- A character that stands for itself. -/
  | plain (c : Char)
  /-- A backslash that begins no escape, and so stands for itself too. -/
  | backslash
  /-- A backslash, a letter, and the character that the letter names. -/
  | short (letter c : Char)
  /-- A backslash, the letter {lit}`u`, a number, and the character with that number. -/
  | numeric (number : List Char) (c : Char)

namespace Token

/-- The characters of a token. -/
def word : Token → List Char
  | plain c => [c]
  | backslash => ['\\']
  | short letter _ => ['\\', letter]
  | numeric number _ => '\\' :: 'u' :: number

/-- The character that a token stands for. -/
def image : Token → Char
  | plain c => c
  | backslash => '\\'
  | short _ c => c
  | numeric _ c => c

/-- A token is an escape, whose number may have a sign or not. -/
inductive IsEscape (signed : Bool) : Token → Prop
  | short (letter c : Char) (hletter : (letter, c) ∈ shortEscapes) : IsEscape signed (short letter c)
  | numeric (number : List Char) (c : Char) (hnumber : Numeral signed number c.toNat) :
      IsEscape signed (numeric number c)

/-- A token is a numeric escape whose number has a sign. -/
def Signed (token : Token) : Prop :=
  ∃ digits c, token = numeric ('+' :: digits) c

end Token

/-- The letter of a short escape names its character. -/
theorem shortEscape_eq_some_iff {letter : Char} :
    shortEscape letter = some c ↔ (letter, c) ∈ shortEscapes := by
  constructor
  · intro hshort
    unfold shortEscape at hshort
    split at hshort
    all_goals cases hshort
    all_goals decide
  · intro hmem
    have hall : ∀ entry ∈ shortEscapes, shortEscape entry.1 = some entry.2 := by decide
    exact hall _ hmem

/-- The tokens of a text.  An escape is taken wherever one stands. -/
inductive Reading (signed : Bool) : List Char → List Token → Prop
  | done : Reading signed [] []
  | plain {c : Char} {rest : List Char} {tokens : List Token} (hc : c ≠ '\\')
      (hrest : Reading signed rest tokens) : Reading signed (c :: rest) (.plain c :: tokens)
  | escape {token : Token} {text rest : List Char} {tokens : List Token}
      (hescape : token.IsEscape signed) (htext : text = token.word ++ rest)
      (hrest : Reading signed rest tokens) : Reading signed text (token :: tokens)
  | backslash {rest : List Char} {tokens : List Token}
      (hnone : ∀ token : Token, token.IsEscape signed → ¬ token.word <+: '\\' :: rest)
      (hrest : Reading signed rest tokens) : Reading signed ('\\' :: rest) (.backslash :: tokens)

variable {token : Token} {tokens : List Token}

namespace Token.IsEscape

/-- A text with an escape at its head begins with a backslash. -/
theorem exists_cons (hescape : token.IsEscape signed) (htext : text = token.word ++ rest) :
    ∃ later, text = '\\' :: later ∧ rest.length ≤ later.length := by
  subst htext
  cases hescape with
  | short letter => exact ⟨letter :: rest, rfl, by simp⟩
  | numeric number => exact ⟨'u' :: number ++ rest, rfl, by simp; omega⟩

/-- Where no sign may stand, an escape is the same where one may. -/
theorem weaken (hescape : token.IsEscape false) : token.IsEscape signed := by
  cases hescape with
  | short letter c hletter => exact .short letter c hletter
  | numeric number c hnumber => exact .numeric number c hnumber.weaken

/-- One escape at most stands at a place. -/
theorem unique {other : Token} {rest' : List Char} (hescape : token.IsEscape signed)
    (hother : other.IsEscape signed) (htext : token.word ++ rest = other.word ++ rest') :
    token = other ∧ rest = rest' := by
  have hletters : ∀ entry ∈ shortEscapes, entry.1 ≠ 'u' := by decide
  cases hescape with
  | short letter c hletter =>
    cases hother with
    | short letter' c' hletter' =>
      simp only [Token.word, List.cons_append, List.nil_append, List.cons.injEq, true_and] at htext
      obtain ⟨rfl, hrests⟩ := htext
      rw [← shortEscape_eq_some_iff] at hletter hletter'
      rw [Option.some.inj (hletter.symm.trans hletter')]
      exact ⟨rfl, hrests⟩
    | numeric number =>
      simp only [Token.word, List.cons_append, List.cons.injEq] at htext
      exact absurd htext.2.1 (hletters _ hletter)
  | numeric number c hnumber =>
    cases hother with
    | short letter' c' hletter' =>
      simp only [Token.word, List.cons_append, List.cons.injEq] at htext
      exact absurd htext.2.1.symm (hletters _ hletter')
    | numeric number' c' hnumber' =>
      simp only [Token.word, List.cons_append, List.cons.injEq, true_and] at htext
      obtain ⟨rfl, hrests⟩ :=
        List.append_inj htext (hnumber.length_eq.trans hnumber'.length_eq.symm)
      rw [Char.toNat_inj.mp (hnumber.unique hnumber')]
      exact ⟨rfl, hrests⟩

end Token.IsEscape

/-! ## Readings -/

/-- Every text can be read. -/
theorem exists_reading (signed : Bool) (text : List Char) : ∃ tokens, Reading signed text tokens := by
  induction hlength : text.length using Nat.strongRecOn generalizing text with
  | ind length ih =>
    cases text with
    | nil => exact ⟨[], .done⟩
    | cons c rest =>
      obtain ⟨tokens, hrest⟩ := ih rest.length (by simp [← hlength]) rest rfl
      by_cases hc : c = '\\'
      · subst hc
        by_cases hescape : ∃ token : Token, token.IsEscape signed ∧ token.word <+: '\\' :: rest
        · obtain ⟨token, hescape, later, htext⟩ := hescape
          obtain ⟨_, hcons, hshorter⟩ := hescape.exists_cons htext.symm
          have hlt : later.length < length := by
            rw [← hlength, hcons, List.length_cons]
            omega
          obtain ⟨tokens, hlater⟩ := ih later.length hlt later rfl
          exact ⟨_, .escape hescape htext.symm hlater⟩
        · refine ⟨_, .backslash ?_ hrest⟩
          intro token htoken hstands
          exact hescape ⟨token, htoken, hstands⟩
      · exact ⟨_, .plain hc hrest⟩

namespace Reading

/-- A text is read in one way. -/
theorem unique {others : List Token} (hreading : Reading signed text tokens)
    (hother : Reading signed text others) : tokens = others := by
  induction hreading generalizing others with
  | done =>
    cases hother with
    | done => rfl
    | escape hescape htext =>
      obtain ⟨_, hcons, -⟩ := hescape.exists_cons htext
      cases hcons
  | plain hc _ ih =>
    cases hother with
    | plain _ hrest => rw [ih hrest]
    | escape hescape htext =>
      obtain ⟨_, hcons, -⟩ := hescape.exists_cons htext
      exact absurd (List.cons.inj hcons).1 hc
    | backslash => exact absurd rfl hc
  | escape hescape htext _ ih =>
    cases hother with
    | done =>
      obtain ⟨_, hcons, -⟩ := hescape.exists_cons htext
      cases hcons
    | plain hc =>
      obtain ⟨_, hcons, -⟩ := hescape.exists_cons htext
      exact absurd (List.cons.inj hcons).1 hc
    | escape hescape' htext' hrest =>
      obtain ⟨rfl, rfl⟩ := hescape.unique hescape' (htext.symm.trans htext')
      rw [ih hrest]
    | backslash hnone => exact absurd ⟨_, htext.symm⟩ (hnone _ hescape)
  | backslash hnone _ ih =>
    cases hother with
    | plain hc => exact absurd rfl hc
    | escape hescape htext => exact absurd ⟨_, htext.symm⟩ (hnone _ hescape)
    | backslash _ hrest => rw [ih hrest]

end Reading

/-! ## What is undone -/

/-- A character other than a backslash is copied. -/
theorem unescapeChars_plain (hc : c ≠ '\\') :
    unescapeChars (c :: rest) = c :: unescapeChars rest := by
  rw [unescapeChars.eq_4]
  · intro a b d e later hbackslash
    exact absurd hbackslash hc
  · intro letter later hbackslash
    exact absurd hbackslash hc

/-- A short escape is undone. -/
theorem unescapeChars_short {letter : Char} (hletter : shortEscape letter = some c) :
    unescapeChars ('\\' :: letter :: rest) = c :: unescapeChars rest := by
  rw [unescapeChars.eq_3, hletter]
  rintro a b d e later rfl
  cases hletter

/-- A numeric escape is undone. -/
theorem unescapeChars_numeric {a b d e decoded : Char}
    (hnumber : numericEscape a b d e = some decoded) :
    unescapeChars ('\\' :: 'u' :: a :: b :: d :: e :: rest) = decoded :: unescapeChars rest := by
  rw [unescapeChars.eq_2, hnumber]

/-- A backslash that begins no escape is copied. -/
theorem unescapeChars_backslash
    (hnone : ∀ token : Token, token.IsEscape true → ¬ token.word <+: '\\' :: rest) :
    unescapeChars ('\\' :: rest) = '\\' :: unescapeChars rest := by
  cases rest with
  | nil => rfl
  | cons letter rest =>
    have hshort : shortEscape letter = none := by
      refine Option.eq_none_iff_forall_ne_some.mpr fun named hnamed => ?_
      exact hnone _ (.short letter named (shortEscape_eq_some_iff.mp hnamed)) ⟨rest, rfl⟩
    have hletter : letter ≠ '\\' := by
      rintro rfl
      cases hshort
    by_cases hnumeric : ∃ a b d e later, letter :: rest = 'u' :: a :: b :: d :: e :: later
    · obtain ⟨a, b, d, e, later, heq⟩ := hnumeric
      have hnumber : numericEscape a b d e = none := by
        refine Option.eq_none_iff_forall_ne_some.mpr fun named hnamed => ?_
        refine hnone _ (.numeric _ named (numericEscape_eq_some_iff.mp hnamed)) ?_
        rw [heq]
        exact ⟨later, rfl⟩
      rw [unescapeChars_plain hletter]
      obtain ⟨rfl, rfl⟩ := List.cons.inj heq
      rw [unescapeChars.eq_2, hnumber]
    · rw [unescapeChars.eq_3, hshort, unescapeChars_plain hletter]
      rintro a b d e later rfl rfl
      exact hnumeric ⟨a, b, d, e, later, rfl⟩

namespace Reading

/-- Undoing the escapes of a text gives what its tokens stand for. -/
theorem unescapeChars_eq (hreading : Reading true text tokens) :
    unescapeChars text = tokens.map Token.image := by
  induction hreading with
  | done => rfl
  | plain hc _ ih => rw [unescapeChars_plain hc, ih]; rfl
  | backslash hnone _ ih => rw [unescapeChars_backslash hnone, ih]; rfl
  | escape hescape htext _ ih =>
    subst htext
    cases hescape with
    | short letter c hletter =>
      rw [Token.word, List.cons_append, List.cons_append, List.nil_append,
        unescapeChars_short (shortEscape_eq_some_iff.mpr hletter), ih]
      rfl
    | numeric number c hnumber =>
      obtain ⟨a, b, d, e, rfl⟩ := hnumber.exists_four
      rw [Token.word, List.cons_append, List.cons_append, List.cons_append, List.cons_append,
        List.cons_append, List.cons_append, List.nil_append,
        unescapeChars_numeric (numericEscape_eq_some_iff.mpr hnumber), ih]
      rfl

end Reading

/-! ## Numbers with a sign -/

/-- The tokens into which a token falls apart if numbers have no sign. -/
def Token.strict : Token → List Token
  | .numeric ('+' :: digits) _ => .backslash :: .plain 'u' :: .plain '+' :: digits.map .plain
  | token => [token]

/-- An escape whose number has no sign is one token in either way. -/
theorem Token.IsEscape.strict_eq (hescape : token.IsEscape false) : token.strict = [token] := by
  cases hescape with
  | short => rfl
  | numeric number c hnumber =>
    cases hnumber with
    | plain _ hdigits =>
      cases number with
      | nil => rfl
      | cons a number =>
        have hplus : a ≠ '+' := by
          rintro rfl
          exact not_digits_plus hdigits
        rw [Token.strict]
        intro digits _ heq
        simp_all
    | plus hsigned => cases hsigned

/-- An escape has a sign or is an escape without signs. -/
theorem Token.IsEscape.signed_or (hescape : token.IsEscape true) :
    token.IsEscape false ∨ ∃ digits n c, token = .numeric ('+' :: digits) c ∧ Digits digits n := by
  cases hescape with
  | short letter c hletter => exact Or.inl (.short letter c hletter)
  | numeric number c hnumber =>
    cases hnumber with
    | plain hlength hdigits => exact Or.inl (.numeric _ c (.plain hlength hdigits))
    | plus _ _ hdigits => exact Or.inr ⟨_, _, c, rfl, hdigits⟩

/-- No escape without signs stands where a number with a sign does. -/
theorem not_stands_plus (hescape : token.IsEscape false) :
    ¬ token.word <+: '\\' :: 'u' :: '+' :: rest := by
  rintro ⟨later, htext⟩
  cases hescape with
  | short letter c hletter =>
    have hletters : ∀ entry ∈ shortEscapes, entry.1 ≠ 'u' := by decide
    simp only [Token.word, List.cons_append, List.cons.injEq, true_and] at htext
    exact hletters _ hletter htext.1
  | numeric number c hnumber =>
    cases hnumber with
    | plain hlength hdigits =>
      cases number with
      | nil => cases hlength
      | cons a number =>
        simp only [Token.word, List.cons_append, List.cons.injEq, true_and] at htext
        rw [htext.1] at hdigits
        exact not_digits_plus hdigits
    | plus hsigned => cases hsigned

namespace Reading

/-- Characters other than backslashes are read one by one. -/
theorem plains {front : List Char} (hfront : '\\' ∉ front) (hrest : Reading signed rest tokens) :
    Reading signed (front ++ rest) (front.map .plain ++ tokens) := by
  induction front with
  | nil => exact hrest
  | cons c front ih =>
    have hc : c ≠ '\\' := Ne.symm (List.ne_of_not_mem_cons hfront)
    exact .plain hc (ih (List.not_mem_of_not_mem_cons hfront))

/-- How a text is read if numbers have no sign. -/
theorem strict (hreading : Reading true text tokens) :
    Reading false text (tokens.flatMap Token.strict) := by
  induction hreading with
  | done => exact .done
  | plain hc _ ih => exact .plain hc ih
  | backslash hnone _ ih => exact .backslash (fun token htoken => hnone token htoken.weaken) ih
  | escape hescape htext _ ih =>
    rcases hescape.signed_or with hescape | ⟨digits, n, c, rfl, hdigits⟩
    · rw [List.flatMap_cons, hescape.strict_eq]
      exact .escape hescape htext ih
    · have hplain : '\\' ∉ 'u' :: '+' :: digits := by
        simp [hdigits.backslash_not_mem]
      rw [htext]
      exact .backslash (fun token htoken => not_stands_plus htoken) (plains hplain ih)

end Reading

/-- Without numbers with signs nothing falls apart. -/
theorem flatMap_strict_of_unsigned (hunsigned : ∀ token ∈ tokens, ¬ token.Signed) :
    tokens.flatMap Token.strict = tokens := by
  induction tokens with
  | nil => rfl
  | cons token tokens ih =>
    have hone : token.strict = [token] := by
      unfold Token.strict
      split
      · exact absurd ⟨_, _, rfl⟩ (hunsigned _ List.mem_cons_self)
      · rfl
    rw [List.flatMap_cons, hone,
      ih fun other hother => hunsigned other (List.mem_cons_of_mem _ hother)]
    rfl

/-- No token is lost when tokens fall apart. -/
theorem length_le_flatMap_strict (tokens : List Token) :
    tokens.length ≤ (tokens.flatMap Token.strict).length := by
  induction tokens with
  | nil => exact Nat.le_refl 0
  | cons token tokens ih =>
    have hpos : 1 ≤ token.strict.length := by
      unfold Token.strict
      split <;> simp
    simp only [List.flatMap_cons, List.length_append, List.length_cons]
    omega

/-- A number with a sign falls apart into more tokens than one. -/
theorem length_lt_of_signed (hsigned : ∃ token ∈ tokens, token.Signed) :
    tokens.length < (tokens.flatMap Token.strict).length := by
  obtain ⟨_, hmem, digits, c, rfl⟩ := hsigned
  obtain ⟨front, back, rfl⟩ := List.append_of_mem hmem
  have hfront := length_le_flatMap_strict front
  have hback := length_le_flatMap_strict back
  simp only [List.flatMap_append, List.flatMap_cons, List.length_append, List.length_cons,
    Token.strict]
  omega

/-- What undoing the escapes of a text comes to.  The text is read in one way, as a run of
tokens, and the result is what the tokens stand for.  If numbers have no sign, as they should,
it is read in one way too, and the result is the same exactly if no number has a sign.  A text
without a backslash is not read at all, which makes no difference. -/
theorem unescape_law (s : String) :
    ∃ tokens strict,
      (Reading true s.toList tokens ∧ ∀ others, Reading true s.toList others → others = tokens) ∧
      (Reading false s.toList strict ∧ ∀ others, Reading false s.toList others → others = strict) ∧
      unescape s = String.ofList (tokens.map Token.image) ∧
      (unescape s = String.ofList (strict.map Token.image) ↔ ∀ token ∈ tokens, ¬ token.Signed) ∧
      unescape s = String.ofList (unescapeChars s.toList) := by
  obtain ⟨tokens, hreading⟩ := exists_reading true s.toList
  have hresult : unescape s = String.ofList (tokens.map Token.image) := by
    rw [unescape_eq, hreading.unescapeChars_eq]
  refine ⟨tokens, tokens.flatMap Token.strict, ⟨hreading, fun _ hother => hother.unique hreading⟩,
    ⟨hreading.strict, fun _ hother => hother.unique hreading.strict⟩, hresult, ?_, unescape_eq s⟩
  rw [hresult, String.ofList_inj]
  constructor
  · intro himages token htoken hsigned
    have hlengths := congrArg List.length himages
    rw [List.length_map, List.length_map] at hlengths
    exact absurd hlengths (Nat.ne_of_lt (length_lt_of_signed ⟨token, htoken, hsigned⟩))
  · intro hunsigned
    rw [flatMap_strict_of_unsigned hunsigned]

/-- Behind a backslash and {lit}`u`, a plus sign and three digits should be copied, but they are
taken for the number of a letter. -/
theorem unescape_plus_sign :
    Reading false "\\u+041".toList (.backslash :: "u+041".toList.map .plain) ∧
      String.ofList ((.backslash :: "u+041".toList.map .plain).map Token.image) = "\\u+041" ∧
      unescape "\\u+041" = "A" := by
  have hplain : '\\' ∉ "u+041".toList := by decide
  have hcopied : Reading false "u+041".toList ("u+041".toList.map .plain) :=
    Reading.plains hplain .done
  exact ⟨.backslash (fun token htoken => not_stands_plus htoken) hcopied, by decide, by decide⟩

/-! ## Spellings -/

/-- The ways of writing a text: each character stands for itself, unless it is a backslash, or
is written as an escape that names it. -/
inductive Spelling : List Char → List Char → Prop
  | nil : Spelling [] []
  | plain {c : Char} {written text : List Char} (hc : c ≠ '\\') (hrest : Spelling written text) :
      Spelling (c :: written) (c :: text)
  | escape {token : Token} {written text : List Char} (hescape : token.IsEscape false)
      (hrest : Spelling written text) : Spelling (token.word ++ written) (token.image :: text)

namespace Spelling

variable {written : List Char}

/-- The tokens of a spelling are its characters and escapes, since none of them runs into the
next. -/
theorem exists_reading (hspelling : Spelling written text) :
    ∃ tokens, Reading true written tokens ∧ tokens.map Token.image = text := by
  induction hspelling with
  | nil => exact ⟨[], .done, rfl⟩
  | plain hc _ ih =>
    obtain ⟨tokens, hreading, himages⟩ := ih
    exact ⟨_, .plain hc hreading, congrArg (_ :: ·) himages⟩
  | escape hescape _ ih =>
    obtain ⟨tokens, hreading, himages⟩ := ih
    exact ⟨_, .escape hescape.weaken rfl hreading, congrArg (_ :: ·) himages⟩

/-- Undoing the escapes of a spelling gives the text. -/
theorem unescapeChars_eq (hspelling : Spelling written text) : unescapeChars written = text := by
  obtain ⟨tokens, hreading, rfl⟩ := hspelling.exists_reading
  exact hreading.unescapeChars_eq

end Spelling

/-- A text with its line breaks written as escapes. -/
def escapeBreaks (text : List Char) : List Char :=
  text.flatMap fun c => if c = '\n' then ['\\', 'n'] else [c]

/-- Line breaks may be written as escapes. -/
theorem spelling_escapeBreaks (hplain : '\\' ∉ text) : Spelling (escapeBreaks text) text := by
  induction text with
  | nil => exact .nil
  | cons c text ih =>
    have hc : c ≠ '\\' := Ne.symm (List.ne_of_not_mem_cons hplain)
    have hrest := ih (List.not_mem_of_not_mem_cons hplain)
    rw [escapeBreaks, List.flatMap_cons]
    split
    case isTrue hbreak =>
      rw [hbreak]
      exact .escape (.short 'n' '\n' (by decide)) hrest
    case isFalse => exact .plain hc hrest

/-- The first character is that of the text, or the backslash of a line break. -/
theorem head?_escapeBreaks (text : List Char) :
    (escapeBreaks text).head? = text.head?.map fun c => if c = '\n' then '\\' else c := by
  cases text with
  | nil => rfl
  | cons c text =>
    rw [escapeBreaks, List.flatMap_cons, List.head?_cons, Option.map_some]
    split <;> rfl

/-- The last character is that of the text, or the letter of a line break. -/
theorem getLast?_escapeBreaks (text : List Char) :
    (escapeBreaks text).getLast? = text.getLast?.map fun c => if c = '\n' then 'n' else c := by
  cases text using List.reverseRecOn with
  | nil => rfl
  | append_singleton front c =>
    rw [escapeBreaks, List.flatMap_append, List.flatMap_singleton, List.getLast?_append,
      List.getLast?_concat, Option.map_some]
    split <;> rfl

end Text
end ChefAccess
