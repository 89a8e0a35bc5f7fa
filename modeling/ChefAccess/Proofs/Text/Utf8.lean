import ChefAccess.Text.Utf8
import Mathlib.Tactic.Common

/-!
# Texts come back from their bytes

A character is written as one to four bytes.  The automaton takes the length from the
first of them, and from the few first bytes that could begin a sequence too long or name
a surrogate it narrows the bounds of the second.  A sequence that was written for a
character stays inside these bounds, so that the automaton gives the character and stands
at the start again.

Main results:

- Theorems {lit}`decodeFrom_two`, {lit}`decodeFrom_three` and {lit}`decodeFrom_four`:
  sequences are read as the numbers that they were written for.
- Theorem {lit}`decodeFrom_encodeChar`: the bytes of a character are read as that
  character.
- Theorem {lit}`decode_encode`: the bytes of a text are read as its characters, without a
  gap.
- Theorem {lit}`lossy_encode`: so the text is recovered from them.
-/

namespace ChefAccess
namespace Text
namespace Utf8

/-! ## First bytes -/

/-- The first byte of a sequence of two. -/
theorem readFirst_two : ∀ m < 32, 2 ≤ m →
    readFirst (UInt8.ofNat (m + 0xC0)) = ([], .inside 1 1 m 0x80 0xBF) := by
  decide

/-- The first byte of a sequence of three.  The bounds keep out what has a shorter form and
the surrogates. -/
theorem readFirst_three : ∀ m < 16,
    readFirst (UInt8.ofNat (m + 0xE0)) =
      ([], .inside 1 2 m (if m = 0 then 0xA0 else 0x80) (if m = 0xD then 0x9F else 0xBF)) := by
  decide

/-- The first byte of a sequence of four.  The bounds keep out what has a shorter form and
what is beyond the last character. -/
theorem readFirst_four : ∀ m < 5,
    readFirst (UInt8.ofNat (m + 0xF0)) =
      ([], .inside 1 3 m (if m = 0 then 0x90 else 0x80) (if m = 4 then 0x8F else 0xBF)) := by
  decide

/-! ## The bytes after the first -/

/-- A byte within the bounds adds six bits, while more bytes are missing. -/
theorem decodeFrom_inside {seen needed value low high : Nat} (b : UInt8) (rest : List UInt8)
    (hlow : low ≤ b.toNat) (hhigh : b.toNat ≤ high) (hneeded : 1 < needed) :
    decodeFrom (.inside seen needed value low high) (b :: rest) =
      decodeFrom (.inside (seen + 1) (needed - 1) (value * 64 + (b.toNat - 0x80)) 0x80 0xBF)
        rest := by
  have hmore : ¬ needed ≤ 1 := by omega
  simp [decodeFrom, step, hlow, hhigh, hmore]

/-- The last byte within the bounds completes the character. -/
theorem decodeFrom_last {seen value low high : Nat} (b : UInt8) (rest : List UInt8)
    (hlow : low ≤ b.toNat) (hhigh : b.toNat ≤ high) :
    decodeFrom (.inside seen 1 value low high) (b :: rest) =
      some (Char.ofNat (value * 64 + (b.toNat - 0x80))) :: decodeFrom .start rest := by
  simp [decodeFrom, step, hlow, hhigh]

/-- What the first byte leads to. -/
theorem decodeFrom_first {b : UInt8} {state : State} (rest : List UInt8)
    (hfirst : readFirst b = ([], state)) :
    decodeFrom .start (b :: rest) = decodeFrom state rest := by
  simp [decodeFrom, step, hfirst]

/-- A byte of six bits. -/
theorem toNat_tail (n : Nat) : (UInt8.ofNat (n % 64 + 128)).toNat = n % 64 + 128 := by
  simp
  omega

/-! ## Sequences -/

/-- Two bytes are read as the number of eleven bits that they were written for. -/
theorem decodeFrom_two {v : Nat} (rest : List UInt8) (hlow : 0x7F < v) (hhigh : v ≤ 0x7FF) :
    decodeFrom .start
        (UInt8.ofNat (v / 64 % 32 + 0xC0) :: UInt8.ofNat (v % 64 + 128) :: rest) =
      some (Char.ofNat v) :: decodeFrom .start rest := by
  have hvalue : v / 64 % 32 * 64 + (v % 64 + 128 - 0x80) = v := by omega
  rw [decodeFrom_first _ (readFirst_two _ (by omega) (by omega)),
    decodeFrom_last _ _ (by rw [toNat_tail]; omega) (by rw [toNat_tail]; omega), toNat_tail,
    hvalue]

/-- Three bytes are read as the number of sixteen bits that they were written for, unless it
is a surrogate. -/
theorem decodeFrom_three {v : Nat} (rest : List UInt8) (hlow : 0x7FF < v) (hhigh : v ≤ 0xFFFF)
    (hsurrogate : v < 0xD800 ∨ 0xDFFF < v) :
    decodeFrom .start
        (UInt8.ofNat (v / 4096 % 16 + 0xE0) :: UInt8.ofNat (v / 64 % 64 + 128) ::
          UInt8.ofNat (v % 64 + 128) :: rest) =
      some (Char.ofNat v) :: decodeFrom .start rest := by
  have hvalue : (v / 4096 % 16 * 64 + (v / 64 % 64 + 128 - 0x80)) * 64 +
      (v % 64 + 128 - 0x80) = v := by omega
  rw [decodeFrom_first _ (readFirst_three _ (by omega)),
    decodeFrom_inside _ _ (by rw [toNat_tail]; split <;> omega)
      (by rw [toNat_tail]; split <;> omega) (by omega),
    decodeFrom_last _ _ (by rw [toNat_tail]; omega) (by rw [toNat_tail]; omega),
    toNat_tail, toNat_tail, hvalue]

/-- Four bytes are read as the number that they were written for, up to the last code
point. -/
theorem decodeFrom_four {v : Nat} (rest : List UInt8) (hlow : 0xFFFF < v) (hhigh : v < 0x110000) :
    decodeFrom .start
        (UInt8.ofNat (v / 262144 % 8 + 0xF0) :: UInt8.ofNat (v / 4096 % 64 + 128) ::
          UInt8.ofNat (v / 64 % 64 + 128) :: UInt8.ofNat (v % 64 + 128) :: rest) =
      some (Char.ofNat v) :: decodeFrom .start rest := by
  have hvalue : ((v / 262144 % 8 * 64 + (v / 4096 % 64 + 128 - 0x80)) * 64 +
      (v / 64 % 64 + 128 - 0x80)) * 64 + (v % 64 + 128 - 0x80) = v := by omega
  rw [decodeFrom_first _ (readFirst_four _ (by omega)),
    decodeFrom_inside _ _ (by rw [toNat_tail]; split <;> omega)
      (by rw [toNat_tail]; split <;> omega) (by omega),
    decodeFrom_inside _ _ (by rw [toNat_tail]; omega) (by rw [toNat_tail]; omega) (by omega),
    decodeFrom_last _ _ (by rw [toNat_tail]; omega) (by rw [toNat_tail]; omega),
    toNat_tail, toNat_tail, toNat_tail, hvalue]

/-! ## Characters and texts -/

/-- A character is below the last code point and no surrogate. -/
theorem char_bounds (c : Char) : c.val.toNat < 0xD800 ∨
    0xDFFF < c.val.toNat ∧ c.val.toNat < 0x110000 := by
  have hvalid := c.valid
  simp only [UInt32.isValidChar, Nat.isValidChar] at hvalid
  omega

/-- The bytes of a character are read as that character. -/
theorem decodeFrom_encodeChar (c : Char) (rest : List UInt8) :
    decodeFrom .start (String.utf8EncodeChar c ++ rest) = some c :: decodeFrom .start rest := by
  have hbounds := char_bounds c
  have hself : Char.ofNat c.val.toNat = c := Char.ofNat_toNat c
  generalize hv : c.val.toNat = v at hbounds hself
  simp only [String.utf8EncodeChar, hv]
  split
  · have hbyte : (UInt8.ofNat v).toNat = v := by
      simp
      omega
    rw [List.singleton_append, decodeFrom_start_ascii _ _ (by omega), hbyte, hself]
  · split
    · exact hself ▸ decodeFrom_two rest (by omega) (by omega)
    · split
      · exact hself ▸ decodeFrom_three rest (by omega) (by omega) (by omega)
      · exact hself ▸ decodeFrom_four rest (by omega) (by omega)

/-- The bytes of a list of characters are read as these characters. -/
theorem decode_encodeChars (l : List Char) : decode (encodeChars l) = l.map some := by
  induction l with
  | nil => simp [decode, encodeChars, decodeFrom]
  | cons c rest ih =>
    simp only [decode, encodeChars] at ih
    simp only [decode, encodeChars, List.flatMap_cons, decodeFrom_encodeChar, ih, List.map_cons]

/-- The bytes of a text are read as its characters, without a gap. -/
theorem decode_encode (s : String) : decode (encode s) = s.toList.map some :=
  decode_encodeChars s.toList

/-- A text is recovered from its bytes. -/
theorem lossy_encode (s : String) : lossy (encode s) = s := by
  have hitems : (fun item : Option Char => item.getD '\uFFFD') ∘ some = id := rfl
  rw [lossy, decode_encode, List.map_map, hitems, List.map_id, String.ofList_toList]

/-- Different texts have different bytes. -/
theorem encode_injective : Function.Injective encode := by
  intro s s' hbytes
  have hread := decode_encode s
  rw [hbytes, decode_encode] at hread
  have hchars := (List.map_inj_right fun _ _ => Option.some.inj).mp hread
  exact (String.toList_inj.mp hchars).symm

end Utf8
end Text
end ChefAccess
