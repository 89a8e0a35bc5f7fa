import ChefAccess.Proofs.Base64
import ChefAccess.Proofs.Text.Chunk
import Mathlib.Data.Nat.Digits.Defs
import Mathlib.Tactic.Common

/-!
# One spelling for all bytes

Base64 takes bytes for a number.  The characters of the text are the digits of that number in base
sixty-four, in groups of four, and padding stands for the bytes that the last group lacks.  The bits
that are left over in the last character are zero.  So all bytes have one spelling, and only these
spellings are read: a text that is padded otherwise, has other bits left over, or contains any other
character is refused.

Main definitions:

- {lit}`Base64.spelled`: the characters of some values, completed by padding.
- {lit}`Base64.WellSpelled`: the groups, the padding and the left-over bits of such a text.
- {lit}`Base64.Spells`: the number that such a text shares with some bytes.

Main results:

- Theorem {lit}`Base64.encodeChars_of_decodeChars`: what was read is written again.
- Theorem {lit}`Base64.exists_spells`: how bytes are spelled.
- Theorem {lit}`Base64.exists_decodeChars`: a well-spelled text is read.
- Theorem {lit}`Base64.one_spelling_law`: writing and reading are inverse to each other.
-/

namespace ChefAccess
namespace Base64

/-! ## Reading, then writing -/

/-- A character with a value is that of its value. -/
theorem digit_of_value {c : Char} {v : Nat} (hvalue : value c = some v) : v < 64 ∧ digit v = c := by
  have htable : ∀ n < 128, ∀ v ∈ value (Char.ofNat n), v < 64 ∧ digit v = Char.ofNat n := by
    decide
  have hascii : c.toNat < 128 := by
    unfold value at hvalue
    by_contra hlarge
    have hplus : c ≠ '+' := by
      rintro rfl
      exact hlarge (by decide)
    have hslash : c ≠ '/' := by
      rintro rfl
      exact hlarge (by decide)
    rw [if_neg (by omega), if_neg (by omega), if_neg (by omega), if_neg hplus, if_neg hslash]
      at hvalue
    cases hvalue
  have hread := htable c.toNat hascii v
  rw [Char.ofNat_toNat] at hread
  exact hread hvalue

/-- A full group that was read is written again. -/
theorem encodeGroup_of_decodeGroup {p q r s : Char} {bytes : List UInt8}
    (hread : decodeGroup p q r s = some bytes) :
    ∃ a b c, bytes = [a, b, c] ∧ encodeGroup a b c = [p, q, r, s] := by
  simp only [decodeGroup, Option.bind_eq_bind, Option.bind_eq_some_iff, Option.pure_def,
    Option.some.injEq] at hread
  obtain ⟨v, hp, w, hq, x, hr, y, hs, rfl⟩ := hread
  obtain ⟨hv, rfl⟩ := digit_of_value hp
  obtain ⟨hw, rfl⟩ := digit_of_value hq
  obtain ⟨hx, rfl⟩ := digit_of_value hr
  obtain ⟨hy, rfl⟩ := digit_of_value hs
  refine ⟨_, _, _, rfl, ?_⟩
  rw [encodeGroup, UInt8.toNat_ofNat', UInt8.toNat_ofNat', UInt8.toNat_ofNat']
  congr <;> omega

/-- A last group that was read is written again. -/
theorem encodeChars_of_decodeLast {p q r s : Char} {bytes : List UInt8}
    (hread : decodeLast p q r s = some bytes) : encodeChars bytes = [p, q, r, s] := by
  unfold decodeLast at hread
  split at hread
  · rename_i hs
    split at hread
    · rename_i hr
      simp only [Option.bind_eq_bind, Option.bind_eq_some_iff, Option.pure_def,
        Option.ite_none_right_eq_some, Option.some.injEq] at hread
      obtain ⟨v, hp, w, hq, hunused, rfl⟩ := hread
      obtain ⟨hv, rfl⟩ := digit_of_value hp
      obtain ⟨hw, rfl⟩ := digit_of_value hq
      rw [encodeChars, UInt8.toNat_ofNat', hs, hr]
      congr <;> omega
    · simp only [Option.bind_eq_bind, Option.bind_eq_some_iff, Option.pure_def,
        Option.ite_none_right_eq_some, Option.some.injEq] at hread
      obtain ⟨v, hp, w, hq, x, hr, hunused, rfl⟩ := hread
      obtain ⟨hv, rfl⟩ := digit_of_value hp
      obtain ⟨hw, rfl⟩ := digit_of_value hq
      obtain ⟨hx, rfl⟩ := digit_of_value hr
      rw [encodeChars, UInt8.toNat_ofNat', UInt8.toNat_ofNat', hs]
      congr <;> omega
  · obtain ⟨a, b, c, rfl, hgroup⟩ := encodeGroup_of_decodeGroup hread
    rw [encodeChars, hgroup, encodeChars, List.append_nil]

/-- What was read is written again. -/
theorem encodeChars_of_decodeChars {text : List Char} {bytes : List UInt8}
    (hread : decodeChars text = some bytes) : encodeChars bytes = text := by
  fun_induction decodeChars text generalizing bytes with
  | case1 =>
    obtain rfl := Option.some.inj hread
    rfl
  | case2 p q r s => exact encodeChars_of_decodeLast hread
  | case3 p q r s rest hrest ih =>
    simp only [Option.bind_eq_bind, Option.bind_eq_some_iff, Option.pure_def,
      Option.some.injEq] at hread
    obtain ⟨group, hgroup, others, hothers, rfl⟩ := hread
    obtain ⟨a, b, c, rfl, hwritten⟩ := encodeGroup_of_decodeGroup hgroup
    show encodeGroup a b c ++ encodeChars others = _
    rw [hwritten, ih hothers]
    rfl
  | case4 => cases hread

/-! ## Well-spelled texts -/

/-- The characters of some values, completed by padding. -/
def spelled (values : List Nat) (padding : Nat) : List Char :=
  values.map digit ++ List.replicate padding '='

/-- What makes a text well spelled: all characters in front of the padding are of the alphabet, the
text is made of groups of four with no more than two characters of padding, and the bits of the
last character that belong to missing bytes are zero. -/
structure WellSpelled (values : List Nat) (padding : Nat) : Prop where
  values_lt : ∀ v ∈ values, v < 64
  padding_le : padding ≤ 2
  groups : 4 ∣ values.length + padding
  unused : ∀ v ∈ values.getLast?, 4 ^ padding ∣ v

/-- The number that digits spell, the first of which is the most significant. -/
def number (base : Nat) (digits : List Nat) : Nat :=
  Nat.ofDigits base digits.reverse

/-- How some bytes are spelled: their number is that of the characters in front of the padding, but
for two zero bits at the end for each character of padding. -/
structure Spells (bytes : List UInt8) (values : List Nat) (padding : Nat) : Prop
    extends WellSpelled values padding where
  length : 3 * values.length = 4 * bytes.length + padding
  number_eq : number 64 values = 4 ^ padding * number 256 (bytes.map UInt8.toNat)

/-- Digits in front count for as many places as follow. -/
theorem number_append (base : Nat) (front back : List Nat) :
    number base (front ++ back) = number base front * base ^ back.length + number base back := by
  rw [number, List.reverse_append, Nat.ofDigits_append, List.length_reverse, Nat.add_comm,
    Nat.mul_comm]
  rfl

/-- Characters have six bits and bytes have eight. -/
theorem places_eq {values bytes padding : Nat} (hlength : 3 * values = 4 * bytes + padding) :
    64 ^ values = 4 ^ padding * 256 ^ bytes := by
  calc 64 ^ values = 4 ^ (3 * values) := (Nat.pow_mul 4 3 values).symm
    _ = 4 ^ (4 * bytes) * 4 ^ padding := by rw [hlength, Nat.pow_add]
    _ = 4 ^ padding * 256 ^ bytes := by rw [Nat.pow_mul, Nat.mul_comm]

/-- A well-spelled text without characters in front of the padding has no padding. -/
theorem WellSpelled.padding_eq_zero {padding : Nat} (hspelled : WellSpelled [] padding) :
    padding = 0 := by
  have hpadding := hspelled.padding_le
  have hgroups := hspelled.groups
  rw [List.length_nil] at hgroups
  omega

/-! ## Writing -/

/-- The values of a full group are below sixty-four. -/
theorem group_lt (a b c : UInt8) : ∀ v ∈ [a.toNat / 4, a.toNat % 4 * 16 + b.toNat / 16,
    b.toNat % 16 * 4 + c.toNat / 64, c.toNat % 64], v < 64 := by
  have ha := a.toNat_lt
  have hb := b.toNat_lt
  have hc := c.toNat_lt
  simp only [List.forall_mem_cons, List.not_mem_nil, false_implies, implies_true, and_true]
  omega

/-- No bytes are spelled by the text without characters. -/
theorem spells_nil : Spells [] [] 0 where
  values_lt := List.forall_mem_nil _
  padding_le := Nat.zero_le 2
  groups := Nat.dvd_zero 4
  unused := by simp
  length := rfl
  number_eq := rfl

/-- A single byte is spelled by two characters. -/
theorem spells_one (a : UInt8) : Spells [a] [a.toNat / 4, a.toNat % 4 * 16] 2 where
  values_lt := by
    have ha := a.toNat_lt
    simp only [List.forall_mem_cons, List.not_mem_nil, false_implies, implies_true, and_true]
    omega
  padding_le := Nat.le_refl 2
  groups := Nat.dvd_refl 4
  unused := by
    simp only [List.getLast?_cons_cons, List.getLast?_singleton, Option.mem_some_iff, forall_eq']
    exact Nat.dvd_mul_left 16 _
  length := rfl
  number_eq := by
    simp only [number, List.reverse_cons, List.reverse_nil, List.nil_append, List.cons_append,
      List.map_cons, List.map_nil, Nat.ofDigits_cons, Nat.ofDigits_nil]
    omega

/-- Two bytes are spelled by three characters. -/
theorem spells_two (a b : UInt8) :
    Spells [a, b] [a.toNat / 4, a.toNat % 4 * 16 + b.toNat / 16, b.toNat % 16 * 4] 1 where
  values_lt := by
    have ha := a.toNat_lt
    have hb := b.toNat_lt
    simp only [List.forall_mem_cons, List.not_mem_nil, false_implies, implies_true, and_true]
    omega
  padding_le := Nat.le_succ 1
  groups := Nat.dvd_refl 4
  unused := by
    simp only [List.getLast?_cons_cons, List.getLast?_singleton, Option.mem_some_iff, forall_eq']
    exact Nat.dvd_mul_left 4 _
  length := rfl
  number_eq := by
    simp only [number, List.reverse_cons, List.reverse_nil, List.nil_append, List.cons_append,
      List.map_cons, List.map_nil, Nat.ofDigits_cons, Nat.ofDigits_nil]
    omega

/-- Three bytes more are spelled by four characters more in front. -/
theorem Spells.cons {bytes : List UInt8} {values : List Nat} {padding : Nat}
    (hspells : Spells bytes values padding) (a b c : UInt8) :
    Spells (a :: b :: c :: bytes) ([a.toNat / 4, a.toNat % 4 * 16 + b.toNat / 16,
      b.toNat % 16 * 4 + c.toNat / 64, c.toNat % 64] ++ values) padding where
  values_lt := List.forall_mem_append.mpr ⟨group_lt a b c, hspells.values_lt⟩
  padding_le := hspells.padding_le
  groups := by
    have hgroups := hspells.groups
    simp only [List.length_append, List.length_cons, List.length_nil]
    omega
  unused := by
    cases values with
    | nil =>
      obtain rfl := hspells.padding_eq_zero
      exact fun v _ => Nat.one_dvd v
    | cons v rest =>
      rw [List.getLast?_append_cons]
      exact hspells.unused
  length := by
    have hlength := hspells.length
    simp only [List.length_append, List.length_cons, List.length_nil]
    omega
  number_eq := by
    have hgroup : number 64 [a.toNat / 4, a.toNat % 4 * 16 + b.toNat / 16,
        b.toNat % 16 * 4 + c.toNat / 64, c.toNat % 64] =
          number 256 [a.toNat, b.toNat, c.toNat] := by
      simp only [number, List.reverse_cons, List.reverse_nil, List.nil_append, List.cons_append,
        Nat.ofDigits_cons, Nat.ofDigits_nil]
      omega
    have hbytes : (a :: b :: c :: bytes).map UInt8.toNat =
        [a.toNat, b.toNat, c.toNat] ++ bytes.map UInt8.toNat := rfl
    rw [hbytes, number_append, number_append, hgroup, hspells.number_eq,
      places_eq hspells.length, List.length_map, Nat.mul_add, Nat.mul_left_comm]

/-- All bytes are well spelled when they are written. -/
theorem exists_spells (bytes : List UInt8) : ∃ values padding,
    Spells bytes values padding ∧ encodeChars bytes = spelled values padding := by
  fun_induction encodeChars bytes with
  | case1 => exact ⟨[], 0, spells_nil, rfl⟩
  | case2 a => exact ⟨_, 2, spells_one a, rfl⟩
  | case3 a b => exact ⟨_, 1, spells_two a b, rfl⟩
  | case4 a b c rest ih =>
    obtain ⟨values, padding, hspells, hrest⟩ := ih
    exact ⟨_, padding, hspells.cons a b c, by rw [hrest]; rfl⟩

/-! ## Reading -/

/-- A full group of characters of the alphabet is read. -/
theorem exists_decodeGroup {p q r s : Nat} (hp : p < 64) (hq : q < 64) (hr : r < 64)
    (hs : s < 64) : ∃ bytes, decodeGroup (digit p) (digit q) (digit r) (digit s) = some bytes := by
  rw [decodeGroup, value_digit p hp, value_digit q hq, value_digit r hr, value_digit s hs]
  exact ⟨_, rfl⟩

/-- A last group of two characters and padding is read, if the bits that are left over are zero. -/
theorem exists_decodeLast_two {p q : Nat} (hp : p < 64) (hq : q < 64) (hunused : 16 ∣ q) :
    ∃ bytes, decodeLast (digit p) (digit q) '=' '=' = some bytes := by
  have hzero : q % 16 = 0 := Nat.mod_eq_zero_of_dvd hunused
  rw [decodeLast, if_pos rfl, if_pos rfl, value_digit p hp, value_digit q hq]
  exact ⟨_, if_pos hzero⟩

/-- A last group of three characters and padding is read, if the bits that are left over are
zero. -/
theorem exists_decodeLast_three {p q r : Nat} (hp : p < 64) (hq : q < 64) (hr : r < 64)
    (hunused : 4 ∣ r) : ∃ bytes, decodeLast (digit p) (digit q) (digit r) '=' = some bytes := by
  have hzero : r % 4 = 0 := Nat.mod_eq_zero_of_dvd hunused
  rw [decodeLast, if_pos rfl, if_neg (digit_ne_padding r hr), value_digit p hp, value_digit q hq,
    value_digit r hr]
  exact ⟨_, if_pos hzero⟩

/-- What follows a full group of a well-spelled text is well spelled. -/
theorem WellSpelled.of_append {group values : List Nat} {padding : Nat}
    (hspelled : WellSpelled (group ++ values) padding) (hfour : group.length = 4)
    (hvalues : values ≠ []) : WellSpelled values padding where
  values_lt := (List.forall_mem_append.mp hspelled.values_lt).2
  padding_le := hspelled.padding_le
  groups := by
    have hgroups := hspelled.groups
    rw [List.length_append] at hgroups
    omega
  unused := by
    have hunused := hspelled.unused
    rwa [List.getLast?_append_of_ne_nil _ hvalues] at hunused

/-- A well-spelled text is read. -/
theorem exists_decodeChars {values : List Nat} {padding : Nat}
    (hspelled : WellSpelled values padding) :
    ∃ bytes, decodeChars (spelled values padding) = some bytes := by
  have hlt := hspelled.values_lt
  have hgroups := hspelled.groups
  have hpadding := hspelled.padding_le
  match values with
  | [] =>
    obtain rfl := hspelled.padding_eq_zero
    exact ⟨[], rfl⟩
  | [p] =>
    rw [List.length_singleton] at hgroups
    omega
  | [p, q] =>
    obtain rfl : padding = 2 := by
      simp only [List.length_cons, List.length_nil] at hgroups
      omega
    exact exists_decodeLast_two (hlt p (by simp)) (hlt q (by simp)) (hspelled.unused q rfl)
  | [p, q, r] =>
    obtain rfl : padding = 1 := by
      simp only [List.length_cons, List.length_nil] at hgroups
      omega
    exact exists_decodeLast_three (hlt p (by simp)) (hlt q (by simp)) (hlt r (by simp))
      (hspelled.unused r rfl)
  | p :: q :: r :: s :: rest =>
    obtain ⟨group, hgroup⟩ := exists_decodeGroup (hlt p (by simp)) (hlt q (by simp))
      (hlt r (by simp)) (hlt s (by simp))
    by_cases hmore : rest = []
    · subst hmore
      obtain rfl : padding = 0 := by
        simp only [List.length_cons, List.length_nil] at hgroups
        omega
      refine ⟨group, ?_⟩
      rw [← hgroup]
      exact if_neg (digit_ne_padding s (hlt s (by simp)))
    · have hparts : WellSpelled ([p, q, r, s] ++ rest) padding := hspelled
      obtain ⟨bytes, hbytes⟩ := exists_decodeChars (hparts.of_append rfl hmore)
      have hfilled : spelled rest padding ≠ [] := by simp [spelled, hmore]
      refine ⟨group ++ bytes, ?_⟩
      show decodeChars (digit p :: digit q :: digit r :: digit s :: spelled rest padding) = _
      rw [decodeChars_cons hfilled, hgroup, hbytes, Option.bind_some, Option.map_some]
termination_by values.length

/-! ## The law -/

/-- Reading gives bytes exactly for the text that spells them. -/
theorem decode_eq_ok_iff {s : String} {bytes : List UInt8} :
    decode s = .ok bytes ↔ encode bytes = s := by
  have hread : decode s = .ok bytes ↔ decode? s = some bytes := by
    unfold decode
    cases decode? s <;> simp
  rw [hread]
  constructor
  · intro hbytes
    rw [encode, encodeChars_of_decodeChars hbytes, String.ofList_toList]
  · rintro rfl
    exact decode?_encode bytes

/-- Writing and reading are inverse to each other: the text of some bytes is read as these bytes,
and a text that is read is the text of the bytes that it gives.  A text is read exactly if it is
made of characters of the alphabet and padding, in groups of four, with the right padding and no
other bits left over than zeros.  It has four characters for every three bytes that are begun, and
they spell the number that the bytes spell. -/
theorem one_spelling_law :
    (∀ bytes, decode (encode bytes) = .ok bytes ∧
      Text.byteSize (encode bytes).toList = 4 * ((bytes.length + 2) / 3)) ∧
    (∀ s bytes, decode s = .ok bytes ↔ encode bytes = s) ∧
    (∀ s, (∃ bytes, decode s = .ok bytes) ↔
      ∃ values padding, WellSpelled values padding ∧ s.toList = spelled values padding) ∧
    (∀ bytes, ∃ values padding, Spells bytes values padding ∧
      (encode bytes).toList = spelled values padding) ∧
    (List.range 64).map digit =
      "ABCDEFGHIJKLMNOPQRSTUVWXYZabcdefghijklmnopqrstuvwxyz0123456789+/".toList := by
  refine ⟨fun bytes => ⟨decode_eq_ok_iff.mpr rfl, ?_⟩, fun s bytes => decode_eq_ok_iff,
    fun s => ⟨?_, ?_⟩, fun bytes => ?_, by decide⟩
  · rw [Text.byteSize_of_oneByte (isAscii_encode bytes), length_encode, Nat.mul_comm]
  · rintro ⟨bytes, hread⟩
    obtain rfl := decode_eq_ok_iff.mp hread
    obtain ⟨values, padding, hspells, hwritten⟩ := exists_spells bytes
    exact ⟨values, padding, hspells.toWellSpelled, by rw [encode, String.toList_ofList, hwritten]⟩
  · rintro ⟨values, padding, hspelled, htext⟩
    obtain ⟨bytes, hread⟩ := exists_decodeChars hspelled
    refine ⟨bytes, ?_⟩
    rw [decode, decode?, htext, hread]
  · rw [encode, String.toList_ofList]
    exact exists_spells bytes

end Base64
end ChefAccess
