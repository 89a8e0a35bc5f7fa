import ChefAccess.Base64

/-!
# Base64 is read back

Writing bytes as base64 text and reading the text gives the bytes again.  The proof goes
by groups: a full group of three bytes is read as one group of four characters, and the
padding of the last group tells how many of its bytes are missing.

Main results:

- Theorem {lit}`Base64.decode?_encode`: what was written is read back.
- Theorem {lit}`Base64.digit_or_padding_of_mem_encode`: which characters are written.
- Theorem {lit}`Base64.length_encode`: how many characters are written.
-/

namespace ChefAccess
namespace Base64

/-! ## Single characters -/

/-- Padding is no character of the alphabet. -/
theorem digit_ne_padding : ∀ n < 64, digit n ≠ '=' := by
  decide

/-- Every character of the alphabet is one byte long. -/
theorem utf8Size_digit : ∀ n < 64, (digit n).utf8Size = 1 := by
  decide

/-- The two parts of the second character of a group fit into six bits. -/
private theorem middle_lt (a b : UInt8) : a.toNat % 4 * 16 + b.toNat / 16 < 64 := by
  have hb := b.toNat_lt
  omega

/-- The two parts of the third character of a group fit into six bits. -/
private theorem third_lt (b c : UInt8) : b.toNat % 16 * 4 + c.toNat / 64 < 64 := by
  have hc := c.toNat_lt
  omega

/-- The first byte of a group is spread over two characters. -/
private theorem first_byte (a : UInt8) (low : Nat) (hlow : low < 16) :
    UInt8.ofNat (a.toNat / 4 * 4 + (a.toNat % 4 * 16 + low) / 16) = a := by
  have ha : a.toNat / 4 * 4 + (a.toNat % 4 * 16 + low) / 16 = a.toNat := by
    omega
  rw [ha, UInt8.ofNat_toNat]

/-- The second byte of a group is spread over two characters. -/
private theorem second_byte (a b : UInt8) (low : Nat) (hlow : low < 4) :
    UInt8.ofNat ((a.toNat % 4 * 16 + b.toNat / 16) % 16 * 16 +
      (b.toNat % 16 * 4 + low) / 4) = b := by
  have hb := b.toNat_lt
  have hsum : (a.toNat % 4 * 16 + b.toNat / 16) % 16 * 16 + (b.toNat % 16 * 4 + low) / 4 =
      b.toNat := by
    omega
  rw [hsum, UInt8.ofNat_toNat]

/-- The third byte of a group is spread over two characters. -/
private theorem third_byte (b c : UInt8) :
    UInt8.ofNat ((b.toNat % 16 * 4 + c.toNat / 64) % 4 * 64 + c.toNat % 64) = c := by
  have hc := c.toNat_lt
  have hsum : (b.toNat % 16 * 4 + c.toNat / 64) % 4 * 64 + c.toNat % 64 = c.toNat := by
    omega
  rw [hsum, UInt8.ofNat_toNat]

/-! ## Groups -/

/-- A full group is read back. -/
theorem decodeGroup_digits (a b c : UInt8) :
    decodeGroup (digit (a.toNat / 4)) (digit (a.toNat % 4 * 16 + b.toNat / 16))
      (digit (b.toNat % 16 * 4 + c.toNat / 64)) (digit (c.toNat % 64)) = some [a, b, c] := by
  have ha : a.toNat / 4 < 64 := by
    have := a.toNat_lt
    omega
  have hc : c.toNat % 64 < 64 := Nat.mod_lt _ (by omega)
  have hb : b.toNat / 16 < 16 := by
    have := b.toNat_lt
    omega
  have hhigh : c.toNat / 64 < 4 := by
    have := c.toNat_lt
    omega
  simp only [decodeGroup, value_digit _ ha, value_digit _ (middle_lt a b),
    value_digit _ (third_lt b c), value_digit _ hc, Option.bind_eq_bind, Option.bind_some,
    Option.pure_def]
  rw [first_byte a _ hb, second_byte a b _ hhigh, third_byte b c]

/-- A last group of one byte is read back. -/
theorem decodeLast_one (a : UInt8) :
    decodeLast (digit (a.toNat / 4)) (digit (a.toNat % 4 * 16)) '=' '=' = some [a] := by
  have ha : a.toNat / 4 < 64 := by
    have := a.toNat_lt
    omega
  have hlow : a.toNat % 4 * 16 < 64 := by
    omega
  have hunused : a.toNat % 4 * 16 % 16 = 0 := by
    omega
  simp only [decodeLast, value_digit _ ha, value_digit _ hlow, hunused, if_true,
    Option.bind_eq_bind, Option.bind_some, Option.pure_def]
  rw [← Nat.add_zero (a.toNat % 4 * 16), first_byte a 0 (by omega)]

/-- A last group of two bytes is read back. -/
theorem decodeLast_two (a b : UInt8) :
    decodeLast (digit (a.toNat / 4)) (digit (a.toNat % 4 * 16 + b.toNat / 16))
      (digit (b.toNat % 16 * 4)) '=' = some [a, b] := by
  have ha : a.toNat / 4 < 64 := by
    have := a.toNat_lt
    omega
  have hb : b.toNat / 16 < 16 := by
    have := b.toNat_lt
    omega
  have hlow : b.toNat % 16 * 4 < 64 := by
    omega
  have hunused : b.toNat % 16 * 4 % 4 = 0 := by
    omega
  simp only [decodeLast, if_neg (digit_ne_padding _ hlow), value_digit _ ha,
    value_digit _ (middle_lt a b), value_digit _ hlow, hunused, if_true,
    Option.bind_eq_bind, Option.bind_some, Option.pure_def]
  rw [first_byte a _ hb, ← Nat.add_zero (b.toNat % 16 * 4), second_byte a b 0 (by omega)]

/-- A last group of three bytes is read back. -/
theorem decodeLast_three (a b c : UInt8) :
    decodeLast (digit (a.toNat / 4)) (digit (a.toNat % 4 * 16 + b.toNat / 16))
      (digit (b.toNat % 16 * 4 + c.toNat / 64)) (digit (c.toNat % 64)) = some [a, b, c] := by
  have hc : digit (c.toNat % 64) ≠ '=' := digit_ne_padding _ (Nat.mod_lt _ (by omega))
  rw [decodeLast, if_neg hc, decodeGroup_digits]

/-! ## Texts -/

/-- A text with a byte in it does not end at once. -/
theorem encodeChars_ne_nil (a : UInt8) (rest : List UInt8) : encodeChars (a :: rest) ≠ [] := by
  unfold encodeChars
  split <;> simp_all [encodeGroup]

/-- In front of more text, four characters are a full group. -/
theorem decodeChars_cons {p q r s : Char} {rest : List Char} (hrest : rest ≠ []) :
    decodeChars (p :: q :: r :: s :: rest) =
      (decodeGroup p q r s).bind fun group =>
        (decodeChars rest).map (group ++ ·) := by
  cases rest with
  | nil => exact absurd rfl hrest
  | cons c rest =>
    rw [decodeChars]
    · cases decodeGroup p q r s with
      | none => rfl
      | some group => cases decodeChars (c :: rest) <;> rfl
    · simp

/-- The characters of some bytes are read back. -/
theorem decodeChars_encodeChars (bytes : List UInt8) :
    decodeChars (encodeChars bytes) = some bytes := by
  fun_induction encodeChars bytes with
  | case1 => rfl
  | case2 a => exact decodeLast_one a
  | case3 a b => exact decodeLast_two a b
  | case4 a b c rest ih =>
    cases rest with
    | nil => exact decodeLast_three a b c
    | cons d rest =>
      rw [encodeGroup, List.cons_append, List.cons_append, List.cons_append, List.cons_append,
        List.nil_append, decodeChars_cons (encodeChars_ne_nil d rest), decodeGroup_digits, ih]
      rfl

/-- What was written is read back. -/
theorem decode?_encode (bytes : List UInt8) : decode? (encode bytes) = some bytes := by
  rw [decode?, encode, String.toList_ofList, decodeChars_encodeChars]

/-- Different bytes are written differently. -/
theorem encode_injective : Function.Injective encode := by
  intro bytes bytes' htext
  have hread := decode?_encode bytes
  rw [htext, decode?_encode] at hread
  exact (Option.some.inj hread).symm

/-- Only the alphabet and the padding are written. -/
theorem digit_or_padding_of_mem_encode {bytes : List UInt8} :
    ∀ c ∈ (encode bytes).toList, (∃ n < 64, c = digit n) ∨ c = '=' := by
  rw [encode, String.toList_ofList]
  fun_induction encodeChars bytes with
  | case1 => simp
  | case2 a =>
    have ha := a.toNat_lt
    intro c hc
    simp only [List.mem_cons, List.not_mem_nil, or_false] at hc
    rcases hc with rfl | rfl | rfl | rfl
    · exact Or.inl ⟨_, by omega, rfl⟩
    · exact Or.inl ⟨_, by omega, rfl⟩
    · exact Or.inr rfl
    · exact Or.inr rfl
  | case3 a b =>
    have ha := a.toNat_lt
    have hb := b.toNat_lt
    intro c hc
    simp only [List.mem_cons, List.not_mem_nil, or_false] at hc
    rcases hc with rfl | rfl | rfl | rfl
    · exact Or.inl ⟨_, by omega, rfl⟩
    · exact Or.inl ⟨_, middle_lt a b, rfl⟩
    · exact Or.inl ⟨_, by omega, rfl⟩
    · exact Or.inr rfl
  | case4 a b c rest ih =>
    have ha := a.toNat_lt
    intro d hd
    rcases List.mem_append.mp hd with hgroup | hrest
    · simp only [encodeGroup, List.mem_cons, List.not_mem_nil, or_false] at hgroup
      rcases hgroup with rfl | rfl | rfl | rfl
      · exact Or.inl ⟨_, by omega, rfl⟩
      · exact Or.inl ⟨_, middle_lt a b, rfl⟩
      · exact Or.inl ⟨_, third_lt b c, rfl⟩
      · exact Or.inl ⟨_, Nat.mod_lt _ (by omega), rfl⟩
    · exact ih d hrest

/-- Only characters of one byte are written. -/
theorem isAscii_encode (bytes : List UInt8) : ∀ c ∈ (encode bytes).toList, c.utf8Size = 1 := by
  intro c hc
  rcases digit_or_padding_of_mem_encode c hc with ⟨n, hn, rfl⟩ | rfl
  · exact utf8Size_digit n hn
  · rfl

/-- No line end is written. -/
theorem newline_not_mem_encode (bytes : List UInt8) : '\n' ∉ (encode bytes).toList := by
  intro hc
  have hdigits : ∀ n < 64, digit n ≠ '\n' := by decide
  rcases digit_or_padding_of_mem_encode _ hc with ⟨n, hn, hdigit⟩ | hpadding
  · exact hdigits n hn hdigit.symm
  · exact absurd hpadding (by decide)

/-- Every group of up to three bytes takes four characters. -/
theorem length_encode (bytes : List UInt8) :
    (encode bytes).toList.length = (bytes.length + 2) / 3 * 4 := by
  rw [encode, String.toList_ofList]
  fun_induction encodeChars bytes with
  | case1 => rfl
  | case2 a => simp
  | case3 a b => simp
  | case4 a b c rest ih =>
    simp only [encodeGroup, List.length_append, List.length_cons, List.length_nil, ih]
    omega

end Base64
end ChefAccess
