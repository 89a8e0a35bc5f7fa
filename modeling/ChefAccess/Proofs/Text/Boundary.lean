import ChefAccess.Proofs.Text.Chunk
import ChefAccess.Proofs.Text.Utf8

/-!
# Where characters begin

The bytes of a character after the first carry two bits that mark them as such, so that the bytes
alone tell where a character begins.  An offset at which one begins, or the text ends, is the
number of bytes of some first characters, and a text can be cut there and nowhere else.

Main definitions:

- {lit}`Text.Utf8.Continues`: a byte that is not the first of a character.
- {lit}`Text.Utf8.isBoundary`: whether an offset is told to be between characters by the bytes.

Main results:

- Theorem {lit}`Text.Utf8.exists_bytes`: the first byte of a character and the others.
- Theorem {lit}`Text.Utf8.isBoundary_iff`: the bytes tell the offsets between characters.
-/

namespace ChefAccess
namespace Text

variable {l : List Char} {n : Nat}

namespace Utf8

/-- A byte that is not the first of a character. -/
def Continues (b : UInt8) : Prop :=
  0x80 ≤ b.toNat ∧ b.toNat ≤ 0xBF

instance (b : UInt8) : Decidable (Continues b) :=
  inferInstanceAs (Decidable (_ ∧ _))

/-- Whether a character begins at an offset in some bytes, or the bytes end there. -/
def isBoundary (bytes : List UInt8) (n : Nat) : Bool :=
  match bytes[n]? with
  | some b => !decide (Continues b)
  | none => n == bytes.length

/-- The bytes of two texts follow each other. -/
theorem encodeChars_append (front back : List Char) :
    encodeChars (front ++ back) = encodeChars front ++ encodeChars back :=
  List.flatMap_append

/-- There are as many bytes as the size of a text says. -/
theorem length_encodeChars (l : List Char) : (encodeChars l).length = byteSize l := by
  induction l with
  | nil => rfl
  | cons c rest ih =>
    rw [encodeChars, List.flatMap_cons, List.length_append, String.length_utf8EncodeChar,
      byteSize_cons, ← ih, encodeChars]

/-- A byte that carries six bits continues a character. -/
theorem continues_tail (v : Nat) : Continues (UInt8.ofNat (v % 64 + 128)) := by
  rw [Continues, toNat_tail]
  omega

/-- A byte outside the range of those that continue a character. -/
theorem not_continues_ofNat {v : Nat} (hv : v < 0x80 ∨ 0xC0 ≤ v ∧ v < 0x100) :
    ¬ Continues (UInt8.ofNat v) := by
  have hbyte : (UInt8.ofNat v).toNat = v := by
    simp
    omega
  rw [Continues, hbyte]
  omega

/-- A character has a first byte, and all others continue it. -/
theorem exists_bytes (c : Char) : ∃ first rest, String.utf8EncodeChar c = first :: rest ∧
    ¬ Continues first ∧ ∀ b ∈ rest, Continues b := by
  have hbounds := char_bounds c
  generalize hv : c.val.toNat = v at hbounds
  simp only [String.utf8EncodeChar, hv]
  split
  · exact ⟨_, _, rfl, not_continues_ofNat (by omega), nofun⟩
  · split
    · exact ⟨_, _, rfl, not_continues_ofNat (by omega),
        List.forall_mem_cons.mpr ⟨continues_tail _, nofun⟩⟩
    · split
      · exact ⟨_, _, rfl, not_continues_ofNat (by omega),
          List.forall_mem_cons.mpr ⟨continues_tail _,
            List.forall_mem_cons.mpr ⟨continues_tail _, nofun⟩⟩⟩
      · exact ⟨_, _, rfl, not_continues_ofNat (by omega),
          List.forall_mem_cons.mpr ⟨continues_tail _, List.forall_mem_cons.mpr ⟨continues_tail _,
            List.forall_mem_cons.mpr ⟨continues_tail _, nofun⟩⟩⟩⟩

/-- Behind its first characters the bytes of a text tell that a character begins. -/
theorem isBoundary_byteSize (front back : List Char) :
    isBoundary (encodeChars (front ++ back)) (byteSize front) = true := by
  rw [isBoundary, encodeChars_append, ← length_encodeChars,
    List.getElem?_append_right (Nat.le_refl _), Nat.sub_self]
  cases back with
  | nil => simp [encodeChars]
  | cons c rest =>
    obtain ⟨first, others, hbytes, hfirst, -⟩ := exists_bytes c
    rw [encodeChars, List.flatMap_cons, hbytes]
    simpa using hfirst

/-- Behind the bytes of a character the offsets are those of the characters that follow. -/
theorem isBoundary_append (front back : List UInt8) (n : Nat) :
    isBoundary (front ++ back) (front.length + n) = isBoundary back n := by
  have hsum : (front.length + n == front.length + back.length) = (n == back.length) := by
    simp
  rw [isBoundary, List.getElem?_append_right (Nat.le_add_right _ _), Nat.add_sub_cancel_left,
    List.length_append, hsum, isBoundary]

/-- The bytes of a text tell which offsets are those of its characters. -/
theorem isBoundary_iff : isBoundary (encodeChars l) n = true ↔
    ∃ front back, l = front ++ back ∧ byteSize front = n := by
  constructor
  · induction l generalizing n with
    | nil =>
      intro hbound
      have hzero : n = 0 := by simpa [isBoundary, encodeChars] using hbound
      exact ⟨[], [], rfl, hzero.symm⟩
    | cons c rest ih =>
      intro hbound
      obtain ⟨first, others, hbytes, -, hothers⟩ := exists_bytes c
      have hsize : c.utf8Size = (first :: others).length := by
        rw [← hbytes, String.length_utf8EncodeChar]
      have hwhole : encodeChars (c :: rest) = (first :: others) ++ encodeChars rest := by
        rw [encodeChars, List.flatMap_cons, hbytes, encodeChars]
      rw [hwhole] at hbound
      rcases Nat.lt_or_ge n (first :: others).length with hinside | hbehind
      · cases n with
        | zero => exact ⟨[], c :: rest, rfl, rfl⟩
        | succ n =>
          -- the offset is inside the first character, where a byte continues it
          have hless : n < others.length := Nat.lt_of_succ_lt_succ hinside
          rw [isBoundary, List.cons_append, List.getElem?_cons_succ,
            List.getElem?_append_left hless, List.getElem?_eq_getElem hless] at hbound
          have hcontinues := hothers _ (List.getElem_mem hless)
          simp [hcontinues] at hbound
      · obtain ⟨later, rfl⟩ := Nat.exists_eq_add_of_le hbehind
        rw [isBoundary_append] at hbound
        obtain ⟨front, back, rfl, hfront⟩ := ih hbound
        exact ⟨c :: front, back, rfl, by rw [byteSize_cons, hfront, hsize]⟩
  · rintro ⟨front, back, rfl, rfl⟩
    exact isBoundary_byteSize front back

end Utf8
end Text
end ChefAccess
