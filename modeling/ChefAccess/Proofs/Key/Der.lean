import ChefAccess.Key.Der
import ChefAccess.Proofs.Key.Octets

/-!
# Elements are read back

Writing is the other side of the reader of tagged elements: a length below 128 is one octet, and a
longer one stands behind the count of its octets; an integer takes as many octets as its bits and
one for the sign need.  What is written in this way is read, as long as the contents are no longer
than what may be read.

Main definitions:

- {lit}`lengthOctets`: the octets of a length.
- {lit}`element`: an element with a tag and contents.
- {lit}`integer`: the element of a number.

Main results:

- Theorem {lit}`readLength_lengthOctets`: a length is read back.
- Theorem {lit}`readTagged_element`: the contents of an element are read back.
- Theorem {lit}`natural?_signedOctets`: a number is read back from its octets.
- Theorem {lit}`naturals?_integers`: so are the numbers of a run of integers.
- Theorem {lit}`elements?_octets`: the elements of a run are read back, whatever their tags.
- Theorem {lit}`length_integers_le`: how many octets a run of integers takes.
-/

namespace ChefAccess
namespace Key
namespace Der

variable {tag : UInt8} {contents rest : List UInt8} {n : Nat}

/-! ## Lengths -/

/-- The octets of a length: the length itself, or the count of its octets and then these. -/
def lengthOctets (n : Nat) : List UInt8 :=
  if n < 0x80 then [UInt8.ofNat n]
  else UInt8.ofNat (0x80 + Octets.width n) :: Octets.ofNat (Octets.width n) n

/-- A length that may be read takes at most four octets. -/
theorem width_le_four (hn : n ≤ maxLength) : Octets.width n ≤ 4 := by
  have hbound : maxLength < 2 ^ 32 := by decide
  unfold Octets.width Octets.bitLength
  split
  · omega
  · rename_i hpos
    have hlog : n.log2 < 32 := (Nat.log2_lt hpos).mpr (Nat.lt_of_le_of_lt hn hbound)
    omega

/-- A length is read back, whatever follows it. -/
theorem readLength_lengthOctets (hn : n ≤ maxLength) (rest : List UInt8) :
    readLength (lengthOctets n ++ rest) = some (n, rest) := by
  unfold lengthOctets
  split
  case isTrue hshort =>
    have hoctet : (UInt8.ofNat n).toNat = n := by
      rw [UInt8.toNat_ofNat']
      omega
    have hlt : UInt8.ofNat n < 0x80 := by
      rw [UInt8.lt_iff_toNat_lt, hoctet]
      exact hshort
    rw [List.cons_append, List.nil_append, readLength, if_pos hlt, hoctet]
  case isFalse hlong =>
    have hne : n ≠ 0 := by omega
    have hwidth := width_le_four hn
    have hmin := Octets.pow_width_le hne
    have hpos : 0 < Octets.width n := by
      have hlt := Octets.lt_pow_width n
      refine Nat.pos_of_ne_zero fun hzero => ?_
      rw [hzero] at hlt
      omega
    have hoctet : (UInt8.ofNat (0x80 + Octets.width n)).toNat = 0x80 + Octets.width n := by
      rw [UInt8.toNat_ofNat']
      omega
    have hge : ¬ UInt8.ofNat (0x80 + Octets.width n) < 0x80 := by
      rw [UInt8.lt_iff_toNat_lt, hoctet]
      simp
    have hcount : ¬ (Octets.width n = 0 ∨ 4 < Octets.width n ∨
        (Octets.ofNat (Octets.width n) n ++ rest).length < Octets.width n) := by
      rw [List.length_append, Octets.length_ofNat]
      omega
    have htake : (Octets.ofNat (Octets.width n) n ++ rest).take (Octets.width n) =
        Octets.ofNat (Octets.width n) n := List.take_left' (Octets.length_ofNat _ _)
    have hdrop : (Octets.ofNat (Octets.width n) n ++ rest).drop (Octets.width n) = rest :=
      List.drop_left' (Octets.length_ofNat _ _)
    rw [List.cons_append, readLength, if_neg hge]
    simp only [hoctet, Nat.add_sub_cancel_left]
    rw [if_neg hcount, htake, hdrop, Octets.toNat_ofNat_of_lt (Octets.lt_pow_width n),
      if_pos ⟨by omega, hmin, hn⟩]

/-! ## Elements -/

/-- An element: its tag, the length of its contents, and the contents. -/
def element (tag : UInt8) (contents : List UInt8) : List UInt8 :=
  tag :: (lengthOctets contents.length ++ contents)

/-- The length in front of an element takes at most five octets. -/
theorem length_element_le (hlength : contents.length ≤ maxLength) (tag : UInt8) :
    (element tag contents).length ≤ contents.length + 6 := by
  have hoctets : (lengthOctets contents.length).length ≤ 5 := by
    have hwidth := width_le_four hlength
    unfold lengthOctets
    split
    · simp
    · rw [List.length_cons, Octets.length_ofNat]
      omega
  simp only [element, List.length_cons, List.length_append]
  omega

/-- An element is longer than its contents. -/
theorem length_lt_element (tag : UInt8) (contents : List UInt8) :
    contents.length < (element tag contents).length := by
  simp only [element, List.length_cons, List.length_append]
  omega

/-- Contents are in bounds if their element is. -/
theorem length_le_of_element {bound : Nat} (hlength : (element tag contents).length ≤ bound) :
    contents.length ≤ bound :=
  Nat.le_of_lt (Nat.lt_of_lt_of_le (length_lt_element tag contents) hlength)

/-- Contents are read back from behind their length, whatever follows them. -/
theorem readContents_append (hlength : contents.length ≤ maxLength) (rest : List UInt8) :
    readContents (lengthOctets contents.length ++ contents ++ rest) = some (contents, rest) := by
  have henough : ¬ (contents ++ rest).length < contents.length := by
    rw [List.length_append]
    omega
  rw [readContents, List.append_assoc, readLength_lengthOctets hlength, Option.bind_some]
  dsimp only
  rw [if_neg henough, List.take_left, List.drop_left]

/-- The contents of an element are read back, whatever follows it. -/
theorem readTagged_element (hlength : contents.length ≤ maxLength) (tag : UInt8)
    (rest : List UInt8) :
    readTagged tag (element tag contents ++ rest) = some (contents, rest) := by
  rw [element, List.cons_append, readTagged, if_pos rfl, readContents_append hlength]

/-- An element that stands alone is read as a whole. -/
theorem readWhole_element (hlength : (element tag contents).length ≤ maxLength) :
    readWhole tag (element tag contents) = some contents := by
  have hread : readTagged tag (element tag contents ++ []) = some (contents, []) :=
    readTagged_element (length_le_of_element hlength) tag []
  rw [List.append_nil] at hread
  rw [readWhole, if_pos hlength, hread]
  rfl

/-- The octets of an element. -/
def Element.octets (written : Element) : List UInt8 :=
  element written.tag written.contents

/-- The elements of a run are read back, if they may have their tags. -/
theorem elements?_octets {run : List Element} (htags : ∀ e ∈ run, isTag e.tag = true)
    (hlength : (run.flatMap Element.octets).length ≤ maxLength) :
    elements? (run.flatMap Element.octets) = some run := by
  induction run with
  | nil => rw [List.flatMap_nil, elements?]
  | cons first run ih =>
    rw [List.flatMap_cons, List.length_append, Element.octets] at hlength
    have hfirst : first.contents.length ≤ maxLength :=
      length_le_of_element (Nat.le_trans (Nat.le_add_right _ _) hlength)
    have hread : readContents (lengthOctets first.contents.length ++ first.contents ++
        run.flatMap Element.octets) = some (first.contents, run.flatMap Element.octets) :=
      readContents_append hfirst _
    have hrest := ih (fun e he => htags e (List.mem_cons_of_mem first he)) (by omega)
    rw [List.flatMap_cons, Element.octets, element, List.cons_append,
      elements?_cons (htags first List.mem_cons_self) hread, hrest, Option.map_some]

/-! ## Numbers -/

/-- The octets of a number with a sign, no more than are needed. -/
def signedOctets (n : Nat) : List UInt8 :=
  Octets.ofNat (Octets.bitLength n / 8 + 1) n

/-- The element of a number. -/
def integer (n : Nat) : List UInt8 :=
  element integerTag (signedOctets n)

/-- A number is below the power of two with its number of bits. -/
theorem lt_pow_bitLength (n : Nat) : n < 2 ^ Octets.bitLength n := by
  unfold Octets.bitLength
  split
  · rename_i hn
    rw [hn]
    exact Nat.one_pos
  · exact Nat.lt_log2_self

/-- A number with some bits is at least the power of two with one bit less. -/
theorem pow_le_of_bitLength {bits : Nat} (hbits : bits < Octets.bitLength n) : 2 ^ bits ≤ n := by
  unfold Octets.bitLength at hbits
  split at hbits
  · omega
  · rename_i hn
    calc 2 ^ bits ≤ 2 ^ n.log2 := Nat.pow_le_pow_right (by omega) (by omega)
      _ ≤ n := Nat.log2_self_le hn

/-- The first octet tells whether the first bit of a number is set. -/
theorem first_lt_iff (first : UInt8) (rest : List UInt8) :
    first < 0x80 ↔ Octets.toNat (first :: rest) < 128 * 256 ^ rest.length := by
  have hrest := Octets.toNat_lt rest
  rw [Octets.toNat_cons, UInt8.lt_iff_toNat_lt]
  constructor
  · intro hfirst
    have hle : first.toNat * 256 ^ rest.length ≤ 127 * 256 ^ rest.length :=
      Nat.mul_le_mul_right _ (Nat.le_of_lt_succ hfirst)
    omega
  · intro hnumber
    refine Nat.lt_of_not_le fun hfirst => ?_
    have hle : 128 * 256 ^ rest.length ≤ first.toNat * 256 ^ rest.length :=
      Nat.mul_le_mul_right _ hfirst
    omega

/-- Octets with a sign are read if the first bit is not set, and if a zero octet stands in front
only of a set bit. -/
theorem natural?_cons {first second : UInt8} {tail : List UInt8} (hfirst : first < 0x80)
    (hsecond : first = 0 → ¬ second < 0x80) :
    natural? (first :: second :: tail) = some (Octets.toNat (first :: second :: tail)) := by
  rw [natural?]
  by_cases hzero : first = 0
  · rw [if_pos hzero, if_neg (hsecond hzero), hzero, Octets.toNat_cons 0]
    simp
  · rw [if_neg hzero, if_pos hfirst]

/-- A number is read back from its octets. -/
theorem natural?_signedOctets (n : Nat) : natural? (signedOctets n) = some n := by
  have hlength : (signedOctets n).length = Octets.bitLength n / 8 + 1 := Octets.length_ofNat _ _
  have hpow : ∀ count, 2 ^ (8 * count + 7) = 128 * 256 ^ count := by
    intro count
    rw [Octets.pow_octets, Nat.pow_add, Nat.mul_comm]
  have hbound : n < 128 * 256 ^ (Octets.bitLength n / 8) := by
    rw [← hpow]
    exact Nat.lt_of_lt_of_le (lt_pow_bitLength n) (Nat.pow_le_pow_right (by omega) (by omega))
  have hnumber : Octets.toNat (signedOctets n) = n := by
    refine Octets.toNat_ofNat_of_lt (Nat.lt_of_lt_of_le hbound ?_)
    rw [Nat.pow_succ, Nat.mul_comm]
    exact Nat.mul_le_mul_left _ (by omega)
  generalize signedOctets n = octets at hlength hnumber
  match octets with
  | [] => cases hlength
  | [octet] =>
    have hoctet : octet < 0x80 := by
      rw [first_lt_iff octet [], hnumber]
      have hwidth : Octets.bitLength n / 8 = 0 := (Nat.succ.inj hlength).symm
      rwa [hwidth] at hbound
    rw [natural?, if_pos hoctet, ← hnumber]
    simp [Octets.toNat]
  | first :: second :: tail =>
    have hwidth : Octets.bitLength n / 8 = tail.length + 1 := (Nat.succ.inj hlength).symm
    have hfirst : first < 0x80 := by
      rw [first_lt_iff first (second :: tail), hnumber, List.length_cons, ← hwidth]
      exact hbound
    -- a number that needs no octet for its sign has fewer bits
    have hsecond : first = 0 → ¬ second < 0x80 := by
      intro hzero
      have hrest : Octets.toNat (second :: tail) = n := by
        rw [← hnumber, hzero, Octets.toNat_cons 0]
        simp
      rw [first_lt_iff second tail, hrest, ← hpow, Nat.not_lt]
      exact pow_le_of_bitLength (by omega)
    rw [natural?_cons hfirst hsecond, hnumber]

/-- The number of an integer is read back, whatever follows it. -/
theorem readNatural_integer (hlength : (signedOctets n).length ≤ maxLength) (rest : List UInt8) :
    readNatural (integer n ++ rest) = some (n, rest) := by
  rw [readNatural, integer, readTagged_element hlength, Option.bind_some, natural?_signedOctets]
  rfl

/-- The numbers of a run of integers are read back. -/
theorem naturals?_integers {numbers : List Nat} {count : Nat} (hcount : numbers.length ≤ count)
    (hlengths : ∀ n ∈ numbers, (signedOctets n).length ≤ maxLength) :
    naturals? count (numbers.flatMap integer) = some numbers := by
  induction numbers generalizing count with
  | nil => cases count <;> rfl
  | cons n numbers ih =>
    cases count with
    | zero => cases hcount
    | succ count =>
      have hread := readNatural_integer (hlengths n List.mem_cons_self) (numbers.flatMap integer)
      have hrest := ih (Nat.le_of_succ_le_succ hcount)
        fun m hm => hlengths m (List.mem_cons_of_mem n hm)
      rw [List.flatMap_cons]
      have hcons : ∃ octets, integer n ++ numbers.flatMap integer = integerTag :: octets :=
        ⟨_, rfl⟩
      obtain ⟨octets, hcons⟩ := hcons
      rw [hcons] at hread ⊢
      rw [naturals?, hread, Option.bind_some, hrest]
      rfl

/-- A number takes no more octets than a run of integers in which it stands. -/
theorem length_signedOctets_le {numbers : List Nat} (hn : n ∈ numbers) :
    (signedOctets n).length ≤ (numbers.flatMap integer).length := by
  obtain ⟨front, back, rfl⟩ := List.append_of_mem hn
  have hlt := length_lt_element integerTag (signedOctets n)
  simp only [List.flatMap_append, List.flatMap_cons, List.length_append, integer] at hlt ⊢
  omega

/-- The octets of a run of integers are few if their bits are. -/
theorem length_integers_le {numbers : List Nat} {count : Nat} (hcount : count < maxLength)
    (hbits : ∀ n ∈ numbers, Octets.bitLength n ≤ 8 * count) :
    (numbers.flatMap integer).length ≤ numbers.length * (count + 7) := by
  induction numbers with
  | nil => exact Nat.zero_le _
  | cons n numbers ih =>
    have hoctets : (signedOctets n).length ≤ count + 1 := by
      have hn := hbits n List.mem_cons_self
      rw [signedOctets, Octets.length_ofNat]
      omega
    have hfirst : (element integerTag (signedOctets n)).length ≤ (signedOctets n).length + 6 :=
      length_element_le (by omega) integerTag
    have hrest := ih fun m hm => hbits m (List.mem_cons_of_mem n hm)
    rw [List.flatMap_cons, List.length_append, List.length_cons, Nat.succ_mul, integer]
    omega

end Der
end Key
end ChefAccess
