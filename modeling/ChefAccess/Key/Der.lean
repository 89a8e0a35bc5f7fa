import ChefAccess.Key.Octets

/-!
# Tagged elements

Key files are made of elements: a tag, the length of the contents, and the contents.
There is one way to write each length and each number, and only that way is read.

Main definitions:

- {lit}`maxLength`: how many octets may be read.
- {lit}`readLength`: the length at the head of some octets.
- {lit}`readTagged`: the contents of the element with a given tag.
- {lit}`natural?`: the number that the contents of an integer stand for.
- {lit}`naturals?`: the numbers of a run of integers.
- {lit}`elements?`: the elements of a run of them, whatever their tags.

Main results:

- Theorem {lit}`length_le_of_readContents`: what follows an element is shorter.
-/

namespace ChefAccess
namespace Key
namespace Der

/-- The most octets that are read, all together or as the contents of an element. -/
def maxLength : Nat :=
  Nat.pow 2 28 - 1

/-- The tag of an integer. -/
def integerTag : UInt8 :=
  0x02

/-- The tag of a string of octets. -/
def octetsTag : UInt8 :=
  0x04

/-- The tag of a sequence. -/
def sequenceTag : UInt8 :=
  0x30

/-! ## Contents -/

/-- The length at the head of some octets, and the rest.  A length below 128 is one
octet; a longer one is written in up to four octets behind their count, of which
there may be no more than needed. -/
def readLength : List UInt8 → Option (Nat × List UInt8)
  | [] => none
  | first :: rest =>
    if first < 0x80 then some (first.toNat, rest)
    else
      let count := first.toNat - 0x80
      if count = 0 ∨ 4 < count ∨ rest.length < count then none
      else
        let length := Octets.toNat (rest.take count)
        if 0x80 ≤ length ∧ Nat.pow 256 (count - 1) ≤ length ∧ length ≤ maxLength then
          some (length, rest.drop count)
        else none

/-- The contents at the head of some octets, behind their length, and the rest. -/
def readContents (octets : List UInt8) : Option (List UInt8 × List UInt8) :=
  (readLength octets).bind fun found =>
    if found.2.length < found.1 then none
    else some (found.2.take found.1, found.2.drop found.1)

/-- What follows a length is no longer than before. -/
theorem length_le_of_readLength {octets : List UInt8} {found : Nat × List UInt8}
    (hread : readLength octets = some found) : found.2.length ≤ octets.length := by
  cases octets with
  | nil => cases hread
  | cons first rest =>
    simp only [readLength] at hread
    split at hread
    · rw [← Option.some.inj hread]
      exact Nat.le_succ _
    · split at hread
      · cases hread
      · split at hread
        · rw [← Option.some.inj hread, List.length_drop, List.length_cons]
          omega
        · cases hread

/-- What follows contents is no longer than before. -/
theorem length_le_of_readContents {octets : List UInt8} {found : List UInt8 × List UInt8}
    (hread : readContents octets = some found) : found.2.length ≤ octets.length := by
  obtain ⟨counted, hcounted, hfound⟩ := Option.bind_eq_some_iff.mp hread
  have hle := length_le_of_readLength hcounted
  split at hfound
  · cases hfound
  · rw [← Option.some.inj hfound, List.length_drop]
    omega

/-- The contents of the element at the head of some octets, if it has the given tag,
and the rest. -/
def readTagged (tag : UInt8) : List UInt8 → Option (List UInt8 × List UInt8)
  | [] => none
  | first :: rest => if first = tag then readContents rest else none

/-- The contents of an element with the given tag behind which nothing follows. -/
def readWhole (tag : UInt8) (octets : List UInt8) : Option (List UInt8) :=
  if octets.length ≤ maxLength then
    (readTagged tag octets).bind fun found => if found.2.isEmpty then some found.1 else none
  else none

/-! ## Numbers -/

/-- The number that the contents of an integer stand for.  Integers have a sign, so a
number whose first bit is set has one zero octet before it; no other number has. -/
def natural? : List UInt8 → Option Nat
  | [] => none
  | [octet] => if octet < 0x80 then some octet.toNat else none
  | first :: second :: rest =>
    if first = 0 then if second < 0x80 then none else some (Octets.toNat (second :: rest))
    else if first < 0x80 then some (Octets.toNat (first :: second :: rest))
    else none

/-- The number of the integer at the head of some octets, and the rest. -/
def readNatural (octets : List UInt8) : Option (Nat × List UInt8) :=
  (readTagged integerTag octets).bind fun found =>
    (natural? found.1).map (·, found.2)

/-- The numbers of at most a given count of integers, behind which nothing follows. -/
def naturals? : Nat → List UInt8 → Option (List Nat)
  | _, [] => some []
  | 0, _ :: _ => none
  | count + 1, octet :: octets =>
    (readNatural (octet :: octets)).bind fun found =>
      (naturals? count found.2).map (found.1 :: ·)

/-! ## Elements of any tag -/

/-- An element: its tag and its contents. -/
structure Element where
  tag : UInt8
  contents : List UInt8
  deriving DecidableEq, Repr

/-- The tags of the types that are known: truth values, numbers, bits, octets, names,
texts, times, sequences and sets. -/
def typeTags : List UInt8 :=
  [0x01, 0x02, 0x03, 0x04, 0x05, 0x06, 0x09, 0x0A, 0x0C, 0x12, 0x13, 0x14, 0x15, 0x16,
    0x17, 0x18, 0x1A, 0x1E, 0x30, 0x31]

/-- Whether an element may have a tag: that of a type that is known, or a number that is
given a meaning elsewhere and fits into the tag. -/
def isTag (tag : UInt8) : Bool :=
  typeTags.contains tag || decide (0x40 ≤ tag) && tag % 0x20 != 0x1F

/-- The elements of a run of them, behind which nothing follows. -/
def elements? (octets : List UInt8) : Option (List Element) :=
  match octets with
  | [] => some []
  | tag :: rest =>
    if isTag tag then
      match _hread : readContents rest with
      | none => none
      | some found => (elements? found.2).map (⟨tag, found.1⟩ :: ·)
    else none
termination_by octets.length
decreasing_by
  have hle := length_le_of_readContents _hread
  simp only [List.length_cons]
  omega

/-- The first element of a run is read, and then the others. -/
theorem elements?_cons {tag : UInt8} {rest : List UInt8} {found : List UInt8 × List UInt8}
    (htag : isTag tag = true) (hread : readContents rest = some found) :
    elements? (tag :: rest) = (elements? found.2).map (⟨tag, found.1⟩ :: ·) := by
  rw [elements?, if_pos htag]
  split
  · rename_i hnone
    rw [hread] at hnone
    cases hnone
  · rename_i other hother
    rw [hread] at hother
    rw [← Option.some.inj hother]

/-- The number in the tag of a field of a sequence. -/
def Element.field? (element : Element) : Option UInt8 :=
  if 0x80 ≤ element.tag ∧ element.tag < 0xC0 then some (element.tag % 0x20) else none

/-- Whether an element is a field of a sequence around one other element. -/
def Element.isAround (element : Element) : Bool :=
  decide (0xA0 ≤ element.tag ∧ element.tag < 0xC0) &&
    (elements? element.contents).any fun inner => inner.length == 1

end Der
end Key
end ChefAccess
