import ChefAccess.Proofs.Base64
import ChefAccess.Proofs.Text.Boundary

/-!
# Cutting a text at machine offsets

Whoever cuts a text into pieces walks through it.  The walk keeps the offset at which the next
piece begins in a machine word, adds the width to it, and takes the bytes up to the sum or to the
end of the text.  It fails if the sum is no machine word, or if a piece would not lie between two
characters of the text.

No text in memory takes more than half of the offsets that a machine word can tell.  A walk through
such a text therefore never leaves the machine words, for widths of any size: the first sum is the
width itself, and before any later one the walk has advanced by the width already.

Main definitions:

- {lit}`Text.slice?`: the part of a text between two offsets.
- {lit}`Text.Walk`, {lit}`Text.Walk.turn` and {lit}`Text.Walk.Ends`: a walk, one turn of it, and
  how it ends.
- {lit}`Text.Walk.At`: the part of a text that a walk has left behind, and the part ahead.

Main results:

- Theorem {lit}`Text.Walk.At.sum_lt`: the sum of offset and width is a machine word.
- Theorem {lit}`Text.Walk.At.turn_eq`: one turn cuts the width, or what is left, off the part
  ahead.
- Theorem {lit}`Text.ends_iff_chunks`: a walk ends exactly with the pieces of the text.
- Theorem {lit}`Text.chunks_law`: which texts have pieces, how they are found, and their shape.
-/

namespace ChefAccess
namespace Text

/-! ## Walks -/

/-- A text that fits into memory, where no object takes more than half of the offsets. -/
def Resident (s : String) : Prop :=
  2 * byteSize s.toList < UInt64.size

/-- The bytes of a text, counted in a machine word. -/
def wordSize (s : String) : UInt64 :=
  UInt64.ofNat (byteSize s.toList)

/-- The part of a text between two byte offsets.  There is none if the offsets are out of order or
behind the end of the text, or if one of them is inside a character. -/
def slice? (s : String) (start stop : Nat) : Option String :=
  if start ≤ stop then
    (cutAt start s.toList).bind fun parts =>
      (cutAt (stop - start) parts.2).map fun inner => String.ofList inner.1
  else none

/-- What makes a walk fail. -/
inductive Fault where
  /-- The sum of an offset and the width is no machine word. -/
  | overflow
  /-- There is no part of the text between the offsets of a piece. -/
  | slice

/-- Where a walk stands: the pieces that it has cut off, and the offset of the next one. -/
structure Walk where
  pieces : List String
  start : UInt64

namespace Walk

/-- Where the next piece of a walk ends: behind the width, or at the end of the text. -/
def stop (width : UInt64) (s : String) (walk : Walk) : UInt64 :=
  if walk.start + width ≤ wordSize s then walk.start + width else wordSize s

/-- One turn of a walk. -/
def turn (width : UInt64) (s : String) (walk : Walk) : Except Fault Walk :=
  if walk.start.toNat + width.toNat < UInt64.size then
    match slice? s walk.start.toNat (walk.stop width s).toNat with
    | some piece => .ok ⟨walk.pieces ++ [piece], walk.stop width s⟩
    | none => .error .slice
  else .error .overflow

/-- A walk ends with some pieces after some turns, none of which fails: it takes another turn as
long as its offset is in front of the end of the text. -/
inductive Ends (width : UInt64) (s : String) : Walk → Nat → List String → Prop where
  | stop {walk : Walk} (hend : ¬ walk.start < wordSize s) : Ends width s walk 0 walk.pieces
  | turn {walk next : Walk} {turns : Nat} {pieces : List String}
      (hmore : walk.start < wordSize s) (hturn : walk.turn width s = .ok next)
      (hrest : Ends width s next turns pieces) : Ends width s walk (turns + 1) pieces

/-- The walk that has not begun. -/
def initial : Walk :=
  ⟨[], 0⟩

/-- The part of the text that a walk has left behind, and the part ahead.  As long as there is
something ahead, the walk has not begun or has advanced by the width at least. -/
structure At (width : UInt64) (s : String) (walk : Walk) (front back : List Char) : Prop where
  text : s.toList = front ++ back
  start : walk.start.toNat = byteSize front
  advanced : back ≠ [] → front = [] ∨ width.toNat ≤ byteSize front

end Walk

/-! ## One turn -/

variable {s : String} {width : UInt64} {walk : Walk} {front back : List Char}

/-- The bytes of a text in memory are counted in a machine word. -/
theorem toNat_wordSize (hresident : Resident s) : (wordSize s).toNat = byteSize s.toList := by
  have hless : byteSize s.toList < UInt64.size := by
    rw [Resident] at hresident
    omega
  rw [wordSize, UInt64.toNat_ofNat_of_lt' hless]

/-- A piece is cut off what follows its offset. -/
theorem slice?_byteSize (htext : s.toList = front ++ back) (n : Nat) :
    slice? s (byteSize front) (byteSize front + n) =
      (cutAt n back).map fun inner => String.ofList inner.1 := by
  rw [slice?, if_pos (Nat.le_add_right _ _), htext, cutAt_byteSize, Option.bind_some,
    Nat.add_sub_cancel_left]

namespace Walk

/-- A walk begins with the whole text ahead. -/
theorem at_initial (width : UInt64) (s : String) : initial.At width s [] s.toList where
  text := rfl
  start := rfl
  advanced := fun _ => Or.inl rfl

/-- A walk has something ahead as long as its offset is in front of the end of the text. -/
theorem At.start_lt_iff (hat : walk.At width s front back) (hresident : Resident s) :
    walk.start < wordSize s ↔ back ≠ [] := by
  rw [UInt64.lt_iff_toNat_lt, toNat_wordSize hresident, hat.start, hat.text, byteSize_append,
    Ne, ← byteSize_eq_zero]
  omega

/-- The sum of offset and width is a machine word, as long as there is something ahead. -/
theorem At.sum_lt (hat : walk.At width s front back) (hresident : Resident s) (hback : back ≠ []) :
    walk.start.toNat + width.toNat < UInt64.size := by
  have hsize : 2 * (byteSize front + byteSize back) < UInt64.size := by
    rw [← byteSize_append, ← hat.text]
    exact hresident
  rcases hat.advanced hback with rfl | hwidth
  · rw [hat.start, byteSize, List.foldr_nil, Nat.zero_add]
    exact width.toNat_lt
  · rw [hat.start]
    omega

/-- A piece ends behind the width, or at the end of the text. -/
theorem At.toNat_stop (hat : walk.At width s front back) (hresident : Resident s)
    (hback : back ≠ []) :
    (walk.stop width s).toNat = byteSize front + min width.toNat (byteSize back) := by
  have hsum : (walk.start + width).toNat = byteSize front + width.toNat := by
    rw [UInt64.toNat_add, Nat.mod_eq_of_lt (hat.sum_lt hresident hback), hat.start]
  have hsize : (wordSize s).toNat = byteSize front + byteSize back := by
    rw [toNat_wordSize hresident, hat.text, byteSize_append]
  rw [stop]
  split
  · rename_i hfits
    rw [UInt64.le_iff_toNat_le, hsum, hsize] at hfits
    omega
  · rename_i hover
    rw [UInt64.le_iff_toNat_le, hsum, hsize] at hover
    omega

/-- One turn cuts the width, or what is left, off the part ahead; it fails only if that ends inside
a character. -/
theorem At.turn_eq (hat : walk.At width s front back) (hresident : Resident s)
    (hback : back ≠ []) :
    walk.turn width s =
      match cutAt (min width.toNat (byteSize back)) back with
      | some parts => .ok ⟨walk.pieces ++ [String.ofList parts.1], walk.stop width s⟩
      | none => .error .slice := by
  rw [turn, if_pos (hat.sum_lt hresident hback), hat.start, hat.toNat_stop hresident hback,
    slice?_byteSize hat.text]
  cases cutAt (min width.toNat (byteSize back)) back <;> rfl

/-- After a turn the walk has left the piece behind. -/
theorem At.next {piece rest : List Char} (hat : walk.At width s front back)
    (hresident : Resident s) (hback : back ≠ [])
    (hcut : cutAt (min width.toNat (byteSize back)) back = some (piece, rest)) :
    (Walk.mk (walk.pieces ++ [String.ofList piece]) (walk.stop width s)).At width s
      (front ++ piece) rest := by
  obtain ⟨rfl, hpiece⟩ := cutAt_eq_some_iff.mp hcut
  refine ⟨by rw [hat.text, List.append_assoc], ?_, fun hrest => Or.inr ?_⟩
  · rw [byteSize_append front piece, hpiece]
    exact hat.toNat_stop hresident hback
  · have hpos : byteSize rest ≠ 0 := fun hzero => hrest (byteSize_eq_zero.mp hzero)
    rw [byteSize_append] at hpiece ⊢
    omega

/-! ## Whole walks -/

/-- A walk ends exactly with the pieces of what is ahead of it, after one turn for each. -/
theorem At.ends_iff {turns : Nat} {pieces : List String} (hat : walk.At width s front back)
    (hresident : Resident s) :
    Ends width s walk turns pieces ↔
      ∃ more, Pieces width.toNat back more ∧ turns = more.length ∧
        pieces = walk.pieces ++ more.map String.ofList := by
  constructor
  · intro hends
    induction hends generalizing front back with
    | stop hend =>
      obtain rfl : back = [] := by
        by_contra hback
        exact hend ((hat.start_lt_iff hresident).mpr hback)
      exact ⟨[], Pieces.nil, rfl, (List.append_nil _).symm⟩
    | turn hmore hturn _ ih =>
      have hback := (hat.start_lt_iff hresident).mp hmore
      rw [hat.turn_eq hresident hback] at hturn
      split at hturn
      · rename_i parts hcut
        obtain rfl := Except.ok.inj hturn
        obtain ⟨more, hpieces, rfl, rfl⟩ := ih (hat.next hresident hback hcut)
        exact ⟨parts.1 :: more, Pieces.cons hback hcut hpieces, rfl, by simp⟩
      · cases hturn
  · rintro ⟨more, hpieces, rfl, rfl⟩
    induction hpieces generalizing walk front with
    | nil =>
      have hend : ¬ walk.start < wordSize s := by simp [hat.start_lt_iff hresident]
      simpa using Ends.stop hend
    | cons hback hcut _ ih =>
      have hturn := hat.turn_eq hresident hback
      rw [hcut] at hturn
      have hrest := ih (hat.next hresident hback hcut)
      rw [List.append_assoc] at hrest
      exact Ends.turn ((hat.start_lt_iff hresident).mpr hback) hturn hrest

end Walk

/-! ## The pieces of a text -/

/-- The width of the pieces, where a width of zero counts as one. -/
def pace (width : UInt64) : UInt64 :=
  if width = 0 then 1 else width

/-- A width of zero counts as one. -/
theorem toNat_pace (width : UInt64) : (pace width).toNat = max width.toNat 1 := by
  unfold pace
  split
  · rename_i hzero
    rw [hzero]
    rfl
  · rename_i hne
    have hpos : width.toNat ≠ 0 := fun hzero => hne (UInt64.toNat_inj.mp hzero)
    omega

/-- A walk through a text in memory ends exactly with its pieces, after one turn for each. -/
theorem ends_iff_chunks (hresident : Resident s) (width : UInt64) {turns : Nat}
    {pieces : List String} :
    Walk.Ends (pace width) s Walk.initial turns pieces ↔
      chunks width.toNat s = some pieces ∧ turns = pieces.length := by
  rw [(Walk.at_initial (pace width) s).ends_iff hresident, toNat_pace, chunks_eq_some_iff]
  constructor
  · rintro ⟨more, hmore, rfl, rfl⟩
    exact ⟨⟨more, hmore, rfl⟩, (List.length_map _).symm⟩
  · rintro ⟨⟨more, hmore, rfl⟩, rfl⟩
    exact ⟨more, hmore, List.length_map _, rfl⟩

/-- The texts that have pieces are those in which a character begins at every multiple of the
width.  A walk through a text in memory ends with these pieces, after one turn for each: no sum of
offset and width leaves the machine words, and no piece begins or ends outside of the text or inside
a character.  The pieces make up the text.  None is empty, all but the last have the width, and
there are as many as the width goes into the text, rounded up; if it goes without rest, the last
piece has the width too.  Texts of one-byte characters have pieces of any width, and base64 texts
are such. -/
theorem chunks_law (width : UInt64) (s : String) :
    ((∃ pieces, chunks width.toNat s = some pieces) ↔
      ∀ k, k * (pace width).toNat < byteSize s.toList →
        Utf8.isBoundary (Utf8.encode s) (k * (pace width).toNat) = true) ∧
    (Resident s → ∀ turns pieces, Walk.Ends (pace width) s Walk.initial turns pieces ↔
      chunks width.toNat s = some pieces ∧ turns = pieces.length) ∧
    (∀ pieces, chunks width.toNat s = some pieces →
      String.join pieces = s ∧
      (∀ piece ∈ pieces, piece ≠ "" ∧ byteSize piece.toList ≤ (pace width).toNat) ∧
      (∀ piece ∈ pieces.dropLast, byteSize piece.toList = (pace width).toNat) ∧
      pieces.length = (byteSize s.toList + (pace width).toNat - 1) / (pace width).toNat ∧
      ((pace width).toNat ∣ byteSize s.toList →
        ∀ piece ∈ pieces, byteSize piece.toList = (pace width).toNat)) ∧
    ((∀ c ∈ s.toList, c.utf8Size = 1) → ∃ pieces, chunks width.toNat s = some pieces) ∧
    ∀ bytes, ∃ pieces, chunks width.toNat (Base64.encode bytes) = some pieces := by
  refine ⟨?_, fun hresident _ _ => ends_iff_chunks hresident width, fun pieces hpieces => ?_,
    exists_chunks _, fun bytes => exists_chunks _ (Base64.isAscii_encode bytes)⟩
  · simp only [exists_chunks_iff, toNat_pace, Aligned, Utf8.encode, Utf8.isBoundary_iff]
  · obtain ⟨parts, hparts, rfl⟩ := chunks_eq_some_iff.mp hpieces
    rw [← toNat_pace] at hparts
    have hpace : 0 < (pace width).toNat := by
      rw [toNat_pace]
      omega
    simp only [← List.map_dropLast, List.forall_mem_map, String.toList_ofList, List.length_map]
    refine ⟨join_of_chunks hpieces, fun part hpart => ?_, hparts.byteSize_of_mem_dropLast,
      hparts.length_eq hpace, hparts.byteSize_of_mem_of_dvd⟩
    obtain ⟨hfilled, hshort⟩ := hparts.ne_nil_of_mem hpace part hpart
    exact ⟨by simpa using hfilled, hshort⟩

/-- Four characters of two bytes are cut into two pieces of four bytes, and not into pieces of
three.  Pieces of no width are single characters. -/
theorem chunks_law_twoBytes :
    chunks 4 "éééé" = some ["éé", "éé"] ∧ chunks 3 "éééé" = none ∧
      Walk.Ends (pace 4) "éééé" Walk.initial 2 ["éé", "éé"] ∧
      String.join ["éé", "éé"] = "éééé" ∧
      (∀ piece ∈ ["éé", "éé"], byteSize piece.toList = 4) ∧
      ∃ pieces, chunks 0 "chef" = some pieces := by
  have hresident : Resident "éééé" := by
    rw [Resident]
    decide
  have hpieces : chunks (4 : UInt64).toNat "éééé" = some ["éé", "éé"] := by decide +kernel
  have hnone : chunks 3 "éééé" = none := by decide +kernel
  have hwhole : (pace 4).toNat ∣ byteSize "éééé".toList := by decide
  have hone : ∀ c ∈ "chef".toList, c.utf8Size = 1 := by
    have hall : ("chef".toList.all fun c => c.utf8Size == 1) = true := by decide
    simpa only [List.all_eq_true, beq_iff_eq] using hall
  obtain ⟨-, hwalk, hshape, -⟩ := chunks_law 4 "éééé"
  obtain ⟨hjoin, -, -, -, hsizes⟩ := hshape _ hpieces
  exact ⟨hpieces, hnone, (hwalk hresident 2 _).mpr ⟨hpieces, rfl⟩, hjoin, hsizes hwhole,
    (chunks_law 0 "chef").2.2.2.1 hone⟩

end Text
end ChefAccess
