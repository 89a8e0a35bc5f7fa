import ChefAccess.Text.Chunk
import Mathlib.Data.List.Forall2

/-!
# Pieces of a text

A text is cut where the bytes of its first characters end and nowhere else.  Each of its pieces has
the width, but for the last one, which has what is left.  A text has pieces of a width if characters
end at every multiple of the width, as they do everywhere in a text of one-byte characters.  The
pieces make up the text again, and none is empty.

Main definitions:

- {lit}`Text.Pieces`: the pieces of a text.
- {lit}`Text.Aligned`: characters end at every multiple of a width.

Main results:

- Theorem {lit}`Text.cutAt_eq_some_iff`: where a text is cut.
- Theorem {lit}`Text.chunks_eq_some_iff`: the pieces are found if there are any.
- Theorem {lit}`Text.exists_pieces_iff`: which texts have pieces.
- Theorem {lit}`Text.exists_chunks`: a text of one-byte characters has pieces of any width.
- Theorem {lit}`Text.join_of_chunks`: the pieces of a text, joined, are the text.
- Theorem {lit}`Text.length_of_chunks`: how many pieces a text has.
- Theorem {lit}`Text.chunksWith_rel`: how many pieces there are, and how long they are, depends on
  the length of the text alone.
-/

namespace ChefAccess
namespace Text

/-! ## Cuts -/

section Cuts

variable {l front back : List Char} {n : Nat}

/-- The bytes of a character come first. -/
theorem byteSize_cons (c : Char) (rest : List Char) :
    byteSize (c :: rest) = c.utf8Size + byteSize rest :=
  rfl

/-- The bytes of two texts add up. -/
theorem byteSize_append (front back : List Char) :
    byteSize (front ++ back) = byteSize front + byteSize back := by
  induction front with
  | nil => exact (Nat.zero_add _).symm
  | cons c rest ih => rw [List.cons_append, byteSize_cons, ih, byteSize_cons, Nat.add_assoc]

/-- A character has one byte at least. -/
theorem length_le_byteSize (l : List Char) : l.length ≤ byteSize l := by
  induction l with
  | nil => exact Nat.le_refl 0
  | cons c rest ih =>
    have hc := c.utf8Size_pos
    rw [byteSize_cons, List.length_cons]
    omega

/-- A text without bytes has no characters. -/
theorem byteSize_eq_zero : byteSize l = 0 ↔ l = [] := by
  constructor
  · intro hzero
    have hlength := length_le_byteSize l
    exact List.eq_nil_of_length_eq_zero (by omega)
  · rintro rfl
    rfl

/-- The bytes of one-byte characters are as many as the characters. -/
theorem byteSize_of_oneByte {text : List Char} (hone : ∀ c ∈ text, c.utf8Size = 1) :
    byteSize text = text.length := by
  induction text with
  | nil => rfl
  | cons c rest ih =>
    rw [byteSize_cons, hone c List.mem_cons_self,
      ih fun d hd => hone d (List.mem_cons_of_mem c hd), List.length_cons, Nat.add_comm]

/-- A part that is cut off a text has the width that was asked for. -/
theorem byteSize_of_cutAt {n : Nat} {text head tail : List Char}
    (hcut : cutAt n text = some (head, tail)) : byteSize text = n + byteSize tail := by
  fun_induction cutAt n text generalizing head tail with
  | case1 text =>
    obtain ⟨-, rfl⟩ := Prod.mk.inj (Option.some.inj hcut)
    rw [Nat.zero_add]
  | case2 => cases hcut
  | case3 n c rest hfits ih =>
    obtain ⟨parts, hparts, hwhole⟩ := Option.map_eq_some_iff.mp hcut
    obtain ⟨-, rfl⟩ := Prod.mk.inj hwhole
    have hrest := ih hparts
    simp only [byteSize, List.foldr_cons] at hrest ⊢
    omega
  | case4 => cases hcut

/-- A text is cut where the bytes of its first characters end. -/
theorem cutAt_byteSize (front back : List Char) :
    cutAt (byteSize front) (front ++ back) = some (front, back) := by
  induction front with
  | nil => rw [byteSize, List.foldr_nil, List.nil_append, cutAt]
  | cons c rest ih =>
    obtain ⟨size, hsize⟩ : ∃ size, byteSize (c :: rest) = size + 1 :=
      Nat.exists_eq_add_one.mpr (Nat.lt_of_lt_of_le c.utf8Size_pos (Nat.le_add_right _ _))
    have hfits : c.utf8Size ≤ size + 1 := hsize ▸ Nat.le_add_right _ _
    have hrest : size + 1 - c.utf8Size = byteSize rest := by
      rw [← hsize, byteSize_cons, Nat.add_sub_cancel_left]
    rw [hsize, List.cons_append, cutAt, if_pos hfits, hrest, ih, Option.map_some]

/-- A text is cut into two parts of which the first has the bytes that are asked for. -/
theorem cutAt_eq_some_iff :
    cutAt n l = some (front, back) ↔ l = front ++ back ∧ byteSize front = n := by
  constructor
  · intro hcut
    have hsize := byteSize_of_cutAt hcut
    rw [← append_of_cutAt hcut, byteSize_append] at hsize
    exact ⟨(append_of_cutAt hcut).symm, Nat.add_right_cancel hsize⟩
  · rintro ⟨rfl, rfl⟩
    exact cutAt_byteSize front back

/-- All of a text can be cut off. -/
theorem cutAt_whole (text : List Char) : cutAt (byteSize text) text = some (text, []) :=
  cutAt_eq_some_iff.mpr ⟨(List.append_nil text).symm, rfl⟩

/-- What follows a part that is cut off is shorter than the text. -/
theorem length_lt_of_cutAt {n : Nat} {text front back : List Char} (hn : 0 < n)
    (hcut : cutAt n text = some (front, back)) : back.length < text.length := by
  obtain ⟨rfl, hfront⟩ := cutAt_eq_some_iff.mp hcut
  have hfilled : front ≠ [] := by
    rintro rfl
    exact Nat.ne_of_lt hn hfront
  have hlength := List.length_pos_iff.mpr hfilled
  rw [List.length_append]
  omega

/-- Of two beginnings of a text, the one with fewer bytes is a beginning of the other. -/
theorem exists_between {earlier later : List Char} (hwhole : front ++ back = earlier ++ later)
    (hless : byteSize front ≤ byteSize earlier) :
    ∃ between, earlier = front ++ between ∧ back = between ++ later := by
  obtain ⟨between, hearlier, hback⟩ | ⟨between, rfl, rfl⟩ := List.append_eq_append_iff.mp hwhole
  · exact ⟨between, hearlier, hback⟩
  · rw [byteSize_append] at hless
    obtain rfl : between = [] := byteSize_eq_zero.mp (by omega)
    exact ⟨[], by simp, by simp⟩

/-- Between one-byte characters a text can be cut anywhere. -/
theorem cutAt_of_oneByte {n : Nat} {text : List Char} (hone : ∀ c ∈ text, c.utf8Size = 1)
    (hn : n ≤ text.length) : cutAt n text = some (text.take n, text.drop n) := by
  have hfront : byteSize (text.take n) = n := by
    rw [byteSize_of_oneByte fun c hc => hone c (List.mem_of_mem_take hc), List.length_take,
      Nat.min_eq_left hn]
  exact cutAt_eq_some_iff.mpr ⟨(List.take_append_drop n text).symm, hfront⟩

end Cuts

/-! ## Pieces -/

variable {width fuel : Nat} {text : List Char} {pieces : List (List Char)}

/-- The pieces of a text: the first has the width, or is all there is, and the others are those of
what follows it. -/
inductive Pieces (width : Nat) : List Char → List (List Char) → Prop where
  | nil : Pieces width [] []
  | cons {text piece rest : List Char} {others : List (List Char)} (hfilled : text ≠ [])
      (hcut : cutAt (min width (byteSize text)) text = some (piece, rest))
      (hrest : Pieces width rest others) : Pieces width text (piece :: others)

/-- The empty text has no pieces. -/
theorem pieces_nil_iff : Pieces width [] pieces ↔ pieces = [] := by
  constructor
  · intro hpieces
    cases hpieces with
    | nil => rfl
    | cons hfilled => exact absurd rfl hfilled
  · rintro rfl
    exact Pieces.nil

/-- Any other text has a first piece. -/
theorem pieces_iff_of_ne_nil (hfilled : text ≠ []) :
    Pieces width text pieces ↔
      ∃ piece rest others, cutAt (min width (byteSize text)) text = some (piece, rest) ∧
        Pieces width rest others ∧ piece :: others = pieces := by
  constructor
  · intro hpieces
    cases hpieces with
    | nil => exact absurd rfl hfilled
    | cons _ hcut hrest => exact ⟨_, _, _, hcut, hrest, rfl⟩
  · rintro ⟨piece, rest, others, hcut, hrest, rfl⟩
    exact Pieces.cons hfilled hcut hrest

/-- The first piece of a text has something in it. -/
theorem min_byteSize_pos (hwidth : 0 < width) (hfilled : text ≠ []) :
    0 < min width (byteSize text) := by
  have hsize := mt byteSize_eq_zero.mp hfilled
  omega

/-- The first piece that is cut off has the width, or is all there is. -/
theorem chunksWith_of_ne_nil (hfilled : text ≠ []) :
    chunksWith width (fuel + 1) text =
      (cutAt (min width (byteSize text)) text).bind fun parts =>
        (chunksWith width fuel parts.2).map (parts.1 :: ·) := by
  cases text with
  | nil => exact absurd rfl hfilled
  | cons c rest =>
    by_cases hshort : byteSize (c :: rest) ≤ width
    · rw [chunksWith, if_pos hshort, Nat.min_eq_right hshort, cutAt_whole, Option.bind_some,
        chunksWith, Option.map_some]
    · rw [chunksWith, if_neg hshort, Nat.min_eq_left (Nat.le_of_not_le hshort)]

/-- With one turn for each character the pieces are found, if there are any. -/
theorem chunksWith_eq_some_iff (hwidth : 0 < width) (hfuel : text.length ≤ fuel) :
    chunksWith width fuel text = some pieces ↔ Pieces width text pieces := by
  induction fuel generalizing text pieces with
  | zero =>
    obtain rfl : text = [] := List.eq_nil_of_length_eq_zero (Nat.le_zero.mp hfuel)
    rw [chunksWith, pieces_nil_iff, Option.some.injEq, eq_comm]
  | succ fuel ih =>
    by_cases hfilled : text = []
    · rw [hfilled, chunksWith, pieces_nil_iff, Option.some.injEq, eq_comm]
    · have hpos := min_byteSize_pos hwidth hfilled
      rw [chunksWith_of_ne_nil hfilled, pieces_iff_of_ne_nil hfilled]
      simp only [Option.bind_eq_some_iff, Option.map_eq_some_iff]
      constructor
      · rintro ⟨⟨piece, rest⟩, hcut, others, hothers, hpieces⟩
        have hless : rest.length ≤ fuel :=
          Nat.le_of_lt_succ (Nat.lt_of_lt_of_le (length_lt_of_cutAt hpos hcut) hfuel)
        exact ⟨piece, rest, others, hcut, (ih hless).mp hothers, hpieces⟩
      · rintro ⟨piece, rest, others, hcut, hothers, hpieces⟩
        have hless : rest.length ≤ fuel :=
          Nat.le_of_lt_succ (Nat.lt_of_lt_of_le (length_lt_of_cutAt hpos hcut) hfuel)
        exact ⟨(piece, rest), hcut, others, (ih hless).mpr hothers, hpieces⟩

/-- The pieces of a text are found, if there are any.  A width of zero counts as one. -/
theorem chunks_eq_some_iff {width : Nat} {s : String} {pieces : List String} :
    chunks width s = some pieces ↔
      ∃ parts, Pieces (max width 1) s.toList parts ∧ parts.map String.ofList = pieces := by
  have hwidth : 0 < max width 1 := Nat.lt_of_lt_of_le Nat.zero_lt_one (Nat.le_max_right width 1)
  simp only [chunks, Option.map_eq_some_iff, chunksWith_eq_some_iff hwidth (Nat.le_refl _)]

/-! ## The shape of the pieces -/

/-- The pieces of a text make up the text. -/
theorem Pieces.flatten_eq (hpieces : Pieces width text pieces) : pieces.flatten = text := by
  induction hpieces with
  | nil => rfl
  | cons _ hcut _ ih => rw [List.flatten_cons, ih, append_of_cutAt hcut]

/-- No piece is empty, and none is longer than the width. -/
theorem Pieces.ne_nil_of_mem (hpieces : Pieces width text pieces) (hwidth : 0 < width) :
    ∀ piece ∈ pieces, piece ≠ [] ∧ byteSize piece ≤ width := by
  induction hpieces with
  | nil => exact List.forall_mem_nil _
  | cons hfilled hcut _ ih =>
    have hsize := (cutAt_eq_some_iff.mp hcut).2
    have hpos := min_byteSize_pos hwidth hfilled
    refine List.forall_mem_cons.mpr ⟨⟨fun hnil => ?_, by omega⟩, ih⟩
    have hzero := byteSize_eq_zero.mpr hnil
    omega

/-- All pieces but the last have the width. -/
theorem Pieces.byteSize_of_mem_dropLast (hpieces : Pieces width text pieces) :
    ∀ piece ∈ pieces.dropLast, byteSize piece = width := by
  induction hpieces with
  | nil => exact List.forall_mem_nil _
  | @cons text piece rest others _ hcut hrest ih =>
    cases hrest with
    | nil => exact List.forall_mem_nil _
    | cons hfilled _ _ =>
      -- there is something left behind the piece, so it is not all there was
      have hsize := (cutAt_eq_some_iff.mp hcut).2
      have hwhole := byteSize_of_cutAt hcut
      have hleft := mt byteSize_eq_zero.mp hfilled
      rw [List.dropLast_cons_of_ne_nil (List.cons_ne_nil _ _)]
      exact List.forall_mem_cons.mpr ⟨by omega, ih⟩

/-- If the width goes into the text without rest, the last piece has it too. -/
theorem Pieces.byteSize_of_mem_of_dvd (hpieces : Pieces width text pieces)
    (hwhole : width ∣ byteSize text) : ∀ piece ∈ pieces, byteSize piece = width := by
  induction hpieces with
  | nil => exact List.forall_mem_nil _
  | @cons text piece rest others hfilled hcut _ ih =>
    have hpos := Nat.pos_of_ne_zero (mt byteSize_eq_zero.mp hfilled)
    have hmin : min width (byteSize text) = width := Nat.min_eq_left (Nat.le_of_dvd hpos hwhole)
    rw [hmin] at hcut
    rw [byteSize_of_cutAt hcut] at hwhole
    have hrest := (Nat.dvd_add_right (Nat.dvd_refl width)).mp hwhole
    exact List.forall_mem_cons.mpr ⟨(cutAt_eq_some_iff.mp hcut).2, ih hrest⟩

/-- There are as many pieces as the width goes into the text, rounded up. -/
theorem Pieces.length_eq (hpieces : Pieces width text pieces) (hwidth : 0 < width) :
    pieces.length = (byteSize text + width - 1) / width := by
  induction hpieces with
  | nil => exact (Nat.div_eq_of_lt (by rw [byteSize, List.foldr_nil]; omega)).symm
  | @cons text piece rest others hfilled hcut _ ih =>
    have hwhole := byteSize_of_cutAt hcut
    have hpos := min_byteSize_pos hwidth hfilled
    rw [List.length_cons, ih]
    by_cases hshort : byteSize text ≤ width
    · have hrest : byteSize rest = 0 := by omega
      rw [hrest, Nat.div_eq_of_lt (by omega), eq_comm, Nat.div_eq_iff hwidth]
      omega
    · have hcount : byteSize text + width - 1 = byteSize rest + width - 1 + width := by omega
      rw [hcount, Nat.add_div_right _ hwidth]

/-- How many pieces a text has is a matter of its bytes alone. -/
theorem length_of_chunks {width : Nat} {s : String} {pieces : List String} (hwidth : 0 < width)
    (hpieces : chunks width s = some pieces) :
    pieces.length = (byteSize s.toList + width - 1) / width := by
  obtain ⟨parts, hparts, rfl⟩ := chunks_eq_some_iff.mp hpieces
  rw [Nat.max_eq_left hwidth] at hparts
  rw [List.length_map, hparts.length_eq hwidth]

/-- The pieces of a text, joined, are the text. -/
theorem join_of_chunks {width : Nat} {s : String} {pieces : List String}
    (hpieces : chunks width s = some pieces) : String.join pieces = s := by
  obtain ⟨parts, hparts, rfl⟩ := chunks_eq_some_iff.mp hpieces
  have hlists : (parts.map String.ofList).flatMap String.toList = parts.flatten := by
    simp [List.flatMap_map, List.flatMap_id']
  apply String.toList_inj.mp
  rw [String.toList_join, hlists, hparts.flatten_eq]

/-! ## Texts that have pieces -/

/-- Characters of a text end at every multiple of a width. -/
def Aligned (width : Nat) (text : List Char) : Prop :=
  ∀ k, k * width < byteSize text →
    ∃ front back, text = front ++ back ∧ byteSize front = k * width

/-- One-byte characters end at every offset. -/
theorem aligned_of_oneByte (width : Nat) (hone : ∀ c ∈ text, c.utf8Size = 1) :
    Aligned width text := by
  intro k hk
  rw [byteSize_of_oneByte hone] at hk
  exact ⟨_, _, cutAt_eq_some_iff.mp (cutAt_of_oneByte hone (Nat.le_of_lt hk))⟩

/-- A text no longer than the width is aligned. -/
theorem aligned_of_le (hshort : byteSize text ≤ width) : Aligned width text := by
  intro k hk
  cases k with
  | zero => exact ⟨[], text, rfl, (Nat.zero_mul width).symm⟩
  | succ k =>
    rw [Nat.succ_mul] at hk
    omega

/-- A longer text is aligned if it can be cut at the width and what follows is aligned. -/
theorem aligned_iff_of_lt (hlong : width < byteSize text) :
    Aligned width text ↔
      ∃ piece rest, cutAt width text = some (piece, rest) ∧ Aligned width rest := by
  constructor
  · intro haligned
    obtain ⟨front, back, rfl, hfront⟩ := haligned 1 (by rwa [Nat.one_mul])
    rw [Nat.one_mul] at hfront
    refine ⟨front, back, cutAt_eq_some_iff.mpr ⟨rfl, hfront⟩, fun k hk => ?_⟩
    -- an offset in the rest is one in the whole text, behind the first part
    have hlater : (k + 1) * width < byteSize (front ++ back) := by
      rw [byteSize_append, hfront, Nat.succ_mul]
      omega
    obtain ⟨earlier, later, hwhole, hearlier⟩ := haligned (k + 1) hlater
    rw [Nat.succ_mul] at hearlier
    obtain ⟨between, rfl, hback⟩ := exists_between hwhole (by omega)
    rw [byteSize_append] at hearlier
    exact ⟨between, later, hback, by omega⟩
  · rintro ⟨front, back, hcut, haligned⟩ k hk
    obtain ⟨rfl, hfront⟩ := cutAt_eq_some_iff.mp hcut
    cases k with
    | zero => exact ⟨[], front ++ back, rfl, (Nat.zero_mul width).symm⟩
    | succ k =>
      have hinside : k * width < byteSize back := by
        rw [byteSize_append, hfront, Nat.succ_mul] at hk
        omega
      obtain ⟨earlier, later, hback, hearlier⟩ := haligned k hinside
      refine ⟨front ++ earlier, later, by rw [List.append_assoc, ← hback], ?_⟩
      rw [byteSize_append, hfront, hearlier, Nat.succ_mul, Nat.add_comm]

/-- A text is aligned if a first piece can be cut off and what follows is aligned. -/
theorem aligned_iff :
    Aligned width text ↔ ∃ piece rest,
      cutAt (min width (byteSize text)) text = some (piece, rest) ∧ Aligned width rest := by
  by_cases hshort : byteSize text ≤ width
  · rw [Nat.min_eq_right hshort, cutAt_whole]
    exact iff_of_true (aligned_of_le hshort) ⟨text, [], rfl, aligned_of_le (Nat.zero_le width)⟩
  · rw [Nat.min_eq_left (Nat.le_of_not_le hshort)]
    exact aligned_iff_of_lt (Nat.lt_of_not_le hshort)

/-- The texts that have pieces of a width are those that are aligned. -/
theorem exists_pieces_iff (hwidth : 0 < width) :
    (∃ pieces, Pieces width text pieces) ↔ Aligned width text := by
  constructor
  · rintro ⟨pieces, hpieces⟩
    induction hpieces with
    | nil => exact aligned_of_le (Nat.zero_le width)
    | cons _ hcut _ ih => exact aligned_iff.mpr ⟨_, _, hcut, ih⟩
  · intro haligned
    -- what follows the first piece is shorter than the text
    induction hlength : text.length using Nat.strongRecOn generalizing text with
    | ind n ih =>
      subst hlength
      by_cases hfilled : text = []
      · exact ⟨[], hfilled ▸ Pieces.nil⟩
      · obtain ⟨piece, rest, hcut, hrest⟩ := aligned_iff.mp haligned
        have hless := length_lt_of_cutAt (min_byteSize_pos hwidth hfilled) hcut
        obtain ⟨others, hothers⟩ := ih rest.length hless hrest rfl
        exact ⟨piece :: others, Pieces.cons hfilled hcut hothers⟩

/-- The texts that have pieces are those that are aligned, where a width of zero counts as one. -/
theorem exists_chunks_iff (width : Nat) (s : String) :
    (∃ pieces, chunks width s = some pieces) ↔ Aligned (max width 1) s.toList := by
  have hwidth : 0 < max width 1 := Nat.lt_of_lt_of_le Nat.zero_lt_one (Nat.le_max_right width 1)
  simp only [chunks_eq_some_iff, ← exists_pieces_iff hwidth]
  constructor
  · rintro ⟨_, parts, hparts, -⟩
    exact ⟨parts, hparts⟩
  · rintro ⟨parts, hparts⟩
    exact ⟨_, parts, hparts, rfl⟩

/-- A text of one-byte characters has pieces of any width. -/
theorem exists_chunks (width : Nat) {s : String} (hone : ∀ c ∈ s.toList, c.utf8Size = 1) :
    ∃ pieces, chunks width s = some pieces :=
  (exists_chunks_iff width s).mpr (aligned_of_oneByte _ hone)

/-! ## Pieces of texts of one length -/

/-- One-byte characters are cut into pieces of the same lengths, whatever they are. -/
theorem chunksWith_rel (width fuel : Nat) {text text' : List Char}
    (hone : ∀ c ∈ text, c.utf8Size = 1) (hone' : ∀ c ∈ text', c.utf8Size = 1)
    (hlength : text.length = text'.length) :
    Option.Rel (List.Forall₂ fun piece piece' => piece.length = piece'.length)
      (chunksWith width fuel text) (chunksWith width fuel text') := by
  induction fuel generalizing text text' with
  | zero =>
    cases text with
    | nil =>
      rw [List.eq_nil_of_length_eq_zero hlength.symm, chunksWith]
      exact .some .nil
    | cons c rest =>
      cases text' with
      | nil => cases hlength
      | cons c' rest' => exact .none
  | succ fuel ih =>
    by_cases hfilled : text = []
    · subst hfilled
      rw [List.eq_nil_of_length_eq_zero hlength.symm, chunksWith]
      exact .some .nil
    · have hfilled' : text' ≠ [] := by
        rintro rfl
        exact hfilled (List.eq_nil_of_length_eq_zero hlength)
      have hcut := cutAt_of_oneByte hone (Nat.min_le_right width text.length)
      have hcut' := cutAt_of_oneByte hone' (Nat.min_le_right width text'.length)
      rw [chunksWith_of_ne_nil hfilled, chunksWith_of_ne_nil hfilled', byteSize_of_oneByte hone,
        byteSize_of_oneByte hone', hcut, hcut', Option.bind_some, Option.bind_some, hlength]
      have hlater : ∀ d ∈ text.drop (min width text'.length), d.utf8Size = 1 :=
        fun d hd => hone d (List.mem_of_mem_drop hd)
      have hlater' : ∀ d ∈ text'.drop (min width text'.length), d.utf8Size = 1 :=
        fun d hd => hone' d (List.mem_of_mem_drop hd)
      have hrest := ih hlater hlater' (by rw [List.length_drop, List.length_drop, hlength])
      generalize chunksWith width fuel (text.drop (min width text'.length)) = pieces
        at hrest ⊢
      generalize chunksWith width fuel (text'.drop (min width text'.length)) = pieces'
        at hrest ⊢
      cases hrest with
      | none => exact .none
      | some hpairs =>
        refine .some (.cons ?_ hpairs)
        rw [List.length_take, List.length_take, hlength]

end Text
end ChefAccess
