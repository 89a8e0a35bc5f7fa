import ChefAccess.Text.LetterCase
import Mathlib.Data.List.Basic

/-!
# Laws of lower-casing

The characters with a lower-case form lie in the ranges of a table, and no lower-case form lies
in one of them.  So what is in lower case stays as it is.  Only a capital sigma looks at its
neighbours, and it does not look past a slash, which is neither cased nor skipped: a text with
slashes is lower-cased between them.

Main definitions:

- {lit}`Text.capitalRanges`: the characters with a lower-case form.
- {lit}`Text.IsLower`: a character that has none.

Main results:

- Theorem {lit}`Text.isLower_of_mem_lowerAfter`: lower-casing leaves no character with a
  lower-case form.
- Theorem {lit}`Text.toLower_toLower`: lower-casing twice is lower-casing once.
- Theorem {lit}`Text.lowerAfter_append_slash`: lower-casing takes a slash for the end of a text.
-/

namespace ChefAccess
namespace Text

/-! ## Ranges of characters -/

/-- The characters that the lower-case forms of a range are. -/
def CaseRange.lowered (r : CaseRange) : CaseRange :=
  ⟨(r.first + r.offset).toNat, (r.last + r.offset).toNat, r.stride, 0⟩

/-- Whether one range lies apart from another: before it, behind it, or between its characters. -/
def CaseRange.avoids (r s : CaseRange) : Bool :=
  Nat.blt r.last s.first || Nat.blt s.last r.first ||
    ((Nat.beq r.stride 2 || Nat.beq r.first r.last) && Nat.beq s.stride 2 &&
      Nat.beq ((r.first + s.first) % 2) 1)

/-- The capital letters of ASCII. -/
def asciiCapitals : CaseRange :=
  ⟨0x41, 0x5A, 1, 32⟩

/-- The character with a lower-case form of two characters. -/
def dottedCapital : CaseRange :=
  ⟨0x130, 0x130, 1, 0⟩

/-- The characters with a lower-case form. -/
def capitalRanges : List CaseRange :=
  asciiCapitals :: dottedCapital :: lowerRanges

/-- No lower-case form has a lower-case form in turn. -/
theorem lowered_avoids :
    ((asciiCapitals :: lowerRanges).all fun r => capitalRanges.all r.lowered.avoids) = true := by
  decide +kernel

/-- Lower-case forms are characters. -/
theorem first_add_offset_nonneg : ∀ r ∈ asciiCapitals :: lowerRanges, 0 ≤ r.first + r.offset := by
  decide +kernel

/-- The ranges of the table lie beyond ASCII. -/
theorem first_of_mem_lowerRanges : ∀ r ∈ lowerRanges, 0x80 ≤ r.first := by
  decide +kernel

/-- A range contains every character between its ends that is a number of strides away. -/
theorem CaseRange.contains_iff (r : CaseRange) (n : Nat) :
    r.contains n = true ↔ (r.first ≤ n ∧ n ≤ r.last) ∧ (n - r.first) % r.stride = 0 := by
  simp [contains]

/-- The lower-case form of a character of one range is no character of another. -/
theorem CaseRange.not_contains_of_avoids {r s : CaseRange} {n : Nat}
    (hcharacters : 0 ≤ r.first + r.offset) (havoids : r.lowered.avoids s = true)
    (hcontains : r.contains n = true) : s.contains (n + r.offset).toNat = false := by
  rw [contains_iff] at hcontains
  simp only [avoids, lowered, Bool.or_eq_true, Bool.and_eq_true, Nat.blt_eq, Nat.beq_eq] at havoids
  rw [Bool.eq_false_iff, ne_eq, contains_iff]
  intro hother
  rcases havoids with (hbefore | hbehind) | ⟨⟨hstride | hsingle, hother2⟩, hodd⟩
  · omega
  · omega
  · -- both ranges take every second character, and start at different parities
    rw [hstride] at hcontains
    rw [hother2] at hother
    omega
  · rw [hother2] at hother
    omega

/-! ## Characters -/

/-- The capital letters of ASCII are a range. -/
theorem contains_asciiCapitals (c : Char) :
    asciiCapitals.contains c.toNat = isAsciiUpper c := by
  rw [Bool.eq_iff_iff, CaseRange.contains_iff]
  simp [asciiCapitals, isAsciiUpper, Nat.mod_one]

/-- A character without a lower-case form. -/
def IsLower (c : Char) : Prop :=
  ∀ r ∈ capitalRanges, r.contains c.toNat = false

instance (c : Char) : Decidable (IsLower c) :=
  inferInstanceAs (Decidable (∀ r ∈ capitalRanges, r.contains c.toNat = false))

/-- The character of a code point outside the ranges has no lower-case form. -/
theorem isLower_ofNat {n : Nat} (hn : ∀ r ∈ capitalRanges, r.contains n = false) :
    IsLower (Char.ofNat n) := by
  have hnull : ∀ r ∈ capitalRanges, r.contains 0 = false := by decide +kernel
  intro r hr
  unfold Char.ofNat
  by_cases hvalid : n.isValidChar
  · rw [dif_pos hvalid]
    exact hn r hr
  · rw [dif_neg hvalid]
    exact hnull r hr

/-- A sigma has a lower-case form. -/
theorem IsLower.ne_sigma {c : Char} (hlower : IsLower c) : c ≠ 'Σ' := by
  rintro rfl
  exact absurd hlower (by decide +kernel)

/-- A character without a lower-case form stays as it is. -/
theorem IsLower.lowerChar_eq {c : Char} (hlower : IsLower c) : lowerChar c = [c] := by
  have hascii := hlower asciiCapitals List.mem_cons_self
  have hdotted := hlower dottedCapital (List.mem_cons_of_mem _ List.mem_cons_self)
  unfold lowerChar
  split
  case isTrue =>
    rw [lowerAscii, ← contains_asciiCapitals, hascii]
    rfl
  case isFalse =>
    split
    case isTrue heq =>
      rw [heq] at hdotted
      exact absurd hdotted (by decide)
    case isFalse =>
      split
      case h_1 r hfind =>
        have hmem : r ∈ capitalRanges :=
          List.mem_cons_of_mem _ (List.mem_cons_of_mem _ (List.mem_of_find?_eq_some hfind))
        have hcontains := List.find?_some hfind
        rw [hlower r hmem] at hcontains
        cases hcontains
      case h_2 => rfl

/-- The character of a code point in a range has a lower-case form without one. -/
theorem isLower_lowered {r : CaseRange} {n : Nat} (hr : r ∈ asciiCapitals :: lowerRanges)
    (hcontains : r.contains n = true) : IsLower (Char.ofNat (n + r.offset).toNat) := by
  refine isLower_ofNat fun s hs => ?_
  have havoids := List.all_eq_true.mp (List.all_eq_true.mp lowered_avoids r hr) s hs
  exact r.not_contains_of_avoids (first_add_offset_nonneg r hr) havoids hcontains

/-- Within ASCII, a lower-case form has no lower-case form. -/
theorem isLower_lowerAscii {c : Char} (hc : c.toNat < 0x80) : IsLower (lowerAscii c) := by
  unfold lowerAscii
  split
  case isTrue hupper =>
    rw [← contains_asciiCapitals] at hupper
    have hlowered := isLower_lowered List.mem_cons_self hupper
    have hcode : ((c.toNat : Int) + asciiCapitals.offset).toNat = c.toNat + 32 :=
      Int.toNat_natCast (c.toNat + 32)
    rwa [hcode] at hlowered
  case isFalse hother =>
    intro r hr
    rcases List.mem_cons.mp hr with rfl | hr
    · rw [contains_asciiCapitals]
      exact Bool.eq_false_iff.mpr hother
    · have hbeyond : 0x80 ≤ r.first := by
        rcases List.mem_cons.mp hr with rfl | hr
        · decide
        · exact first_of_mem_lowerRanges r hr
      rw [Bool.eq_false_iff, ne_eq, CaseRange.contains_iff]
      omega

/-- A lower-case form has no lower-case form. -/
theorem isLower_of_mem_lowerChar {c d : Char} (hd : d ∈ lowerChar c) : IsLower d := by
  unfold lowerChar at hd
  split at hd
  case isTrue hc =>
    rw [List.mem_singleton.mp hd]
    exact isLower_lowerAscii hc
  case isFalse hc =>
    split at hd
    case isTrue =>
      rcases List.mem_pair.mp hd with rfl | rfl <;> decide +kernel
    case isFalse hdotted =>
      split at hd
      case h_1 r hfind =>
        rw [List.mem_singleton.mp hd]
        have hcontains := List.find?_some hfind
        exact isLower_lowered (List.mem_cons_of_mem _ (List.mem_of_find?_eq_some hfind)) hcontains
      case h_2 hnone =>
        rw [List.mem_singleton.mp hd]
        intro r hr
        rw [Bool.eq_false_iff]
        rcases List.mem_cons.mp hr with rfl | hr
        · rw [ne_eq, CaseRange.contains_iff, asciiCapitals]
          dsimp only
          omega
        · rcases List.mem_cons.mp hr with rfl | hr
          · rw [ne_eq, CaseRange.contains_iff, dottedCapital]
            dsimp only
            omega
          · exact List.find?_eq_none.mp hnone r hr

/-! ## Letters of ASCII -/

/-- There are twenty-six capital letters. -/
theorem exists_of_isAsciiUpper {c : Char} (hupper : isAsciiUpper c = true) :
    ∃ place : Fin 26, c = Char.ofNat (65 + place) := by
  simp only [isAsciiUpper, Bool.and_eq_true, decide_eq_true_eq] at hupper
  refine ⟨⟨c.toNat - 65, by omega⟩, ?_⟩
  have hplace : 65 + (c.toNat - 65) = c.toNat := by omega
  simp only [hplace, Char.ofNat_toNat]

/-- A character that is no small letter is the lower-case form of itself alone. -/
theorem eq_of_lowerAscii_eq {c d : Char} (hd : ¬ (97 ≤ d.toNat ∧ d.toNat ≤ 122))
    (hlower : lowerAscii c = d) : c = d := by
  by_cases hupper : isAsciiUpper c = true
  · obtain ⟨place, rfl⟩ := exists_of_isAsciiUpper hupper
    have hsmall : ∀ place : Fin 26, 97 ≤ (lowerAscii (Char.ofNat (65 + place))).toNat ∧
        (lowerAscii (Char.ofNat (65 + place))).toNat ≤ 122 := by decide
    exact absurd (hlower ▸ hsmall place) hd
  · rwa [lowerAscii, if_neg hupper] at hlower

/-- A character with a lower-case form within ASCII is within ASCII itself. -/
theorem toNat_lt_of_lowerAscii {c : Char} (hc : (lowerAscii c).toNat < 0x80) :
    c.toNat < 0x80 := by
  unfold lowerAscii at hc
  split at hc
  case isTrue hupper =>
    simp only [isAsciiUpper, Bool.and_eq_true, decide_eq_true_eq] at hupper
    omega
  case isFalse => exact hc

/-! ## Texts -/

/-- What a character becomes between two texts has no lower-case form. -/
theorem isLower_of_mem_lowerBetween {before after : List Char} {c d : Char}
    (hd : d ∈ lowerBetween before c after) : IsLower d := by
  have hsigmas : IsLower 'ς' ∧ IsLower 'σ' := by decide +kernel
  unfold lowerBetween at hd
  split at hd
  case isTrue =>
    split at hd
    · rw [List.mem_singleton.mp hd]
      exact hsigmas.1
    · rw [List.mem_singleton.mp hd]
      exact hsigmas.2
  case isFalse => exact isLower_of_mem_lowerChar hd

/-- A character without a lower-case form stays as it is between any two texts. -/
theorem IsLower.lowerBetween_eq {c : Char} (hlower : IsLower c) (before after : List Char) :
    lowerBetween before c after = [c] := by
  rw [lowerBetween, if_neg hlower.ne_sigma, hlower.lowerChar_eq]

/-- No character of a text in lower case has a lower-case form. -/
theorem isLower_of_mem_lowerAfter {before l : List Char} {d : Char}
    (hd : d ∈ lowerAfter before l) : IsLower d := by
  induction l generalizing before with
  | nil => cases hd
  | cons c rest ih =>
    rcases List.mem_append.mp hd with hhere | hrest
    · exact isLower_of_mem_lowerBetween hhere
    · exact ih hrest

/-- A text in lower case stays as it is. -/
theorem lowerAfter_eq_self {before l : List Char} (hlower : ∀ c ∈ l, IsLower c) :
    lowerAfter before l = l := by
  induction l generalizing before with
  | nil => rfl
  | cons c rest ih =>
    rw [lowerAfter, (hlower c List.mem_cons_self).lowerBetween_eq,
      ih fun d hd => hlower d (List.mem_cons_of_mem c hd)]
    rfl

/-- Lower-casing twice is lower-casing once. -/
theorem toLower_toLower (s : String) : toLower (toLower s) = toLower s := by
  rw [toLower, lowerAfter_eq_self, String.ofList_toList]
  intro c hc
  rw [toLower, String.toList_ofList] at hc
  exact isLower_of_mem_lowerAfter hc

/-! ## Slashes -/

/-- A search for a cased letter ends at a slash. -/
theorem startsCased_append_slash (front back : List Char) :
    startsCased (front ++ '/' :: back) = startsCased front := by
  have hslash : isCaseIgnorable '/' = false ∧ isCased '/' = false := by decide +kernel
  induction front with
  | nil =>
    unfold startsCased
    rw [List.nil_append, List.dropWhile_cons_of_neg (by simp [hslash.1])]
    exact hslash.2
  | cons c front ih =>
    unfold startsCased at ih ⊢
    by_cases hskipped : isCaseIgnorable c = true
    · rw [List.cons_append, List.dropWhile_cons_of_pos hskipped,
        List.dropWhile_cons_of_pos hskipped, ih]
    · rw [List.cons_append, List.dropWhile_cons_of_neg hskipped,
        List.dropWhile_cons_of_neg hskipped]

/-- What stands before a slash does not matter for what stands behind it. -/
theorem lowerAfter_slash (near far l : List Char) :
    lowerAfter (near ++ '/' :: far) l = lowerAfter near l := by
  induction l generalizing near with
  | nil => rfl
  | cons c rest ih =>
    have hend : endsWord (near ++ '/' :: far) rest = endsWord near rest := by
      rw [endsWord, startsCased_append_slash, endsWord]
    rw [lowerAfter, lowerAfter, ← List.cons_append, ih, lowerBetween, hend, lowerBetween]

/-- Lower-casing takes a slash for the end of a text, and for the start of another. -/
theorem lowerAfter_append_slash (before front back : List Char) :
    lowerAfter before (front ++ '/' :: back) =
      lowerAfter before front ++ '/' :: lowerAfter [] back := by
  have hslash : IsLower '/' := by decide +kernel
  induction front generalizing before with
  | nil =>
    have hstart := lowerAfter_slash [] before back
    rw [List.nil_append] at hstart
    rw [List.nil_append, lowerAfter, lowerAfter, hslash.lowerBetween_eq, hstart]
    rfl
  | cons c front ih =>
    have hend : endsWord before (front ++ '/' :: back) = endsWord before front := by
      rw [endsWord, startsCased_append_slash, endsWord]
    rw [List.cons_append, lowerAfter, lowerAfter, ih, lowerBetween, hend, lowerBetween,
      List.append_assoc]

/-- Slashes behind a text make no difference to it. -/
theorem lowerAfter_append_slashes (text : List Char) (slashes : Nat) :
    lowerAfter [] (text ++ List.replicate slashes '/') =
      lowerAfter [] text ++ List.replicate slashes '/' := by
  have hslash : IsLower '/' := by decide +kernel
  cases slashes with
  | zero => simp
  | succ slashes =>
    have hslashes : ∀ c ∈ List.replicate slashes '/', IsLower c := by
      intro c hc
      rw [List.eq_of_mem_replicate hc]
      exact hslash
    rw [List.replicate_succ, lowerAfter_append_slash, lowerAfter_eq_self hslashes]

end Text
end ChefAccess
