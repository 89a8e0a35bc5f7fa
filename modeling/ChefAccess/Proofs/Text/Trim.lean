import ChefAccess.Text.Blank
import Mathlib.Data.List.DropRight

/-!
# Outer white space

Trimming is described from the outside: a text is its trimmed form with white space on
either side, and white space on either side of a text that neither starts nor ends with it
is trimmed away.

Main definitions:

- {lit}`Text.Trimmed`: a text without outer white space.

Main results:

- Theorem {lit}`Text.exists_margins`: only white space is trimmed away.
- Theorem {lit}`Text.trimmed_trim`: a trimmed text has no outer white space.
- Theorem {lit}`Text.trimChars_around`: all outer white space is trimmed away.
- Theorem {lit}`Text.isBlank_iff_forall`: a blank text has no other characters.
- Theorem {lit}`Text.exists_copies`: what is dropped in front of a text.
- Theorem {lit}`Text.dropTrailing_dropWhile`: which end is trimmed first does not matter.
-/

namespace ChefAccess
namespace Text

variable {α : Type} {p : α → Bool}

/-! ## Either end -/

/-- Dropping at the end is known to the library. -/
theorem dropTrailing_eq_rdropWhile (l : List α) : dropTrailing p l = l.rdropWhile p :=
  rfl

/-- A run at the end is dropped together with what stands before it. -/
theorem dropTrailing_append_of_all {back : List α} (front : List α)
    (hback : ∀ a ∈ back, p a = true) : dropTrailing p (front ++ back) = dropTrailing p front := by
  have hreverse : ∀ a ∈ back.reverse, p a = true := fun a ha =>
    hback a (List.mem_reverse.mp ha)
  rw [dropTrailing, List.reverse_append, List.dropWhile_append_of_pos hreverse, dropTrailing]

/-- A run at the end is all that is dropped, if something else stands before it. -/
theorem dropTrailing_append_of_exists {back : List α} (front : List α)
    (hback : ∃ a ∈ back, p a = false) :
    dropTrailing p (front ++ back) = front ++ dropTrailing p back := by
  obtain ⟨a, ha, hkept⟩ := hback
  have hleft : back.reverse.dropWhile p ≠ [] := fun hnil => by
    rw [List.dropWhile_eq_nil_iff.mp hnil a (List.mem_reverse.mpr ha)] at hkept
    cases hkept
  rw [dropTrailing, List.reverse_append, List.dropWhile_append,
    if_neg (by simpa using hleft), List.reverse_append, List.reverse_reverse, dropTrailing]

/-- A run in front is all that is dropped, if something else follows it. -/
theorem dropWhile_append_of_exists {front : List α} (back : List α)
    (hfront : ∃ a ∈ front, p a = false) :
    (front ++ back).dropWhile p = front.dropWhile p ++ back := by
  obtain ⟨a, ha, hkept⟩ := hfront
  have hleft : front.dropWhile p ≠ [] := fun hnil => by
    rw [List.dropWhile_eq_nil_iff.mp hnil a ha] at hkept
    cases hkept
  rw [List.dropWhile_append, if_neg (by simpa using hleft)]

/-- An element that is not dropped is left when the run in front is. -/
theorem exists_mem_dropWhile {l : List α} (hl : ∃ a ∈ l, p a = false) :
    ∃ a ∈ l.dropWhile p, p a = false := by
  obtain ⟨a, ha, hkept⟩ := hl
  rw [← List.takeWhile_append_dropWhile (p := p) (l := l)] at ha
  rcases List.mem_append.mp ha with hrun | hrest
  · rw [List.mem_takeWhile_imp hrun] at hkept
    cases hkept
  · exact ⟨a, hrest, hkept⟩

/-- An element that is not dropped is left when the run at the end is. -/
theorem exists_mem_dropTrailing {l : List α} (hl : ∃ a ∈ l, p a = false) :
    ∃ a ∈ dropTrailing p l, p a = false := by
  have hreverse : ∃ a ∈ l.reverse, p a = false := by simpa using hl
  simpa [dropTrailing] using exists_mem_dropWhile hreverse

/-- Nothing is left of a list that is one run. -/
theorem dropTrailing_eq_nil_iff {l : List α} :
    dropTrailing p l = [] ↔ ∀ a ∈ l, p a = true :=
  List.rdropWhile_eq_nil_iff

/-- Dropping at the end leaves no such element there. -/
theorem getLast?_dropTrailing {l : List α} {a : α} (ha : (dropTrailing p l).getLast? = some a) :
    p a = false := by
  obtain ⟨hne, rfl⟩ := List.mem_getLast?_eq_getLast ha
  exact Bool.eq_false_iff.mpr (List.rdropWhile_last_not p l hne)

/-- Dropping at the end leaves an element that stands before it, if that is not dropped itself. -/
theorem dropTrailing_cons_of_neg {a : α} (rest : List α) (ha : p a = false) :
    dropTrailing p (a :: rest) = a :: dropTrailing p rest := by
  rw [dropTrailing, List.reverse_cons, List.dropWhile_append, dropTrailing]
  split
  case isTrue hnone => simp_all
  case isFalse => simp

/-- What is dropped at one end is not a matter of what is dropped at the other. -/
theorem dropTrailing_dropWhile (p : α → Bool) (l : List α) :
    dropTrailing p (l.dropWhile p) = (dropTrailing p l).dropWhile p := by
  induction l with
  | nil => rfl
  | cons a rest ih =>
    cases ha : p a with
    | false =>
      have hkept : ¬ p a = true := by simp [ha]
      rw [List.dropWhile_cons_of_neg hkept, dropTrailing_cons_of_neg rest ha,
        List.dropWhile_cons_of_neg hkept]
    | true =>
      rw [List.dropWhile_cons_of_pos ha, ih]
      by_cases hrun : ∀ b ∈ rest, p b = true
      · have hwhole : ∀ b ∈ a :: rest, p b = true := List.forall_mem_cons.mpr ⟨ha, hrun⟩
        rw [dropTrailing_eq_nil_iff.mpr hrun, dropTrailing_eq_nil_iff.mpr hwhole]
      · -- something behind the first element is kept, so the run goes on from it
        have hrest : ∃ b ∈ rest, p b = false := by simpa using hrun
        have hwhole := dropTrailing_append_of_exists [a] hrest
        rw [List.singleton_append, List.singleton_append] at hwhole
        rw [hwhole, List.dropWhile_cons_of_pos ha]

/-! ## Both ends -/

/-- Trimming only ever removes characters. -/
theorem mem_of_mem_trim {s : String} {c : Char} (hc : c ∈ (trim s).toList) : c ∈ s.toList := by
  rw [trim, String.toList_ofList] at hc
  exact (List.dropWhile_sublist isSpace).subset (mem_dropTrailing hc)

/-- Only white space is trimmed away. -/
theorem exists_margins (text : List Char) :
    ∃ front back, text = front ++ trimChars text ++ back ∧
      (∀ c ∈ front, isSpace c = true) ∧ ∀ c ∈ back, isSpace c = true := by
  refine ⟨text.takeWhile isSpace, (text.dropWhile isSpace).rtakeWhile isSpace, ?_,
    fun c hc => List.mem_takeWhile_imp hc, fun c hc => List.mem_rtakeWhile_imp hc⟩
  rw [List.append_assoc, trimChars, dropTrailing_eq_rdropWhile,
    List.rdropWhile_append_rtakeWhile, List.takeWhile_append_dropWhile]

/-- A text without white space at either end. -/
structure Trimmed (text : List Char) : Prop where
  first : ∀ c, text.head? = some c → isSpace c = false
  last : ∀ c, text.getLast? = some c → isSpace c = false

namespace Trimmed

variable {text front back : List Char}

/-- There is no white space at the ends if there is none at all. -/
theorem of_forall (hnone : ∀ c ∈ text, isSpace c = false) : Trimmed text :=
  ⟨fun c hc => hnone c (List.mem_of_head? hc), fun c hc => hnone c (List.mem_of_getLast? hc)⟩

/-- Texts without outer white space make up another. -/
theorem append (hfront : Trimmed front) (hback : Trimmed back) : Trimmed (front ++ back) := by
  constructor
  case first =>
    intro c hc
    rw [List.head?_append, Option.or_eq_some_iff] at hc
    rcases hc with hc | ⟨-, hc⟩
    · exact hfront.first c hc
    · exact hback.first c hc
  case last =>
    intro c hc
    rw [List.getLast?_append, Option.or_eq_some_iff] at hc
    rcases hc with hc | ⟨-, hc⟩
    · exact hback.last c hc
    · exact hfront.last c hc

end Trimmed

/-- Trimming leaves no white space at either end. -/
theorem trimmed_trim (s : String) : Trimmed (trim s).toList := by
  rw [trim, String.toList_ofList, trimChars, dropTrailing_eq_rdropWhile]
  constructor
  case first =>
    intro c hc
    -- what is left after trimming the end starts like the text before
    obtain ⟨back, hback⟩ := List.rdropWhile_prefix isSpace (l := s.toList.dropWhile isSpace)
    have hhead : (s.toList.dropWhile isSpace).head? = some c := by
      rw [← hback, List.head?_append, hc, Option.some_or]
    have hnot := List.head?_dropWhile_not isSpace s.toList
    rw [hhead] at hnot
    exact hnot
  case last =>
    intro c hc
    exact getLast?_dropTrailing hc

/-- All white space around a text that neither starts nor ends with it is trimmed away. -/
theorem trimChars_around {front back core : List Char}
    (hfront : ∀ c ∈ front, isSpace c = true) (hback : ∀ c ∈ back, isSpace c = true)
    (hfirst : ∀ c, core.head? = some c → isSpace c = false)
    (hlast : ∀ c, core.getLast? = some c → isSpace c = false) :
    trimChars (front ++ core ++ back) = core := by
  rw [trimChars, List.append_assoc, List.dropWhile_append_of_pos hfront]
  cases core with
  | nil =>
    have hnone : back.dropWhile isSpace = [] := List.dropWhile_eq_nil_iff.mpr hback
    rw [List.nil_append, hnone, dropTrailing_nil]
  | cons c rest =>
    have hc : ¬ isSpace c = true := by simp [hfirst c rfl]
    rw [List.cons_append, List.dropWhile_cons_of_neg hc, ← List.cons_append,
      dropTrailing_append_of_all _ hback]
    obtain ⟨start, last, hends⟩ : ∃ start last, c :: rest = start ++ [last] :=
      ⟨(c :: rest).dropLast, (c :: rest).getLast (List.cons_ne_nil c rest),
        (List.dropLast_append_getLast (List.cons_ne_nil c rest)).symm⟩
    have hspace : ¬ isSpace last = true := by simp [hlast last (by simp [hends])]
    rw [hends, dropTrailing_eq_rdropWhile, List.rdropWhile_concat_neg _ _ _ hspace]

/-- All white space around a text without white space is trimmed away. -/
theorem trimChars_margins {front back core : List Char}
    (hfront : ∀ c ∈ front, isSpace c = true) (hback : ∀ c ∈ back, isSpace c = true)
    (hcore : ∀ c ∈ core, isSpace c = false) : trimChars (front ++ core ++ back) = core :=
  trimChars_around hfront hback (fun c hc => hcore c (List.mem_of_head? hc))
    fun c hc => hcore c (List.mem_of_getLast? hc)

/-- A text that neither starts nor ends with white space stays as it is. -/
theorem trim_eq_self {s : String} (hfirst : ∀ c, s.toList.head? = some c → isSpace c = false)
    (hlast : ∀ c, s.toList.getLast? = some c → isSpace c = false) : trim s = s := by
  have hcore := @trimChars_around [] [] s.toList (by simp) (by simp) hfirst hlast
  rw [List.nil_append, List.append_nil] at hcore
  rw [trim, hcore, String.ofList_toList]

/-- A trimmed text stays as it is. -/
theorem Trimmed.trim_eq {s : String} (htrimmed : Trimmed s.toList) : trim s = s :=
  trim_eq_self htrimmed.first htrimmed.last

/-- The texts that stay as they are trimmed are those without outer white space. -/
theorem trimmed_iff {s : String} : Trimmed s.toList ↔ trim s = s :=
  ⟨Trimmed.trim_eq, fun htrim => htrim ▸ trimmed_trim s⟩

/-- A text with a character that is no white space is not blank. -/
theorem isBlank_of_mem {s : String} {c : Char} (hc : c ∈ s.toList)
    (hspace : isSpace c = false) : isBlank s = false := by
  rw [isBlank, List.isEmpty_eq_false_iff]
  intro hnil
  obtain ⟨front, back, htext, hfront, hback⟩ := exists_margins s.toList
  rw [htext, hnil, List.append_nil] at hc
  rcases List.mem_append.mp hc with hleft | hright
  · simp [hfront c hleft] at hspace
  · simp [hback c hright] at hspace

/-- A text is blank exactly if all its characters are white space. -/
theorem isBlank_iff_forall {s : String} :
    isBlank s = true ↔ ∀ c ∈ s.toList, isSpace c = true := by
  constructor
  · intro hblank c hc
    refine Bool.not_eq_false _ ▸ fun hspace => ?_
    rw [isBlank_of_mem hc hspace] at hblank
    cases hblank
  · intro hspace
    have hcore := @trimChars_margins s.toList [] [] hspace (by simp) (by simp)
    rw [List.append_nil, List.append_nil] at hcore
    rw [isBlank, hcore, List.isEmpty_nil]

/-! ## One repeated character -/

/-- A text starts with the copies of a character that are dropped, and goes on with another. -/
theorem exists_copies (c : Char) (s : String) :
    ∃ count, s.toList = List.replicate count c ++ (trimStartOf c s).toList ∧
      (trimStartOf c s).toList.head? ≠ some c := by
  rw [trimStartOf, String.toList_ofList]
  refine ⟨(s.toList.takeWhile (· == c)).length, ?_, fun hhead => ?_⟩
  · have hcopies : s.toList.takeWhile (· == c) =
        List.replicate (s.toList.takeWhile (· == c)).length c := by
      refine List.eq_replicate_length.mpr fun d hd => ?_
      have hsame := List.mem_takeWhile_imp hd
      exact beq_iff_eq.mp hsame
    rw [← hcopies, List.takeWhile_append_dropWhile]
  · have hnot := List.head?_dropWhile_not (· == c) s.toList
    rw [hhead] at hnot
    simp at hnot

/-- A text that does not start with a character stays as it is. -/
theorem trimStartOf_eq_self {c : Char} {s : String} (hhead : s.toList.head? ≠ some c) :
    trimStartOf c s = s := by
  have hkept : s.toList.dropWhile (· == c) = s.toList := by
    cases hs : s.toList with
    | nil => rfl
    | cons d rest =>
      rw [hs, List.head?_cons, ne_eq, Option.some.injEq] at hhead
      exact List.dropWhile_cons_of_neg (by simpa using hhead)
  rw [trimStartOf, hkept, String.ofList_toList]

/-- Copies in front of a text are dropped with those that it starts with. -/
theorem trimStartOf_copies (c : Char) (count : Nat) (s : String) :
    trimStartOf c (String.ofList (List.replicate count c) ++ s) = trimStartOf c s := by
  have hcopies : ∀ d ∈ List.replicate count c, (d == c) = true := fun d hd =>
    beq_iff_eq.mpr (List.eq_of_mem_replicate hd)
  rw [trimStartOf, String.toList_append, String.toList_ofList,
    List.dropWhile_append_of_pos hcopies, trimStartOf]

end Text
end ChefAccess
