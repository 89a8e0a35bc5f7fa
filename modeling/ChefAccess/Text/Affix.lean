/-!
# Words at the ends of a text

Texts are taken apart at fixed words: a word at the start, a word at the end, or the
first place where a word occurs.

Main definitions:

- {lit}`after?` and {lit}`before?`: a text without a word at its start or end.
- {lit}`splitAt?`: the parts of a text around the first occurrence of a word.
- {lit}`occursIn`: whether a word occurs in a text.

Main results:

- Theorem {lit}`after?_append`: what follows a word is found.
- Theorem {lit}`eq_append_of_after?`: nothing but the word is taken away.
- Theorem {lit}`occursIn_iff`: a word occurs in a text of which it is a part.
- Theorem {lit}`before?_eq_some_iff`: what stands before a word at the end.
- Theorem {lit}`splitAt?_eq_some_iff`: a text is split where a sign occurs first.
- Theorem {lit}`eq_of_append_cons_eq`: a sign occurs first at one place only.
-/

namespace ChefAccess
namespace Text

variable {α : Type} [DecidableEq α]

/-- What follows a word, if a text starts with it. -/
def after? : List α → List α → Option (List α)
  | [], text => some text
  | a :: word, b :: text => if a = b then after? word text else none
  | _ :: _, [] => none

/-- What stands before a word, if a text ends with it. -/
def before? (word text : List α) : Option (List α) :=
  (after? word.reverse text.reverse).map List.reverse

/-- The parts of a text before and behind the first occurrence of a word. -/
def splitAt? (word : List α) : List α → Option (List α × List α)
  | [] => (after? word []).map ([], ·)
  | a :: text =>
    match after? word (a :: text) with
    | some rest => some ([], rest)
    | none => (splitAt? word text).map fun parts => (a :: parts.1, parts.2)

/-- Whether a word occurs in a text. -/
def occursIn (word text : List α) : Bool :=
  (splitAt? word text).isSome

/-- What follows a word is found. -/
@[simp]
theorem after?_append (word text : List α) : after? word (word ++ text) = some text := by
  induction word with
  | nil => rfl
  | cons a word ih => simpa [after?] using ih

/-- Nothing but the word is taken away. -/
theorem eq_append_of_after? {word text rest : List α} (hafter : after? word text = some rest) :
    text = word ++ rest := by
  induction word generalizing text with
  | nil => simpa [after?] using hafter
  | cons a word ih =>
    cases text with
    | nil => simp [after?] at hafter
    | cons b text =>
      simp only [after?] at hafter
      split at hafter
      · rename_i heq
        rw [heq, ih hafter, List.cons_append]
      · simp at hafter

/-- A word occurs in a text exactly if it is a part of the text. -/
theorem occursIn_iff {word text : List α} : occursIn word text = true ↔ word <:+: text := by
  induction text with
  | nil =>
    rw [occursIn, splitAt?, List.infix_nil, Option.isSome_map, Option.isSome_iff_exists]
    constructor
    · rintro ⟨rest, hafter⟩
      exact (List.append_eq_nil_iff.mp (eq_append_of_after? hafter).symm).1
    · rintro rfl
      exact ⟨[], rfl⟩
  | cons a text ih =>
    rw [List.infix_cons_iff, ← ih, occursIn, occursIn, splitAt?]
    cases hafter : after? word (a :: text) with
    | some rest =>
      have hstart : word <+: a :: text := ⟨rest, (eq_append_of_after? hafter).symm⟩
      simp [hstart]
    | none =>
      have hnone : ¬ word <+: a :: text := by
        rintro ⟨rest, hrest⟩
        rw [← hrest, after?_append] at hafter
        cases hafter
      simp [hnone]

/-- What stands before a word is found, and nothing but the word is taken away. -/
theorem before?_eq_some_iff {word text rest : List α} :
    before? word text = some rest ↔ text = rest ++ word := by
  rw [before?, Option.map_eq_some_iff]
  constructor
  · rintro ⟨back, hback, rfl⟩
    have htext := congrArg List.reverse (eq_append_of_after? hback)
    simpa using htext
  · rintro rfl
    exact ⟨rest.reverse, by simp, by simp⟩

/-- A text is split at a sign where the sign occurs first. -/
theorem splitAt?_eq_some_iff {a : α} {text front back : List α} :
    splitAt? [a] text = some (front, back) ↔ text = front ++ a :: back ∧ a ∉ front := by
  induction text generalizing front with
  | nil => simp [splitAt?, after?]
  | cons b text ih =>
    by_cases hb : a = b
    · subst hb
      cases front with
      | nil => simp [splitAt?, after?]
      | cons c front =>
        simp only [splitAt?, after?, if_true, List.cons_append, List.cons.injEq, List.mem_cons]
        grind
    · cases front with
      | nil => simp [splitAt?, after?, hb, Ne.symm hb]
      | cons c front =>
        simp only [splitAt?, after?, if_neg hb, Option.map_eq_some_iff, Prod.mk.injEq,
          List.cons.injEq, List.cons_append, List.mem_cons, Prod.exists]
        grind

/-- The same sign occurs first at one place only. -/
theorem eq_of_append_cons_eq {a : α} {front front' back back' : List α} (hfront : a ∉ front)
    (hfront' : a ∉ front') (heq : front ++ a :: back = front' ++ a :: back') :
    front = front' ∧ back = back' := by
  have hsplit : splitAt? [a] (front ++ a :: back) = some (front, back) :=
    splitAt?_eq_some_iff.mpr ⟨rfl, hfront⟩
  rw [splitAt?_eq_some_iff.mpr ⟨heq, hfront'⟩] at hsplit
  exact Prod.mk.inj (Option.some.inj hsplit.symm)

end Text
end ChefAccess
