/-!
# White space and trimming

Configured values arrive with stray white space around them.  This module fixes
which characters count as white space (the 25 code points of the Unicode
property), when a text is blank, and how text is trimmed at either end.

Main definitions:

- {lit}`isSpace`: the white space characters.
- {lit}`trim` and {lit}`isBlank`: text without its outer white space, and the
  test that nothing else is there.
- {lit}`trimStartOf` and {lit}`trimEndOf`: removal of one repeated character.

Main results:

- Theorem {lit}`mem_dropTrailing`: trimming only ever removes characters.
- Theorem {lit}`isBlank_iff_trim_eq`: a text is blank exactly when trimming
  leaves nothing of it.
-/

namespace ChefAccess
namespace Text

/-! ## The white space characters -/

/-- The characters that count as white space. -/
def isSpace (c : Char) : Bool :=
  let n := c.toNat
  (9 ≤ n && n ≤ 13) || n == 0x20 || n == 0x85 || n == 0xA0 || n == 0x1680 ||
    (0x2000 ≤ n && n ≤ 0x200A) || n == 0x2028 || n == 0x2029 || n == 0x202F ||
    n == 0x205F || n == 0x3000

/-! ## Trimming lists of characters -/

/-- Drop the longest run of elements satisfying {lit}`p` at the end. -/
def dropTrailing {α : Type} (p : α → Bool) (l : List α) : List α :=
  (l.reverse.dropWhile p).reverse

/-- Dropping at the end keeps no element that was not there. -/
theorem mem_dropTrailing {α : Type} {p : α → Bool} {l : List α} {a : α}
    (hmem : a ∈ dropTrailing p l) : a ∈ l := by
  have hdrop : a ∈ l.reverse.dropWhile p := by simpa [dropTrailing] using hmem
  exact List.mem_reverse.mp ((List.dropWhile_sublist p).subset hdrop)

@[simp]
theorem dropTrailing_nil {α : Type} (p : α → Bool) : dropTrailing p [] = [] :=
  rfl

/-- A list without its leading and trailing white space. -/
def trimChars (l : List Char) : List Char :=
  dropTrailing isSpace (l.dropWhile isSpace)

/-! ## Trimming text -/

/-- A text without its outer white space. -/
def trim (s : String) : String :=
  String.ofList (trimChars s.toList)

/-- A text is blank when it is empty or holds white space alone. -/
def isBlank (s : String) : Bool :=
  (trimChars s.toList).isEmpty

/-- A text without the leading copies of one character. -/
def trimStartOf (c : Char) (s : String) : String :=
  String.ofList (s.toList.dropWhile (· == c))

/-- A text without the trailing copies of one character. -/
def trimEndOf (c : Char) (s : String) : String :=
  String.ofList (dropTrailing (· == c) s.toList)

/-- A text is blank exactly when trimming leaves nothing of it. -/
theorem isBlank_iff_trim_eq (s : String) : isBlank s = true ↔ trim s = "" := by
  unfold isBlank trim
  rw [List.isEmpty_iff, ← String.ofList_nil, String.ofList_inj]

end Text
end ChefAccess
