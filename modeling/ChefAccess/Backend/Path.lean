/-!
# Paths

A path is a text of names between slashes.  Read from the left it says where to go: a slash at
the start leads to the top, two dots lead up, and one dot stays.  Empty segments and single
dots do nothing, except that a single dot at the start of a path is a step of its own.

Main definitions:

- {lit}`Path.segments`: the parts of a text between slashes.
- {lit}`Path.steps`: where a path leads, step by step.
- {lit}`Path.join`: a path that is continued by another.
- {lit}`Path.staysInside`: whether a path leads to names only.

Main results:

- Theorem {lit}`Path.segments_append`: the segments of two texts with a slash between them.
-/

namespace ChefAccess
namespace Path

/-! ## Segments -/

/-- The parts of a text between slashes. -/
def segments : List Char → List (List Char)
  | [] => [[]]
  | c :: rest =>
    match segments rest with
    | [] => []
    | first :: others =>
      if c = '/' then [] :: first :: others else (c :: first) :: others

/-- Whether a segment stands for the place where it is. -/
def isIdle (segment : List Char) : Bool :=
  segment.isEmpty || segment == ['.']

/-- Even the empty text has a segment. -/
theorem segments_ne_nil (text : List Char) : segments text ≠ [] := by
  induction text with
  | nil => simp [segments]
  | cons c rest ih =>
    obtain ⟨first, others, hrest⟩ := List.exists_cons_of_ne_nil ih
    rw [segments, hrest]
    dsimp only
    split <;> simp

/-- The segments of two texts with a slash between them are those of either text. -/
theorem segments_append (front back : List Char) :
    segments (front ++ '/' :: back) = segments front ++ segments back := by
  induction front with
  | nil =>
    obtain ⟨first, others, hback⟩ := List.exists_cons_of_ne_nil (segments_ne_nil back)
    simp [segments, hback]
  | cons c rest ih =>
    obtain ⟨first, others, hrest⟩ := List.exists_cons_of_ne_nil (segments_ne_nil rest)
    rw [List.cons_append, segments, segments, ih, hrest]
    dsimp only [List.cons_append]
    split <;> rfl

/-- A text without a slash is one segment. -/
theorem segments_of_noSlash {text : List Char} (hslash : '/' ∉ text) :
    segments text = [text] := by
  induction text with
  | nil => rfl
  | cons c rest ih =>
    rw [List.mem_cons, not_or] at hslash
    rw [segments, ih hslash.2]
    exact if_neg (Ne.symm hslash.1)

/-! ## Steps -/

/-- A step on the way of a path. -/
inductive Step where
  | top
  | here
  | up
  | name (text : String)
  deriving DecidableEq, Repr

/-- Whether a step leads to a name. -/
def Step.isName : Step → Bool
  | .name _ => true
  | .top | .here | .up => false

/-- The step that a segment stands for, unless it does nothing. -/
def stepOf? (segment : List Char) : Option Step :=
  if isIdle segment then none
  else if segment = ['.', '.'] then some .up
  else some (.name (String.ofList segment))

/-- What the start of a path says before its segments count. -/
def startOf (path : List Char) : List Step :=
  if path.head? = some '/' then [.top]
  else if (segments path).head? = some ['.'] then [.here]
  else []

/-- Where a path leads, step by step. -/
def steps (path : String) : List Step :=
  startOf path.toList ++ (segments path.toList).filterMap stepOf?

/-- The place that a path leads to.  Staying does not change it. -/
def place (path : String) : List Step :=
  (steps path).filter (· ≠ .here)

/-- Whether a path asks for a directory by its last segment. -/
def asksForDirectory (path : String) : Bool :=
  (segments path.toList).getLast?.all isIdle

/-- Whether all steps of a path lead to names. -/
def staysInside (path : String) : Bool :=
  (steps path).all Step.isName

/-! ## Joining -/

/-- A path that is continued by another, which counts alone if it starts at the top. -/
def join (base path : String) : String :=
  if path.toList.head? = some '/' then path
  else if base.isEmpty ∨ base.toList.getLast? = some '/' then base ++ path
  else base ++ "/" ++ path

end Path
end ChefAccess
