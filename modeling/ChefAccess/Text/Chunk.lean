/-!
# Cutting text at byte offsets

Widths of header values are counted in UTF-8 bytes.  A text can be cut at a byte
offset only if the offset lies between two characters, so the cutting functions
have no answer otherwise.

Main definitions:

- {lit}`cutAt`: the two parts of a text at a byte offset.
- {lit}`chunks`: the text in pieces of one width, the last one shorter.

Main results:

- Theorem {lit}`append_of_cutAt`: a cut loses nothing.
-/

namespace ChefAccess
namespace Text

/-- The number of UTF-8 bytes of a list of characters. -/
def byteSize (l : List Char) : Nat :=
  l.foldr (fun c size => c.utf8Size + size) 0

/-- The two parts of a list of characters at a byte offset between characters. -/
def cutAt : Nat → List Char → Option (List Char × List Char)
  | 0, l => some ([], l)
  | _ + 1, [] => none
  | n + 1, c :: rest =>
    if c.utf8Size ≤ n + 1 then
      (cutAt (n + 1 - c.utf8Size) rest).map fun parts => (c :: parts.1, parts.2)
    else none
  termination_by _ l => l.length

/-- A cut loses nothing. -/
theorem append_of_cutAt {n : Nat} {l head tail : List Char}
    (hcut : cutAt n l = some (head, tail)) : head ++ tail = l := by
  induction l generalizing n head tail with
  | nil =>
    cases n with
    | zero =>
      simp only [cutAt, Option.some.injEq, Prod.mk.injEq] at hcut
      simp [← hcut.1, ← hcut.2]
    | succ n => simp [cutAt] at hcut
  | cons c rest ih =>
    cases n with
    | zero =>
      simp only [cutAt, Option.some.injEq, Prod.mk.injEq] at hcut
      simp [← hcut.1, ← hcut.2]
    | succ n =>
      rw [cutAt] at hcut
      split at hcut
      · obtain ⟨parts, hparts, heq⟩ := Option.map_eq_some_iff.mp hcut
        obtain ⟨rfl, rfl⟩ := Prod.mk.injEq .. ▸ heq
        simp [ih hparts]
      · simp at hcut

/-- Cut off pieces of {lit}`width` bytes while more than one piece is left; each
piece takes one unit of fuel. -/
def chunksWith (width : Nat) : Nat → List Char → Option (List (List Char))
  | _, [] => some []
  | 0, _ :: _ => none
  | fuel + 1, c :: rest =>
    if byteSize (c :: rest) ≤ width then some [c :: rest]
    else
      (cutAt width (c :: rest)).bind fun parts =>
        (chunksWith width fuel parts.2).map (parts.1 :: ·)

/-- A text in pieces of {lit}`width` bytes, of which the last may be shorter.  A
width of zero counts as one, and the empty text has no pieces.  There is no
answer if a cut would fall inside a character. -/
def chunks (width : Nat) (s : String) : Option (List String) :=
  (chunksWith (max width 1) s.toList.length s.toList).map (·.map String.ofList)

end Text
end ChefAccess
