import ChefAccess.Text.Chunk

/-!
# Redacted text

Secrets reach a log only in redacted form, which shows at most their first and
last three bytes and never their length.

Main definitions:

- {lit}`redacted`: the form of a secret that may be shown.

Main results:

- Theorem {lit}`redacted_of_short`: a short secret shows nothing at all.
-/

namespace ChefAccess
namespace Text

/-- The form of a secret that may be shown.  The empty text is named as such, a
text of fewer than twelve bytes shows nothing, and a longer one shows its first
and its last three bytes, if characters begin and end there. -/
def redacted (s : String) : String :=
  let size := byteSize s.toList
  if size = 0 then "EMPTY"
  else if size < 12 then "***"
  else
    match cutAt 3 s.toList, cutAt (size - 3) s.toList with
    | some (head, _), some (_, tail) => String.ofList (head ++ ['*', '*', '*'] ++ tail)
    | _, _ => "***"

/-- A short secret shows nothing at all. -/
theorem redacted_of_short (s : String) (hpos : 0 < byteSize s.toList)
    (hshort : byteSize s.toList < 12) : redacted s = "***" := by
  simp [redacted, Nat.ne_of_gt hpos, hshort]

end Text
end ChefAccess
