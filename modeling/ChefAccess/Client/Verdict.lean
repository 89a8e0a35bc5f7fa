import ChefAccess.Text.Blank
import ChefAccess.Text.LetterCase

/-!
# Verdicts

Whether a reply is a success is decided by its status and its content type alone.

Main definitions:

- {lit}`Verdict`: the words for a reply, and whether it is a failure.
- {lit}`Verdict.of`: the verdict on a status and a content type.

Main results:

- Theorem {lit}`Verdict.failed_of_iff`: the two statuses of success, with the type of JSON,
  are the only success.
-/

namespace ChefAccess

/-- The words for a reply, and whether it is a failure. -/
structure Verdict where
  description : String
  failed : Bool
  deriving DecidableEq, Repr

namespace Verdict

/-- The content type of JSON. -/
def jsonType : String :=
  "application/json"

/-- Whether a content type is that of JSON, in any letter case and without parameters. -/
def isJson (contentType : Option String) : Bool :=
  match contentType with
  | none => false
  | some value =>
    (Text.trimChars value.toList).map Text.lowerAscii == jsonType.toList

/-- The verdict on a status. -/
def ofStatus : Nat → Verdict
  | 200 => ⟨"ok", false⟩
  | 201 => ⟨"created", false⟩
  | 400 => ⟨"contents not formatted correctly", true⟩
  | 401 => ⟨"not authorized", true⟩
  | 403 => ⟨"forbidden", true⟩
  | 404 => ⟨"not found", true⟩
  | 409 => ⟨"conflict, object already exists", true⟩
  | status => ⟨"unexpected status code: " ++ toString status, true⟩

/-- The verdict on a status and a content type. -/
def of (status : Nat) (contentType : Option String) : Verdict :=
  let verdict := ofStatus status
  if !verdict.failed && !isJson contentType then
    ⟨"unexpected response content type", true⟩
  else verdict

/-- The two statuses of success are the only ones. -/
theorem failed_ofStatus_iff (status : Nat) :
    (ofStatus status).failed = false ↔ status = 200 ∨ status = 201 := by
  unfold ofStatus
  split <;> simp_all

/-- The two statuses of success, with the type of JSON, are the only success. -/
theorem failed_of_iff (status : Nat) (contentType : Option String) :
    (of status contentType).failed = false ↔
      (status = 200 ∨ status = 201) ∧ isJson contentType = true := by
  rw [← failed_ofStatus_iff]
  unfold of
  cases hstatus : (ofStatus status).failed <;> cases hjson : isJson contentType <;>
    simp [hstatus]

end Verdict
end ChefAccess
