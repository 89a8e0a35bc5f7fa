import ChefAccess.Proofs.Dict
import ChefAccess.Proofs.Json.ReadBack

/-!
# Values up to the order of their members

The members of an object have no order of their own, so two values are the same when one
comes from the other by exchanging neighbouring members anywhere inside it.  The normal
form puts the members in the order of their keys; it is the same for all values that are
the same up to this order, and it is itself one of them.

Main definitions:

- {lit}`Value.Reordered`: equality up to the order of the members of objects.

Main results:

- Theorem {lit}`Value.Reordered.normalize_eq`: the normal form does not depend on the order.
- Theorem {lit}`Value.Fits.reordered_normalize`: the normal form is the value in another
  order.
- Theorem {lit}`Value.Fits.value_document`: from the tree of a value its normal form is
  taken.
- Theorem {lit}`Value.Fits.decodeBytes_render`: from the bytes of a value its normal form
  is taken.
-/

namespace ChefAccess
namespace Json
namespace Value

/-! ## Parts of arrays and objects -/

/-- The normal forms of the items of an array. -/
theorem normalizeItems_eq_map (items : List Value) :
    normalizeItems items = items.map normalize := by
  induction items with
  | nil => simp [normalizeItems]
  | cons v items ih => simp [normalizeItems, ih]

/-- The normal forms of the members of an object. -/
theorem normalizeMembers_eq_map (members : List (String × Value)) :
    normalizeMembers members = members.map fun member => (member.1, member.2.normalize) := by
  induction members with
  | nil => simp [normalizeMembers]
  | cons member members ih => simp [normalizeMembers, ih]

/-- The trees of the items of an array. -/
theorem documents_eq_map (items : List Value) : documents items = items.map document := by
  induction items with
  | nil => simp [documents]
  | cons v items ih => simp [documents, ih]

/-- The trees of the members of an object. -/
theorem memberDocuments_eq_map (members : List (String × Value)) :
    memberDocuments members =
      members.map fun member => (member.1.toList.map charPiece, member.2.document) := by
  induction members with
  | nil => simp [memberDocuments]
  | cons member members ih => simp [memberDocuments, ih]

/-- Members in another order have the same keys in another order. -/
theorem keys_perm {members members' : List (String × Value)} (hperm : members.Perm members') :
    (keys members).Perm (keys members') :=
  hperm.map _

/-! ## Equality up to order -/

/-- Equality up to the order of the members of objects: neighbours with different keys
change places, here or in any part of the value. -/
inductive Reordered : Value → Value → Prop where
  | refl (v : Value) : Reordered v v
  | trans {u v w : Value} (hfirst : Reordered u v) (hsecond : Reordered v w) : Reordered u w
  | item (before after : List Value) {v w : Value} (hitem : Reordered v w) :
      Reordered (.array (before ++ v :: after)) (.array (before ++ w :: after))
  | member (before after : List (String × Value)) (key : String) {v w : Value}
      (hmember : Reordered v w) :
      Reordered (.object (before ++ (key, v) :: after)) (.object (before ++ (key, w) :: after))
  | swap (before after : List (String × Value)) {p q : String × Value} (hkeys : p.1 ≠ q.1) :
      Reordered (.object (before ++ p :: q :: after)) (.object (before ++ q :: p :: after))

namespace Reordered

/-- The order may be changed back. -/
theorem symm {v w : Value} (hsame : Reordered v w) : Reordered w v := by
  induction hsame with
  | refl v => exact .refl v
  | trans _ _ ihfirst ihsecond => exact .trans ihsecond ihfirst
  | item before after _ ih => exact .item before after ih
  | member before after key _ ih => exact .member before after key ih
  | swap before after hkeys => exact .swap before after hkeys.symm

/-- The normal form does not depend on the order. -/
theorem normalize_eq {v w : Value} (hsame : Reordered v w) : v.normalize = w.normalize := by
  induction hsame with
  | refl v => rfl
  | trans _ _ ihfirst ihsecond => exact ihfirst.trans ihsecond
  | item before after _ ih => simp [normalize, normalizeItems_eq_map, ih]
  | member before after key _ ih => simp [normalize, normalizeMembers_eq_map, ih]
  | @swap before after p q hkeys =>
    simp only [normalize, normalizeMembers_eq_map, List.map_append, List.map_cons, ofMembers]
    rw [Dict.ofList_swap]
    exact hkeys

/-- A value that can be sent can be sent in another order. -/
theorem fits {levels : Nat} {v w : Value} (hsame : Reordered v w) (hfits : v.Fits levels) :
    w.Fits levels := by
  induction hsame generalizing levels with
  | refl v => exact hfits
  | trans _ _ ihfirst ihsecond => exact ihsecond (ihfirst hfits)
  | item before after _ ih =>
    cases hfits with
    | array hitems =>
      refine .array fun u hu => ?_
      simp only [List.mem_append, List.mem_cons] at hu
      rcases hu with hbefore | rfl | hafter
      · exact hitems u (by simp [hbefore])
      · exact ih (hitems _ (by simp))
      · exact hitems u (by simp [hafter])
  | member before after key _ ih =>
    cases hfits with
    | object hkeys hmembers =>
      refine .object (by simpa [keys] using hkeys) fun u hu => ?_
      simp only [List.mem_append, List.mem_cons] at hu
      rcases hu with hbefore | rfl | hafter
      · exact hmembers u (by simp [hbefore])
      · exact ih (hmembers (key, _) (by simp))
      · exact hmembers u (by simp [hafter])
  | @swap before after p q _ =>
    cases hfits with
    | object hkeys hmembers =>
      have hperm : (before ++ p :: q :: after).Perm (before ++ q :: p :: after) :=
        (List.Perm.swap q p after).append_left before
      exact .object ((keys_perm hperm).nodup_iff.mp hkeys)
        fun u hu => hmembers u (hperm.mem_iff.mpr hu)

/-- The members of an object may be put in any order, if their keys are different. -/
theorem of_perm {members members' : List (String × Value)} (hperm : members.Perm members')
    (hkeys : (keys members).Nodup) (before : List (String × Value)) :
    Reordered (.object (before ++ members)) (.object (before ++ members')) := by
  induction hperm generalizing before with
  | nil => exact .refl _
  | cons member _ ih =>
    have htail := ih (List.Nodup.of_cons hkeys) (before ++ [member])
    simpa using htail
  | swap p q l =>
    refine .swap before l fun heq => ?_
    simp [keys, heq] at hkeys
  | trans hfirst _ ihfirst ihsecond =>
    exact .trans (ihfirst hkeys before)
      (ihsecond ((keys_perm hfirst).nodup_iff.mp hkeys) before)

/-- An object may be written with its members in the order of their keys. -/
theorem ofMembers {members : List (String × Value)} (hkeys : (keys members).Nodup) :
    Reordered (.object members) (.ofMembers members) :=
  of_perm (Dict.entries_ofList_perm hkeys).symm hkeys []

/-- Each item of an array may be reordered. -/
theorem array_map {f : Value → Value} {items : List Value}
    (hitems : ∀ v ∈ items, Reordered v (f v)) (before : List Value) :
    Reordered (.array (before ++ items)) (.array (before ++ items.map f)) := by
  induction items generalizing before with
  | nil => exact .refl _
  | cons v items ih =>
    have hrest := ih (fun w hw => hitems w (by simp [hw])) (before ++ [f v])
    simp only [List.append_assoc, List.singleton_append] at hrest
    exact .trans (.item before items (hitems v (by simp))) hrest

/-- The value of each member of an object may be reordered. -/
theorem object_map {f : Value → Value} {members : List (String × Value)}
    (hmembers : ∀ member ∈ members, Reordered member.2 (f member.2))
    (before : List (String × Value)) :
    Reordered (.object (before ++ members))
      (.object (before ++ members.map fun member => (member.1, f member.2))) := by
  induction members generalizing before with
  | nil => exact .refl _
  | cons member members ih =>
    have hrest := ih (fun m hm => hmembers m (by simp [hm])) (before ++ [(member.1, f member.2)])
    simp only [List.append_assoc, List.singleton_append] at hrest
    exact .trans (.member before members member.1 (hmembers member (by simp))) hrest

end Reordered

/-! ## The normal form -/

/-- The normal form is the value in another order. -/
theorem Fits.reordered_normalize {levels : Nat} {v : Value} (hfits : v.Fits levels) :
    Reordered v v.normalize := by
  induction hfits with
  | null => exact .refl _
  | bool => exact .refl _
  | int => exact .refl _
  | string => exact .refl _
  | array _ ih =>
    rw [normalize, normalizeItems_eq_map]
    exact .array_map ih []
  | @object _ members hkeys _ ih =>
    rw [normalize, normalizeMembers_eq_map]
    have hsame := Reordered.object_map ih []
    exact .trans hsame (.ofMembers (by simpa [keys, Function.comp_def] using hkeys))

/-- The normal form can be sent, if the value can be. -/
theorem Fits.normalize {levels : Nat} {v : Value} (hfits : v.Fits levels) :
    v.normalize.Fits levels :=
  hfits.reordered_normalize.fits hfits

/-- The normal form is its own. -/
theorem Fits.normalize_normalize {levels : Nat} {v : Value} (hfits : v.Fits levels) :
    v.normalize.normalize = v.normalize :=
  hfits.reordered_normalize.normalize_eq.symm

/-! ## Decoding -/

/-- From the trees of items their normal forms are taken, if they are from each. -/
theorem valuesOf_documents {levels : Nat} {items : List Value}
    (hitems : ∀ v ∈ items, Decoder.value levels v.document = some v.normalize) :
    Decoder.valuesOf levels (documents items) = some (normalizeItems items) := by
  induction items with
  | nil => simp [documents, Decoder.valuesOf, normalizeItems]
  | cons v items ih =>
    have hrest := ih fun w hw => hitems w (by simp [hw])
    simp [documents, Decoder.valuesOf, normalizeItems, hitems v (by simp), hrest]

/-- From the trees of members their normal forms are taken, if they are from each. -/
theorem membersOf_memberDocuments {levels : Nat} {members : List (String × Value)}
    (hmembers : ∀ member ∈ members,
      Decoder.value levels member.2.document = some member.2.normalize) :
    Decoder.membersOf levels (memberDocuments members) = some (normalizeMembers members) := by
  induction members with
  | nil => simp [memberDocuments, Decoder.membersOf, normalizeMembers]
  | cons member members ih =>
    have hrest := ih fun m hm => hmembers m (by simp [hm])
    simp [memberDocuments, Decoder.membersOf, normalizeMembers, text?_charPieces,
      hmembers member (by simp), hrest]

/-- From the tree of a value its normal form is taken. -/
theorem Fits.value_document {levels : Nat} {v : Value} (hfits : v.Fits levels) :
    Decoder.value levels v.document = some v.normalize := by
  induction hfits with
  | null => simp [document, Decoder.value, Value.normalize]
  | bool => simp [document, Decoder.value, Value.normalize]
  | int _ hlow hhigh =>
    simp [document, Decoder.value, Value.normalize, Number.numeral,
      Numeral.value?_ofInt hlow hhigh]
  | string => simp [document, Decoder.value, Value.normalize, text?_charPieces]
  | array _ ih => simp [document, Decoder.value, Value.normalize, valuesOf_documents ih]
  | object _ _ ih =>
    simp [document, Decoder.value, Value.normalize, membersOf_memberDocuments ih]

/-- From the bytes of a value its normal form is taken. -/
theorem Fits.decodeBytes_render {v : Value} (hfits : v.Fits Decoder.maxLevels) :
    Decoder.decodeBytes Decoder.value (Text.Utf8.encode v.render) = some v.normalize := by
  simp [Decoder.decodeBytes, hfits.readBytes_render, hfits.value_document]

end Value
end Json
end ChefAccess
