import ChefAccess.Server.Resource
import ChefAccess.Proofs.Text.Trim

/-!
# Paths that are put together

A collection and the name of an item are joined by one slash, whatever slashes the collection
ends in and the name starts with.  A name between two joints loses its slashes at both ends, and
a name of slashes alone is passed over, so it does not matter which of two joints is made first.
Two slashes stand next to each other in a path only where they do so in one of its parts.

Main definitions:

- {lit}`Server.Resource.slashes`: a text of slashes.
- {lit}`Server.Resource.beforeJoint` and {lit}`Server.Resource.behindJoint`: what is left of the
  parts of a path.
- {lit}`Server.Resource.Names`: a name with something besides slashes.

Main results:

- Theorem {lit}`Server.Resource.item_slashes`: slashes at a joint do not matter.
- Theorem {lit}`Server.Resource.item_assoc`: it does not matter which joint is made first.
- Theorem {lit}`Server.Resource.toList_item_eq_iff`: where two slashes stand next to each other.
- Theorem {lit}`Server.Resource.item_law`: how paths are put together.
-/

namespace ChefAccess
namespace Server
namespace Resource

variable {a b : String}

/-! ## One joint -/

/-- A text of slashes. -/
def slashes (count : Nat) : String :=
  String.ofList (List.replicate count '/')

/-- What is left of a text before a joint: all but the slashes at its end. -/
def beforeJoint (text : String) : List Char :=
  Text.dropTrailing (· == '/') text.toList

/-- What is left of a text behind a joint: all but the slashes ahead of it. -/
def behindJoint (text : String) : List Char :=
  text.toList.dropWhile (· == '/')

/-- A path has what is left of its parts, and the slash of their joint. -/
theorem toList_item (a b : String) :
    (item a b).toList = beforeJoint a ++ '/' :: behindJoint b := by
  simp [item, Text.trimEndOf, Text.trimStartOf, beforeJoint, behindJoint]

/-- A text of slashes has no other character. -/
theorem eq_slash_of_mem_slashes {count : Nat} {d : Char} (hd : d ∈ (slashes count).toList) :
    (d == '/') = true := by
  rw [slashes, String.toList_ofList] at hd
  exact beq_iff_eq.mpr (List.eq_of_mem_replicate hd)

/-- Slashes behind a text are dropped with those that it ends in. -/
theorem beforeJoint_slashes (a : String) (count : Nat) :
    beforeJoint (a ++ slashes count) = beforeJoint a := by
  rw [beforeJoint, String.toList_append,
    Text.dropTrailing_append_of_all _ fun _ => eq_slash_of_mem_slashes, beforeJoint]

/-- Slashes ahead of a text are dropped with those that it starts with. -/
theorem behindJoint_slashes (count : Nat) (b : String) :
    behindJoint (slashes count ++ b) = behindJoint b := by
  rw [behindJoint, String.toList_append,
    List.dropWhile_append_of_pos fun _ => eq_slash_of_mem_slashes, behindJoint]

/-- Slashes at a joint do not matter. -/
theorem item_slashes (a b : String) (before behind : Nat) :
    item (a ++ slashes before) (slashes behind ++ b) = item a b := by
  rw [← String.toList_inj, toList_item, toList_item, beforeJoint_slashes, behindJoint_slashes]

/-! ## Two joints -/

/-- A name with something besides slashes. -/
def Names (name : String) : Prop :=
  ∃ d ∈ name.toList, (d == '/') = false

/-- What is left of a name between two joints. -/
def betweenJoints (name : String) : List Char :=
  (beforeJoint name).dropWhile (· == '/')

/-- A name that is put behind a joint loses the slashes at its end before the next. -/
theorem beforeJoint_item (a : String) (hnames : Names b) :
    beforeJoint (item a b) = beforeJoint a ++ '/' :: betweenJoints b := by
  have hbehind : ∃ d ∈ behindJoint b, (d == '/') = false := Text.exists_mem_dropWhile hnames
  have hjoint : beforeJoint a ++ '/' :: behindJoint b = beforeJoint a ++ ['/'] ++ behindJoint b :=
    List.append_cons ..
  rw [beforeJoint, toList_item, hjoint, Text.dropTrailing_append_of_exists _ hbehind, behindJoint,
    Text.dropTrailing_dropWhile, List.append_assoc]
  rfl

/-- A name that is put before a joint loses the slashes ahead of it behind the one before. -/
theorem behindJoint_item (c : String) (hnames : Names b) :
    behindJoint (item b c) = betweenJoints b ++ '/' :: behindJoint c := by
  have hbefore : ∃ d ∈ beforeJoint b, (d == '/') = false := Text.exists_mem_dropTrailing hnames
  rw [behindJoint, toList_item, Text.dropWhile_append_of_exists _ hbefore, betweenJoints]

/-- A name of slashes alone leaves nothing before the next joint. -/
theorem beforeJoint_item_of_not (a : String) (hnames : ¬ Names b) :
    beforeJoint (item a b) = beforeJoint a := by
  have hall : ∀ d ∈ b.toList, (d == '/') = true := by simpa [Names] using hnames
  have hbehind : behindJoint b = [] := List.dropWhile_eq_nil_iff.mpr hall
  rw [beforeJoint, toList_item, hbehind, Text.dropTrailing_append_of_all _ (by simp), beforeJoint]
  exact List.rdropWhile_idempotent _ _

/-- A name of slashes alone leaves nothing behind the joint before. -/
theorem behindJoint_item_of_not (c : String) (hnames : ¬ Names b) :
    behindJoint (item b c) = behindJoint c := by
  have hall : ∀ d ∈ b.toList, (d == '/') = true := by simpa [Names] using hnames
  have hbefore : beforeJoint b = [] := Text.dropTrailing_eq_nil_iff.mpr hall
  rw [behindJoint, toList_item, hbefore, List.nil_append, List.dropWhile_cons_of_pos (by rfl),
    behindJoint]
  exact List.dropWhile_idempotent _ _

/-- It does not matter which of two joints is made first. -/
theorem item_assoc (a b c : String) : item (item a b) c = item a (item b c) := by
  rw [← String.toList_inj, toList_item (item a b), toList_item a]
  by_cases hnames : Names b
  · rw [beforeJoint_item a hnames, behindJoint_item c hnames, List.append_assoc, List.cons_append]
  · rw [beforeJoint_item_of_not a hnames, behindJoint_item_of_not c hnames]

/-- A name of slashes alone is passed over. -/
theorem item_item_slashes (a c : String) (count : Nat) :
    item (item a (slashes count)) c = item a c := by
  have hnone : ¬ Names (slashes count) := by
    rintro ⟨d, hd, hkept⟩
    rw [eq_slash_of_mem_slashes hd] at hkept
    cases hkept
  rw [← String.toList_inj, toList_item, beforeJoint_item_of_not a hnone, toList_item]

/-! ## Slashes next to each other -/

/-- What is left before a joint does not end in a slash. -/
theorem beforeJoint_ne (a : String) (front : List Char) : beforeJoint a ≠ front ++ ['/'] := by
  intro hslash
  have hlast : (beforeJoint a).getLast? = some '/' := by rw [hslash, List.getLast?_concat]
  exact absurd (Text.getLast?_dropTrailing hlast) (by decide)

/-- What is left behind a joint does not start with a slash. -/
theorem behindJoint_ne (b : String) (back : List Char) : behindJoint b ≠ '/' :: back := by
  intro hslash
  have hnot := List.head?_dropWhile_not (· == '/') b.toList
  rw [← behindJoint, hslash] at hnot
  cases hnot

/-- Two slashes stand next to each other in a path exactly where they do so in what is left of
one of its parts. -/
theorem toList_item_eq_iff {front back : List Char} :
    (item a b).toList = front ++ '/' :: '/' :: back ↔
      (∃ rest, beforeJoint a = front ++ '/' :: '/' :: rest ∧ back = rest ++ '/' :: behindJoint b) ∨
        ∃ rest, behindJoint b = rest ++ '/' :: '/' :: back ∧
          front = beforeJoint a ++ '/' :: rest := by
  rw [toList_item]
  constructor
  · intro hpath
    -- the two slashes stand behind the part before the joint, or they start within it
    rcases List.append_eq_append_iff.mp hpath with ⟨rest, hfront, hrest⟩ | ⟨rest, hfront, hrest⟩
    · cases rest with
      | nil => exact absurd (List.cons.inj hrest).2 (behindJoint_ne b back)
      | cons d rest =>
        obtain ⟨rfl, hbehind⟩ := List.cons.inj hrest
        exact Or.inr ⟨rest, hbehind, hfront⟩
    · rcases rest with - | ⟨d, - | ⟨e, rest⟩⟩
      · exact absurd (List.cons.inj hrest).2.symm (behindJoint_ne b back)
      · obtain ⟨rfl, -⟩ := List.cons.inj hrest
        exact absurd hfront (beforeJoint_ne a front)
      · obtain ⟨rfl, hsecond⟩ := List.cons.inj hrest
        obtain ⟨rfl, hback⟩ := List.cons.inj hsecond
        exact Or.inl ⟨rest, hfront, hback⟩
  · rintro (⟨rest, hbefore, rfl⟩ | ⟨rest, hbehind, rfl⟩)
    · rw [hbefore, List.append_assoc]
      rfl
    · rw [hbehind, List.append_assoc]
      rfl

/-- It does not matter which of two joints is made first, and slashes at a joint do not matter; a
name of slashes alone is passed over.  So the path of an item of a data bag is that of the item
in the bag, under the name that the bag has on the server, among the data.  No joint puts two
slashes next to each other. -/
theorem item_law :
    (∀ a b c, item (item a b) c = item a (item b c)) ∧
    (∀ a b before behind, item (a ++ slashes before) (slashes behind ++ b) = item a b) ∧
    (∀ a c count, item (item a (slashes count)) c = item a c) ∧
    (∀ context bag id,
      dataBagItem context bag id = item "data" (item (context.dataBagName bag) id)) ∧
    ∀ (a b : String) (front back : List Char),
      (item a b).toList = front ++ '/' :: '/' :: back ↔
        (∃ rest, beforeJoint a = front ++ '/' :: '/' :: rest ∧
          back = rest ++ '/' :: behindJoint b) ∨
        ∃ rest, behindJoint b = rest ++ '/' :: '/' :: back ∧
          front = beforeJoint a ++ '/' :: rest :=
  ⟨item_assoc, item_slashes, item_item_slashes, fun _ _ _ => item_assoc _ _ _,
    fun _ _ _ _ => toList_item_eq_iff⟩

end Resource
end Server
end ChefAccess
