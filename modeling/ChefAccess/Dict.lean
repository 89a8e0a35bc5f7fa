/-!
# Dictionaries in key order

Stored tables, JSON objects and string maps all list their keys in order.  A
dictionary is a list of entries with strictly increasing keys, so that two
dictionaries with the same contents are equal.

Main definitions:

- {lit}`OrderedKey`: a type with a decidable strict linear order.
- {lit}`Dict`: a list of entries in strictly increasing order of their keys.
- {lit}`Dict.get?`, {lit}`Dict.insert` and {lit}`Dict.erase`: the operations of a table.

Main results:

- Theorem {lit}`Dict.get?_insert_self`: what was inserted is found.
- Theorem {lit}`Dict.get?_insert_of_ne`: an insertion leaves the other keys alone.
- Theorem {lit}`Dict.get?_erase_self`: what was erased is gone.
- Theorem {lit}`Dict.get?_erase_of_ne`: an erasure leaves the other keys alone.
- Theorem {lit}`Dict.ext_get?`: dictionaries that agree on every key are equal.
-/

namespace ChefAccess

/-- A type with a decidable strict linear order. -/
class OrderedKey (κ : Type) extends LT κ where
  decideLt : DecidableLT κ
  lt_irrefl : ∀ a : κ, ¬ a < a
  lt_trans : ∀ {a b c : κ}, a < b → b < c → a < c
  eq_of_not_lt : ∀ {a b : κ}, ¬ a < b → ¬ b < a → a = b

instance OrderedKey.decidableLT {κ : Type} [OrderedKey κ] : DecidableLT κ :=
  OrderedKey.decideLt

/-- Texts are ordered by their code points, which is the order of their UTF-8 bytes. -/
instance : OrderedKey String where
  decideLt := inferInstance
  lt_irrefl := String.lt_irrefl
  lt_trans := String.lt_trans
  eq_of_not_lt := fun hab hba => String.le_antisymm hba hab

/-! ## Entries -/

namespace Entries

variable {κ ν : Type} [OrderedKey κ]

/-- Entries in strictly increasing order of their keys. -/
def Sorted (l : List (κ × ν)) : Prop :=
  l.Pairwise fun p q => p.1 < q.1

/-- The value of the first entry with a key. -/
def get? (k : κ) : List (κ × ν) → Option ν
  | [] => none
  | (key, value) :: rest => if k < key ∨ key < k then get? k rest else some value

/-- Put an entry in its place, instead of the one with its key if there is one. -/
def insert (k : κ) (v : ν) : List (κ × ν) → List (κ × ν)
  | [] => [(k, v)]
  | (key, value) :: rest =>
    if k < key then (k, v) :: (key, value) :: rest
    else if key < k then (key, value) :: insert k v rest
    else (k, v) :: rest

/-- Drop the entries with a key. -/
def erase (k : κ) (l : List (κ × ν)) : List (κ × ν) :=
  l.filter fun p => decide (k < p.1 ∨ p.1 < k)

/-- An insertion brings no entry but its own. -/
theorem mem_of_mem_insert {k : κ} {v : ν} {l : List (κ × ν)} {p : κ × ν}
    (hmem : p ∈ insert k v l) : p = (k, v) ∨ p ∈ l := by
  induction l with
  | nil => exact Or.inl (List.mem_singleton.mp hmem)
  | cons entry rest ih =>
    obtain ⟨key, value⟩ := entry
    simp only [insert] at hmem
    split at hmem
    · exact List.mem_cons.mp hmem
    · split at hmem
      · rcases List.mem_cons.mp hmem with heq | hrest
        · exact Or.inr (by simp [heq])
        · exact (ih hrest).imp id (List.mem_cons_of_mem _)
      · rcases List.mem_cons.mp hmem with heq | hrest
        · exact Or.inl heq
        · exact Or.inr (List.mem_cons_of_mem _ hrest)

/-- An insertion keeps the order. -/
theorem sorted_insert {k : κ} {v : ν} {l : List (κ × ν)} (hsorted : Sorted l) :
    Sorted (insert k v l) := by
  induction l with
  | nil => exact List.pairwise_singleton _ _
  | cons entry rest ih =>
    obtain ⟨key, value⟩ := entry
    obtain ⟨hfirst, hrest⟩ := List.pairwise_cons.mp hsorted
    simp only [insert]
    split
    · rename_i hlt
      refine List.pairwise_cons.mpr ⟨fun p hp => ?_, hsorted⟩
      rcases List.mem_cons.mp hp with heq | hmem
      · simpa [heq] using hlt
      · exact OrderedKey.lt_trans hlt (hfirst p hmem)
    · split
      · rename_i hgt
        refine List.pairwise_cons.mpr ⟨fun p hp => ?_, ih hrest⟩
        rcases mem_of_mem_insert hp with heq | hmem
        · simpa [heq] using hgt
        · exact hfirst p hmem
      · rename_i hlt hgt
        have hkey : k = key := OrderedKey.eq_of_not_lt hlt hgt
        exact List.pairwise_cons.mpr ⟨fun p hp => hkey ▸ hfirst p hp, hrest⟩

/-- What was inserted is found. -/
theorem get?_insert_self (k : κ) (v : ν) (l : List (κ × ν)) : get? k (insert k v l) = some v := by
  have hirrefl := OrderedKey.lt_irrefl k
  induction l with
  | nil => simp [insert, get?, hirrefl]
  | cons entry rest ih =>
    obtain ⟨key, value⟩ := entry
    simp only [insert]
    split
    · simp [get?, hirrefl]
    · split
      · rename_i hgt
        simp [get?, hgt, ih]
      · simp [get?, hirrefl]

/-- An insertion leaves the other keys alone. -/
theorem get?_insert_of_ne {k k' : κ} (v : ν) (l : List (κ × ν)) (hne : k' ≠ k) :
    get? k' (insert k v l) = get? k' l := by
  have hother : k' < k ∨ k < k' := by
    by_cases hlt : k' < k
    · exact Or.inl hlt
    · by_cases hgt : k < k'
      · exact Or.inr hgt
      · exact absurd (OrderedKey.eq_of_not_lt hlt hgt) hne
  induction l with
  | nil => simp [insert, get?, hother]
  | cons entry rest ih =>
    obtain ⟨key, value⟩ := entry
    simp only [insert]
    split
    · simp [get?, hother]
    · split
      · simp [get?, ih]
      · rename_i hlt hgt
        have hkey : k = key := OrderedKey.eq_of_not_lt hlt hgt
        simp [get?, ← hkey, hother]

/-- What was erased is gone. -/
theorem get?_erase_self (k : κ) (l : List (κ × ν)) : get? k (erase k l) = none := by
  induction l with
  | nil => rfl
  | cons entry rest ih =>
    by_cases hne : k < entry.1 ∨ entry.1 < k
    · rw [erase, List.filter_cons_of_pos (by simpa using hne)]
      rw [erase] at ih
      rw [get?, if_pos hne, ih]
    · rw [erase, List.filter_cons_of_neg (by simpa using hne)]
      exact ih

/-- An erasure leaves the other keys alone. -/
theorem get?_erase_of_ne {k k' : κ} (l : List (κ × ν)) (hne : k' ≠ k) :
    get? k' (erase k l) = get? k' l := by
  induction l with
  | nil => rfl
  | cons entry rest ih =>
    by_cases hkept : k < entry.1 ∨ entry.1 < k
    · rw [erase, List.filter_cons_of_pos (by simpa using hkept)]
      rw [erase] at ih
      rw [get?, get?, ih]
    · rw [erase, List.filter_cons_of_neg (by simpa using hkept)]
      rw [erase] at ih
      obtain ⟨hlt, hgt⟩ := not_or.mp hkept
      have hkey : k = entry.1 := OrderedKey.eq_of_not_lt hlt hgt
      have hother : k' < entry.1 ∨ entry.1 < k' := by
        by_cases hbelow : k' < entry.1
        · exact Or.inl hbelow
        · by_cases habove : entry.1 < k'
          · exact Or.inr habove
          · exact absurd ((OrderedKey.eq_of_not_lt hbelow habove).trans hkey.symm) hne
      rw [get?, if_pos hother, ih]

/-- A key below all others has no value. -/
theorem get?_eq_none_of_lt {k : κ} {l : List (κ × ν)} (hbelow : ∀ p ∈ l, k < p.1) :
    get? k l = none := by
  induction l with
  | nil => rfl
  | cons entry rest ih =>
    have hfirst : k < entry.1 := hbelow entry (by simp)
    rw [get?, if_pos (Or.inl hfirst)]
    exact ih fun p hp => hbelow p (List.mem_cons_of_mem _ hp)

/-- The first key has the first value. -/
theorem get?_head (entry : κ × ν) (rest : List (κ × ν)) :
    get? entry.1 (entry :: rest) = some entry.2 := by
  have hirrefl := OrderedKey.lt_irrefl entry.1
  simp [get?, hirrefl]

/-- Entries in order that agree on every key are equal. -/
theorem eq_of_get?_eq {l l' : List (κ × ν)} (hsorted : Sorted l) (hsorted' : Sorted l')
    (hagree : ∀ k, get? k l = get? k l') : l = l' := by
  induction l generalizing l' with
  | nil =>
    cases l' with
    | nil => rfl
    | cons entry rest =>
      have hhead := hagree entry.1
      rw [get?_head] at hhead
      exact absurd hhead (by simp [get?])
  | cons entry rest ih =>
    cases l' with
    | nil =>
      have hhead := hagree entry.1
      rw [get?_head] at hhead
      exact absurd hhead (by simp [get?])
    | cons entry' rest' =>
      obtain ⟨hfirst, hrest⟩ := List.pairwise_cons.mp hsorted
      obtain ⟨hfirst', hrest'⟩ := List.pairwise_cons.mp hsorted'
      have hnotlt : ¬ entry.1 < entry'.1 := by
        intro hlt
        have hnone : get? entry.1 (entry' :: rest') = none :=
          get?_eq_none_of_lt fun p hp => by
            rcases List.mem_cons.mp hp with heq | hmem
            · exact heq ▸ hlt
            · exact OrderedKey.lt_trans hlt (hfirst' p hmem)
        rw [← hagree, get?_head] at hnone
        exact absurd hnone (by simp)
      have hnotgt : ¬ entry'.1 < entry.1 := by
        intro hgt
        have hnone : get? entry'.1 (entry :: rest) = none :=
          get?_eq_none_of_lt fun p hp => by
            rcases List.mem_cons.mp hp with heq | hmem
            · exact heq ▸ hgt
            · exact OrderedKey.lt_trans hgt (hfirst p hmem)
        rw [hagree, get?_head] at hnone
        exact absurd hnone (by simp)
      have hkey : entry.1 = entry'.1 := OrderedKey.eq_of_not_lt hnotlt hnotgt
      have hvalue : entry.2 = entry'.2 := by
        have hhead := hagree entry.1
        rw [get?_head, hkey, get?_head] at hhead
        exact Option.some.inj hhead
      have htail : rest = rest' := by
        refine ih hrest hrest' fun k => ?_
        by_cases hother : k < entry.1 ∨ entry.1 < k
        · have hboth := hagree k
          rw [get?, if_pos hother, get?, if_pos (hkey ▸ hother)] at hboth
          exact hboth
        · obtain ⟨hlt, hgt⟩ := not_or.mp hother
          have hsame : k = entry.1 := OrderedKey.eq_of_not_lt hlt hgt
          rw [hsame, get?_eq_none_of_lt hfirst, hkey, get?_eq_none_of_lt hfirst']
      rw [htail, Prod.ext hkey hvalue]

end Entries

/-! ## Dictionaries -/

/-- A dictionary: entries in strictly increasing order of their keys. -/
structure Dict (κ : Type) [OrderedKey κ] (ν : Type) where
  entries : List (κ × ν)
  sorted : Entries.Sorted entries

namespace Dict

variable {κ ν : Type} [OrderedKey κ]

/-- Dictionaries with the same entries are equal. -/
theorem ext_entries {d d' : Dict κ ν} (hentries : d.entries = d'.entries) : d = d' := by
  cases d
  cases d'
  simpa using hentries

instance [DecidableEq κ] [DecidableEq ν] : DecidableEq (Dict κ ν) := fun d d' =>
  decidable_of_iff (d.entries = d'.entries) ⟨ext_entries, fun h => h ▸ rfl⟩

instance [Repr κ] [Repr ν] : Repr (Dict κ ν) where
  reprPrec d n := reprPrec d.entries n

/-- The dictionary without entries. -/
def empty : Dict κ ν :=
  ⟨[], List.Pairwise.nil⟩

instance : Inhabited (Dict κ ν) :=
  ⟨empty⟩

/-- The value of a key. -/
def get? (d : Dict κ ν) (k : κ) : Option ν :=
  Entries.get? k d.entries

/-- Whether a key has a value. -/
def contains (d : Dict κ ν) (k : κ) : Bool :=
  (d.get? k).isSome

/-- The dictionary with a key set to a value. -/
def insert (d : Dict κ ν) (k : κ) (v : ν) : Dict κ ν :=
  ⟨Entries.insert k v d.entries, Entries.sorted_insert d.sorted⟩

/-- The dictionary without a key. -/
def erase (d : Dict κ ν) (k : κ) : Dict κ ν :=
  ⟨Entries.erase k d.entries, List.Pairwise.filter _ d.sorted⟩

/-- The keys in order. -/
def keys (d : Dict κ ν) : List κ :=
  d.entries.map (·.1)

/-- The values in the order of their keys. -/
def values (d : Dict κ ν) : List ν :=
  d.entries.map (·.2)

/-- The number of keys. -/
def size (d : Dict κ ν) : Nat :=
  d.entries.length

/-- The dictionary of a list of entries, in which the last entry of a key wins. -/
def ofList (l : List (κ × ν)) : Dict κ ν :=
  l.foldl (fun d entry => d.insert entry.1 entry.2) empty

/-- The empty dictionary has no values. -/
@[simp]
theorem get?_empty (k : κ) : (empty : Dict κ ν).get? k = none :=
  rfl

/-- What was inserted is found. -/
@[simp]
theorem get?_insert_self (d : Dict κ ν) (k : κ) (v : ν) : (d.insert k v).get? k = some v :=
  Entries.get?_insert_self k v d.entries

/-- An insertion leaves the other keys alone. -/
theorem get?_insert_of_ne (d : Dict κ ν) {k k' : κ} (v : ν) (hne : k' ≠ k) :
    (d.insert k v).get? k' = d.get? k' :=
  Entries.get?_insert_of_ne v d.entries hne

/-- What was erased is gone. -/
@[simp]
theorem get?_erase_self (d : Dict κ ν) (k : κ) : (d.erase k).get? k = none :=
  Entries.get?_erase_self k d.entries

/-- An erasure leaves the other keys alone. -/
theorem get?_erase_of_ne (d : Dict κ ν) {k k' : κ} (hne : k' ≠ k) :
    (d.erase k).get? k' = d.get? k' :=
  Entries.get?_erase_of_ne d.entries hne

/-- Dictionaries that agree on every key are equal. -/
theorem ext_get? {d d' : Dict κ ν} (hagree : ∀ k, d.get? k = d'.get? k) : d = d' :=
  ext_entries (Entries.eq_of_get?_eq d.sorted d'.sorted hagree)

end Dict

/-- A set of texts, listed in order. -/
abbrev Names := Dict String Unit

namespace Names

/-- The set of the texts of a list. -/
def ofList (l : List String) : Names :=
  Dict.ofList (l.map fun name => (name, ()))

/-- The texts of a set in order. -/
def toList (names : Names) : List String :=
  names.keys

end Names
end ChefAccess
