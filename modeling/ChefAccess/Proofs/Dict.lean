import ChefAccess.Dict
import Mathlib.Data.List.Nodup
import Mathlib.Tactic.Common

/-!
# Dictionaries of lists

A dictionary is made from a list entry by entry.  The order of entries with different keys
does not matter, and when all keys are different the dictionary has the entries of the list
and no others, only in their order.

Main results:

- Theorem {lit}`Dict.ofList_swap`: neighbours with different keys may change places.
- Theorem {lit}`Dict.entries_ofList_perm`: the entries are those of a list with different
  keys.
- Theorem {lit}`Dict.ofList_entries`: the dictionary of its entries is the dictionary.
- Theorem {lit}`Dict.pairwise_values`: values that name their keys are listed in the order of
  their names.
- Theorem {lit}`mergeSort_eq_of_perm`: values with different names, listed in any order, are sorted
  by their names into one list.
-/

namespace ChefAccess

variable {κ ν : Type} [OrderedKey κ]

namespace Entries

/-- Keys in strictly increasing order are different. -/
theorem nodup_keys {l : List (κ × ν)} (hsorted : Sorted l) : (l.map (·.1)).Nodup := by
  refine List.pairwise_map.mpr (hsorted.imp fun {p q} hlt heq => ?_)
  rw [heq] at hlt
  exact OrderedKey.lt_irrefl _ hlt

/-- A new key is put between the others. -/
theorem insert_perm {k : κ} (v : ν) {l : List (κ × ν)} (hnew : k ∉ l.map (·.1)) :
    (insert k v l).Perm ((k, v) :: l) := by
  induction l with
  | nil => simp [insert]
  | cons entry rest ih =>
    obtain ⟨key, value⟩ := entry
    simp only [List.map_cons, List.mem_cons, not_or] at hnew
    simp only [insert]
    split
    · exact List.Perm.refl _
    · split
      · exact ((ih hnew.2).cons _).trans (List.Perm.swap _ _ _)
      · rename_i hlt hgt
        exact absurd (OrderedKey.eq_of_not_lt hlt hgt) hnew.1

/-- Entries in order are equal, if they are the same but for the order. -/
theorem eq_of_perm {l l' : List (κ × ν)} (hsorted : Sorted l) (hsorted' : Sorted l')
    (hperm : l.Perm l') : l = l' := by
  refine hperm.eq_of_pairwise (fun p q _ _ hlt hgt => ?_) hsorted hsorted'
  exact absurd (OrderedKey.lt_trans hlt hgt) (OrderedKey.lt_irrefl _)

/-- Among entries in order, a key has the value that it is listed with. -/
theorem get?_eq_some_iff {k : κ} {v : ν} {l : List (κ × ν)} (hsorted : Sorted l) :
    get? k l = some v ↔ (k, v) ∈ l := by
  induction l with
  | nil => simp [get?]
  | cons entry rest ih =>
    obtain ⟨key, value⟩ := entry
    obtain ⟨hfirst, hrest⟩ := List.pairwise_cons.mp hsorted
    rw [get?, List.mem_cons]
    by_cases hother : k < key ∨ key < k
    · have hne : k ≠ key := by
        rintro rfl
        exact OrderedKey.lt_irrefl k (or_self_iff.mp hother)
      rw [if_pos hother, ih hrest]
      simp [hne]
    · obtain ⟨hlt, hgt⟩ := not_or.mp hother
      have hkey : k = key := OrderedKey.eq_of_not_lt hlt hgt
      have habsent : (k, v) ∉ rest := fun hmem => hgt (hfirst _ hmem)
      rw [if_neg hother]
      simp [hkey ▸ habsent, hkey, eq_comm]

end Entries

namespace Dict

/-- An insertion sets the value of its key and of no other. -/
theorem get?_insert [DecidableEq κ] (d : Dict κ ν) (k k' : κ) (v : ν) :
    (d.insert k v).get? k' = if k' = k then some v else d.get? k' := by
  split
  · rename_i heq
    rw [heq, get?_insert_self]
  · rename_i hne
    exact get?_insert_of_ne d v hne

/-- An erasure drops the value of its key and of no other. -/
theorem get?_erase [DecidableEq κ] (d : Dict κ ν) (k k' : κ) :
    (d.erase k).get? k' = if k' = k then none else d.get? k' := by
  split
  · rename_i heq
    rw [heq, get?_erase_self]
  · rename_i hne
    exact get?_erase_of_ne d hne

/-- Insertions of different keys may change places. -/
theorem insert_comm (d : Dict κ ν) {k k' : κ} (v v' : ν) (hne : k ≠ k') :
    (d.insert k v).insert k' v' = (d.insert k' v').insert k v := by
  refine ext_get? fun key => ?_
  by_cases hfirst : key = k
  · subst hfirst
    rw [get?_insert_of_ne _ _ hne, get?_insert_self, get?_insert_self]
  · by_cases hsecond : key = k'
    · subst hsecond
      rw [get?_insert_self, get?_insert_of_ne _ _ hfirst, get?_insert_self]
    · rw [get?_insert_of_ne _ _ hsecond, get?_insert_of_ne _ _ hfirst,
        get?_insert_of_ne _ _ hfirst, get?_insert_of_ne _ _ hsecond]

/-- Neighbours with different keys may change places. -/
theorem ofList_swap (before after : List (κ × ν)) {p q : κ × ν} (hne : p.1 ≠ q.1) :
    ofList (before ++ p :: q :: after) = ofList (before ++ q :: p :: after) := by
  simp only [ofList, List.foldl_append, List.foldl_cons]
  rw [insert_comm _ _ _ hne]

/-- The entries after a list is put in are those before it and those of the list. -/
theorem entries_foldl_perm {l : List (κ × ν)} {d : Dict κ ν}
    (hkeys : ((d.entries ++ l).map (·.1)).Nodup) :
    (l.foldl (fun d entry => d.insert entry.1 entry.2) d).entries.Perm (d.entries ++ l) := by
  induction l generalizing d with
  | nil => simp
  | cons entry rest ih =>
    have hmiddle : (d.entries ++ entry :: rest).Perm (entry :: (d.entries ++ rest)) :=
      List.perm_middle
    have hdistinct := (hmiddle.map (·.1)).nodup_iff.mp hkeys
    simp only [List.map_cons, List.nodup_cons, List.map_append, List.mem_append, not_or]
      at hdistinct
    have hinsert : (d.insert entry.1 entry.2).entries.Perm (entry :: d.entries) :=
      Entries.insert_perm entry.2 hdistinct.1.1
    have hwhole := hinsert.append_right rest
    have hnext : (((d.insert entry.1 entry.2).entries ++ rest).map (·.1)).Nodup :=
      ((hwhole.trans hmiddle.symm).map (·.1)).nodup_iff.mpr hkeys
    rw [List.foldl_cons]
    exact ((ih hnext).trans hwhole).trans hmiddle.symm

/-- The entries are those of a list with different keys. -/
theorem entries_ofList_perm {l : List (κ × ν)} (hkeys : (l.map (·.1)).Nodup) :
    (ofList l).entries.Perm l :=
  entries_foldl_perm (d := empty) (by simpa [empty] using hkeys)

/-- The dictionary of its entries is the dictionary. -/
theorem ofList_entries (d : Dict κ ν) : ofList d.entries = d :=
  ext_entries (Entries.eq_of_perm (ofList d.entries).sorted d.sorted
    (entries_ofList_perm (Entries.nodup_keys d.sorted)))

/-- The values are those of the keys. -/
theorem mem_values_iff {d : Dict κ ν} {v : ν} : v ∈ d.values ↔ ∃ k, d.get? k = some v := by
  simp only [values, List.mem_map, Prod.exists, exists_eq_right, get?,
    Entries.get?_eq_some_iff d.sorted]

/-- Values that name their keys are listed in the order of their names. -/
theorem pairwise_values {d : Dict κ ν} {name : ν → κ}
    (hname : ∀ {k v}, d.get? k = some v → name v = k) :
    d.values.Pairwise fun v w => name v < name w := by
  have hentry : ∀ entry ∈ d.entries, name entry.2 = entry.1 := fun entry hmem =>
    hname ((Entries.get?_eq_some_iff d.sorted).mpr hmem)
  refine List.pairwise_map.mpr (d.sorted.imp_of_mem fun {p q} hp hq hlt => ?_)
  rwa [hentry p hp, hentry q hq]

end Dict

/-- Values with different names, listed in any order, are sorted by their names into one list. -/
theorem mergeSort_eq_of_perm {name : ν → String} {values listing : List ν}
    (hordered : values.Pairwise fun v w => name v < name w) (hlisting : listing.Perm values) :
    listing.mergeSort (fun v w => decide (name v ≤ name w)) = values := by
  have hperm := (List.mergeSort_perm listing fun v w => decide (name v ≤ name w)).trans hlisting
  have htrans : ∀ u v w, decide (name u ≤ name v) = true → decide (name v ≤ name w) = true →
      decide (name u ≤ name w) = true := by
    simp only [decide_eq_true_iff]
    exact fun u v w => String.le_trans
  have htotal : ∀ v w, (decide (name v ≤ name w) || decide (name w ≤ name v)) = true := by
    simp only [Bool.or_eq_true, decide_eq_true_iff]
    exact fun v w => String.le_total (name v) (name w)
  have hnames : (values.map name).Nodup := by
    refine List.pairwise_map.mpr (hordered.imp fun {v w} hlt heq => ?_)
    rw [heq] at hlt
    exact String.lt_irrefl _ hlt
  refine hperm.eq_of_pairwise (fun v w hv hw hvw hwv => ?_)
    (List.pairwise_mergeSort htrans htotal listing) ?_
  · have hname : name v = name w :=
      String.le_antisymm (of_decide_eq_true hvw) (of_decide_eq_true hwv)
    exact List.inj_on_of_nodup_map hnames (hperm.mem_iff.mp hv) hw hname
  · exact hordered.imp fun hlt => decide_eq_true (String.not_lt.mp (String.lt_asymm hlt))

/-- The set of its texts is the set. -/
theorem Names.ofList_toList (names : Names) : Names.ofList names.toList = names := by
  have hself : (fun name => (name, ())) ∘ (·.1) = (id : String × Unit → String × Unit) := rfl
  rw [Names.ofList, Names.toList, Dict.keys, List.map_map, hself, List.map_id,
    Dict.ofList_entries]

end ChefAccess
