import ChefAccess.Cache
import Mathlib.Data.List.Forall2

/-!
# What a cache holds

A cache holds an entry, expired or not, until it is dropped.  Lookups drop entries and never
add one, and an insertion adds the one entry that it is made for.

Main definitions:

- {lit}`Cache.Holds`: a cache has an entry with a key and a value.
- {lit}`Cache.Alike`: two caches differ in the values of their entries alone.

Main results:

- Theorem {lit}`Cache.holds_of_get`: what is found was held.
- Theorem {lit}`Cache.holds_of_holds_get`: a lookup adds nothing.
- Theorem {lit}`Cache.holds_of_holds_insert`: an insertion adds the new entry alone.
- Theorem {lit}`Cache.get_insert_of_ne`: while there is room, nothing is lost by insertions.
- Theorems {lit}`Cache.Alike.get` and {lit}`Cache.Alike.insert`: which entries are found, and
  which are dropped, does not depend on the values.
-/

namespace ChefAccess
namespace Cache

variable {ν : Type} {cache : Cache ν} {now : Duration} {key other : String} {value held : ν}

/-- A cache has an entry with a key and a value, which may have expired. -/
def Holds (cache : Cache ν) (key : String) (value : ν) : Prop :=
  ∃ entry ∈ cache.entries, entry.key = key ∧ entry.value = value

/-- The empty cache holds nothing. -/
theorem not_holds_empty (capacity : Nat) (ttl : Duration) (key : String) (value : ν) :
    ¬ (empty capacity ttl : Cache ν).Holds key value := by
  rintro ⟨entry, hentry, -⟩
  cases hentry

/-- A cleared cache holds nothing. -/
theorem not_holds_clear (cache : Cache ν) (key : String) (value : ν) :
    ¬ cache.clear.Holds key value := by
  rintro ⟨entry, hentry, -⟩
  cases hentry

/-- The entries with other keys are among all entries. -/
theorem mem_of_mem_others {entry : Entry ν} (hentry : entry ∈ cache.others key) :
    entry ∈ cache.entries :=
  (List.mem_filter.mp hentry).1

/-- What is found was held. -/
theorem holds_of_get (hget : (cache.get now key).1 = some value) : cache.Holds key value := by
  unfold get at hget
  split at hget
  · cases hget
  · rename_i entry hfind
    split at hget
    · cases hget
    · refine ⟨entry, List.mem_of_find?_eq_some hfind, ?_, Option.some.inj hget⟩
      simpa using List.find?_some hfind

/-- A lookup adds nothing. -/
theorem holds_of_holds_get (hholds : (cache.get now key).2.Holds other held) :
    cache.Holds other held := by
  unfold get at hholds
  split at hholds
  · exact hholds
  · rename_i entry hfind
    split at hholds
    · obtain ⟨kept, hkept, hsame⟩ := hholds
      exact ⟨kept, mem_of_mem_others hkept, hsame⟩
    · obtain ⟨kept, hkept, hsame⟩ := hholds
      rcases List.mem_cons.mp hkept with rfl | hothers
      · exact ⟨entry, List.mem_of_find?_eq_some hfind, hsame⟩
      · exact ⟨kept, mem_of_mem_others hothers, hsame⟩

/-- An insertion adds the new entry alone. -/
theorem holds_of_holds_insert (hholds : (cache.insert now key value).Holds other held) :
    cache.Holds other held ∨ other = key ∧ held = value := by
  obtain ⟨kept, hkept, hkey, hvalue⟩ := hholds
  rcases List.mem_cons.mp (List.mem_of_mem_take hkept) with rfl | hothers
  · exact Or.inr ⟨hkey.symm, hvalue.symm⟩
  · exact Or.inl ⟨kept, mem_of_mem_others hothers, hkey, hvalue⟩

/-- A lookup of a key without an entry changes nothing. -/
theorem get_of_not_holds (habsent : ∀ v, ¬ cache.Holds key v) :
    cache.get now key = (none, cache) := by
  have hnone : cache.entries.find? (·.key == key) = none := by
    refine List.find?_eq_none.mpr ?_
    intro entry hentry heq
    exact habsent entry.value ⟨entry, hentry, beq_iff_eq.mp heq, rfl⟩
  rw [get, hnone]

/-- Dropping a key does not change which entry is looked at for another key. -/
theorem find?_others_of_ne (cache : Cache ν) (hne : other ≠ key) :
    (cache.others key).find? (·.key == other) = cache.entries.find? (·.key == other) := by
  rw [others, List.find?_filter]
  congr 1
  funext entry
  by_cases heq : entry.key = other
  · simp [heq, hne]
  · simp [heq]

/-- What is found depends on the entry that is looked at alone. -/
theorem get_fst_congr {after : Cache ν} (httl : after.ttl = cache.ttl)
    (hfind : after.entries.find? (·.key == key) = cache.entries.find? (·.key == key)) :
    (after.get now key).1 = (cache.get now key).1 := by
  unfold get
  rw [hfind]
  cases cache.entries.find? (·.key == key) with
  | none => rfl
  | some entry =>
    have hexpired : after.isExpired now entry = cache.isExpired now entry := by
      rw [isExpired, isExpired, httl]
    dsimp only
    rw [hexpired]
    split <;> rfl

/-- While there is room, an insertion does not change what is found under other keys. -/
theorem get_insert_of_ne (start now : Duration) (value : ν) (hne : other ≠ key)
    (hroom : cache.size < cache.capacity) :
    ((cache.insert start key value).get now other).1 = (cache.get now other).1 := by
  have hfits : (⟨key, value, start⟩ :: cache.others key).length ≤ cache.capacity := by
    have hothers : (cache.others key).length ≤ cache.size := List.length_filter_le _ _
    rw [List.length_cons]
    omega
  refine get_fst_congr rfl ?_
  have hskip : (key == other) = false := beq_false_of_ne (Ne.symm hne)
  rw [insert, List.take_of_length_le hfits, List.find?_cons, hskip]
  exact cache.find?_others_of_ne hne

/-! ## Caches side by side -/

section Alike

variable {μ : Type} {Value Other : ν → μ → Prop} {capacity : Nat} {ttl : Duration}

/-- Two entries are alike: they differ in their values alone. -/
structure Entry.Alike (Value : ν → μ → Prop) (first : Entry ν) (second : Entry μ) : Prop where
  key : first.key = second.key
  value : Value first.value second.value
  used : first.used = second.used

/-- A cache has the given limits. -/
structure Limited (capacity : Nat) (ttl : Duration) (cache : Cache ν) : Prop where
  ttl : cache.ttl = ttl
  capacity : cache.capacity = max 1 capacity

/-- The limits do not depend on the entries. -/
theorem Limited.withEntries {cache : Cache ν} (hlimited : cache.Limited capacity ttl)
    (entries : List (Entry ν)) : ({ cache with entries } : Cache ν).Limited capacity ttl :=
  ⟨hlimited.ttl, hlimited.capacity⟩

/-- Two caches of the given limits are alike: they differ in the values of their entries
alone. -/
structure Alike (capacity : Nat) (ttl : Duration) (Value : ν → μ → Prop) (first : Cache ν)
    (second : Cache μ) : Prop where
  first_limited : first.Limited capacity ttl
  second_limited : second.Limited capacity ttl
  entries : List.Forall₂ (Entry.Alike Value) first.entries second.entries

namespace Alike

variable {first : Cache ν} {second : Cache μ}

theorem empty (capacity : Nat) (ttl : Duration) (Value : ν → μ → Prop) :
    Alike capacity ttl Value (.empty capacity ttl) (.empty capacity ttl) :=
  ⟨⟨rfl, rfl⟩, ⟨rfl, rfl⟩, .nil⟩

/-- Values may correspond in a weaker sense. -/
theorem imp (halike : Alike capacity ttl Value first second)
    (himp : ∀ v w, Value v w → Other v w) : Alike capacity ttl Other first second := by
  obtain ⟨hfirst, hsecond, hentries⟩ := halike
  exact ⟨hfirst, hsecond,
    hentries.imp fun _ _ hentry => ⟨hentry.key, himp _ _ hentry.value, hentry.used⟩⟩

/-- Nothing is left of either cache when both are cleared. -/
theorem clear (halike : Alike capacity ttl Value first second) (Other : ν → μ → Prop) :
    Alike capacity ttl Other first.clear second.clear :=
  ⟨halike.first_limited.withEntries [], halike.second_limited.withEntries [], .nil⟩

/-- The entries with other keys are alike. -/
theorem others (halike : Alike capacity ttl Value first second) (key : String) :
    List.Forall₂ (Entry.Alike Value) (first.others key) (second.others key) := by
  refine List.rel_filter ?_ halike.entries
  intro entry entry' hentry
  dsimp only
  rw [hentry.key]

/-- The same entry is looked at in both caches. -/
theorem find? {entries : List (Entry ν)} {entries' : List (Entry μ)}
    (hentries : List.Forall₂ (Entry.Alike Value) entries entries') (key : String) :
    Option.Rel (Entry.Alike Value) (entries.find? (·.key == key))
      (entries'.find? (·.key == key)) := by
  induction hentries with
  | nil => exact .none
  | @cons entry entry' rest rest' hentry hrest ih =>
    rw [List.find?_cons, List.find?_cons, hentry.key]
    cases entry'.key == key with
    | true => exact .some hentry
    | false => exact ih

/-- The same is found in both caches, which are left alike. -/
theorem get (halike : Alike capacity ttl Value first second) (now : Duration) (key : String) :
    Option.Rel Value (first.get now key).1 (second.get now key).1 ∧
      Alike capacity ttl Value (first.get now key).2 (second.get now key).2 := by
  have hfirst := halike.first_limited
  have hsecond := halike.second_limited
  have hothers := halike.others key
  have hfind := find? halike.entries key
  unfold Cache.get
  cases hentry : first.entries.find? (·.key == key) with
  | none =>
    rw [hentry] at hfind
    cases hentry' : second.entries.find? (·.key == key) with
    | none => exact ⟨.none, halike⟩
    | some entry' =>
      rw [hentry'] at hfind
      cases hfind
  | some entry =>
    rw [hentry] at hfind
    cases hentry' : second.entries.find? (·.key == key) with
    | none =>
      rw [hentry'] at hfind
      cases hfind
    | some entry' =>
      rw [hentry'] at hfind
      obtain ⟨hsame⟩ := hfind
      have hexpired : first.isExpired now entry = second.isExpired now entry' := by
        rw [isExpired, isExpired, hfirst.ttl, hsecond.ttl, hsame.used]
      dsimp only
      rw [hexpired]
      split
      · exact ⟨.none, hfirst.withEntries _, hsecond.withEntries _, hothers⟩
      · exact ⟨.some hsame.value, hfirst.withEntries _, hsecond.withEntries _,
          .cons ⟨hsame.key, hsame.value, rfl⟩ hothers⟩

/-- The same entries make room for a new one. -/
theorem insert (halike : Alike capacity ttl Value first second) (now : Duration) (key : String)
    {v : ν} {w : μ} (hvalue : Value v w) :
    Alike capacity ttl Value (first.insert now key v) (second.insert now key w) := by
  have hothers := halike.others key
  refine ⟨halike.first_limited.withEntries _, halike.second_limited.withEntries _, ?_⟩
  rw [Cache.insert, Cache.insert, halike.first_limited.capacity, halike.second_limited.capacity]
  exact List.forall₂_take _ (.cons ⟨rfl, hvalue, rfl⟩ hothers)

end Alike
end Alike

end Cache
end ChefAccess
