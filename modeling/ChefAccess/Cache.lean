import ChefAccess.Duration

/-!
# Expiring caches

A cache keeps a bounded number of values for a limited time.  Whoever asks for a value
keeps it alive, and the value that was left alone for longest makes room for a new one.
The entries are listed with the one used last at the head.

Main definitions:

- {lit}`Cache`: a list of entries with its limits.
- {lit}`Cache.get`: the live value of a key, with the cache after the request.
- {lit}`Cache.insert`: the cache after a value was set.

Main results:

- Theorem {lit}`Cache.length_insert_le`: an insertion respects the capacity.
- Theorem {lit}`Cache.get_insert_self`: what was inserted is found within its time.
-/

namespace ChefAccess

/-- A value with its key and the time at which it was last used. -/
structure Cache.Entry (ν : Type) where
  key : String
  value : ν
  used : Duration
  deriving Repr

/-- A cache: the time that values live, the number of values that it holds, and its
entries, the one used last at the head. -/
structure Cache (ν : Type) where
  ttl : Duration
  capacity : Nat
  entries : List (Cache.Entry ν)
  deriving Repr

namespace Cache

variable {ν : Type}

/-- The empty cache.  It holds one value at least. -/
def empty (capacity : Nat) (ttl : Duration) : Cache ν :=
  ⟨ttl, max 1 capacity, []⟩

/-- The number of entries, of which some may have expired. -/
def size (cache : Cache ν) : Nat :=
  cache.entries.length

/-- The entries with other keys. -/
def others (cache : Cache ν) (key : String) : List (Entry ν) :=
  cache.entries.filter (·.key != key)

/-- The cache without a key. -/
def erase (cache : Cache ν) (key : String) : Cache ν :=
  { cache with entries := cache.others key }

/-- The cache without its entries. -/
def clear (cache : Cache ν) : Cache ν :=
  { cache with entries := [] }

/-- Whether an entry has been left alone for too long. -/
def isExpired (cache : Cache ν) (now : Duration) (entry : Entry ν) : Bool :=
  decide (cache.ttl.nanoseconds ≤ now.nanoseconds - entry.used.nanoseconds)

/-- The live value of a key, which is thereby used.  An expired entry is dropped. -/
def get (cache : Cache ν) (now : Duration) (key : String) : Option ν × Cache ν :=
  match cache.entries.find? (·.key == key) with
  | none => (none, cache)
  | some entry =>
    if cache.isExpired now entry then (none, cache.erase key)
    else
      (some entry.value, { cache with entries := { entry with used := now } :: cache.others key })

/-- The cache with a key set to a value.  The entry used longest ago makes room. -/
def insert (cache : Cache ν) (now : Duration) (key : String) (value : ν) : Cache ν :=
  { cache with entries := (⟨key, value, now⟩ :: cache.others key).take cache.capacity }

/-- What may be shown of a cache. -/
def describe (cache : Cache ν) : String :=
  "ExpiringCache \x7b ttl: " ++ cache.ttl.render ++ ", capacity: " ++ toString cache.capacity ++
    ", len: " ++ toString cache.size ++ " \x7d"

/-- An insertion respects the capacity. -/
theorem length_insert_le (cache : Cache ν) (now : Duration) (key : String) (value : ν) :
    (cache.insert now key value).size ≤ cache.capacity := by
  simp only [size, insert, List.length_take]
  exact Nat.min_le_left _ _

/-- What was inserted is found within its time. -/
theorem get_insert_self (cache : Cache ν) (start now : Duration) (key : String) (value : ν)
    (hcapacity : 0 < cache.capacity)
    (hlive : now.nanoseconds - start.nanoseconds < cache.ttl.nanoseconds) :
    ((cache.insert start key value).get now key).1 = some value := by
  obtain ⟨capacity, hsucc⟩ : ∃ n, cache.capacity = n + 1 := ⟨cache.capacity - 1, by omega⟩
  have hnot : ¬ cache.ttl.nanoseconds ≤ now.nanoseconds - start.nanoseconds := by omega
  simp [insert, get, hsucc, isExpired, hnot]

end Cache
end ChefAccess
