import ChefAccess.Proofs.Cache.History

/-!
# Which entry makes room

The entries of a cache are listed in the order of their use, and each entry has the time of its
last use beside it.  The two are kept apart, and they agree as long as the clock does not go
back: nothing is used later than what stands ahead of it.  So the entry that makes room for a
new key was left alone for longest, and it has expired if any other entry has.

Main definitions:

- {lit}`Cache.Timely`: turns at times that do not decrease.
- {lit}`Cache.Ordered`: the entries stand in the order of the times of their last use.
- {lit}`Cache.Chronological`: the same, and no last use lies after a given time.

Main results:

- Theorem {lit}`Cache.Chronological.apply`: a turn at a later time keeps the order.
- Theorem {lit}`Cache.Chronological.after`: after turns at times that do not decrease, the
  order is kept.
- Theorem {lit}`Cache.eviction_law`: which entries operations remove after such turns.
-/

namespace ChefAccess
namespace Cache

variable {ν : Type} {cache : Cache ν} {now time : Duration} {key : String} {value : ν}
  {entry : Entry ν}

/-! ## Recency and time -/

/-- The times of the turns do not decrease. -/
def Timely (turns : List (Turn ν)) : Prop :=
  turns.Pairwise fun earlier later => earlier.now.nanoseconds ≤ later.now.nanoseconds

/-- Such turns come to an end. -/
theorem exists_end {history : List (Turn ν)} (htimely : Timely history) :
    ∃ now : Duration, ∀ turn ∈ history, turn.now.nanoseconds ≤ now.nanoseconds := by
  rcases List.eq_nil_or_concat history with rfl | ⟨earlier, last, rfl⟩
  · exact ⟨⟨0⟩, by simp⟩
  · refine ⟨last.now, ?_⟩
    intro turn hturn
    rw [List.concat_eq_append] at htimely hturn
    rcases List.mem_append.mp hturn with hearlier | hlast
    · exact (List.pairwise_append.mp htimely).2.2 turn hearlier last (by simp)
    · rw [List.mem_singleton.mp hlast]

/-- No entry was used later than the entries ahead of it. -/
def Ordered (cache : Cache ν) : Prop :=
  cache.entries.Pairwise fun ahead behind => behind.used.nanoseconds ≤ ahead.used.nanoseconds

/-- The entries stand in the order of their last use, and none was used after a time. -/
structure Chronological (now : Duration) (cache : Cache ν) : Prop where
  ordered : cache.Ordered
  past : ∀ entry ∈ cache.entries, entry.used.nanoseconds ≤ now.nanoseconds

namespace Chronological

/-- Nothing is wrong with an empty cache. -/
theorem empty (capacity : Nat) (ttl now : Duration) :
    Chronological now (.empty capacity ttl : Cache ν) :=
  ⟨.nil, by simp [Cache.empty]⟩

/-- What lies in the past stays there. -/
theorem mono (hcache : Chronological now cache) (hlater : now.nanoseconds ≤ time.nanoseconds) :
    Chronological time cache :=
  ⟨hcache.ordered, fun entry hentry => (hcache.past entry hentry).trans hlater⟩

/-- The order is kept when entries are removed. -/
theorem withEntries (hcache : Chronological now cache) {entries : List (Entry ν)}
    (hentries : entries.Sublist cache.entries) :
    Chronological now { cache with entries } :=
  ⟨hcache.ordered.sublist hentries, fun entry hentry =>
    hcache.past entry (hentries.subset hentry)⟩

/-- The order is kept when an entry that is used now is put at the head. -/
theorem cons (hcache : Chronological now cache) (hused : entry.used = now) :
    Chronological now { cache with entries := entry :: cache.entries } := by
  constructor
  · refine List.pairwise_cons.mpr ⟨?_, hcache.ordered⟩
    intro behind hbehind
    rw [hused]
    exact hcache.past behind hbehind
  · intro held hheld
    rcases List.mem_cons.mp hheld with rfl | hrest
    · rw [hused]
    · exact hcache.past held hrest

/-- The order is kept when an entry that is used now takes the place of the one with its key. -/
theorem cons_others (hcache : Chronological now cache) (key : String) (hused : entry.used = now) :
    Chronological now { cache with entries := entry :: cache.others key } :=
  (hcache.withEntries (cache.others_sublist key)).cons hused

/-- Whatever is asked of a cache at a time after all uses so far, the order is kept. -/
theorem apply {turn : Turn ν} (hcache : Chronological turn.now cache) :
    Chronological turn.now (turn.apply cache) := by
  rcases turn with ⟨now, call⟩
  cases call with
  | get key =>
    rcases cache.get_cases now key with ⟨-, hget⟩ | ⟨entry, -, -, ⟨-, hget⟩ | ⟨-, hget⟩⟩
    · simpa only [Turn.apply, hget] using hcache
    · simp only [Turn.apply, hget]
      exact hcache.withEntries (cache.others_sublist key)
    · simp only [Turn.apply, hget]
      exact hcache.cons_others key rfl
  | insert key value =>
    exact (hcache.cons_others key rfl).withEntries (List.take_sublist _ _)
  | erase key => exact hcache.withEntries (cache.others_sublist key)
  | clear => exact hcache.withEntries (List.nil_sublist _)

/-- After turns at times that do not decrease, the entries stand in the order of their last
use, and none was used after the last turn. -/
theorem after (capacity : Nat) (ttl : Duration) {history : List (Turn ν)}
    (htimely : Timely history)
    (hpast : ∀ turn ∈ history, turn.now.nanoseconds ≤ now.nanoseconds) :
    Chronological now ((Cache.empty capacity ttl).after history) := by
  -- the last turn is made on a cache that was never used after it
  induction history using List.reverseRecOn generalizing now with
  | nil => exact .empty capacity ttl now
  | append_singleton history turn ih =>
    obtain ⟨hearlier, -, hlast⟩ := List.pairwise_append.mp htimely
    have hbefore := ih hearlier fun before hmem => hlast before hmem turn (by simp)
    rw [after_append]
    exact hbefore.apply.mono (hpast turn (by simp))

end Chronological

/-! ## Expiry -/

/-- An entry that was used earlier does not expire later. -/
theorem isExpired_of_used_le {older : Entry ν}
    (hused : older.used.nanoseconds ≤ entry.used.nanoseconds)
    (hexpired : cache.isExpired time entry = true) : cache.isExpired time older = true := by
  simp only [isExpired, decide_eq_true_eq] at *
  omega

/-! ## Single entries -/

/-- Without the entry of a key, the entries around it are left. -/
theorem Regular.others_of_split {capacity : Nat} {ttl : Duration}
    (hregular : Regular capacity ttl cache) {front back : List (Entry ν)}
    (hsplit : cache.entries = front ++ entry :: back) :
    cache.others entry.key = front ++ back := by
  have hdistinct := hregular.distinct
  rw [hsplit, List.map_append, List.map_cons, List.nodup_middle, List.nodup_cons,
    ← List.map_append] at hdistinct
  have hne : ∀ kept ∈ front ++ back, (kept.key != entry.key) = true := by
    intro kept hkept
    rw [bne_iff_ne]
    exact fun heq => hdistinct.1 (heq ▸ List.mem_map_of_mem hkept)
  rw [others, hsplit, List.filter_append, List.filter_cons, bne_self_eq_false]
  simp only [Bool.false_eq_true, if_false]
  rw [← List.filter_append, List.filter_eq_self.mpr hne]

/-- All entries have other keys than one that has no entry. -/
theorem others_of_absent (habsent : ∀ entry ∈ cache.entries, entry.key ≠ key) :
    cache.others key = cache.entries :=
  List.filter_eq_self.mpr fun entry hentry => bne_iff_ne.mpr (habsent entry hentry)

/-- A lookup of an expired entry removes it and changes nothing else. -/
theorem Regular.get_of_expired {capacity : Nat} {ttl : Duration}
    (hregular : Regular capacity ttl cache) {front back : List (Entry ν)}
    (hsplit : cache.entries = front ++ entry :: back)
    (hexpired : cache.isExpired now entry = true) :
    cache.get now entry.key = (none, { cache with entries := front ++ back }) := by
  have hentry : entry ∈ cache.entries := by simp [hsplit]
  rcases cache.get_cases now entry.key with
    ⟨habsent, -⟩ | ⟨found, hfound, hsame, ⟨-, hget⟩ | ⟨hlive, -⟩⟩
  · exact absurd rfl (habsent entry hentry)
  · rw [hget, erase, hregular.others_of_split hsplit]
  · rw [hregular.eq_of_key_eq hfound hentry hsame, hexpired] at hlive
    cases hlive

/-- Setting a key that has an entry replaces that entry alone. -/
theorem Regular.insert_of_present {capacity : Nat} {ttl : Duration}
    (hregular : Regular capacity ttl cache) {front back : List (Entry ν)}
    (hsplit : cache.entries = front ++ entry :: back) (now : Duration) (value : ν) :
    (cache.insert now entry.key value).entries = ⟨entry.key, value, now⟩ :: (front ++ back) := by
  have hfits : (⟨entry.key, value, now⟩ :: (front ++ back)).length ≤ cache.capacity := by
    have hroom := hregular.size_le
    rw [size, hsplit, List.length_append, List.length_cons] at hroom
    rw [hregular.limited.capacity, List.length_cons, List.length_append]
    omega
  rw [insert, hregular.others_of_split hsplit]
  exact List.take_of_length_le hfits

/-- While there is room, a new key makes no entry leave. -/
theorem Regular.insert_of_room {capacity : Nat} {ttl : Duration}
    (hregular : Regular capacity ttl cache) (hroom : cache.size < max 1 capacity)
    (habsent : ∀ entry ∈ cache.entries, entry.key ≠ key) (now : Duration) (value : ν) :
    (cache.insert now key value).entries = ⟨key, value, now⟩ :: cache.entries := by
  rw [insert, others_of_absent habsent]
  refine List.take_of_length_le ?_
  rw [hregular.limited.capacity]
  exact hroom

/-- For a new key in a full cache, the last entry leaves. -/
theorem Regular.insert_of_full {capacity : Nat} {ttl : Duration}
    (hregular : Regular capacity ttl cache) (hfull : cache.size = max 1 capacity)
    (habsent : ∀ entry ∈ cache.entries, entry.key ≠ key) (now : Duration) (value : ν) :
    ∃ kept oldest, cache.entries = kept ++ [oldest] ∧
      (cache.insert now key value).entries = ⟨key, value, now⟩ :: kept := by
  have hsome : cache.entries ≠ [] := by
    rintro hnil
    rw [size, hnil, List.length_nil] at hfull
    omega
  refine ⟨cache.entries.dropLast, cache.entries.getLast hsome,
    (List.dropLast_append_getLast hsome).symm, ?_⟩
  obtain ⟨room, hroom⟩ : ∃ room, max 1 capacity = room + 1 := ⟨max 1 capacity - 1, by omega⟩
  rw [insert, others_of_absent habsent, hregular.limited.capacity, List.dropLast_eq_take]
  rw [size, hroom] at hfull
  rw [hroom, hfull, List.take_succ_cons, Nat.add_sub_cancel]

/-! ## The law of eviction -/

/-- After turns at times that do not decrease, the entries stand in the order of their last
use.  For a new key in a full cache one entry leaves: no entry that remains was used before it,
and none has expired before it.  No entry leaves for a new key while there is room, nor for a
key that has an entry.  A lookup that meets an expired entry removes it and changes nothing
else. -/
theorem eviction_law (capacity : Nat) (ttl : Duration) {history : List (Turn ν)}
    (htimely : Timely history) :
    let cache : Cache ν := (empty capacity ttl).after history
    cache.Ordered ∧
    (∀ now key value, (∀ turn ∈ history, turn.now.nanoseconds ≤ now.nanoseconds) →
      cache.size = max 1 capacity → (∀ entry ∈ cache.entries, entry.key ≠ key) →
      ∃ kept evicted, cache.entries = kept ++ [evicted] ∧
        (cache.insert now key value).entries = ⟨key, value, now⟩ :: kept ∧
        ∀ entry ∈ (cache.insert now key value).entries,
          evicted.used.nanoseconds ≤ entry.used.nanoseconds ∧
          ∀ time, cache.isExpired time entry = true → cache.isExpired time evicted = true) ∧
    (∀ now key value, cache.size < max 1 capacity →
      (∀ entry ∈ cache.entries, entry.key ≠ key) →
      (cache.insert now key value).entries = ⟨key, value, now⟩ :: cache.entries) ∧
    (∀ now value front entry back, cache.entries = front ++ entry :: back →
      (cache.insert now entry.key value).entries =
        ⟨entry.key, value, now⟩ :: (front ++ back)) ∧
    (∀ now front entry back, cache.entries = front ++ entry :: back →
      cache.isExpired now entry = true →
      cache.get now entry.key = (none, { cache with entries := front ++ back })) := by
  intro cache
  have hregular : Regular capacity ttl cache := (Regular.empty capacity ttl).after history
  refine ⟨?_, ?_, ?_, ?_, ?_⟩
  · obtain ⟨now, hpast⟩ := exists_end htimely
    exact (Chronological.after capacity ttl htimely hpast).ordered
  · intro now key value hpast hfull habsent
    obtain ⟨kept, evicted, hsplit, hinsert⟩ :=
      hregular.insert_of_full hfull habsent now value
    refine ⟨kept, evicted, hsplit, hinsert, ?_⟩
    have hcache : Chronological now cache := .after capacity ttl htimely hpast
    have hordered := hcache.ordered
    rw [Ordered, hsplit] at hordered
    intro entry hentry
    rw [hinsert] at hentry
    have hused : evicted.used.nanoseconds ≤ entry.used.nanoseconds := by
      rcases List.mem_cons.mp hentry with rfl | hkept
      · exact hcache.past evicted (by simp [hsplit])
      · exact (List.pairwise_append.mp hordered).2.2 entry hkept evicted (by simp)
    exact ⟨hused, fun time => isExpired_of_used_le hused⟩
  · intro now key value hroom habsent
    exact hregular.insert_of_room hroom habsent now value
  · intro now value front entry back hsplit
    exact hregular.insert_of_present hsplit now value
  · intro now front entry back hsplit hexpired
    exact hregular.get_of_expired hsplit hexpired

/-- Two keys are set one after the other, and then the first of them is asked for. -/
def twoKeys : List (Turn Nat) :=
  [⟨⟨1⟩, .insert "a" 1⟩, ⟨⟨4⟩, .insert "b" 2⟩, ⟨⟨9⟩, .get "a"⟩]

/-- After these turns on a cache for two keys, the second key makes room for a third one.  It
may have expired by then, while the first one has not. -/
theorem eviction_law_twoKeys :
    let cache : Cache Nat := (empty 2 ⟨10⟩).after twoKeys
    Timely twoKeys ∧ cache.entries = [⟨"a", 1, ⟨9⟩⟩, ⟨"b", 2, ⟨4⟩⟩] ∧ cache.Ordered ∧
      (∀ entry ∈ (cache.insert ⟨15⟩ "c" 3).entries, 4 ≤ entry.used.nanoseconds) ∧
      (cache.insert ⟨15⟩ "c" 3).entries = [⟨"c", 3, ⟨15⟩⟩, ⟨"a", 1, ⟨9⟩⟩] ∧
      cache.isExpired ⟨15⟩ ⟨"a", 1, ⟨9⟩⟩ = false ∧ cache.isExpired ⟨15⟩ ⟨"b", 2, ⟨4⟩⟩ = true := by
  intro cache
  have htimely : Timely twoKeys := by simp [Timely, twoKeys]
  have hentries : cache.entries = [⟨"a", 1, ⟨9⟩⟩, ⟨"b", 2, ⟨4⟩⟩] := by rfl
  have habsent : ∀ entry ∈ cache.entries, entry.key ≠ "c" := by simp [hentries]
  obtain ⟨hordered, hfull, -⟩ := eviction_law 2 ⟨10⟩ htimely
  obtain ⟨kept, evicted, hsplit, -, hused⟩ :=
    hfull ⟨15⟩ "c" 3 (by simp [twoKeys]) (by rfl) habsent
  have hevicted : evicted = ⟨"b", 2, ⟨4⟩⟩ := by
    have hlast := congrArg List.getLast? hsplit
    simpa using hlast.symm.trans (congrArg List.getLast? hentries)
  refine ⟨htimely, hentries, hordered, ?_, by rfl, by decide, by decide⟩
  intro entry hentry
  have hlater := (hused entry hentry).1
  rwa [hevicted] at hlater

end Cache
end ChefAccess
