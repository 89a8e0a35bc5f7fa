import ChefAccess.Proofs.Cache
import Mathlib.Data.Finset.Card

/-!
# The history of a cache

What a cache answers is a matter of its history alone.  A key is found exactly for the value
that was set last, as long as nobody dropped it, nobody left it alone for the time to live, and
no crowd of other keys pushed it out in between.

A gap of a key lies between two turns that ask for it or set it, with no such turn in between.
Its span is the time from the first of them to the second, and it is zero where the clock went
backwards; at times that do not decrease it is their difference.

Main definitions:

- {lit}`Cache.Turn` and {lit}`Cache.after`: the operations on a cache, and what they lead to.
- {lit}`Cache.touched`: the keys that are set or found, turn by turn.
- {lit}`Cache.Latest`: the insertion of a key that a history leaves in force.
- {lit}`Cache.Gap`: the time between two uses of a key, with the crowd in between.
- {lit}`Cache.Regular`: the keys differ and there is room for them.

Main results:

- Theorem {lit}`Cache.Regular.after`: a cache is regular after every history.
- Theorem {lit}`Cache.exists_latest_of_holds`: what is held was set by the latest insertion.
- Theorem {lit}`Cache.Front.after`: an entry keeps its place while the crowd is small.
- Theorem {lit}`Cache.history_law`: which keys are found after a history, and with what value.
-/

namespace ChefAccess
namespace Cache

variable {ν : Type}

/-! ## Histories -/

/-- What is asked of a cache. -/
inductive Call (ν : Type) where
  | get (key : String)
  | insert (key : String) (value : ν)
  | erase (key : String)
  | clear

/-- The key that a call asks for or sets. -/
def Call.subject? : Call ν → Option String
  | .get key | .insert key _ => some key
  | .erase _ | .clear => none

/-- A call drops a key on purpose. -/
def Call.Drops (key : String) (call : Call ν) : Prop :=
  call = .erase key ∨ call = .clear

/-- A call that uses a key without setting it asks for it. -/
theorem eq_get_of_subject? {call : Call ν} {key : String} (huses : call.subject? = some key)
    (hset : ∀ v, call ≠ .insert key v) : call = .get key := by
  cases call with
  | get other => simpa [Call.subject?] using huses
  | insert other v =>
    obtain rfl : other = key := by simpa [Call.subject?] using huses
    exact absurd rfl (hset v)
  | erase other => cases huses
  | clear => cases huses

/-- A call at a time. -/
structure Turn (ν : Type) where
  now : Duration
  call : Call ν

/-- The cache after a turn. -/
def Turn.apply (turn : Turn ν) (cache : Cache ν) : Cache ν :=
  match turn.call with
  | .get key => (cache.get turn.now key).2
  | .insert key value => cache.insert turn.now key value
  | .erase key => cache.erase key
  | .clear => cache.clear

/-- The key that a turn touches: the one that it sets or finds. -/
def Turn.touched? (turn : Turn ν) (cache : Cache ν) : Option String :=
  match turn.call with
  | .get key => (cache.get turn.now key).1.map fun _ => key
  | .insert key _ => some key
  | .erase _ | .clear => none

/-- The cache after some turns. -/
def after (start : Cache ν) (turns : List (Turn ν)) : Cache ν :=
  turns.foldl (fun cache turn => turn.apply cache) start

/-- The keys that some turns touch. -/
def touched (start : Cache ν) : List (Turn ν) → List String
  | [] => []
  | turn :: turns => (turn.touched? start).toList ++ touched (turn.apply start) turns

@[simp]
theorem after_nil (start : Cache ν) : after start [] = start :=
  rfl

@[simp]
theorem after_cons (start : Cache ν) (turn : Turn ν) (turns : List (Turn ν)) :
    after start (turn :: turns) = after (turn.apply start) turns :=
  rfl

@[simp]
theorem after_append (start : Cache ν) (turns more : List (Turn ν)) :
    after start (turns ++ more) = after (after start turns) more :=
  List.foldl_append

/-- A turn touches no key but the one that its call uses. -/
theorem Turn.subject?_of_touched? {turn : Turn ν} {cache : Cache ν} {key : String}
    (htouched : key ∈ turn.touched? cache) : turn.call.subject? = some key := by
  rcases turn with ⟨now, call⟩
  cases call with
  | get other =>
    obtain ⟨-, -, rfl⟩ := Option.map_eq_some_iff.mp htouched
    rfl
  | insert other value => exact htouched
  | erase other => cases htouched
  | clear => cases htouched

/-- Each turn touches one key at most. -/
theorem card_touched_le (start : Cache ν) (turns : List (Turn ν)) :
    (start.touched turns).toFinset.card ≤ turns.length := by
  refine (List.toFinset_card_le _).trans ?_
  induction turns generalizing start with
  | nil => exact Nat.le_refl 0
  | cons turn turns ih =>
    have hone : (turn.touched? start).toList.length ≤ 1 := by
      cases turn.touched? start <;> simp
    have hlater := ih (turn.apply start)
    rw [touched, List.length_append, List.length_cons]
    omega

/-- Turns that use other keys do not touch a key. -/
theorem not_mem_touched {key : String} {turns : List (Turn ν)} (start : Cache ν)
    (hunused : ∀ turn ∈ turns, turn.call.subject? ≠ some key) :
    key ∉ start.touched turns := by
  induction turns generalizing start with
  | nil => exact List.not_mem_nil
  | cons turn turns ih =>
    rw [List.forall_mem_cons] at hunused
    intro hmem
    rcases List.mem_append.mp hmem with hfirst | hlater
    · exact hunused.1 (Turn.subject?_of_touched? (Option.mem_toList.mp hfirst))
    · exact ih (turn.apply start) hunused.2 hlater

/-- The insertion of a key that a history leaves in force: the key was neither set nor dropped
by any turn after it. -/
structure Latest (key : String) (value : ν) (history before : List (Turn ν)) (start : Duration)
    (rest : List (Turn ν)) : Prop where
  split : history = before ++ ⟨start, .insert key value⟩ :: rest
  latest : ∀ turn ∈ rest, ∀ v, turn.call ≠ .insert key v
  kept : ∀ turn ∈ rest, ¬ turn.call.Drops key

/-- The turns from an insertion on, up to a lookup. -/
def spell (inserted : Duration) (key : String) (value : ν) (rest : List (Turn ν))
    (now : Duration) : List (Turn ν) :=
  ⟨inserted, .insert key value⟩ :: (rest ++ [⟨now, .get key⟩])

/-- Two turns that ask for a key or set it, with no such turn between them. -/
structure Gap (key : String) (turns : List (Turn ν)) where
  before : List (Turn ν)
  opening : Turn ν
  between : List (Turn ν)
  closing : Turn ν
  later : List (Turn ν)
  split : turns = before ++ opening :: (between ++ closing :: later)
  opens : opening.call.subject? = some key
  closes : closing.call.subject? = some key
  unused : ∀ turn ∈ between, turn.call.subject? ≠ some key

namespace Gap

variable {key : String} {turns : List (Turn ν)}

/-- The time in which a key is left alone. -/
def span (gap : Gap key turns) : Nat :=
  gap.closing.now.nanoseconds - gap.opening.now.nanoseconds

/-- The number of different keys that are touched in a gap of turns on a cache. -/
def crowd (gap : Gap key turns) (start : Cache ν) : Nat :=
  (touched (after start (gap.before ++ [gap.opening])) gap.between).toFinset.card

/-- The crowd of a gap are other keys. -/
theorem not_mem_crowd (gap : Gap key turns) (start : Cache ν) :
    key ∉ (touched (after start (gap.before ++ [gap.opening])) gap.between).toFinset := by
  rw [List.mem_toFinset]
  exact not_mem_touched _ gap.unused

/-- The turns after the opening of a gap are not the first of all turns. -/
theorem mem_of_mem_split {first : Turn ν} {rest : List (Turn ν)} (gap : Gap key (first :: rest))
    {turn : Turn ν} (hturn : turn ∈ gap.between ++ gap.closing :: gap.later) : turn ∈ rest := by
  have hsplit := gap.split
  cases hbefore : gap.before with
  | nil =>
    rw [hbefore, List.nil_append] at hsplit
    rwa [(List.cons.inj hsplit).2]
  | cons _ before =>
    rw [hbefore, List.cons_append] at hsplit
    rw [(List.cons.inj hsplit).2]
    exact List.mem_append_right before (List.mem_cons_of_mem gap.opening hturn)

/-- A gap of the turns that follow some others is a gap. -/
def shift (gap : Gap key turns) {all : List (Turn ν)} (earlier : List (Turn ν))
    (hall : all = earlier ++ turns) : Gap key all where
  before := earlier ++ gap.before
  opening := gap.opening
  between := gap.between
  closing := gap.closing
  later := gap.later
  split := by rw [hall, List.append_assoc, ← gap.split]
  opens := gap.opens
  closes := gap.closes
  unused := gap.unused

/-- A gap is as long as before when others precede it. -/
@[simp]
theorem span_shift (gap : Gap key turns) {all : List (Turn ν)} (earlier : List (Turn ν))
    (hall : all = earlier ++ turns) : (gap.shift earlier hall).span = gap.span :=
  rfl

/-- The crowd of a gap is the one of the cache that its turns start with. -/
@[simp]
theorem crowd_shift (gap : Gap key turns) {all : List (Turn ν)} (earlier : List (Turn ν))
    (hall : all = earlier ++ turns) (start : Cache ν) :
    (gap.shift earlier hall).crowd start = gap.crowd (after start earlier) := by
  simp [crowd, shift]

end Gap

/-! ## Single operations -/

variable {cache : Cache ν} {now : Duration} {key other : String} {value held : ν}
  {entry : Entry ν} {turn : Turn ν} {turns history : List (Turn ν)}

/-- The entries with other keys stand in their old order. -/
theorem others_sublist (cache : Cache ν) (key : String) :
    (cache.others key).Sublist cache.entries :=
  List.filter_sublist

/-- No entry among the others has the key. -/
theorem key_ne_of_mem_others (hentry : entry ∈ cache.others key) : entry.key ≠ key := by
  simpa using (List.mem_filter.mp hentry).2

/-- The three ends of a lookup: there is no entry, the entry has expired and is dropped, or it
is found and moves to the head. -/
theorem get_cases (cache : Cache ν) (now : Duration) (key : String) :
    ((∀ entry ∈ cache.entries, entry.key ≠ key) ∧ cache.get now key = (none, cache)) ∨
      ∃ entry ∈ cache.entries, entry.key = key ∧
        ((cache.isExpired now entry = true ∧ cache.get now key = (none, cache.erase key)) ∨
          (cache.isExpired now entry = false ∧
            cache.get now key = (some entry.value,
              { cache with entries := { entry with used := now } :: cache.others key }))) := by
  cases hfind : cache.entries.find? (·.key == key) with
  | none =>
    refine Or.inl ⟨?_, by rw [get, hfind]⟩
    intro entry hentry
    simpa using List.find?_eq_none.mp hfind entry hentry
  | some entry =>
    refine Or.inr ⟨entry, List.mem_of_find?_eq_some hfind, ?_, ?_⟩
    · simpa using List.find?_some hfind
    · cases hexpired : cache.isExpired now entry with
      | true => exact Or.inl ⟨rfl, by simp [get, hfind, hexpired]⟩
      | false => exact Or.inr ⟨rfl, by simp [get, hfind, hexpired]⟩

/-- Whether an entry has expired is a matter of the time since its last use. -/
theorem isExpired_eq_false_iff :
    cache.isExpired now entry = false ↔
      now.nanoseconds - entry.used.nanoseconds < cache.ttl.nanoseconds := by
  simp [isExpired]

/-- What is found was held and has not expired. -/
theorem live_of_get (hget : (cache.get now key).1 = some value) :
    ∃ entry ∈ cache.entries, entry.key = key ∧ cache.isExpired now entry = false := by
  rcases cache.get_cases now key with
    ⟨-, hends⟩ | ⟨entry, hentry, hkey, ⟨-, hends⟩ | ⟨hlive, -⟩⟩
  · simp [hends] at hget
  · simp [hends] at hget
  · exact ⟨entry, hentry, hkey, hlive⟩

/-- A key that is held after a lookup was found by it. -/
theorem get_of_holds_get (hholds : (cache.get now key).2.Holds key value) :
    (cache.get now key).1 = some value := by
  obtain ⟨found, hfound, hkey, rfl⟩ := hholds
  rcases cache.get_cases now key with ⟨habsent, hget⟩ | ⟨entry, -, -, ⟨-, hget⟩ | ⟨-, hget⟩⟩
  · rw [hget] at hfound
    exact absurd hkey (habsent found hfound)
  · rw [hget] at hfound
    exact absurd hkey (key_ne_of_mem_others hfound)
  · rw [hget] at hfound ⊢
    rcases List.mem_cons.mp hfound with rfl | hothers
    · rfl
    · exact absurd hkey (key_ne_of_mem_others hothers)

/-- What was found is held after the lookup. -/
theorem holds_get_of_get (hget : (cache.get now key).1 = some value) :
    (cache.get now key).2.Holds key value := by
  rcases cache.get_cases now key with
    ⟨-, hends⟩ | ⟨entry, -, hkey, ⟨-, hends⟩ | ⟨-, hends⟩⟩
  · simp [hends] at hget
  · simp [hends] at hget
  · rw [hends] at hget ⊢
    exact ⟨_, List.mem_cons_self, hkey, Option.some.inj hget⟩

/-- A lookup that is repeated at once finds the same, and leaves the same cache. -/
theorem get_get (cache : Cache ν) (now : Duration) (key : String) :
    (cache.get now key).2.get now key = cache.get now key := by
  rcases cache.get_cases now key with
    ⟨-, hends⟩ | ⟨entry, -, hkey, ⟨-, hends⟩ | ⟨hlive, hends⟩⟩
  · rw [hends, hends]
  · rw [hends]
    refine get_of_not_holds ?_
    rintro v ⟨kept, hkept, hsame, -⟩
    exact key_ne_of_mem_others hkept hsame
  · -- the entry has just been used, so it has not expired
    have hshort : ¬ cache.ttl.nanoseconds = 0 := by
      rw [isExpired_eq_false_iff] at hlive
      omega
    rw [hends]
    simp [get, isExpired, others, hkey, hshort]

/-- A lookup does not change what is found under other keys. -/
theorem get_get_of_ne (cache : Cache ν) (now later : Duration) (hne : other ≠ key) :
    ((cache.get now key).2.get later other).1 = (cache.get later other).1 := by
  have hothers := cache.find?_others_of_ne hne
  rcases cache.get_cases now key with
    ⟨-, hends⟩ | ⟨entry, -, hkey, ⟨-, hends⟩ | ⟨-, hends⟩⟩
  · rw [hends]
  · rw [hends]
    exact get_fst_congr rfl hothers
  · have hskip : (entry.key == other) = false := by
      rw [hkey]
      exact beq_false_of_ne (Ne.symm hne)
    rw [hends]
    refine get_fst_congr rfl ?_
    rw [List.find?_cons, hskip]
    exact hothers

/-- A key holds the value that it was just set to. -/
theorem eq_of_holds_insert (hholds : (cache.insert now key value).Holds key held) :
    held = value := by
  obtain ⟨found, hfound, hkey, rfl⟩ := hholds
  rcases List.mem_cons.mp (List.mem_of_mem_take hfound) with rfl | hothers
  · rfl
  · exact absurd hkey (key_ne_of_mem_others hothers)

/-- A turn keeps the limits of a cache. -/
theorem Limited.apply {capacity : Nat} {ttl : Duration} (hlimited : cache.Limited capacity ttl)
    (turn : Turn ν) : (turn.apply cache).Limited capacity ttl := by
  rcases turn with ⟨now, call⟩
  cases call with
  | get key =>
    rcases cache.get_cases now key with ⟨-, hget⟩ | ⟨entry, -, -, ⟨-, hget⟩ | ⟨-, hget⟩⟩
    · simpa only [Turn.apply, hget] using hlimited
    · simp only [Turn.apply, hget]
      exact hlimited.withEntries _
    · simp only [Turn.apply, hget]
      exact hlimited.withEntries _
  | insert key value => exact hlimited.withEntries _
  | erase key => exact hlimited.withEntries _
  | clear => exact hlimited.withEntries _

/-- All turns keep the limits of a cache. -/
theorem Limited.after {capacity : Nat} {ttl : Duration} (hlimited : cache.Limited capacity ttl)
    (turns : List (Turn ν)) : (cache.after turns).Limited capacity ttl := by
  induction turns generalizing cache with
  | nil => exact hlimited
  | cons turn turns ih => exact ih (hlimited.apply turn)

/-! ## Regular caches -/

/-- A cache of the given limits is regular: its keys differ, and there is room for them. -/
structure Regular (capacity : Nat) (ttl : Duration) (cache : Cache ν) : Prop where
  limited : cache.Limited capacity ttl
  distinct : (cache.entries.map Entry.key).Nodup
  size_le : cache.size ≤ max 1 capacity

section Regular

variable {capacity : Nat} {ttl : Duration}

/-- The empty cache is regular. -/
theorem Regular.empty (capacity : Nat) (ttl : Duration) :
    Regular capacity ttl (.empty capacity ttl : Cache ν) :=
  ⟨⟨rfl, rfl⟩, List.nodup_nil, Nat.zero_le _⟩

/-- A cache stays regular when entries are dropped. -/
theorem Regular.withEntries (hregular : Regular capacity ttl cache) {entries : List (Entry ν)}
    (hentries : entries.Sublist cache.entries) :
    Regular capacity ttl { cache with entries } :=
  ⟨hregular.limited.withEntries entries,
    hregular.distinct.sublist (hentries.map Entry.key),
    hentries.length_le.trans hregular.size_le⟩

/-- The keys still differ when an entry of a key is put before the entries with other keys. -/
theorem Regular.nodup_cons_others (hregular : Regular capacity ttl cache)
    (hkey : entry.key = key) : ((entry :: cache.others key).map Entry.key).Nodup := by
  refine List.nodup_cons.mpr ⟨?_, hregular.distinct.sublist ((cache.others_sublist key).map _)⟩
  intro hmem
  obtain ⟨kept, hkept, hsame⟩ := List.mem_map.mp hmem
  exact key_ne_of_mem_others hkept (hsame.trans hkey)

/-- There is one entry for a key at most. -/
theorem Regular.eq_of_key_eq (hregular : Regular capacity ttl cache) {entry entry' : Entry ν}
    (hentry : entry ∈ cache.entries) (hentry' : entry' ∈ cache.entries)
    (hkey : entry.key = entry'.key) : entry = entry' :=
  List.inj_on_of_nodup_map hregular.distinct hentry hentry' hkey

/-- A cache stays regular, whatever is asked of it. -/
theorem Regular.apply (hregular : Regular capacity ttl cache) (turn : Turn ν) :
    Regular capacity ttl (turn.apply cache) := by
  have hlimited := hregular.limited.apply turn
  rcases turn with ⟨now, call⟩
  cases call with
  | get key =>
    rcases cache.get_cases now key with
      ⟨-, hget⟩ | ⟨entry, hentry, hkey, ⟨-, hget⟩ | ⟨-, hget⟩⟩
    · simpa [Turn.apply, hget] using hregular
    · simp only [Turn.apply, hget]
      exact hregular.withEntries (cache.others_sublist key)
    · simp only [Turn.apply, hget] at hlimited ⊢
      refine ⟨hlimited, hregular.nodup_cons_others hkey, ?_⟩
      -- the entry that moves to the head has left its old place
      have hshorter : (cache.others key).length < cache.entries.length :=
        List.length_filter_lt_length_iff_exists.mpr ⟨entry, hentry, by simp [hkey]⟩
      exact hshorter.trans_le hregular.size_le
  | insert key value =>
    refine ⟨hlimited, ?_, (length_insert_le cache now key value).trans_eq hregular.limited.capacity⟩
    exact (hregular.nodup_cons_others rfl).sublist ((List.take_sublist _ _).map Entry.key)
  | erase key => exact hregular.withEntries (cache.others_sublist key)
  | clear => exact hregular.withEntries (List.nil_sublist _)

/-- A cache is regular after every history. -/
theorem Regular.after (hregular : Regular capacity ttl cache) (turns : List (Turn ν)) :
    Regular capacity ttl (cache.after turns) := by
  induction turns generalizing cache with
  | nil => exact hregular
  | cons turn turns ih => exact ih (hregular.apply turn)

/-- A key is found exactly if its entry has not expired. -/
theorem Regular.get_eq_some_iff (hregular : Regular capacity ttl cache)
    (hentry : entry ∈ cache.entries) (hkey : entry.key = key) :
    (cache.get now key).1 = some value ↔
      cache.isExpired now entry = false ∧ entry.value = value := by
  rcases cache.get_cases now key with
    ⟨habsent, -⟩ | ⟨found, hfound, hsame, ⟨hexpired, hget⟩ | ⟨hlive, hget⟩⟩
  · exact absurd hkey (habsent entry hentry)
  · obtain rfl := hregular.eq_of_key_eq hentry hfound (hkey.trans hsame.symm)
    simp [hget, hexpired]
  · obtain rfl := hregular.eq_of_key_eq hentry hfound (hkey.trans hsame.symm)
    simp [hget, hlive]

end Regular

/-! ## Where the entries come from -/

/-- A turn that does not set a key leaves no value for it that was not there before, and none
at all if it drops the key. -/
theorem holds_of_holds_apply (hholds : (turn.apply cache).Holds key value)
    (hset : ∀ v, turn.call ≠ .insert key v) :
    cache.Holds key value ∧ ¬ turn.call.Drops key := by
  rcases turn with ⟨now, call⟩
  cases call with
  | get other => exact ⟨holds_of_holds_get hholds, by simp [Call.Drops]⟩
  | insert other v =>
    refine ⟨?_, by simp [Call.Drops]⟩
    rcases holds_of_holds_insert hholds with hbefore | ⟨rfl, rfl⟩
    · exact hbefore
    · exact absurd rfl (hset value)
  | erase other =>
    obtain ⟨entry, hentry, hkey, hvalue⟩ := hholds
    refine ⟨⟨entry, mem_of_mem_others hentry, hkey, hvalue⟩, ?_⟩
    have hne : entry.key ≠ other := key_ne_of_mem_others hentry
    rintro (hdrop | hdrop)
    · cases hdrop
      exact hne hkey
    · cases hdrop
  | clear => exact absurd hholds (cache.not_holds_clear key value)

/-- Turns that do not set a key leave no value for it that was not there before. -/
theorem holds_of_holds_after (hholds : (cache.after turns).Holds key value)
    (hset : ∀ turn ∈ turns, ∀ v, turn.call ≠ .insert key v) : cache.Holds key value := by
  induction turns generalizing cache with
  | nil => exact hholds
  | cons turn turns ih =>
    have hlater := ih hholds fun later hmem => hset later (List.mem_cons_of_mem turn hmem)
    exact (holds_of_holds_apply hlater (hset turn List.mem_cons_self)).1

/-- What is held after a history was set by the latest insertion, or it was held from the
start. -/
theorem exists_latest_of_holds (hholds : (cache.after history).Holds key value) :
    (∃ before start rest, Latest key value history before start rest) ∨
      (cache.Holds key value ∧ (∀ turn ∈ history, ∀ v, turn.call ≠ .insert key v) ∧
        ∀ turn ∈ history, ¬ turn.call.Drops key) := by
  induction history generalizing cache with
  | nil => exact Or.inr ⟨hholds, by simp, by simp⟩
  | cons turn history ih =>
    rcases ih hholds with ⟨before, start, rest, hlatest⟩ | ⟨hlater, hset, hkept⟩
    · refine Or.inl ⟨turn :: before, start, rest, ?_, hlatest.latest, hlatest.kept⟩
      rw [hlatest.split]
      rfl
    · by_cases hsets : ∃ v, turn.call = .insert key v
      · -- the first turn is the latest insertion
        obtain ⟨v, hcall⟩ := hsets
        rcases turn with ⟨start, call⟩
        obtain rfl : call = .insert key v := hcall
        obtain rfl := eq_of_holds_insert hlater
        exact Or.inl ⟨[], start, history, rfl, hset, hkept⟩
      · have hnot : ∀ v, turn.call ≠ .insert key v := fun v hcall => hsets ⟨v, hcall⟩
        obtain ⟨hbefore, hdrops⟩ := holds_of_holds_apply hlater hnot
        exact Or.inr ⟨hbefore, List.forall_mem_cons.mpr ⟨hnot, hset⟩,
          List.forall_mem_cons.mpr ⟨hdrops, hkept⟩⟩

/-- A turn that uses another key leaves no entry for a key that was not there before. -/
theorem mem_of_mem_apply (hentry : entry ∈ (turn.apply cache).entries)
    (hunused : turn.call.subject? ≠ some entry.key) : entry ∈ cache.entries := by
  rcases turn with ⟨now, call⟩
  cases call with
  | get other =>
    rcases cache.get_cases now other with
      ⟨-, hget⟩ | ⟨found, -, hkey, ⟨-, hget⟩ | ⟨-, hget⟩⟩
    · simpa [Turn.apply, hget] using hentry
    · simp only [Turn.apply, hget] at hentry
      exact mem_of_mem_others hentry
    · simp only [Turn.apply, hget] at hentry
      rcases List.mem_cons.mp hentry with rfl | hothers
      · simp [Call.subject?, hkey] at hunused
      · exact mem_of_mem_others hothers
  | insert other v =>
    rcases List.mem_cons.mp (List.mem_of_mem_take hentry) with rfl | hothers
    · simp [Call.subject?] at hunused
    · exact mem_of_mem_others hothers
  | erase other => exact mem_of_mem_others hentry
  | clear => cases hentry

/-- Turns that use other keys leave no entry for a key that was not there before. -/
theorem mem_of_mem_after (hentry : entry ∈ (cache.after turns).entries)
    (hunused : ∀ turn ∈ turns, turn.call.subject? ≠ some entry.key) :
    entry ∈ cache.entries := by
  induction turns generalizing cache with
  | nil => exact hentry
  | cons turn turns ih =>
    have hlater := ih hentry fun later hmem => hunused later (List.mem_cons_of_mem turn hmem)
    exact mem_of_mem_apply hlater (hunused turn List.mem_cons_self)

/-- An entry of a key was used last by the turn that used the key. -/
theorem used_of_mem_apply (hentry : entry ∈ (turn.apply cache).entries)
    (hused : turn.call.subject? = some entry.key) : entry.used = turn.now := by
  rcases turn with ⟨now, call⟩
  cases call with
  | get other =>
    obtain rfl : other = entry.key := by simpa [Call.subject?] using hused
    rcases cache.get_cases now entry.key with
      ⟨habsent, hget⟩ | ⟨found, -, hkey, ⟨-, hget⟩ | ⟨-, hget⟩⟩
    · simp only [Turn.apply, hget] at hentry
      exact absurd rfl (habsent entry hentry)
    · simp only [Turn.apply, hget] at hentry
      exact absurd rfl (key_ne_of_mem_others hentry)
    · simp only [Turn.apply, hget] at hentry
      rcases List.mem_cons.mp hentry with heq | hothers
      · rw [heq]
      · exact absurd rfl (key_ne_of_mem_others hothers)
  | insert other v =>
    obtain rfl : other = entry.key := by simpa [Call.subject?] using hused
    rcases List.mem_cons.mp (List.mem_of_mem_take hentry) with heq | hothers
    · rw [heq]
    · exact absurd rfl (key_ne_of_mem_others hothers)
  | erase other => simp [Call.subject?] at hused
  | clear => simp [Call.subject?] at hused

/-! ## What keeps its place -/

/-- An entry stands behind entries with some keys only. -/
def Front (keys : Finset String) (entry : Entry ν) (cache : Cache ν) : Prop :=
  ∃ front back, cache.entries = front ++ entry :: back ∧ ∀ ahead ∈ front, ahead.key ∈ keys

section Front

variable {capacity : Nat} {ttl : Duration} {keys : Finset String}

theorem Front.mem (hfront : Front keys entry cache) : entry ∈ cache.entries := by
  obtain ⟨front, back, hsplit, -⟩ := hfront
  simp [hsplit]

/-- An entry keeps its place when an entry with another key is dropped. -/
theorem Front.others (hfront : Front keys entry cache) (hne : entry.key ≠ key) :
    ∃ front back, cache.others key = front ++ entry :: back ∧
      ∀ ahead ∈ front, ahead.key ∈ keys := by
  obtain ⟨front, back, hsplit, hahead⟩ := hfront
  refine ⟨front.filter (·.key != key), back.filter (·.key != key), ?_, ?_⟩
  · simp [Cache.others, hsplit, hne]
  · intro ahead hmem
    exact hahead ahead (List.mem_filter.mp hmem).1

/-- There are at most as many entries ahead of an entry as there are keys for them. -/
theorem length_le_card {front back : List (Entry ν)}
    (hdistinct : ((front ++ back).map Entry.key).Nodup)
    (hahead : ∀ ahead ∈ front, ahead.key ∈ keys) : front.length ≤ keys.card := by
  have hnodup : (front.map Entry.key).Nodup := by
    rw [List.map_append] at hdistinct
    exact hdistinct.of_append_left
  have hsubset : (front.map Entry.key).toFinset ⊆ keys := by
    intro key hkey
    obtain ⟨ahead, hmem, rfl⟩ := List.mem_map.mp (List.mem_toFinset.mp hkey)
    exact hahead ahead hmem
  calc front.length = (front.map Entry.key).toFinset.card := by
        rw [List.toFinset_card_of_nodup hnodup, List.length_map]
    _ ≤ keys.card := Finset.card_le_card hsubset

/-- A turn that neither uses a key nor drops it leaves its entry in place, as long as all keys
that may be ahead of it fit into the cache. -/
theorem Front.apply (hfront : Front keys entry cache) (hregular : Regular capacity ttl cache)
    (hfits : keys.card < max 1 capacity) (hunused : turn.call.subject? ≠ some entry.key)
    (hkept : ¬ turn.call.Drops entry.key) (htouched : ∀ key ∈ turn.touched? cache, key ∈ keys) :
    Front keys entry (turn.apply cache) := by
  rcases turn with ⟨now, call⟩
  cases call with
  | get other =>
    have hne : entry.key ≠ other := fun heq => hunused (by rw [heq]; rfl)
    rcases cache.get_cases now other with
      ⟨-, hget⟩ | ⟨found, -, hkey, ⟨-, hget⟩ | ⟨-, hget⟩⟩
    · simpa [Turn.apply, hget] using hfront
    · simp only [Turn.apply, hget]
      exact hfront.others hne
    · simp only [Turn.apply, hget]
      obtain ⟨front, back, hsplit, hahead⟩ := hfront.others hne
      have hnew : found.key ∈ keys := htouched _ (by simp [Turn.touched?, hget, hkey])
      exact ⟨{ found with used := now } :: front, back, by simp [hsplit],
        List.forall_mem_cons.mpr ⟨hnew, hahead⟩⟩
  | insert other v =>
    have hne : entry.key ≠ other := fun heq => hunused (by rw [heq]; rfl)
    obtain ⟨front, back, hsplit, hahead⟩ := hfront.others hne
    have hnew : ∀ ahead ∈ (⟨other, v, now⟩ :: front : List (Entry ν)), ahead.key ∈ keys :=
      List.forall_mem_cons.mpr ⟨htouched other (by simp [Turn.touched?]), hahead⟩
    have hdistinct : ((⟨other, v, now⟩ :: cache.others other).map Entry.key).Nodup :=
      hregular.nodup_cons_others rfl
    rw [hsplit, ← List.cons_append] at hdistinct
    -- the entry is not among those that are cut off
    have hlength := length_le_card hdistinct hnew
    have hroom : (⟨other, v, now⟩ :: front).length < cache.capacity := by
      rw [hregular.limited.capacity]
      exact hlength.trans_lt hfits
    obtain ⟨room, hroom⟩ := Nat.exists_eq_add_of_lt hroom
    refine ⟨⟨other, v, now⟩ :: front, back.take room, ?_, hnew⟩
    simp only [Turn.apply, insert, hsplit]
    rw [hroom, ← List.cons_append, Nat.add_assoc, List.take_length_add_append,
      List.take_succ_cons]
  | erase other =>
    have hne : entry.key ≠ other := by
      rintro rfl
      exact hkept (Or.inl rfl)
    exact hfront.others hne
  | clear => exact absurd (Or.inr rfl) hkept

/-- Turns that neither use a key nor drop it leave its entry in place, as long as all keys that
may be ahead of it fit into the cache. -/
theorem Front.after (hfront : Front keys entry cache) (hregular : Regular capacity ttl cache)
    (hfits : keys.card < max 1 capacity)
    (hunused : ∀ turn ∈ turns, turn.call.subject? ≠ some entry.key)
    (hkept : ∀ turn ∈ turns, ¬ turn.call.Drops entry.key)
    (htouched : ∀ key ∈ cache.touched turns, key ∈ keys) :
    Front keys entry (cache.after turns) := by
  induction turns generalizing cache with
  | nil => exact hfront
  | cons turn turns ih =>
    rw [List.forall_mem_cons] at hunused hkept
    have hfirst : ∀ key ∈ turn.touched? cache, key ∈ keys := by
      intro key hkey
      exact htouched key (List.mem_append_left _ (Option.mem_toList.mpr hkey))
    have hlater : ∀ key ∈ (turn.apply cache).touched turns, key ∈ keys := by
      intro key hkey
      exact htouched key (List.mem_append_right _ hkey)
    exact ih (hfront.apply hregular hfits hunused.1 hkept.1 hfirst) (hregular.apply turn)
      hunused.2 hkept.2 hlater

/-- The entry that was just set stands at the head. -/
theorem front_insert (cache : Cache ν) (now : Duration) (key : String) (value : ν)
    (hcapacity : 0 < cache.capacity) :
    Front ∅ ⟨key, value, now⟩ (cache.insert now key value) := by
  obtain ⟨room, hroom⟩ := Nat.exists_eq_add_of_lt hcapacity
  refine ⟨[], (cache.others key).take room, ?_, by simp⟩
  simp [insert, hroom]

/-- The entry that was just found stands at the head. -/
theorem front_get (hget : (cache.get now key).1 = some value) :
    Front ∅ ⟨key, value, now⟩ (cache.get now key).2 := by
  rcases cache.get_cases now key with
    ⟨-, hends⟩ | ⟨entry, -, hkey, ⟨-, hends⟩ | ⟨-, hends⟩⟩
  · simp [hends] at hget
  · simp [hends] at hget
  · rw [hends] at hget ⊢
    obtain rfl : entry.value = value := Option.some.inj hget
    exact ⟨[], cache.others key, by simp [hkey], by simp⟩

/-- An entry that has kept its place is found within its time. -/
theorem Front.get {opened : Duration} (hfront : Front keys ⟨key, value, opened⟩ cache)
    (hregular : Regular capacity ttl cache)
    (hspan : now.nanoseconds - opened.nanoseconds < ttl.nanoseconds) :
    (cache.get now key).1 = some value := by
  refine (hregular.get_eq_some_iff hfront.mem rfl).mpr ⟨?_, rfl⟩
  rw [isExpired_eq_false_iff, hregular.limited.ttl]
  exact hspan

/-- A key is found again after turns that neither use nor drop it, if the time is short enough
and the crowd is small enough. -/
theorem Front.get_after {opened : Duration} (hfront : Front ∅ ⟨key, value, opened⟩ cache)
    (hregular : Regular capacity ttl cache)
    (hunused : ∀ turn ∈ turns, turn.call.subject? ≠ some key)
    (hkept : ∀ turn ∈ turns, ¬ turn.call.Drops key)
    (hcrowd : (cache.touched turns).toFinset.card < max 1 capacity)
    (hspan : now.nanoseconds - opened.nanoseconds < ttl.nanoseconds) :
    ((cache.after turns).get now key).1 = some value := by
  have hwider : Front (cache.touched turns).toFinset ⟨key, value, opened⟩ cache := by
    obtain ⟨front, back, hsplit, hahead⟩ := hfront
    exact ⟨front, back, hsplit, fun ahead hmem => absurd (hahead ahead hmem) (by simp)⟩
  have hplace := hwider.after hregular hcrowd hunused hkept fun key => List.mem_toFinset.mpr
  exact hplace.get (hregular.after turns) hspan

end Front

/-! ## The law of a history -/

section Law

variable {capacity : Nat} {ttl : Duration}

/-- A key is found after all turns from one that used it on, if its gaps are short enough and
their crowds small enough. -/
theorem get_after_of_gaps {cache : Cache ν} (hregular : Regular capacity ttl cache)
    (opening : Turn ν)
    (hopens : opening.call.subject? = some key)
    (hfront : Front ∅ ⟨key, value, opening.now⟩ (opening.apply cache)) (rest : List (Turn ν))
    (hset : ∀ turn ∈ rest, ∀ v, turn.call ≠ .insert key v)
    (hkept : ∀ turn ∈ rest, ¬ turn.call.Drops key)
    (hgaps : ∀ gap : Gap key (opening :: rest ++ [⟨now, .get key⟩]),
      gap.span < ttl.nanoseconds ∧ gap.crowd cache < max 1 capacity) :
    ((cache.after (opening :: rest)).get now key).1 = some value := by
  have hregular' := hregular.apply opening
  cases hfind : rest.find? (fun turn => turn.call.subject? == some key) with
  | none =>
    have hunused : ∀ turn ∈ rest, turn.call.subject? ≠ some key := by
      intro turn hturn
      simpa using List.find?_eq_none.mp hfind turn hturn
    obtain ⟨hspan, hcrowd⟩ := hgaps ⟨[], opening, rest, _, [], rfl, hopens, rfl, hunused⟩
    exact hfront.get_after hregular' hunused hkept hcrowd hspan
  | some closing =>
    -- the first turn that asks for the key finds it, and is the next opening
    obtain ⟨hcloses, between, later, rfl, hbetween⟩ := List.find?_eq_some_iff_append.mp hfind
    rcases closing with ⟨time, call⟩
    obtain rfl : call = .get key := by
      refine eq_get_of_subject? (beq_iff_eq.mp hcloses) ?_
      exact hset _ (List.mem_append_right between List.mem_cons_self)
    have hunused : ∀ turn ∈ between, turn.call.subject? ≠ some key := by
      intro turn hturn
      simpa using hbetween turn hturn
    rw [List.forall_mem_append] at hset hkept
    obtain ⟨hspan, hcrowd⟩ := hgaps ⟨[], opening, between, ⟨time, .get key⟩,
      later ++ [⟨now, .get key⟩], by simp, hopens, rfl, hunused⟩
    have hfound := hfront.get_after hregular' hunused hkept.1 hcrowd hspan
    have hlater := get_after_of_gaps (hregular.after (opening :: between)) ⟨time, .get key⟩ rfl
      (front_get hfound) later (List.forall_mem_cons.mp hset.2).2
      (List.forall_mem_cons.mp hkept.2).2 ?_
    · simpa using hlater
    · intro gap
      have hgap := hgaps (gap.shift (opening :: between) (by simp))
      rwa [Gap.span_shift, Gap.crowd_shift] at hgap
termination_by rest.length

/-- A key that is found at the end of a gap was not left alone for too long. -/
theorem Gap.span_lt_of_get (gap : Gap key turns) (hlimited : cache.Limited capacity ttl)
    (hget : ((cache.after (gap.before ++ gap.opening :: gap.between)).get
      gap.closing.now key).1 = some value) : gap.span < ttl.nanoseconds := by
  obtain ⟨entry, hentry, hkey, hlive⟩ := live_of_get hget
  rw [after_append, after_cons] at hentry
  -- nobody but the opening turn has used the entry
  have hopened : entry ∈ (gap.opening.apply (cache.after gap.before)).entries :=
    mem_of_mem_after hentry fun turn hturn => by
      rw [hkey]
      exact gap.unused turn hturn
  have hused : entry.used = gap.opening.now :=
    used_of_mem_apply hopened (by rw [hkey]; exact gap.opens)
  rw [isExpired_eq_false_iff, (hlimited.after _).ttl, hused] at hlive
  exact hlive

/-- A lookup has found the value that is held later, unless the key was set in between. -/
theorem get_of_holds_after {time : Duration} {earlier tail : List (Turn ν)}
    (hholds : (cache.after (earlier ++ ⟨time, .get key⟩ :: tail)).Holds key value)
    (hset : ∀ turn ∈ tail, ∀ v, turn.call ≠ .insert key v) :
    ((cache.after earlier).get time key).1 = some value := by
  rw [after_append, after_cons] at hholds
  exact get_of_holds_get (holds_of_holds_after hholds hset)

/-- A key that is held at the end of its spell was never left alone for too long in it. -/
theorem Gap.span_lt_of_holds {rest : List (Turn ν)} {inserted : Duration}
    (gap : Gap key (spell inserted key value rest now)) (hlimited : cache.Limited capacity ttl)
    (hset : ∀ turn ∈ rest, ∀ v, turn.call ≠ .insert key v)
    (hholds : (cache.after (spell inserted key value rest now)).Holds key value) :
    gap.span < ttl.nanoseconds := by
  have hunset : ∀ turn ∈ gap.between ++ gap.closing :: gap.later, ∀ v,
      turn.call ≠ .insert key v := by
    have hall : ∀ turn ∈ rest ++ [⟨now, .get key⟩], ∀ v, turn.call ≠ .insert key v := by
      simpa [or_imp, forall_and] using hset
    exact fun turn hturn => hall turn (gap.mem_of_mem_split hturn)
  rw [List.forall_mem_append, List.forall_mem_cons] at hunset
  have hcloses : gap.closing = ⟨gap.closing.now, .get key⟩ := by
    rw [← eq_get_of_subject? gap.closes hunset.2.1]
  rw [gap.split] at hholds
  have hget : ((cache.after (gap.before ++ gap.opening :: gap.between)).get
      gap.closing.now key).1 = some value := by
    refine get_of_holds_after ?_ hunset.2.2
    rw [← hcloses]
    simpa using hholds
  exact gap.span_lt_of_get hlimited hget

/-- The law of a history, from an empty cache on.  A key that is found has the value of its
latest insertion, which nobody dropped; all lookups since then have found it, and it was never
left alone for the time to live.  A key whose latest insertion nobody dropped is found if it
was never left alone for the time to live, and never for as many other keys as there is room
for.  There are never more entries than there is room for, and never two for one key. -/
theorem history_law (capacity : Nat) (ttl : Duration) (history : List (Turn ν)) :
    let start : Cache ν := .empty capacity ttl
    let cache := start.after history
    (∀ now key value, (cache.get now key).1 = some value →
      ∃ before inserted rest, Latest key value history before inserted rest ∧
        (∀ middle time tail, rest = middle ++ ⟨time, .get key⟩ :: tail →
          ((start.after (before ++ ⟨inserted, .insert key value⟩ :: middle)).get
            time key).1 = some value) ∧
        ∀ gap : Gap key (spell inserted key value rest now), gap.span < ttl.nanoseconds) ∧
    (∀ now key value before inserted rest, Latest key value history before inserted rest →
      (∀ gap : Gap key (spell inserted key value rest now),
        gap.span < ttl.nanoseconds ∧ gap.crowd (start.after before) < max 1 capacity) →
      (cache.get now key).1 = some value) ∧
    cache.size ≤ max 1 capacity ∧ (cache.entries.map Entry.key).Nodup := by
  intro start cache
  have hregular : Regular capacity ttl start := .empty capacity ttl
  refine ⟨?_, ?_, (hregular.after history).size_le, (hregular.after history).distinct⟩
  · intro now key value hget
    have hholds : cache.Holds key value := holds_of_get hget
    rcases exists_latest_of_holds hholds with ⟨before, inserted, rest, hlatest⟩ | ⟨hempty, -⟩
    · refine ⟨before, inserted, rest, hlatest, ?_, ?_⟩
      · rintro middle time tail rfl
        have hset : ∀ turn ∈ tail, ∀ v, turn.call ≠ .insert key v := by
          intro turn hturn
          exact hlatest.latest turn (List.mem_append_right middle (List.mem_cons_of_mem _ hturn))
        refine get_of_holds_after ?_ hset
        simpa [cache, hlatest.split] using hholds
      · intro gap
        refine gap.span_lt_of_holds (hregular.after before).limited hlatest.latest ?_
        have hfound := holds_get_of_get hget
        simpa [cache, hlatest.split, spell, Turn.apply] using hfound
    · exact absurd hempty (not_holds_empty capacity ttl key value)
  · intro now key value before inserted rest hlatest hgaps
    have hregular' := hregular.after before
    have hcapacity : 0 < (start.after before).capacity := by
      rw [hregular'.limited.capacity]
      exact Nat.lt_of_lt_of_le Nat.one_pos (Nat.le_max_left 1 capacity)
    have hfront := front_insert (start.after before) inserted key value hcapacity
    have hfound := get_after_of_gaps hregular' ⟨inserted, .insert key value⟩ rfl hfront rest
      hlatest.latest hlatest.kept hgaps
    simpa [cache, hlatest.split] using hfound

end Law

end Cache
end ChefAccess
