import ChefAccess.Instance.Store
import ChefAccess.Proofs.Dict
import Mathlib.Data.List.Induction

/-!
# The history of the instance store

What the instance store answers is a matter of its history alone.  A machine has the record that
was saved last under its name, as long as nobody deleted it since, in the state that was noted
last since then.  Lists and lookups show these records and no others, so what a later record
replaced is never seen again.

A lookup by resource or address goes through the records in an order that nobody promises.  Its
laws hold for every order.

Main definitions:

- {lit}`Instances.Call` and {lit}`Instances.after`: the updates of a store, and what they lead to.
- {lit}`Instances.Latest`: the record of a machine that a history leaves in force.
- {lit}`Instances.noted`: the states that were noted for a machine, update by update.
- {lit}`Instances.Current` and {lit}`Instances.Finds`: the records that a store has, and what a
  lookup among them owes.

Main results:

- Theorem {lit}`Instances.record?_after`: between two replacements only the state of a record
  changes, to what was noted.
- Theorem {lit}`Instances.record?_eq_some_iff`: the record of a machine after a history.
- Theorem {lit}`Instances.finds_find?`: a search in any order finds a current record.
- Theorem {lit}`Instances.flatMap_listByState_perm`: the lists by state share out the records.
- Theorem {lit}`Instances.mergeSort_filter`: the list of a state is the same for every order.
- Theorem {lit}`Instances.store_law`: what a store answers after a history.
-/

namespace ChefAccess
namespace Instances

/-! ## Histories -/

/-- What changes a store. -/
inductive Call where
  | save (record : InstanceRecord)
  | delete (id : String)
  | setState (id : String) (state : SetupState)

namespace Call

/-- The store after an update. -/
def apply (call : Call) (store : Instances) : Instances :=
  match call with
  | save record => store.save record
  | delete id => store.delete id
  | setState id state => (store.setState id state).2

/-- An update that replaces or drops the record of a machine. -/
def Replaces (id : String) : Call → Prop
  | save record => record.instanceId = id
  | delete other => other = id
  | setState _ _ => False

/-- The state that an update notes for a machine, if it is told that the machine is known. -/
def noted? (id : String) (call : Call) (store : Instances) : Option SetupState :=
  match call with
  | setState other state => if other = id ∧ (store.setState other state).1 then some state else none
  | save _ | delete _ => none

end Call

/-- The store after some updates. -/
def after (start : Instances) (calls : List Call) : Instances :=
  calls.foldl (fun store call => call.apply store) start

/-- The states that some updates note for a machine. -/
def noted (id : String) (start : Instances) : List Call → List SetupState
  | [] => []
  | call :: calls => (call.noted? id start).toList ++ noted id (call.apply start) calls

@[simp]
theorem after_nil (start : Instances) : after start [] = start :=
  rfl

@[simp]
theorem after_cons (start : Instances) (call : Call) (calls : List Call) :
    after start (call :: calls) = after (call.apply start) calls :=
  rfl

@[simp]
theorem after_append (start : Instances) (calls more : List Call) :
    after start (calls ++ more) = after (after start calls) more :=
  List.foldl_append

/-- The record of a machine that a history leaves in force: it was neither replaced nor deleted by
any update after it was saved. -/
structure Latest (id : String) (record : InstanceRecord) (history before rest : List Call) :
    Prop where
  split : history = before ++ .save record :: rest
  name : record.instanceId = id
  kept : ∀ call ∈ rest, ¬ call.Replaces id

/-- An update that leaves a record alone leaves it in force. -/
theorem Latest.concat {id : String} {record : InstanceRecord} {history before rest : List Call}
    (hlatest : Latest id record history before rest) {call : Call} (hkept : ¬ call.Replaces id) :
    Latest id record (history ++ [call]) before (rest ++ [call]) where
  split := by simp [hlatest.split]
  name := hlatest.name
  kept := by
    rw [List.forall_mem_append]
    exact ⟨hlatest.kept, by simpa using hkept⟩

/-! ## One update -/

variable {store : Instances} {id : String}

/-- A record is saved without touching those of other machines. -/
theorem record?_save_of_ne {record : InstanceRecord} (hne : id ≠ record.instanceId) :
    (store.save record).record? id = store.record? id :=
  Dict.get?_insert_of_ne _ _ hne

/-- A deleted record is gone. -/
@[simp]
theorem record?_delete_self (store : Instances) (id : String) :
    (store.delete id).record? id = none :=
  Dict.get?_erase_self _ _

/-- A record is deleted without touching those of other machines. -/
theorem record?_delete_of_ne {other : String} (hne : id ≠ other) :
    (store.delete other).record? id = store.record? id :=
  Dict.get?_erase_of_ne _ hne

/-- A state can be noted exactly for a machine with a record. -/
theorem setState_fst (store : Instances) (id : String) (state : SetupState) :
    (store.setState id state).1 = true ↔ ∃ record, store.record? id = some record := by
  unfold setState
  cases store.record? id <;> simp

/-- Noting a state changes the state of one record. -/
theorem record?_setState (store : Instances) (other : String) (state : SetupState) (id : String) :
    (store.setState other state).2.record? id =
      if id = other then (store.record? id).map fun record => { record with state }
      else store.record? id := by
  unfold setState
  split
  · rename_i hnone
    split <;> simp_all
  · rename_i record hsome
    by_cases hid : id = other
    · subst hid
      simp only [record?] at hsome ⊢
      simp [hsome]
    · rw [if_neg hid]
      exact Dict.get?_insert_of_ne _ _ hid

/-- An update that does not replace the record of a machine changes its state at most. -/
theorem record?_apply {call : Call} {record : InstanceRecord}
    (hheld : store.record? id = some record) (hkept : ¬ call.Replaces id) :
    (call.apply store).record? id =
      some { record with state := (call.noted? id store).getD record.state } := by
  cases call with
  | save other => exact (record?_save_of_ne (Ne.symm hkept)).trans hheld
  | delete other => exact (record?_delete_of_ne (Ne.symm hkept)).trans hheld
  | setState other state =>
    rw [Call.apply, record?_setState, Call.noted?]
    by_cases hid : other = id
    · subst hid
      simp [hheld, setState_fst]
    · simp [hheld, hid, Ne.symm hid]

/-- A machine gets a record only when one is saved. -/
theorem record?_of_apply {call : Call} {held : InstanceRecord}
    (hheld : (call.apply store).record? id = some held) (hkept : ¬ call.Replaces id) :
    ∃ record, store.record? id = some record := by
  cases call with
  | save other => exact ⟨held, (record?_save_of_ne (Ne.symm hkept)).symm.trans hheld⟩
  | delete other => exact ⟨held, (record?_delete_of_ne (Ne.symm hkept)).symm.trans hheld⟩
  | setState other state =>
    rw [Call.apply, record?_setState] at hheld
    split at hheld
    · obtain ⟨record, hrecord, -⟩ := Option.map_eq_some_iff.mp hheld
      exact ⟨record, hrecord⟩
    · exact ⟨held, hheld⟩

/-! ## The record of a machine -/

/-- Between two replacements only the state of a record changes, to what was noted last. -/
theorem record?_after {record : InstanceRecord} {calls : List Call}
    (hheld : store.record? id = some record) (hkept : ∀ call ∈ calls, ¬ call.Replaces id) :
    (after store calls).record? id =
      some { record with state := (noted id store calls).getLast?.getD record.state } := by
  induction calls generalizing store record with
  | nil => exact hheld
  | cons call calls ih =>
    rw [List.forall_mem_cons] at hkept
    rw [after_cons, ih (record?_apply hheld hkept.1) hkept.2, noted]
    cases call.noted? id store with
    | none => rfl
    | some state => simp [List.getLast?_cons]

/-- A machine with a record was saved, and its record neither replaced nor deleted since. -/
theorem exists_latest {calls : List Call} {held : InstanceRecord}
    (hheld : (after empty calls).record? id = some held) :
    ∃ record before rest, Latest id record calls before rest := by
  -- From the end: the last update saved the record, or left alone the one that was saved before.
  induction calls using List.reverseRecOn generalizing held with
  | nil => cases hheld
  | append_singleton calls call ih =>
    rw [after_append, after_cons, after_nil] at hheld
    by_cases hreplaces : call.Replaces id
    · cases call with
      | save record => exact ⟨record, calls, [], rfl, hreplaces, by simp⟩
      | delete other =>
        obtain rfl : other = id := hreplaces
        cases (record?_delete_self _ _).symm.trans hheld
      | setState other state => cases hreplaces
    · obtain ⟨earlier, hearlier⟩ := record?_of_apply hheld hreplaces
      obtain ⟨record, before, rest, hlatest⟩ := ih hearlier
      exact ⟨record, before, rest ++ [call], hlatest.concat hreplaces⟩

/-- The record of a machine after a history is the one in force, in the state noted last. -/
theorem Latest.record?_eq {record : InstanceRecord} {calls before rest : List Call}
    (hlatest : Latest id record calls before rest) :
    (after empty calls).record? id =
      some { record with
        state := (noted id (after empty (before ++ [.save record])) rest).getLast?.getD
          record.state } := by
  have hsaved : (after empty (before ++ [.save record])).record? id = some record := by
    rw [after_append, ← hlatest.name]
    exact record?_save _ record
  rw [hlatest.split, ← List.singleton_append, ← List.append_assoc, after_append]
  exact record?_after hsaved hlatest.kept

/-- A machine has a record exactly if a history leaves one in force. -/
theorem record?_eq_some_iff {calls : List Call} {held : InstanceRecord} :
    (after empty calls).record? id = some held ↔
      ∃ record before rest, Latest id record calls before rest ∧
        held = { record with
          state := (noted id (after empty (before ++ [.save record])) rest).getLast?.getD
            record.state } := by
  constructor
  · intro hheld
    obtain ⟨record, before, rest, hlatest⟩ := exists_latest hheld
    exact ⟨record, before, rest, hlatest,
      Option.some.inj (hheld.symm.trans hlatest.record?_eq)⟩
  · rintro ⟨record, before, rest, hlatest, rfl⟩
    exact hlatest.record?_eq

/-! ## Lists and lookups -/

/-- A record that a store has for some machine. -/
def Current (store : Instances) (record : InstanceRecord) : Prop :=
  ∃ id, store.record? id = some record

/-- Every record is kept under the name of its machine. -/
def Keyed (store : Instances) : Prop :=
  ∀ {id record}, store.record? id = some record → record.instanceId = id

/-- What a lookup owes: a current record of the kind that is asked for, if there is one. -/
structure Finds (store : Instances) (kind : InstanceRecord → Prop)
    (found : Option InstanceRecord) : Prop where
  isSome_iff : found.isSome = true ↔ ∃ record, store.Current record ∧ kind record
  current : ∀ record ∈ found, store.Current record ∧ kind record

/-- After every history the records are kept under the names of their machines. -/
theorem keyed_after (calls : List Call) : (after empty calls).Keyed := by
  intro id held hheld
  obtain ⟨record, before, rest, hlatest, rfl⟩ := record?_eq_some_iff.mp hheld
  exact hlatest.name

/-- A current record is found by its name. -/
theorem Current.record?_eq {record : InstanceRecord} (hcurrent : store.Current record)
    (hkeyed : store.Keyed) : store.record? record.instanceId = some record := by
  obtain ⟨id, hheld⟩ := hcurrent
  rwa [hkeyed hheld]

/-- The stored records, listed in any order, are the current ones. -/
theorem mem_listing_iff {listing : List InstanceRecord}
    (hlisting : listing.Perm store.records.values) {record : InstanceRecord} :
    record ∈ listing ↔ store.Current record :=
  hlisting.mem_iff.trans Dict.mem_values_iff

/-- A search through the records in any order finds a current record if there is one. -/
theorem finds_find? {listing : List InstanceRecord}
    (hlisting : listing.Perm store.records.values) (field : InstanceRecord → String)
    (value : String) : store.Finds (field · = value) (listing.find? (field · == value)) where
  isSome_iff := by
    simp only [List.find?_isSome, mem_listing_iff hlisting, beq_iff_eq]
  current := by
    intro record hfound
    have hvalue := List.find?_some hfound
    exact ⟨(mem_listing_iff hlisting).mp (List.mem_of_find?_eq_some hfound),
      by simpa using hvalue⟩

/-- The records with a state are the current ones in that state. -/
theorem mem_listByState {state : SetupState} {record : InstanceRecord} :
    record ∈ store.listByState state ↔ store.Current record ∧ record.state = state := by
  rw [listByState, List.mem_filter, mem_listing_iff (List.Perm.refl _), decide_eq_true_iff]

/-- The records with a state are listed in strictly increasing order of their names. -/
theorem pairwise_listByState (hkeyed : store.Keyed) (state : SetupState) :
    (store.listByState state).Pairwise fun a b => a.instanceId < b.instanceId :=
  (Dict.pairwise_values hkeyed).filter _

/-- The lists by state share out the records among them. -/
theorem flatMap_listByState_perm (store : Instances) :
    (SetupState.all.flatMap store.listByState).Perm store.records.values := by
  refine List.perm_iff_count.mpr fun record => ?_
  have hcount : ∀ state, (store.listByState state).count record =
      if record.state = state then store.records.values.count record else 0 := by
    intro state
    split
    · rename_i hstate
      exact List.count_filter (by simpa using hstate)
    · rename_i hstate
      exact List.count_eq_zero.mpr fun hmem => hstate (mem_listByState.mp hmem).2
  rw [List.count_flatMap]
  cases hstate : record.state <;> simp [SetupState.all, hcount, hstate]

/-- The order of records by the names of their machines. -/
def nameLe (a b : InstanceRecord) : Bool :=
  decide (a.instanceId ≤ b.instanceId)

/-- However the records are listed, sorting those with a state by name gives one list. -/
theorem mergeSort_filter (hkeyed : store.Keyed) {listing : List InstanceRecord}
    (hlisting : listing.Perm store.records.values) (state : SetupState) :
    (listing.filter fun record => decide (record.state = state)).mergeSort nameLe =
      store.listByState state :=
  mergeSort_eq_of_perm (pairwise_listByState hkeyed state) (hlisting.filter _)

/-! ## The law of the store -/

/-- A machine has the record that was saved last under its name and not deleted since, in the
state noted last since then.  A state can be noted exactly for a machine with a record, and changes
nothing else.  The lists by state share out the current records, each in strictly increasing order
of names.  A lookup by resource or address finds a current record with the value if there is one,
and the value is that of the record saved last.  The order in which the records are gone through
does not matter to any of this. -/
theorem store_law (calls : List Call) :
    let store := after empty calls
    (∀ id held, store.record? id = some held ↔
      ∃ record before rest, Latest id record calls before rest ∧
        held = { record with
          state := (noted id (after empty (before ++ [.save record])) rest).getLast?.getD
            record.state }) ∧
    (∀ id state,
      ((store.setState id state).1 = true ↔ ∃ record, store.record? id = some record) ∧
      ∀ other, (store.setState id state).2.record? other =
        if other = id then (store.record? other).map fun record => { record with state }
        else store.record? other) ∧
    ((∀ state record,
        record ∈ store.listByState state ↔ store.Current record ∧ record.state = state) ∧
      (SetupState.all.flatMap store.listByState).Perm store.records.values ∧
      ∀ state, (store.listByState state).Pairwise fun a b => a.instanceId < b.instanceId) ∧
    ((∀ resourceId, store.Finds (·.resourceId = resourceId) (store.byResource? resourceId)) ∧
      (∀ ip, store.Finds (·.ip = ip) (store.byIp? ip)) ∧
      ∀ found, store.Current found → ∃ record before rest,
        Latest found.instanceId record calls before rest ∧
          found.resourceId = record.resourceId ∧ found.ip = record.ip) ∧
    ∀ listing : List InstanceRecord, listing.Perm store.records.values →
      (∀ state, (listing.filter fun record => decide (record.state = state)).mergeSort nameLe =
        store.listByState state) ∧
      (∀ resourceId, store.Finds (·.resourceId = resourceId)
        (listing.find? (·.resourceId == resourceId))) ∧
      ∀ ip, store.Finds (·.ip = ip) (listing.find? (·.ip == ip)) := by
  intro store
  have hkeyed : store.Keyed := keyed_after calls
  have hsame : store.records.values.Perm store.records.values := List.Perm.refl _
  refine ⟨fun _ _ => record?_eq_some_iff,
    fun id state => ⟨setState_fst store id state, record?_setState store id state⟩,
    ⟨fun _ _ => mem_listByState, flatMap_listByState_perm store, pairwise_listByState hkeyed⟩,
    ⟨finds_find? hsame (·.resourceId), finds_find? hsame (·.ip), ?_⟩,
    fun listing hlisting => ⟨mergeSort_filter hkeyed hlisting,
      finds_find? hlisting (·.resourceId), finds_find? hlisting (·.ip)⟩⟩
  intro found hcurrent
  obtain ⟨record, before, rest, hlatest, hfound⟩ :=
    record?_eq_some_iff.mp (hcurrent.record?_eq hkeyed)
  exact ⟨record, before, rest, hlatest, by rw [hfound], by rw [hfound]⟩

/-- A machine moves from an address that it shared to an address of its own, and is started; the
other machine is found at the shared address, in whichever order the records are gone through. -/
theorem store_law_moved :
    let first := { InstanceRecord.empty with instanceId := "i-1", ip := "10.0.0.1" }
    let second := { first with instanceId := "i-2" }
    let moved := { first with ip := "10.0.0.2" }
    let started := { moved with state := .started }
    let store := after empty [.save first, .save second, .setState "i-1" .failed, .save moved,
      .setState "i-1" .started]
    [second, started].Perm store.records.values ∧
      store.Finds (·.ip = "10.0.0.1") ([second, started].find? (·.ip == "10.0.0.1")) ∧
      store.byIp? "10.0.0.1" = some second ∧ store.listByState .started = [started] := by
  intro first second moved started store
  have hvalues : store.records.values = [started, second] := by decide
  have hlisting : [second, started].Perm store.records.values := by
    rw [hvalues]
    exact List.Perm.swap _ _ _
  have hlaw := store_law [.save first, .save second, .setState "i-1" .failed, .save moved,
    .setState "i-1" .started]
  exact ⟨hlisting, (hlaw.2.2.2.2 _ hlisting).2.2 "10.0.0.1", by decide, by decide⟩

end Instances
end ChefAccess
