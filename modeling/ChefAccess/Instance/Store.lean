import ChefAccess.Instance.Basic

/-!
# The instance store

The records of machines are kept by the name of the machine, and can be found by their
resource or address too.

Main definitions:

- {lit}`Instances`: the records by name.
- {lit}`Instances.setState`: the store after a state was noted.

Main results:

- Theorem {lit}`Instances.record?_save`: what was saved is found.
-/

namespace ChefAccess

/-- The records of machines by name. -/
structure Instances where
  records : Dict String InstanceRecord
  deriving DecidableEq, Repr

namespace Instances

/-- The store without records. -/
def empty : Instances :=
  ⟨Dict.empty⟩

/-- The record of a machine. -/
def record? (store : Instances) (id : String) : Option InstanceRecord :=
  store.records.get? id

/-- A record with a resource. -/
def byResource? (store : Instances) (resourceId : String) : Option InstanceRecord :=
  store.records.values.find? (·.resourceId == resourceId)

/-- A record with an address. -/
def byIp? (store : Instances) (ip : String) : Option InstanceRecord :=
  store.records.values.find? (·.ip == ip)

/-- Save a record under the name of its machine. -/
def save (store : Instances) (record : InstanceRecord) : Instances :=
  ⟨store.records.insert record.instanceId record⟩

/-- Delete the record of a machine. -/
def delete (store : Instances) (id : String) : Instances :=
  ⟨store.records.erase id⟩

/-- Note the state of a machine, and tell whether the machine is known. -/
def setState (store : Instances) (id : String) (state : SetupState) : Bool × Instances :=
  match store.record? id with
  | none => (false, store)
  | some record => (true, ⟨store.records.insert id { record with state }⟩)

/-- The records with a state, in the order of their names. -/
def listByState (store : Instances) (state : SetupState) : List InstanceRecord :=
  store.records.values.filter fun record => decide (record.state = state)

/-- What was saved is found. -/
@[simp]
theorem record?_save (store : Instances) (record : InstanceRecord) :
    (store.save record).record? record.instanceId = some record := by
  simp [record?, save]

end Instances
end ChefAccess
