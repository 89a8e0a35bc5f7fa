import ChefAccess.Json.Decode

/-!
# Instances

What is stored about a machine that a server manages: whose it is, where it is, its
roles, and how far its automatic configuration has got.

Main definitions:

- {lit}`SetupState`: how far the configuration of a machine has got.
- {lit}`InstanceRecord`: what is stored about a machine.
- {lit}`InstanceRecord.toValue` and {lit}`InstanceRecord.decoder`: its JSON form.

Main results:

- Theorem {lit}`SetupState.ofName?_name`: each state is known by its name.
-/

namespace ChefAccess

open Json

/-- How far the automatic configuration of a machine has got. -/
inductive SetupState where
  | unknown
  | started
  | success
  | failed
  deriving DecidableEq, Repr

namespace SetupState

/-- The name of a state. -/
def name : SetupState → String
  | unknown => "UNKNOWN"
  | started => "STARTED"
  | success => "SUCCESS"
  | failed => "FAILED"

/-- Whether a state is final. -/
def isTerminal : SetupState → Bool
  | unknown => false
  | started => false
  | success => true
  | failed => true

/-- All states. -/
def all : List SetupState :=
  [unknown, started, success, failed]

/-- The state with a name. -/
def ofName? (s : String) : Option SetupState :=
  all.find? (·.name == s)

/-- Each state is known by its name. -/
@[simp]
theorem ofName?_name (state : SetupState) : ofName? state.name = some state := by
  cases state <;> decide

/-- How a state is taken from a text. -/
def decoder : Decoder SetupState :=
  .named ofName?

end SetupState

/-- What is stored about a machine. -/
structure InstanceRecord where
  instanceId : String
  resourceId : String
  tenant : String
  region : String
  ip : String
  roles : Names
  state : SetupState
  scriptFiles : Dict String String
  deriving DecidableEq, Repr

namespace InstanceRecord

/-- The record in which nothing is filled in. -/
def empty : InstanceRecord :=
  ⟨"", "", "", "", "", Dict.empty, .unknown, Dict.empty⟩

/-- The JSON form of a record. -/
def toValue (record : InstanceRecord) : Value :=
  .ofMembers [
    ("instance_id", .string record.instanceId),
    ("resource_id", .string record.resourceId),
    ("tenant", .string record.tenant),
    ("region", .string record.region),
    ("ip", .string record.ip),
    ("roles", .ofTexts record.roles.toList),
    ("state", .string record.state.name),
    ("script_files", .ofDict record.scriptFiles)]

/-- The fields of a record in their order. -/
def fields : List (Decoder.Field InstanceRecord) := [
  .of "instance_id" .string fun record instanceId => { record with instanceId },
  .of "resource_id" .string fun record resourceId => { record with resourceId },
  .of "tenant" .string fun record tenant => { record with tenant },
  .of "region" .string fun record region => { record with region },
  .of "ip" .string fun record ip => { record with ip },
  .of "roles" Decoder.names fun record roles => { record with roles },
  .of "state" SetupState.decoder fun record state => { record with state },
  .of "script_files" (.dict .string) fun record scriptFiles => { record with scriptFiles }]

/-- How a record is taken from a text.  A missing field is empty. -/
def decoder : Decoder InstanceRecord :=
  .record fields empty

end InstanceRecord
end ChefAccess
