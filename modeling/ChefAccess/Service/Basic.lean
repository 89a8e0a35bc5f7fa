import ChefAccess.Instance.Store
import ChefAccess.Resolver.Basic
import ChefAccess.Service.Registry

/-!
# The service

The service puts the parts together: it resolves the context of a tenant, takes the client
of that context, and has the client execute commands.

Main definitions:

- {lit}`Service`: the resolver, the registry and the records of machines.
- {lit}`Service.create`: a service that has resolved nothing yet.
- {lit}`Service.execute` and its variants: the response to a command.
-/

namespace ChefAccess

/-- The parts of a service, and the number of requests sent so far. -/
structure Service where
  resolver : Resolver
  registry : Registry
  instances : Instances
  requests : Nat

namespace Service

/-- What a service works with: the answers of its surroundings, the builds that fail, the
world outside, and the time. -/
structure Surroundings where
  sources : Sources
  refusal : Nat → Option Error
  outside : Outside
  now : Duration

/-- The part of it that a resolver needs. -/
def Surroundings.resolver (around : Surroundings) : Resolver.Surroundings :=
  ⟨around.sources, around.now⟩

/-- The part of it that a registry needs. -/
def Surroundings.registry (around : Surroundings) : Registry.Surroundings :=
  ⟨around.refusal, around.now⟩

/-- A service that has resolved nothing yet. -/
def create (refusal : Nat → Option Error) (settings : Settings) (instances : Instances) :
    Action Workshop Service := do
  let registry ← Registry.create refusal settings
  return ⟨.ofSettings settings, registry, instances, 0⟩

/-! ## The parts -/

/-- An action of the resolver. -/
def onResolver {α : Type} (action : Action Resolver α) : Action Service α :=
  Action.onPart Service.resolver (fun service resolver => { service with resolver }) action

/-- An action of the registry. -/
def onRegistry {α : Type} (action : Action Registry α) : Action Service α :=
  Action.onPart Service.registry (fun service registry => { service with registry }) action

/-- An action of a client, which counts the requests. -/
def onRequests {α : Type} (action : Action Nat α) : Action Service α :=
  Action.onPart Service.requests (fun service requests => { service with requests }) action

/-! ## Clients -/

/-- The client that a tenant uses in a region. -/
def client (around : Surroundings) (tenancy : Tenancy) : Action Service Client := do
  let issued ← onResolver (Resolver.resolveFor around.resolver tenancy)
  onRegistry (Registry.client around.registry issued)

/-! ## Commands -/

/-- The response of a client to a command.  A failure leaves a warning. -/
def perform {α : Type} (around : Surroundings) (client : Client) (decoder : Json.Decoder α)
    (command : Command) : Action Service (Response α) := do
  let response ← onRequests (client.execute around.outside decoder command)
  if response.verdict.failed then
    Action.record (.warning (command.label ++ " on chef server " ++ client.context.serverId ++
      " failed: " ++ response.verdict.description))
  return response

/-- The response to a command on the server that a tenant uses in a region. -/
def execute {α : Type} (around : Surroundings) (tenancy : Tenancy) (decoder : Json.Decoder α)
    (command : Command) : Action Service (Response α) := do
  let client ← client around tenancy
  perform around client decoder command

/-- The response to a command on a server that was resolved before. -/
def executeOnServer {α : Type} (around : Surroundings) (serverId : String)
    (decoder : Json.Decoder α) (command : Command) : Action Service (Response α) := do
  match ← onResolver (Resolver.known around.resolver serverId) with
  | none =>
    Action.fail ((Error.configInvalid
      ("chef server " ++ serverId ++ " has not been resolved")).withOperation command.label)
  | some issued =>
    let client ← onRegistry (Registry.client around.registry issued)
    perform around client decoder command

/-- The response to a command on the server that manages a machine. -/
def executeForInstance {α : Type} (around : Surroundings) (instanceId : String)
    (decoder : Json.Decoder α) (command : Command) : Action Service (Response α) := do
  let service ← Action.read
  match service.instances.record? instanceId with
  | none =>
    Action.fail ((Error.requestInvalid
      ("instance " ++ instanceId ++ " is not known")).withOperation command.label)
  | some record => execute around ⟨record.tenant, record.region⟩ decoder command

/-- The response to a command over a transport of its own. -/
def adminExecute {α : Type} (around : Surroundings) (tenancy : Tenancy) (timeouts : Timeouts)
    (decoder : Json.Decoder α) (command : Command) : Action Service (Response α) := do
  let issued ← onResolver (Resolver.resolveFor around.resolver tenancy)
  let client ← onRegistry (Registry.adminClient around.registry issued timeouts)
  perform around client decoder command

/-! ## Machines and caches -/

/-- Note the state of a machine, and tell whether the machine is known. -/
def setInstanceState (instanceId : String) (state : SetupState) : Action Service Bool := do
  let updated ← Action.update fun (service : Service) =>
    let changed := service.instances.setState instanceId state
    (changed.1, { service with instances := changed.2 })
  if updated then
    Action.record (.notice ("instance " ++ instanceId ++ " auto configuration is " ++ state.name))
  else
    Action.record (.warning ("instance " ++ instanceId ++ " not found while setting state " ++
      state.name))
  return updated

/-- Forget every resolved context. -/
def forgetContexts : Action Service Unit :=
  onResolver (Action.modify Resolver.forget)

/-- Forget every client. -/
def forgetClients : Action Service Unit :=
  onRegistry (Action.modify Registry.forget)

/-- Forget every resolved context and every client. -/
def refresh : Action Service Unit := do
  forgetContexts
  forgetClients

end Service
end ChefAccess
