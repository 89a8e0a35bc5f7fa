import ChefAccess.Proofs.Resolver.Run
import ChefAccess.Service.Basic

/-!
# Runs of a service

A service is called again and again, and each call of a run has surroundings of its own: in
between, configurations, secrets and files are written, services go down, time passes, and
requests are signed at another time.  The records of machines belong to the service, so they
are edited by calls.

Main definitions:

- {lit}`Service.initial`: a service that was just created.
- {lit}`Service.Call`: what a service is asked for, and {lit}`Service.Turn`: a call in its
  surroundings.
- {lit}`Service.observations`: what is seen of a service in some turns.
- {lit}`Service.Reachable`: a service that was created and used.
-/

namespace ChefAccess

/-! ## Builds -/

namespace Workshop

variable {refusal : Nat → Option Error} {workshop : Workshop}

/-- A build that fails. -/
theorem build_of_refused {e : Error} (hrefused : refusal workshop.tried = some e)
    (timeouts : Timeouts) :
    build refusal timeouts workshop =
      ⟨.error e, ⟨workshop.tried + 1, workshop.built⟩, [.built timeouts]⟩ := by
  simp only [build, Action.record, Action.update, Action.ofExcept, bind, Action.bind, hrefused,
    List.append_nil]

/-- A build that succeeds. -/
theorem build_of_not_refused (hnot : refusal workshop.tried = none) (timeouts : Timeouts) :
    build refusal timeouts workshop =
      ⟨.ok ⟨workshop.built⟩, ⟨workshop.tried + 1, workshop.built + 1⟩, [.built timeouts]⟩ := by
  simp only [build, Action.record, Action.update, Action.ofExcept, bind, Action.bind, hnot,
    List.append_nil]

end Workshop

namespace Service

/-! ## New services -/

/-- A service that was just created with the next transport of a workshop. -/
def initial (settings : Settings) (instances : Instances) (workshop : Workshop) : Service where
  resolver := .ofSettings settings
  registry := {
    workshop := ⟨workshop.tried + 1, workshop.built + 1⟩
    timeouts := settings.timeouts
    zoneTransport := ⟨workshop.built⟩
    projectTransport := none
    zoneClients := .empty settings.zoneClientCapacity settings.zoneClientTtl
    projectClients := .empty settings.projectClientCapacity settings.projectClientTtl }
  instances
  requests := 0

/-- What creating a service did, if it succeeded. -/
theorem eq_initial_of_create_ok {refusal : Nat → Option Error} {settings : Settings}
    {instances : Instances} {workshop : Workshop} {service : Service}
    (hcreate : (create refusal settings instances workshop).result = .ok service) :
    service = initial settings instances workshop := by
  unfold create Registry.create at hcreate
  cases hrefusal : refusal workshop.tried with
  | some e =>
    have hbuild := Workshop.build_of_refused hrefusal settings.timeouts
    rw [Action.bind_eq_of_error (Action.bind_eq_of_error hbuild)] at hcreate
    cases hcreate
  | none =>
    have hbuild := Workshop.build_of_not_refused hrefusal settings.timeouts
    rw [Action.bind_eq_of_ok (Action.bind_eq_of_ok hbuild)] at hcreate
    exact (Except.ok.inj hcreate).symm

/-! ## Turns -/

/-- What a service is asked for. -/
inductive Call (α : Type) where
  | client (tenancy : Tenancy)
  | execute (tenancy : Tenancy) (decoder : Json.Decoder α) (command : Command)
  | executeOnServer (serverId : String) (decoder : Json.Decoder α) (command : Command)
  | executeForInstance (instanceId : String) (decoder : Json.Decoder α) (command : Command)
  | adminExecute (tenancy : Tenancy) (timeouts : Timeouts) (decoder : Json.Decoder α)
      (command : Command)
  | setInstanceState (instanceId : String) (state : SetupState)
  | editInstances (change : Instances → Instances)
  | refresh

/-- What a call gives. -/
inductive Answer (α : Type) where
  | client (client : Client)
  | response (response : Response α)
  | flag (known : Bool)
  | done

/-- A call with the surroundings that it is made in. -/
structure Turn (α : Type) where
  around : Surroundings
  call : Call α

variable {α : Type}

/-- A turn as an action. -/
def Turn.action (turn : Turn α) : Action Service (Answer α) :=
  match turn.call with
  | .client tenancy => do
    let client ← Service.client turn.around tenancy
    return .client client
  | .execute tenancy decoder command => do
    let response ← Service.execute turn.around tenancy decoder command
    return .response response
  | .executeOnServer serverId decoder command => do
    let response ← Service.executeOnServer turn.around serverId decoder command
    return .response response
  | .executeForInstance instanceId decoder command => do
    let response ← Service.executeForInstance turn.around instanceId decoder command
    return .response response
  | .adminExecute tenancy timeouts decoder command => do
    let response ← Service.adminExecute turn.around tenancy timeouts decoder command
    return .response response
  | .setInstanceState instanceId state => do
    let known ← Service.setInstanceState instanceId state
    return .flag known
  | .editInstances change => do
    Action.modify fun (service : Service) =>
      { service with instances := change service.instances }
    return .done
  | .refresh => do
    Service.refresh
    return .done

/-! ## Runs -/

/-- What is seen of a turn: the answer or the failure, and the journal. -/
structure Observation (α : Type) where
  answer : Except Error (Answer α)
  events : List Event

/-- What is seen of a service in some turns. -/
def observations (service : Service) : List (Turn α) → List (Observation α)
  | [] => []
  | turn :: rest =>
    let outcome := turn.action service
    ⟨outcome.result, outcome.events⟩ :: observations outcome.state rest

/-- A service with given settings that was created and used, in any surroundings: as a whole,
or by its resolver and its registry alone. -/
inductive Reachable (settings : Settings) : Service → Prop
  /-- The service was just created. -/
  | created {refusal : Nat → Option Error} {instances : Instances} {workshop : Workshop}
      {service : Service}
      (hcreate : (create refusal settings instances workshop).result = .ok service) :
      Reachable settings service
  /-- The service was called. -/
  | turn {service : Service} {α : Type} (turn : Turn α) (hreachable : Reachable settings service) :
      Reachable settings (turn.action service).state
  /-- The resolver was called. -/
  | resolver {service : Service} (turn : Resolver.Turn) (hreachable : Reachable settings service) :
      Reachable settings (onResolver turn.action service).state
  /-- A context was issued that the resolver did not make. -/
  | issued {service : Service} (context : Server.Context)
      (hreachable : Reachable settings service) :
      Reachable settings (onResolver (Resolver.issue context) service).state
  /-- The registry was asked for a client of some context. -/
  | registry {service : Service} (around : Registry.Surroundings) (issued : Issued)
      (hreachable : Reachable settings service) :
      Reachable settings (onRegistry (Registry.client around issued) service).state
  /-- The registry was asked for a client on a transport of its own. -/
  | adminRegistry {service : Service} (around : Registry.Surroundings) (issued : Issued)
      (timeouts : Timeouts) (hreachable : Reachable settings service) :
      Reachable settings (onRegistry (Registry.adminClient around issued timeouts) service).state
  /-- The registry forgot its clients. -/
  | forgotten {service : Service} (hreachable : Reachable settings service) :
      Reachable settings (forgetClients service).state

end Service
end ChefAccess
