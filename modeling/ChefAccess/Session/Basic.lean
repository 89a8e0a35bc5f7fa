import ChefAccess.Service.Basic

/-!
# Sessions

A session drives a service step by step, together with the stores and services around it.
It gives a number to each context that it has shown, in the order in which they were first
shown, and keeps the time.

Main definitions:

- {lit}`Session`: a service with everything around it.
- {lit}`Session.Step`: what can be done in a session.
- {lit}`Session.Answer`: what a step gives.
- {lit}`Session.step`: a step as an action.
-/

namespace ChefAccess

/-- A service with everything around it: the stores, the services that are down, the time,
and the contexts that were shown. -/
structure Session where
  service : Service
  backend : Backend
  configurations : Configurations
  outages : List String
  now : Duration
  shown : List Issued

namespace Session

/-- What does not change in a session: the builds that fail, and the world outside. -/
structure World where
  refusal : Nat → Option Error
  outside : Outside

/-- What can be done in a session. -/
inductive Step where
  | saveServer (config : ServerConfig)
  | deleteServer (id : String)
  | getServer (id : String)
  | listServers
  | saveTenant (config : TenantConfig)
  | deleteTenant (tenancy : Tenancy)
  | getTenant (tenancy : Tenancy)
  | bindRegion (region id : String)
  | unbindRegion (region : String)
  | getRegionServer (region : String)
  | saveRecord (record : InstanceRecord)
  | deleteRecord (id : String)
  | getRecord (id : String)
  | findByResource (id : String)
  | findByIp (ip : String)
  | setState (id : String) (state : SetupState)
  | listByState (state : SetupState)
  | noteState (id : String) (state : SetupState)
  | saveSecret (key value : String)
  | deleteSecret (key : String)
  | setOutages (services : List String)
  | sleep (time : Duration)
  | resolve (config : ServerConfig)
  | resolveProject (tenancy : Tenancy)
  | resolveFor (tenancy : Tenancy)
  | known (serverId : String)
  | forgetContexts
  | buildContext (draft : Server.Context.Draft)
  | clientOf (number : Nat)
  | adminClientOf (number : Nat) (timeouts : Timeouts)
  | forgetClients
  | client (tenancy : Tenancy)
  | refresh
  | execute (tenancy : Tenancy) (decoder : Json.Decoder Json.Value) (command : Command)
  | executeOnServer (serverId : String) (decoder : Json.Decoder Json.Value) (command : Command)
  | executeForInstance (id : String) (decoder : Json.Decoder Json.Value) (command : Command)
  | adminExecute (tenancy : Tenancy) (timeouts : Timeouts) (decoder : Json.Decoder Json.Value)
      (command : Command)
  | executeAt (tenancy : Tenancy) (time : Time.Instant) (decoder : Json.Decoder Json.Value)
      (command : Command)

/-- What a step gives. -/
inductive Answer where
  | done
  | flag (b : Bool)
  | server (config : Option ServerConfig)
  | servers (configs : List ServerConfig)
  | tenant (config : Option TenantConfig)
  | record (record : Option InstanceRecord)
  | records (records : List InstanceRecord)
  | context (shown : Option (Nat × Server.Context))
  | client (context : Nat) (serverId : String) (transport : Transport)
  | response (response : Response Json.Value)
  | noSuchContext

/-- What the service of a session works with. -/
def around (world : World) (session : Session) : Service.Surroundings where
  sources := .of session.backend session.configurations session.outages
  refusal := world.refusal
  outside := world.outside
  now := session.now

/-! ## The parts -/

/-- An action of the service in its surroundings. -/
def onService {α : Type} (world : World) (action : Service.Surroundings → Action Service α) :
    Action Session α := do
  let session ← Action.read
  Action.onPart Session.service (fun session service => { session with service })
    (action (session.around world))

/-- An action of the resolver in its surroundings. -/
def onResolver {α : Type} (world : World) (action : Resolver.Surroundings → Action Resolver α) :
    Action Session α :=
  onService world fun around => Service.onResolver (action around.resolver)

/-- An action of the registry in its surroundings. -/
def onRegistry {α : Type} (world : World) (action : Registry.Surroundings → Action Registry α) :
    Action Session α :=
  onService world fun around => Service.onRegistry (action around.registry)

/-- A question to the surroundings. -/
def ask {α : Type} (world : World) (question : Sources → Action Session α) :
    Action Session α := do
  let session ← Action.read
  question (session.around world).sources

/-- Change the configurations. -/
def store (change : Configurations → Configurations) : Action Session Answer := do
  Action.modify fun (session : Session) =>
    { session with configurations := change session.configurations }
  return .done

/-- Change the records of machines. -/
def storeRecords (change : Instances → Instances) : Action Session Answer := do
  Action.modify fun (session : Session) =>
    { session with service :=
        { session.service with instances := change session.service.instances } }
  return .done

/-- Take something from the records of machines. -/
def lookUp (find : Instances → Answer) : Action Session Answer := do
  let session ← Action.read
  return find session.service.instances

/-- Change the backend. -/
def changeBackend (change : Backend → Except Error Backend) : Action Session Answer := do
  let session ← Action.read
  let backend ← Action.ofExcept (change session.backend)
  Action.modify fun (session : Session) => { session with backend }
  return .done

/-! ## Contexts that are shown -/

/-- The number of a context: the one under which it was shown before, or the next one. -/
def numberOf (issued : Issued) : Action Session Nat :=
  Action.update fun session =>
    match session.shown.findIdx? (·.serial == issued.serial) with
    | some number => (number, session)
    | none => (session.shown.length, { session with shown := session.shown ++ [issued] })

/-- Show a context, if there is one. -/
def showContext (found : Option Issued) : Action Session Answer := do
  match found with
  | none => return .context none
  | some issued =>
    let number ← numberOf issued
    return .context (some (number, issued.context))

/-- Show a client. -/
def showClient (client : Client) : Action Session Answer := do
  let number ← numberOf client.issued
  return .client number client.context.serverId client.transport

/-- Do something with a context that was shown. -/
def withContext (number : Nat) (action : Issued → Action Session Answer) :
    Action Session Answer := do
  let session ← Action.read
  match session.shown[number]? with
  | none => return .noSuchContext
  | some issued => action issued

/-! ## Steps -/

/-- The response to a command of the client that a tenant uses in a region, signed at a
fixed time. -/
def executeAt (around : Service.Surroundings) (tenancy : Tenancy) (time : Time.Instant)
    (decoder : Json.Decoder Json.Value) (command : Command) :
    Action Service (Response Json.Value) := do
  let client ← Service.client around tenancy
  Service.onRequests
    ({ client with signedAt := some time }.execute around.outside decoder command)

/-- A step as an action. -/
def step (world : World) : Step → Action Session Answer
  | .saveServer config => store (·.saveServer config)
  | .deleteServer id => store (·.deleteServer id)
  | .getServer id => do
    let found ← ask world (·.askServer id)
    return .server found
  | .listServers => do
    let session ← Action.read
    return .servers session.configurations.listServers
  | .saveTenant config => store (·.saveTenant config)
  | .deleteTenant tenancy => store (·.deleteTenant tenancy)
  | .getTenant tenancy => do
    let found ← ask world (·.askTenant tenancy)
    return .tenant found
  | .bindRegion region id => store (·.bindRegion region id)
  | .unbindRegion region => store (·.unbindRegion region)
  | .getRegionServer region => do
    let found ← ask world (·.askRegionServer region)
    return .server found
  | .saveRecord record => storeRecords (·.save record)
  | .deleteRecord id => storeRecords (·.delete id)
  | .getRecord id => lookUp fun records => .record (records.record? id)
  | .findByResource id => lookUp fun records => .record (records.byResource? id)
  | .findByIp ip => lookUp fun records => .record (records.byIp? ip)
  | .setState id state => do
    let updated ← onService world fun _ => Action.update fun (service : Service) =>
      let changed := service.instances.setState id state
      (changed.1, { service with instances := changed.2 })
    return .flag updated
  | .listByState state => lookUp fun records => .records (records.listByState state)
  | .noteState id state => do
    let updated ← onService world fun _ => Service.setInstanceState id state
    return .flag updated
  | .saveSecret key value => changeBackend (·.saveSecret key value)
  | .deleteSecret key => changeBackend (·.deleteSecret key)
  | .setOutages services => do
    Action.modify fun (session : Session) => { session with outages := services }
    return .done
  | .sleep time => do
    Action.modify fun (session : Session) =>
      { session with now := ⟨session.now.nanoseconds + time.nanoseconds⟩ }
    return .done
  | .resolve config => do
    let found ← onResolver world fun around => Resolver.resolve around config
    showContext found
  | .resolveProject tenancy => do
    let found ← onResolver world fun around => Resolver.resolveProject around tenancy
    showContext found
  | .resolveFor tenancy => do
    let issued ← onResolver world fun around => Resolver.resolveFor around tenancy
    showContext (some issued)
  | .known serverId => do
    let found ← onResolver world fun around => Resolver.known around serverId
    showContext found
  | .forgetContexts => do
    onService world fun _ => Service.forgetContexts
    return .done
  | .buildContext draft => do
    let context ← Action.ofExcept draft.build
    let issued ← onResolver world fun _ => Resolver.issue context
    showContext (some issued)
  | .clientOf number => withContext number fun issued => do
    let client ← onRegistry world fun around => Registry.client around issued
    showClient client
  | .adminClientOf number timeouts => withContext number fun issued => do
    let client ← onRegistry world fun around => Registry.adminClient around issued timeouts
    showClient client
  | .forgetClients => do
    onService world fun _ => Service.forgetClients
    return .done
  | .client tenancy => do
    let client ← onService world fun around => Service.client around tenancy
    showClient client
  | .refresh => do
    onService world fun _ => Service.refresh
    return .done
  | .execute tenancy decoder command => do
    let response ← onService world fun around => Service.execute around tenancy decoder command
    return .response response
  | .executeOnServer serverId decoder command => do
    let response ← onService world fun around =>
      Service.executeOnServer around serverId decoder command
    return .response response
  | .executeForInstance id decoder command => do
    let response ← onService world fun around =>
      Service.executeForInstance around id decoder command
    return .response response
  | .adminExecute tenancy timeouts decoder command => do
    let response ← onService world fun around =>
      Service.adminExecute around tenancy timeouts decoder command
    return .response response
  | .executeAt tenancy time decoder command => do
    let response ← onService world fun around =>
      executeAt around tenancy time decoder command
    return .response response

/-- The state after some steps, whatever their answers are. -/
def after (world : World) (session : Session) (steps : List Step) : Session :=
  steps.foldl (fun session next => (step world next session).state) session

/-! ## The start -/

/-- What a session starts with. -/
structure Start where
  settings : Settings
  backend : Backend
  configurations : Configurations
  instances : Instances
  outages : List String

/-- A session in which nothing was done yet.  It starts with building a transport, which
may fail. -/
def create (world : World) (start : Start) : Action Workshop Session := do
  let service ← Service.create world.refusal start.settings start.instances
  return {
    service
    backend := start.backend
    configurations := start.configurations
    outages := start.outages
    now := ⟨0⟩
    shown := [] }

end Session
end ChefAccess
