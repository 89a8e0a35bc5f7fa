import ChefAccess.Cache
import ChefAccess.Client.Basic
import ChefAccess.Settings

/-!
# The client registry

Transports are costly, so clients share them: all clients of shared servers use the
transport that was built first, and all clients of tenants' servers one that is built when
it is first needed.  The clients themselves are kept for some time as well.

Main definitions:

- {lit}`Registry`: the shared transports and the clients that are kept.
- {lit}`Registry.create`: a registry with its first transport.
- {lit}`Registry.client`: the client of a context.
- {lit}`Registry.adminClient`: a client on a transport of its own.
-/

namespace ChefAccess

/-- The workshop that builds transports: how many builds were tried so far, and how many
of them succeeded. -/
structure Workshop where
  tried : Nat
  built : Nat
  deriving DecidableEq, Repr

namespace Workshop

/-- The workshop in which nothing was built yet. -/
def idle : Workshop :=
  ⟨0, 0⟩

/-- Build a transport.  The builds that fail are given by their numbers. -/
def build (refusal : Nat → Option Error) (timeouts : Timeouts) : Action Workshop Transport := do
  Action.record (.built timeouts)
  let result ← Action.update fun workshop =>
    match refusal workshop.tried with
    | some e => (.error e, { workshop with tried := workshop.tried + 1 })
    | none =>
      (.ok ⟨workshop.built⟩, ⟨workshop.tried + 1, workshop.built + 1⟩)
  Action.ofExcept result

end Workshop

/-- The shared transports and the clients that are kept. -/
structure Registry where
  workshop : Workshop
  timeouts : Timeouts
  zoneTransport : Transport
  projectTransport : Option Transport
  zoneClients : Cache Client
  projectClients : Cache Client

namespace Registry

/-- What a registry works with: the builds that fail, and the time. -/
structure Surroundings where
  refusal : Nat → Option Error
  now : Duration

/-- A registry with its first transport. -/
def create (refusal : Nat → Option Error) (settings : Settings) : Action Workshop Registry := do
  let zoneTransport ← Workshop.build refusal settings.timeouts
  let workshop ← Action.read
  return {
    workshop, zoneTransport
    timeouts := settings.timeouts
    projectTransport := none
    zoneClients := .empty settings.zoneClientCapacity settings.zoneClientTtl
    projectClients := .empty settings.projectClientCapacity settings.projectClientTtl }

/-- The clients that are kept for servers of a kind. -/
def clients (registry : Registry) : Server.ContextKind → Cache Client
  | .zone => registry.zoneClients
  | .project => registry.projectClients

/-- The registry with other clients for servers of a kind. -/
def withClients (registry : Registry) (kind : Server.ContextKind) (cache : Cache Client) :
    Registry :=
  match kind with
  | .zone => { registry with zoneClients := cache }
  | .project => { registry with projectClients := cache }

/-- The registry that has forgotten all clients.  The transports stay. -/
def forget (registry : Registry) : Registry :=
  { registry with
    zoneClients := registry.zoneClients.clear
    projectClients := registry.projectClients.clear }

/-- Build a transport in the workshop of the registry. -/
def build (around : Surroundings) (timeouts : Timeouts) : Action Registry Transport :=
  Action.onPart Registry.workshop (fun registry workshop => { registry with workshop })
    (Workshop.build around.refusal timeouts)

/-- The client that is kept for a context.  A client of another context of the same server
is not the right one. -/
def kept (around : Surroundings) (issued : Issued) : Action Registry (Option Client) := do
  let kind := issued.context.kind
  let found ← Action.update fun (registry : Registry) =>
    let found := (registry.clients kind).get around.now issued.context.serverId
    (found.1, registry.withClients kind found.2)
  return found.filter fun client => decide (client.issued.serial = issued.serial)

/-- The transport that the clients of servers of a kind share.  The one for tenants'
servers is built when it is first needed. -/
def sharedTransport (around : Surroundings) (kind : Server.ContextKind) :
    Action Registry Transport := do
  let registry ← Action.read
  match kind, registry.projectTransport with
  | .zone, _ => return registry.zoneTransport
  | .project, some transport => return transport
  | .project, none => do
    let transport ← build around registry.timeouts
    Action.modify fun (registry : Registry) =>
      { registry with projectTransport := some transport }
    return transport

/-- The client of a context. -/
def client (around : Surroundings) (issued : Issued) : Action Registry Client := do
  match ← kept around issued with
  | some client => return client
  | none =>
    let kind := issued.context.kind
    let transport ← sharedTransport around kind
    let client : Client := ⟨issued, transport, none⟩
    Action.modify fun (registry : Registry) =>
      registry.withClients kind
        ((registry.clients kind).insert around.now issued.context.serverId client)
    return client

/-- A client on a transport of its own, which is not kept. -/
def adminClient (around : Surroundings) (issued : Issued) (timeouts : Timeouts) :
    Action Registry Client := do
  let transport ← build around timeouts
  return ⟨issued, transport, none⟩

end Registry
end ChefAccess
