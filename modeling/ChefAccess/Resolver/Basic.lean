import ChefAccess.Cache
import ChefAccess.Client.Basic
import ChefAccess.Key.Material
import ChefAccess.Resolver.Sources
import ChefAccess.Server.Host
import ChefAccess.Settings

/-!
# The resolver

A resolver finds the context of a server, and keeps what it has found for some time.  The
shared server of a region signs with a secret, and the server of a tenant with a key file.
A configuration with gaps is no failure: it leaves a warning, and there is no context.

Main definitions:

- {lit}`Resolver`: the contexts that are kept.
- {lit}`Resolver.construct`: the context of a configuration with its key material.
- {lit}`Resolver.resolve`: the context of a shared server.
- {lit}`Resolver.resolveProject`: the context of the server of a tenant.
- {lit}`Resolver.resolveFor`: the context that a tenant uses in a region.
- {lit}`Resolver.known`: a context that was resolved before.
-/

namespace ChefAccess

/-- A resolver: the contexts that it keeps, by server or by tenant and region, and the
number of contexts issued so far. -/
structure Resolver where
  insecure : Bool
  cache : Cache Issued
  issued : Nat

namespace Resolver

/-- What a resolver works with: the answers of its surroundings, and the time. -/
structure Surroundings where
  sources : Sources
  now : Duration

/-- A resolver that keeps nothing yet. -/
def ofSettings (settings : Settings) : Resolver :=
  ⟨settings.insecure, .empty settings.contextCapacity settings.contextTtl, 0⟩

/-- The resolver that has forgotten all contexts. -/
def forget (resolver : Resolver) : Resolver :=
  { resolver with cache := resolver.cache.clear }

/-! ## The cache -/

/-- The key under which the context of a tenant in a region is kept. -/
def tenancyKey (tenancy : Tenancy) : String :=
  tenancy.tenant ++ "/" ++ tenancy.region

/-- The context kept under a key. -/
def lookup (around : Surroundings) (key : String) : Action Resolver (Option Issued) :=
  Action.update fun resolver =>
    let found := resolver.cache.get around.now key
    (found.1, { resolver with cache := found.2 })

/-- The context kept under a key, if it is of a given kind. -/
def lookupKind (around : Surroundings) (key : String) (kind : Server.ContextKind) :
    Action Resolver (Option Issued) := do
  let found ← lookup around key
  return found.filter fun issued => decide (issued.context.kind = kind)

/-- Keep a context under a key. -/
def keep (around : Surroundings) (key : String) (issued : Issued) : Action Resolver Unit :=
  Action.modify fun resolver =>
    { resolver with cache := resolver.cache.insert around.now key issued }

/-- Issue a context under the next number. -/
def issue (context : Server.Context) : Action Resolver Issued :=
  Action.update fun resolver =>
    (⟨resolver.issued, context⟩, { resolver with issued := resolver.issued + 1 })

/-- Leave a warning, and give nothing. -/
def warnNone {α : Type} (text : String) : Action Resolver (Option α) := do
  Action.record (.warning text)
  return none

/-! ## Construction -/

/-- The draft of the context of a server. -/
def draft (insecure : Bool) (config : ServerConfig) (username : String) (key : Key.Rsa)
    (version : Server.Version) (kind : Server.ContextKind) : Server.Context.Draft where
  serverId := some config.serverId
  baseUri := some (Server.Host.address config.host insecure)
  organization := some config.organization
  username := some username
  key := some key
  version
  kind
  roles := config.roles
  regions := config.regions
  dataBagNames := config.dataBags

/-- The context of a server with its key material, which is not blank. -/
def assemble (insecure : Bool) (config : ServerConfig) (material username : String)
    (kind : Server.ContextKind) : Except Error Server.Context := do
  let key ←
    match Key.Rsa.ofMaterial material with
    | .ok key => .ok key
    | .error e => .error (e.withOperation ("resolve chef server " ++ config.serverId))
  let version ← Server.Version.ofTagOrDefault config.version
  (draft insecure config username key version kind).build

/-- Keep a new context under the name of its server.  If a context of the other kind is
kept there, that context stays. -/
def keepNew (around : Surroundings) (serverId : String) (issued : Issued) :
    Action Resolver Unit := do
  let existing ← lookup around serverId
  match existing with
  | none => keep around serverId issued
  | some other =>
    if other.context.kind = issued.context.kind then keep around serverId issued
    else return ()

/-- The context of a server with its key material. -/
def construct (around : Surroundings) (config : ServerConfig) (material : Option String)
    (username : String) (kind : Server.ContextKind) : Action Resolver (Option Issued) := do
  match ← lookupKind around config.serverId kind with
  | some issued => return some issued
  | none =>
    if Text.isBlank config.host then
      warnNone ("chef server " ++ config.serverId ++ " has no host")
    else if Text.isBlank username then
      warnNone ("chef server " ++ config.serverId ++ " has no username")
    else
      match material.filter fun text => !Text.isBlank text with
      | none => warnNone ("chef server " ++ config.serverId ++ " has no key material")
      | some text =>
        let resolver ← Action.read
        let context ← Action.ofExcept (assemble resolver.insecure config text username kind)
        let issued ← issue context
        keepNew around config.serverId issued
        return some issued

/-! ## Resolution -/

/-- The key material of a shared server: the secret that its configuration names. -/
def secretMaterial (around : Surroundings) (config : ServerConfig) :
    Action Resolver (Option String) :=
  if Text.isBlank config.clientKey then return none
  else around.sources.askSecret config.clientKey

/-- The context of a shared server. -/
def resolve (around : Surroundings) (config : ServerConfig) : Action Resolver (Option Issued) := do
  match ← lookupKind around config.serverId .zone with
  | some issued => return some issued
  | none =>
    let material ← secretMaterial around config
    construct around config material config.username .zone

/-- The key material of the server of a tenant: the key file that its configuration
refers to. -/
def fileMaterial (around : Surroundings) (config : TenantConfig) :
    Action Resolver (Option String) :=
  match Blobs.token? config.apiKeyUrl with
  | none => return none
  | some token => do
    let text ← around.sources.askText token
    return some text

/-- The client that a tenant signs as: its own, or the one of the server. -/
def clientName (tenant : TenantConfig) (server : ServerConfig) : String :=
  match tenant.username with
  | some username => if Text.isBlank username then server.username else username
  | none => server.username

/-- The server of a tenant, if the tenant has one. -/
def projectServer (around : Surroundings) (tenancy : Tenancy) (config : TenantConfig) :
    Action Resolver (Option ServerConfig) :=
  let place := "tenant " ++ tenancy.tenant ++ " in region " ++ tenancy.region
  if Text.isBlank config.serverId then
    warnNone ("chef configuration of " ++ place ++ " has no server")
  else if config.mode ≠ .external then
    warnNone ("chef configuration of " ++ place ++ " has unsupported mode " ++
      config.mode.describe)
  else do
    match ← around.sources.askServer config.serverId with
    | none =>
      warnNone ("chef server " ++ config.serverId ++ " of tenant " ++ tenancy.tenant ++
        " is not configured")
    | some server => return some server

/-- The context of a tenant's server, read anew. -/
def constructProject (around : Surroundings) (tenancy : Tenancy) (config : TenantConfig)
    (server : ServerConfig) : Action Resolver (Option Issued) := do
  let material ← fileMaterial around config
  let resolved ← construct around server material (clientName config server) .project
  match resolved with
  | none => return none
  | some issued =>
    keep around (tenancyKey tenancy) issued
    return some issued

/-- The context of the server of a tenant in a region. -/
def resolveProject (around : Surroundings) (tenancy : Tenancy) :
    Action Resolver (Option Issued) := do
  match ← lookupKind around (tenancyKey tenancy) .project with
  | some issued => return some issued
  | none =>
    match ← around.sources.askTenant tenancy with
    | none =>
      warnNone ("no chef configuration found for tenant " ++ tenancy.tenant ++ " in region " ++
        tenancy.region)
    | some config =>
      match ← projectServer around tenancy config with
      | none => return none
      | some server => constructProject around tenancy config server

/-- The context of the server that a region shares. -/
def resolveRegion (around : Surroundings) (region : String) : Action Resolver Issued := do
  match ← around.sources.askRegionServer region with
  | none =>
    Action.fail (Error.configInvalid ("no chef server configured for region " ++ region))
  | some config =>
    match ← resolve around config with
    | none =>
      Action.fail (Error.configInvalid ("chef server " ++ config.serverId ++ " of region " ++
        region ++ " is not usable"))
    | some issued => return issued

/-- The context that a tenant uses in a region: that of its own server, or that of the
server that the region shares. -/
def resolveFor (around : Surroundings) (tenancy : Tenancy) : Action Resolver Issued := do
  match ← lookup around (tenancyKey tenancy) with
  | some issued => return issued
  | none =>
    match ← resolveProject around tenancy with
    | some issued => return issued
    | none =>
      let issued ← resolveRegion around tenancy.region
      keep around (tenancyKey tenancy) issued
      return issued

/-- The context of a server that was resolved before. -/
def known (around : Surroundings) (serverId : String) : Action Resolver (Option Issued) :=
  lookup around serverId

end Resolver
end ChefAccess
