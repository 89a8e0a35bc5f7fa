import ChefAccess.Json.Decode

/-!
# Tenant configurations

What is stored about a tenant in a region: which server it uses, who manages that server,
where its key is, and the client to use instead of the server's own.

Main definitions:

- {lit}`ManagementMode`: who manages the server of a tenant.
- {lit}`TenantConfig`: a tenant configuration.
- {lit}`TenantConfig.toValue` and {lit}`TenantConfig.decoder`: its JSON form.

Main results:

- Theorem {lit}`ManagementMode.ofName_name`: each mode is known by its name.
-/

namespace ChefAccess

open Json

/-- Who manages the server of a tenant. -/
inductive ManagementMode where
  /-- The tenant brings a server of its own. -/
  | external
  /-- The tenant uses the server of its region. -/
  | internal
  /-- Any other mode. -/
  | unknown
  deriving DecidableEq, Repr

namespace ManagementMode

/-- The name of a mode in JSON. -/
def name : ManagementMode → String
  | external => "EXTERNAL"
  | internal => "INTERNAL"
  | unknown => "UNKNOWN"

/-- The name of a mode in descriptions. -/
def describe : ManagementMode → String
  | external => "External"
  | internal => "Internal"
  | unknown => "Unknown"

/-- The mode with a name. -/
def ofName (s : String) : ManagementMode :=
  if s = external.name then external
  else if s = internal.name then internal
  else unknown

/-- Each mode is known by its name. -/
@[simp]
theorem ofName_name (mode : ManagementMode) : ofName mode.name = mode := by
  cases mode <;> decide

/-- How a mode is taken from a text. -/
def decoder : Decoder ManagementMode :=
  .named fun s => some (ofName s)

end ManagementMode

/-- A tenant configuration. -/
structure TenantConfig where
  tenant : String
  region : String
  serverId : String
  mode : ManagementMode
  apiKeyUrl : String
  username : Option String
  deriving DecidableEq, Repr

namespace TenantConfig

/-- The configuration in which nothing is filled in. -/
def empty : TenantConfig :=
  ⟨"", "", "", .internal, "", none⟩

/-- The JSON form of a configuration. -/
def toValue (config : TenantConfig) : Value :=
  .ofMembers [
    ("tenant", .string config.tenant),
    ("region", .string config.region),
    ("server_id", .string config.serverId),
    ("mode", .string config.mode.name),
    ("api_key_url", .string config.apiKeyUrl),
    ("username", .ofOption config.username)]

/-- The fields of a configuration in their order. -/
def fields : List (Decoder.Field TenantConfig) := [
  .of "tenant" .string fun config tenant => { config with tenant },
  .of "region" .string fun config region => { config with region },
  .of "server_id" .string fun config serverId => { config with serverId },
  .of "mode" ManagementMode.decoder fun config mode => { config with mode },
  .of "api_key_url" .string fun config apiKeyUrl => { config with apiKeyUrl },
  .of "username" (.nullable .string) fun config username => { config with username }]

/-- How a configuration is taken from a text.  A missing field is empty. -/
def decoder : Decoder TenantConfig :=
  .record fields empty

end TenantConfig
end ChefAccess
