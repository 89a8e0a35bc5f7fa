import ChefAccess.Backend.Basic
import ChefAccess.Configuration.Store
import ChefAccess.Action

/-!
# Sources

What a resolver may ask its surroundings: configurations, secrets and files.  Any of the
services may be down.  Each question to a service that is there is written to the journal,
whether it is answered or not.

Main definitions:

- {lit}`Sources`: the answers of the surroundings.
- {lit}`Sources.of`: the answers of a backend and a configuration store.
- {lit}`Sources.askSecret` and the like: questions as actions.
-/

namespace ChefAccess

/-- The answers of the surroundings.  Secrets and files may have no service at all. -/
structure Sources where
  server : String → Except Error (Option ServerConfig)
  tenant : Tenancy → Except Error (Option TenantConfig)
  regionServer : String → Except Error (Option ServerConfig)
  secret : Option (String → Except Error (Option String))
  file : Option (String → Except Error (List UInt8))

namespace Sources

/-- The failure of a service that is down. -/
def down (service : String) : Error :=
  Error.unexpected (service ++ " is down")

/-- The answer of a service, unless it is among those that are down. -/
def unlessDown {α : Type} (outages : List String) (query : Query) (answer : Except Error α) :
    Except Error α :=
  if outages.contains query.service then .error (down query.service) else answer

/-- The answers of a backend and a configuration store, of which some services are down. -/
def of (backend : Backend) (store : Configurations) (outages : List String) : Sources where
  server id := unlessDown outages (.server id) (.ok (store.server? id))
  tenant tenancy :=
    unlessDown outages (.tenant tenancy.tenant tenancy.region) (.ok (store.tenant? tenancy))
  regionServer region :=
    unlessDown outages (.regionServer region) (.ok (store.regionServer? region))
  secret := backend.secrets.map fun _ key => unlessDown outages (.secret key) (backend.secret key)
  file := backend.blobs.map fun _ path => unlessDown outages (.file path) (backend.file path)

variable {σ : Type}

/-- Ask a question that is answered in a known way. -/
def ask {α : Type} (query : Query) (answer : Except Error α) : Action σ α := do
  Action.record (.asked query)
  Action.ofExcept answer

/-- Ask for the configuration of a server. -/
def askServer (sources : Sources) (id : String) : Action σ (Option ServerConfig) :=
  ask (.server id) (sources.server id)

/-- Ask for the configuration of a tenant in a region. -/
def askTenant (sources : Sources) (tenancy : Tenancy) : Action σ (Option TenantConfig) :=
  ask (.tenant tenancy.tenant tenancy.region) (sources.tenant tenancy)

/-- Ask for the server that a region shares. -/
def askRegionServer (sources : Sources) (region : String) : Action σ (Option ServerConfig) :=
  ask (.regionServer region) (sources.regionServer region)

/-- Ask for a secret as it is stored. -/
def askRawSecret (sources : Sources) (key : String) : Action σ (Option String) :=
  match sources.secret with
  | none => Action.fail (Backend.noSecrets "lookup")
  | some secret => ask (.secret key) (secret key)

/-- Ask for a secret without its escapes. -/
def askSecret (sources : Sources) (key : String) : Action σ (Option String) := do
  let value ← sources.askRawSecret key
  return value.map Text.unescape

/-- Ask for the bytes of a file. -/
def askFile (sources : Sources) (path : String) : Action σ (List UInt8) :=
  match sources.file with
  | none => Action.fail Backend.noFiles
  | some file => ask (.file path) (file path)

/-- Ask for the text of a file. -/
def askText (sources : Sources) (path : String) : Action σ String := do
  let bytes ← sources.askFile path
  return Text.Utf8.lossy bytes

end Sources
end ChefAccess
