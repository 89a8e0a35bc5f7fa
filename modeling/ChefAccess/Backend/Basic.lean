import ChefAccess.Backend.Blobs
import ChefAccess.Text.Escape
import ChefAccess.Text.Listing

/-!
# Backends

The services behind the library: a store of secrets, a blob store, and the variables of
the environment.  Each may be left out.

Main definitions:

- {lit}`Backend`: the services that are there.
- {lit}`Backend.secret`: the value of a secret as it is stored.
- {lit}`Backend.describe`: what may be shown of a backend.
-/

namespace ChefAccess

/-- The services that are there. -/
structure Backend where
  secrets : Option (Dict String String)
  blobs : Option Blobs
  environment : Option (Dict String String)
  deriving Repr

namespace Backend

/-- The backend without services. -/
def empty : Backend :=
  ⟨none, none, none⟩

/-! ## Secrets -/

/-- The failure of an operation on secrets where there is no store for them. -/
def noSecrets (operation : String) : Error :=
  Error.unexpected ("secret " ++ operation ++ " not supported: no secret store configured")

/-- The value of a secret as it is stored. -/
def secret (backend : Backend) (key : String) : Except Error (Option String) :=
  match backend.secrets with
  | none => .error (noSecrets "lookup")
  | some secrets => .ok (secrets.get? key)

/-- Whether there is a secret by a name. -/
def hasSecret (backend : Backend) (key : String) : Except Error Bool :=
  (backend.secret key).map (·.isSome)

/-- The backend with a secret set to a value. -/
def saveSecret (backend : Backend) (key value : String) : Except Error Backend :=
  match backend.secrets with
  | none => .error (noSecrets "write")
  | some secrets => .ok { backend with secrets := some (secrets.insert key value) }

/-- The backend without a secret. -/
def deleteSecret (backend : Backend) (key : String) : Except Error Backend :=
  match backend.secrets with
  | none => .error (noSecrets "delete")
  | some secrets => .ok { backend with secrets := some (secrets.erase key) }

/-! ## Files -/

/-- The failure to read a file where there is no blob store. -/
def noFiles : Error :=
  Error.unexpected "file reading not supported: no file reader configured"

/-- The bytes of a file. -/
def file (backend : Backend) (path : String) : Except Error (List UInt8) :=
  match backend.blobs with
  | none => .error noFiles
  | some blobs => blobs.read path

/-! ## Variables -/

/-- The value of a variable. -/
def variableValue? (backend : Backend) (name : String) : Option String :=
  backend.environment.bind (·.get? name)

/-- All variables with their values. -/
def allVariables (backend : Backend) : Dict String String :=
  backend.environment.getD Dict.empty

/-! ## Descriptions -/

/-- What may be shown of a backend: the names of secrets, but not their values. -/
def describe (backend : Backend) : String :=
  let files :=
    match backend.blobs with
    | none => "NoopFileRead"
    | some _ => "BlobRead"
  let environment :=
    match backend.environment with
    | none => "NoopEnv"
    | some dict => "StaticEnv \x7b envs: " ++ Text.quotedDict dict ++ " \x7d"
  let secrets :=
    match backend.secrets with
    | none => "NoopSecretStore"
    | some dict => "StaticSecretStore \x7b keys: " ++ Text.quotedList dict.keys ++ " \x7d"
  "Context \x7b fs: " ++ files ++ ", env: " ++ environment ++ ", secrets: " ++ secrets ++ " \x7d"

end Backend
end ChefAccess
