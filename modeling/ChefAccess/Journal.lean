import ChefAccess.Duration
import ChefAccess.Http.Message

/-!
# The journal

While an operation runs, it reads from its surroundings, has transports built, sends
requests and reports what it finds.  Each of these events is written to a journal, in
order, whether the operation succeeds or not.

Main definitions:

- {lit}`Query`: a question to the surroundings.
- {lit}`Event`: something that an operation did.
-/

namespace ChefAccess

/-! ## Events -/

/-- A question to the surroundings. -/
inductive Query where
  | server (id : String)
  | tenant (owner region : String)
  | regionServer (region : String)
  | secret (key : String)
  | file (path : String)
  deriving DecidableEq, Repr

namespace Query

/-- The name of the service that a question is put to. -/
def service : Query → String
  | server _ => "get_server"
  | tenant _ _ => "get_tenant"
  | regionServer _ => "get_region_server"
  | secret _ => "get_secret"
  | file _ => "file_read"

/-- A question in a journal. -/
def describe : Query → String
  | server id => "get_server " ++ id
  | tenant owner region => "get_tenant " ++ owner ++ " " ++ region
  | regionServer region => "get_region_server " ++ region
  | secret key => "get_secret " ++ key
  | file path => "file_read " ++ path

end Query

/-- How long a transport may take. -/
structure Timeouts where
  connect : Duration
  read : Duration
  deriving DecidableEq, Repr

/-- The usual timeouts. -/
def Timeouts.default : Timeouts :=
  ⟨.ofSecs 10, .ofSecs 60⟩

/-- A transport that was built, by its number. -/
structure Transport where
  number : Nat
  deriving DecidableEq, Repr

/-- Something that an operation did. -/
inductive Event where
  | asked (query : Query)
  | built (timeouts : Timeouts)
  | sent (transport : Transport) (request : Http.Request)
  | warning (text : String)
  | notice (text : String)
  deriving DecidableEq, Repr

end ChefAccess
