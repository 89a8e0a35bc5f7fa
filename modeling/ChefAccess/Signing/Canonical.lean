import ChefAccess.Server.Context
import ChefAccess.Signing.Digest
import ChefAccess.Time.Timestamp

/-!
# What is signed

Of a request five fields are signed, each on a line of its own behind its label.  The
path and the body are represented by their digests.

Main definitions:

- {lit}`Canonical`: the five fields.
- {lit}`Canonical.render`: the text that is signed.
- {lit}`canonical`: the fields of a request.
-/

namespace ChefAccess
namespace Signing

/-- The fields of a request that are signed. -/
structure Canonical where
  method : String
  hashedPath : String
  hashedBody : String
  timestamp : String
  username : String
  deriving DecidableEq, Repr

/-- The text that is signed. -/
def Canonical.render (fields : Canonical) : String :=
  "Method:" ++ fields.method ++
    "\nHashed Path:" ++ fields.hashedPath ++
    "\nX-Ops-Content-Hash:" ++ fields.hashedBody ++
    "\nX-Ops-Timestamp:" ++ fields.timestamp ++
    "\nX-Ops-UserId:" ++ fields.username

/-- Whether the body of a request takes part in its signature. -/
def signsBody (method : String) : Bool :=
  method == "POST" || method == "PUT"

/-- The signed fields of a request for a resource. -/
def canonical (context : Server.Context) (method resource : String) (time : Time.Instant)
    (body : List UInt8) : Canonical where
  method
  hashedPath := digestText ("/" ++ context.resourcePath resource)
  hashedBody := digest (if signsBody method then body else [])
  timestamp := Time.Timestamp.format time
  username := context.username

end Signing
end ChefAccess
