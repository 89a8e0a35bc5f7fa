import ChefAccess.Http.Grammar
import ChefAccess.Http.Uri

/-!
# Requests and replies

A request carries its headers in the order in which they were set, and its body as
bytes.  A reply is what the other side sends back, of which only the headers that name
a content type matter.

Main definitions:

- {lit}`Request`: a request that is ready to be sent.
- {lit}`Reply`: what came back.
- {lit}`Reply.contentType?`: the content type of a reply, if it can be read.
-/

namespace ChefAccess
namespace Http

/-- The headers of a request: lower-case names with their values. -/
abbrev Headers := List (String × String)

/-- A request that is ready to be sent. -/
structure Request where
  method : String
  uri : Uri
  headers : Headers
  body : List UInt8
  deriving DecidableEq, Repr

/-- What came back for a request. -/
structure Reply where
  status : Nat
  contentTypes : List String
  body : List UInt8
  deriving DecidableEq, Repr

namespace Reply

/-- A reply, if its status and its content types are well formed. -/
def check (reply : Reply) : Except Error Reply :=
  if !isStatus reply.status then .error invalidStatus
  else if reply.contentTypes.all fun value => isValue (Text.Utf8.encode value) then .ok reply
  else .error invalidValue

/-- The first content type of a reply, if it can be read as text. -/
def contentType? (reply : Reply) : Option String :=
  reply.contentTypes.head?.filter fun value => isVisible (Text.Utf8.encode value)

end Reply
end Http
end ChefAccess
