import ChefAccess.Http.Message
import ChefAccess.Signing.Canonical
import ChefAccess.Text.Chunk

/-!
# Signed headers

A request is authenticated by its headers: who sends it, when, and the signature, which
is cut into pieces of sixty characters that are numbered from one.

Main definitions:

- {lit}`sign`: the headers of a request.
- {lit}`authorization`: the headers that hold a signature.

Main results:

- Theorem {lit}`length_fixedHeaders`: nine headers stand before the signature.
-/

namespace ChefAccess
namespace Signing

/-- The width of the pieces of a signature. -/
def pieceWidth : Nat :=
  60

/-- The name of the header with a piece of a signature. -/
def pieceName (number : Nat) : String :=
  "x-ops-authorization-" ++ toString number

/-- The headers that hold a signature. -/
def authorization (signature : String) : Http.Headers :=
  ((Text.chunks pieceWidth signature).getD []).zipIdx 1 |>.map fun piece =>
    (pieceName piece.2, piece.1)

/-- The headers before the signature. -/
def fixedHeaders (context : Server.Context) (fields : Canonical) : Http.Headers :=
  [("content-type", "application/json"),
   ("x-ops-timestamp", fields.timestamp),
   ("x-ops-userid", fields.username),
   ("x-chef-version", context.version.clientVersion),
   ("accept", "application/json"),
   ("x-ops-content-hash", fields.hashedBody),
   ("x-ops-sign", "version=1.0"),
   ("x-ops-server-api-version", "1"),
   ("accept-encoding", "gzip;q=1.0,deflate;q=0.6,identity;q=0.3")]

/-- Nine headers stand before the signature. -/
theorem length_fixedHeaders (context : Server.Context) (fields : Canonical) :
    (fixedHeaders context fields).length = 9 :=
  rfl

/-- The headers of a request for a resource.  Signing fails when the key is too small for
the signed text, or when the name of the client cannot be the value of a header. -/
def sign (context : Server.Context) (method resource : String) (time : Time.Instant)
    (body : List UInt8) : Except Error Http.Headers :=
  let fields := canonical context method resource time body
  match context.key.sign? (Text.Utf8.encode fields.render) with
  | none => .error (Error.signingFailed "failed to sign request").withExternal
  | some signature =>
    if Http.isValue (Text.Utf8.encode fields.username) then
      .ok (fixedHeaders context fields ++ authorization (Base64.encode signature))
    else .error (Error.signingFailed "invalid header value").withExternal

end Signing
end ChefAccess
