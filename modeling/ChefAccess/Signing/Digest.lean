import ChefAccess.Base64
import ChefAccess.Sha1
import ChefAccess.Text.Utf8

/-!
# Digests

Paths and bodies take part in a signature as the base64 text of their digest.
-/

namespace ChefAccess
namespace Signing

/-- The digest of some bytes, as base64 text. -/
def digest (bytes : List UInt8) : String :=
  Base64.encode (Sha1.digest bytes)

/-- The digest of a text. -/
def digestText (s : String) : String :=
  digest (Text.Utf8.encode s)

end Signing
end ChefAccess
