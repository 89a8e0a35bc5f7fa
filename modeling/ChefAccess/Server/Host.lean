import ChefAccess.Text.Affix
import ChefAccess.Text.Blank
import ChefAccess.Text.LetterCase

/-!
# Host names

A configured host may be written with or without a scheme, in any letter case and with
slashes behind it.  All these spellings give one address, whose scheme is chosen by the
settings alone.

Main definitions:

- {lit}`Host.bare`: the host without its scheme and the slashes behind it.
- {lit}`Host.address`: the address of a host.
-/

namespace ChefAccess
namespace Server
namespace Host

/-- A text without the scheme before it, if there is one. -/
def withoutScheme (text : List Char) : List Char :=
  match Text.after? "https://".toList text with
  | some rest => rest
  | none => (Text.after? "http://".toList text).getD text

/-- The host in lower case, without its scheme and the slashes behind it. -/
def bare (host : String) : List Char :=
  Text.dropTrailing (· == '/') (withoutScheme (Text.toLower (Text.trim host)).toList)

/-- The scheme of an address. -/
def scheme (insecure : Bool) : String :=
  if insecure then "http" else "https"

/-- The address of a host, with a slash at its end. -/
def address (host : String) (insecure : Bool) : String :=
  scheme insecure ++ "://" ++ String.ofList (bare host) ++ "/"

end Host
end Server
end ChefAccess
