import ChefAccess.Error
import ChefAccess.Text.Blank

/-!
# Server versions

Three generations of the server are told apart.  The oldest knows no organizations, and
each is announced as a client version of its own.

Main definitions:

- {lit}`Version`: the generations of the server.
- {lit}`Version.ofTag` and {lit}`Version.ofTagOrDefault`: the version named by a tag.

Main results:

- Theorem {lit}`Version.ofTag_tag`: each version is named by its tag.
-/

namespace ChefAccess
namespace Server

/-- The generations of the server. -/
inductive Version where
  | v11
  | v12
  | v13
  deriving DecidableEq, Repr

namespace Version

/-- The version that is taken where none is named. -/
def default : Version :=
  v13

/-- The tag of a version. -/
def tag : Version → String
  | v11 => "11"
  | v12 => "12"
  | v13 => "13"

/-- The name of a version in descriptions. -/
def describe : Version → String
  | v11 => "V11"
  | v12 => "V12"
  | v13 => "V13"

/-- The version that a client announces to a server. -/
def clientVersion : Version → String
  | v11 => "11.4.0"
  | v12 => "12.7.2"
  | v13 => "15.3.14"

/-- Whether requests are addressed to an organization. -/
def hasOrganizations : Version → Bool
  | v11 => false
  | v12 => true
  | v13 => true

/-- The version named by a tag, around which white space may stand. -/
def ofTag (s : String) : Except Error Version :=
  let tag := Text.trim s
  if tag = "11" then .ok v11
  else if tag = "12" then .ok v12
  else if tag = "13" then .ok v13
  else .error (Error.configInvalid ("unsupported chef server version: " ++ tag))

/-- The version named by a tag; a blank tag names none. -/
def ofTagOrDefault (s : String) : Except Error Version :=
  if Text.isBlank s then .ok default else ofTag s

/-- Each version is named by its tag. -/
@[simp]
theorem ofTag_tag (version : Version) : ofTag version.tag = .ok version := by
  cases version <;> cbv

end Version
end Server
end ChefAccess
