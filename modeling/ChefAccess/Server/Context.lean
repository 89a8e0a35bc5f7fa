import ChefAccess.Key.Rsa
import ChefAccess.Server.Version
import ChefAccess.Text.Listing

/-!
# Server contexts

A context holds what it takes to talk to one server: its address, the organization, the
client with its key, and what is known about the server.  It is built from a draft, which
is complete when everything that the server's version asks for is there.

Main definitions:

- {lit}`Context`: how to talk to one server.
- {lit}`Context.Draft`: a context in the making.
- {lit}`Context.Draft.ofEntries`: the draft that some entries are filled into.
- {lit}`Context.Draft.build`: the context of a complete draft.
- {lit}`Context.resourcePath`: the path of a resource below the organization.

Main results:

- Theorem {lit}`Context.describe_key`: a description does not depend on the key.
-/

namespace ChefAccess
namespace Server

/-- Whom a server serves: all tenants of its regions, or one tenant. -/
inductive ContextKind where
  | zone
  | project
  deriving DecidableEq, Repr

/-- The name of a kind in descriptions. -/
def ContextKind.describe : ContextKind → String
  | zone => "Zone"
  | project => "Project"

/-- The name of a kind in JSON. -/
def ContextKind.name : ContextKind → String
  | zone => "ZONE"
  | project => "PROJECT"

/-- The kind with a name. -/
def ContextKind.ofName? (s : String) : Option ContextKind :=
  if s = zone.name then some zone else if s = project.name then some project else none

/-- How to talk to one server. -/
structure Context where
  serverId : String
  baseUri : String
  organization : String
  username : String
  key : Key.Rsa
  version : Version
  kind : ContextKind
  roles : List String
  regions : List String
  dataBagNames : Dict String String
  deriving DecidableEq, Repr

namespace Context

/-- The path of the organization, which the oldest servers do not have. -/
def organizationPath (context : Context) : String :=
  if context.version.hasOrganizations then
    "organizations/" ++ context.organization ++ "/"
  else ""

/-- The path of a resource on the server. -/
def resourcePath (context : Context) (resource : String) : String :=
  context.organizationPath ++ Text.trimStartOf '/' resource

/-- Whether a role is known on the server. -/
def hasRole (context : Context) (role : String) : Bool :=
  context.roles.contains role

/-- The name that a data bag has on the server. -/
def dataBagName (context : Context) (name : String) : String :=
  (context.dataBagNames.get? name).getD name

/-! ## Descriptions -/

/-- What may be shown of a context. -/
def describe (context : Context) : String :=
  "ChefContext \x7b server_id: " ++ Text.quoted context.serverId ++
    ", base_uri: " ++ Text.quoted context.baseUri ++
    ", organization: " ++ Text.quoted context.organization ++
    ", username: " ++ Text.quoted context.username ++
    ", key: \"<redacted>\", version: " ++ context.version.describe ++
    ", context_type: " ++ context.kind.describe ++
    ", roles: " ++ Text.quotedList context.roles ++
    ", regions: " ++ Text.quotedList context.regions ++
    ", data_bag_names: " ++ Text.quotedDict context.dataBagNames ++ " \x7d"

/-- A description does not depend on the key. -/
theorem describe_key (context : Context) (key : Key.Rsa) :
    ({ context with key } : Context).describe = context.describe :=
  rfl

/-! ## Drafts -/

/-- A context in the making. -/
structure Draft where
  serverId : Option String
  baseUri : Option String
  organization : Option String
  username : Option String
  key : Option Key.Rsa
  version : Version
  kind : ContextKind
  roles : List String
  regions : List String
  dataBagNames : Dict String String
  deriving DecidableEq, Repr

/-- The draft in which nothing is filled in. -/
def Draft.empty : Draft :=
  ⟨none, none, none, none, none, .default, .zone, [], [], Dict.empty⟩

/-- What can be filled into a draft. -/
inductive Draft.Entry where
  | serverId (text : String)
  | baseUri (text : String)
  | organization (text : String)
  | username (text : String)
  | key (key : Key.Rsa)
  | version (version : Version)
  | kind (kind : ContextKind)
  | roles (roles : List String)
  | regions (regions : List String)
  | dataBagNames (names : Dict String String)

/-- Fill in one entry, in place of what was there before. -/
def Draft.fill (draft : Draft) : Entry → Draft
  | .serverId text => { draft with serverId := some text }
  | .baseUri text => { draft with baseUri := some text }
  | .organization text => { draft with organization := some text }
  | .username text => { draft with username := some text }
  | .key key => { draft with key := some key }
  | .version version => { draft with version }
  | .kind kind => { draft with kind }
  | .roles roles => { draft with roles }
  | .regions regions => { draft with regions }
  | .dataBagNames names => { draft with dataBagNames := names }

/-- The draft into which some entries are filled, one after the other. -/
def Draft.ofEntries (entries : List Entry) : Draft :=
  entries.foldl fill empty

/-- A field that has to be filled in, without its outer white space. -/
def required (field : String) (value : Option String) : Except Error String :=
  let text := Text.trim (value.getD "")
  if text.isEmpty then .error (Error.configInvalid (field ++ " is required")) else .ok text

/-- An address with a slash at its end. -/
def withSlash (uri : String) : String :=
  if uri.toList.getLast? = some '/' then uri else uri ++ "/"

/-- The context of a draft, if the draft is complete. -/
def Draft.build (draft : Draft) : Except Error Context := do
  let serverId ← required "server id" draft.serverId
  let baseUri ← required "base uri" draft.baseUri
  let username ← required "username" draft.username
  match draft.key with
  | none =>
    .error (Error.configInvalid
      ("authentication key is required for chef server " ++ serverId))
  | some key =>
    let organization := Text.trim (draft.organization.getD "")
    if draft.version.hasOrganizations && organization.isEmpty then
      .error (Error.configInvalid ("chef server " ++ serverId ++ " runs version " ++
        draft.version.tag ++ " and requires an organization"))
    else
      .ok {
        serverId, username, organization, key
        baseUri := withSlash baseUri
        version := draft.version
        kind := draft.kind
        roles := draft.roles
        regions := draft.regions
        dataBagNames := draft.dataBagNames }

end Context
end Server
end ChefAccess
