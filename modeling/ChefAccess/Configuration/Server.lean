import ChefAccess.Json.Decode

/-!
# Server configurations

What is stored about a server: where it is, which organization and client to use, the
name of the secret with the client's key, and what the server offers.

Main definitions:

- {lit}`ServerConfig`: a server configuration.
- {lit}`ServerConfig.toValue` and {lit}`ServerConfig.decoder`: its JSON form.
-/

namespace ChefAccess

open Json

/-- A server configuration. -/
structure ServerConfig where
  serverId : String
  host : String
  organization : String
  username : String
  clientKey : String
  version : String
  roles : List String
  regions : List String
  dataBags : Dict String String
  deriving DecidableEq, Repr

namespace ServerConfig

/-- The configuration in which nothing is filled in. -/
def empty : ServerConfig :=
  ⟨"", "", "", "", "", "", [], [], Dict.empty⟩

/-- The JSON form of a configuration. -/
def toValue (config : ServerConfig) : Value :=
  .ofMembers [
    ("server_id", .string config.serverId),
    ("host", .string config.host),
    ("organization", .string config.organization),
    ("username", .string config.username),
    ("client_key", .string config.clientKey),
    ("version", .string config.version),
    ("roles", .ofTexts config.roles),
    ("regions", .ofTexts config.regions),
    ("data_bags", .ofDict config.dataBags)]

/-- The fields of a configuration in their order. -/
def fields : List (Decoder.Field ServerConfig) := [
  .of "server_id" .string fun config serverId => { config with serverId },
  .of "host" .string fun config host => { config with host },
  .of "organization" .string fun config organization => { config with organization },
  .of "username" .string fun config username => { config with username },
  .of "client_key" .string fun config clientKey => { config with clientKey },
  .of "version" .string fun config version => { config with version },
  .of "roles" (.list .string) fun config roles => { config with roles },
  .of "regions" (.list .string) fun config regions => { config with regions },
  .of "data_bags" (.dict .string) fun config dataBags => { config with dataBags }]

/-- How a configuration is taken from a text.  A missing field is empty. -/
def decoder : Decoder ServerConfig :=
  .record fields empty

end ServerConfig
end ChefAccess
