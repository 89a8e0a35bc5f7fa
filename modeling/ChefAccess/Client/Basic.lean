import ChefAccess.Client.Command
import ChefAccess.Client.Verdict
import ChefAccess.Json.Decode
import ChefAccess.Action
import ChefAccess.Signing.Headers

/-!
# Clients

A client sends commands to one server over one transport.  Sending has three parts: the
request is prepared and signed, it is exchanged for a reply, and the reply is understood.
Only the second part needs the world outside.

Main definitions:

- {lit}`Issued`: a context with the number under which it was issued.
- {lit}`Client`: a context with a transport.
- {lit}`Client.prepare`: the request for a command.
- {lit}`understand`: the response that a reply amounts to.
- {lit}`Client.execute`: the response to a command.
-/

namespace ChefAccess

/-- A context with the number under which it was issued.  Two contexts with the same
fields are different contexts if they were issued one after the other. -/
structure Issued where
  serial : Nat
  context : Server.Context
  deriving DecidableEq, Repr

/-- A context with a transport, and the time of signing if it is fixed. -/
structure Client where
  issued : Issued
  transport : Transport
  signedAt : Option Time.Instant

/-- What a reply amounts to: the verdict on it, and its body as a value or as text. -/
structure Response (α : Type) where
  status : Nat
  verdict : Verdict
  result : Option α
  raw : Option String
  contentHash : String

/-- The world outside of a client: the time of day, and the reply to each request, which
may depend on how many requests there were before. -/
structure Outside where
  timeOfDay : Time.Instant
  reply : Nat → Transport → Http.Request → Except Error Http.Reply

namespace Client

/-- The context of a client. -/
def context (client : Client) : Server.Context :=
  client.issued.context

/-- The address of a command. -/
def uri (client : Client) (command : Command) : String :=
  client.context.baseUri ++ client.context.resourcePath command.resource ++
    (match command.query with | some query => "?" ++ query | none => "")

/-- The request for a command, signed at a given time of day. -/
def prepare (client : Client) (timeOfDay : Time.Instant) (command : Command) :
    Except Error Http.Request :=
  match Signing.sign client.context command.verb.method command.resource
      (client.signedAt.getD timeOfDay) command.body with
  | .error e => .error (e.withOperation command.label)
  | .ok headers =>
    match Http.Uri.parse (client.uri command) with
    | .error fault => .error ((Error.ofHttp fault.message).withOperation command.label)
    | .ok uri => .ok ⟨command.verb.method, uri, headers, command.body⟩

end Client

/-- The response that a reply to a command amounts to. -/
def understand {α : Type} (decoder : Json.Decoder α) (command : Command) (reply : Http.Reply) :
    Except Error (Response α) :=
  let verdict := Verdict.of reply.status reply.contentType?
  let contentHash := Signing.digest reply.body
  if command.raw then
    .ok ⟨reply.status, verdict, none, some (Text.Utf8.lossy reply.body), contentHash⟩
  else if verdict.failed then .ok ⟨reply.status, verdict, none, none, contentHash⟩
  else
    match decoder.decodeBytes reply.body with
    | some result => .ok ⟨reply.status, verdict, some result, none, contentHash⟩
    | none =>
      .error (((Error.transport "malformed response body").withExternal).withOperation
        command.label)

namespace Client

/-- Exchange a request for a reply, counting the requests. -/
def exchange (client : Client) (outside : Outside) (request : Http.Request) :
    Action Nat (Except Error Http.Reply) := do
  Action.record (.sent client.transport request)
  Action.update fun count => (outside.reply count client.transport request, count + 1)

/-- The response to a command. -/
def execute {α : Type} (client : Client) (outside : Outside) (decoder : Json.Decoder α)
    (command : Command) : Action Nat (Response α) := do
  let request ← Action.ofExcept (client.prepare outside.timeOfDay command)
  match ← client.exchange outside request with
  | .error e =>
    Action.fail ((Error.transport
      ("failed to execute request to " ++ client.uri command)).withCause e
        |>.withOperation command.label)
  | .ok reply => Action.ofExcept (understand decoder command reply)

end Client
end ChefAccess
