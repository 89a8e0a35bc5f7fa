import ChefAccess.Proofs.Client.Outcome
import ChefAccess.Proofs.Signing.Headers

/-!
# Every request that is sent is authentic

A server that knows the public exponent of a client can check each request of that client
from the request alone: it takes the signature from the numbered headers, the signed fields
from the other headers, and the method and the body from the request itself.

Main definitions:

- {lit}`Signing.Authentic`: the check that a server makes.

Main results:

- Theorem {lit}`Client.hash_of_body`: the signed hash is that of the body that is sent.
- Theorem {lit}`Client.authentic_of_prepare`: every request that is made passes the check.
- Theorem {lit}`Client.authentic_of_sent`: so does every request that is sent.
-/

namespace ChefAccess

/-! ## The check -/

/-- What a server checks of a request for a path, given the key of the client: the pieces of
the signature, and the values that it finds in the headers. -/
structure Signing.Authentic (key : Key.Rsa) (path : String) (request : Http.Request)
    (pieces : List String) (signature : List UInt8) (contentHash timestamp userId : String) :
    Prop where
  /-- The pieces are numbered from one without a gap, and no other name starts like theirs. -/
  numbered : request.headers.startingWith "x-ops-authorization-" =
    (pieces.zipIdx 1).map fun piece => ("x-ops-authorization-" ++ toString piece.2, piece.1)
  /-- The joined pieces are the base64 text of the signature. -/
  joined : Base64.decode? (String.join pieces) = some signature
  /-- There is one hash of the body. -/
  contentHash_values : request.headers.values "x-ops-content-hash" = [contentHash]
  /-- There is one time. -/
  timestamp_values : request.headers.values "x-ops-timestamp" = [timestamp]
  /-- There is one client. -/
  userId_values : request.headers.values "x-ops-userid" = [userId]
  /-- The key accepts the signature for the fields of the request. -/
  accepted : key.Accepts (Text.Utf8.encode (Signing.Canonical.render
    ⟨request.method, Signing.digestText path, contentHash, timestamp, userId⟩)) signature
  /-- The hash is that of the body of the request. -/
  hashed : contentHash = Signing.digest request.body

namespace Client

/-! ## Requests -/

/-- The signed hash is that of the body that is sent, for every verb: a body that takes no
part in the signature is empty. -/
theorem hash_of_body (command : Command) :
    (if Signing.signsBody command.verb.method then command.body else []) = command.body := by
  unfold Command.body
  cases command.verb with
  | get => rfl
  | delete => rfl
  | post entity => rfl
  | put entity => rfl

/-- What making a request did: its headers were signed, and it has the method and the body
of the command. -/
theorem eq_of_prepare_ok {client : Client} {timeOfDay : Time.Instant} {command : Command}
    {request : Http.Request} (hprepare : client.prepare timeOfDay command = .ok request) :
    Signing.sign client.context command.verb.method command.resource
        (client.signedAt.getD timeOfDay) command.body = .ok request.headers ∧
      Http.Uri.parse (client.uri command) = .ok request.uri ∧
      request.method = command.verb.method ∧ request.body = command.body := by
  unfold prepare at hprepare
  split at hprepare
  · cases hprepare
  · rename_i headers hsign
    split at hprepare
    · cases hprepare
    · rename_i uri huri
      rw [← Except.ok.inj hprepare]
      exact ⟨hsign, huri, rfl, rfl⟩

/-- Every request that is made passes the check of the server. -/
theorem authentic_of_prepare {client : Client} {timeOfDay : Time.Instant} {command : Command}
    {request : Http.Request} (hprepare : client.prepare timeOfDay command = .ok request) :
    ∃ pieces signature contentHash timestamp userId,
      Signing.Authentic client.context.key ("/" ++ client.context.resourcePath command.resource)
        request pieces signature contentHash timestamp userId := by
  obtain ⟨hsign, -, hmethod, hbody⟩ := eq_of_prepare_ok hprepare
  obtain ⟨signature, hsignature, hheaders⟩ := Signing.eq_of_sign_ok hsign
  obtain ⟨pieces, hpieces, hjoin⟩ := Signing.authorization_encode signature
  rw [hpieces] at hheaders
  have hvalues : ∀ {name : String},
      Signing.pieceStart.toList.isPrefixOf name.toList = false →
      request.headers.values name = (Signing.fixedHeaders client.context (Signing.canonical
        client.context command.verb.method command.resource (client.signedAt.getD timeOfDay)
        command.body)).values name := by
    intro name hname
    rw [hheaders, Signing.values_signed _ _ _ hname]
  refine ⟨pieces, signature, Signing.digest command.body,
    Time.Timestamp.format (client.signedAt.getD timeOfDay), client.context.username, ?_⟩
  constructor
  case numbered =>
    rw [hheaders]
    exact Signing.startingWith_signed _ _ pieces
  case joined => rw [hjoin, Base64.decode?_encode]
  case contentHash_values =>
    rw [hvalues (by decide), Signing.canonical, hash_of_body]
    rfl
  case timestamp_values =>
    rw [hvalues (by decide)]
    rfl
  case userId_values =>
    rw [hvalues (by decide)]
    rfl
  case accepted =>
    have haccepts := Key.Rsa.accepts_of_sign? hsignature
    rw [Signing.canonical, hash_of_body] at haccepts
    rw [hmethod]
    exact haccepts
  case hashed => rw [hbody]

/-! ## Commands -/

/-- A request that a command sends was made for it. -/
theorem prepare_of_sent {α : Type} {client : Client} {outside : Outside}
    {decoder : Json.Decoder α} {command : Command} {count : Nat} {transport : Transport}
    {request : Http.Request}
    (hsent : .sent transport request ∈ (client.execute outside decoder command count).events) :
    client.prepare outside.timeOfDay command = .ok request := by
  cases hprepare : client.prepare outside.timeOfDay command with
  | error e =>
    rw [execute_of_prepare_error hprepare] at hsent
    cases hsent
  | ok made =>
    rw [execute_of_prepare_ok hprepare] at hsent
    have heq := List.mem_singleton.mp hsent
    rw [(Event.sent.inj heq).2]

/-- The request that was made for a command is sent. -/
theorem sent_of_prepare_ok {α : Type} {client : Client} {outside : Outside}
    (decoder : Json.Decoder α) {command : Command} (count : Nat) {request : Http.Request}
    (hprepare : client.prepare outside.timeOfDay command = .ok request) :
    .sent client.transport request ∈ (client.execute outside decoder command count).events := by
  rw [execute_of_prepare_ok hprepare]
  exact List.mem_singleton.mpr rfl

/-- Every request that a command sends, for any context, verb, resource, query, entity and
time, passes the check of a server that knows the key and the path of the resource. -/
theorem authentic_of_sent {α : Type} {client : Client} {outside : Outside}
    {decoder : Json.Decoder α} {command : Command} {count : Nat} {transport : Transport}
    {request : Http.Request}
    (hsent : .sent transport request ∈ (client.execute outside decoder command count).events) :
    ∃ pieces signature contentHash timestamp userId,
      Signing.Authentic client.context.key ("/" ++ client.context.resourcePath command.resource)
        request pieces signature contentHash timestamp userId :=
  authentic_of_prepare (prepare_of_sent hsent)

/-- The numbers of a key file: the factors are two primes just below powers of two. -/
def sampleParts : Key.Rsa.Parts where
  modulus := (2 ^ 607 - 1) * (2 ^ 1279 - 1)
  publicExponent := 65537
  privateExponent := (36409 * ((2 ^ 607 - 2) * (2 ^ 1279 - 2)) + 1) / 65537
  first := 2 ^ 607 - 1
  second := 2 ^ 1279 - 1

/-- A client that signs with the key of those numbers, in the first second of 1970. -/
def sampleClient : Client where
  issued := ⟨0, {
    serverId := "east"
    baseUri := "https://chef.example/"
    organization := "acme"
    username := "alice"
    key := ⟨sampleParts.modulus, sampleParts.publicExponent, sampleParts.privateExponent⟩
    version := .v12
    kind := .zone
    roles := []
    regions := []
    dataBagNames := Dict.empty }⟩
  transport := ⟨0⟩
  signedAt := some .epoch

/-- The world outside in which no request gets a reply. -/
def sampleOutside : Outside :=
  ⟨.epoch, fun _ _ _ => .error (Error.transport "no reply")⟩

/-- A request with an entity that is sent with a proper key, and gets no reply. -/
theorem authentic_of_sent_sample :
    sampleParts.key? = some sampleClient.context.key ∧
      ∃ request, .sent sampleClient.transport request ∈ (sampleClient.execute sampleOutside
          Json.Decoder.value (Command.of (.post .null) "/nodes") 0).events ∧
        ∃ pieces signature contentHash timestamp userId,
          Signing.Authentic sampleClient.context.key
            ("/" ++ sampleClient.context.resourcePath "/nodes")
            request pieces signature contentHash timestamp userId := by
  have hkey : sampleParts.key? = some sampleClient.context.key := by
    decide +kernel
  have hmade : (sampleClient.prepare sampleOutside.timeOfDay
      (Command.of (.post .null) "/nodes")).isOk = true := by
    decide +kernel
  refine ⟨hkey, ?_⟩
  cases hprepare : sampleClient.prepare sampleOutside.timeOfDay
      (Command.of (.post .null) "/nodes") with
  | error e =>
    rw [hprepare] at hmade
    cases hmade
  | ok request =>
    have hsent := sent_of_prepare_ok Json.Decoder.value 0 hprepare
    have hauthentic := authentic_of_sent hsent
    exact ⟨request, hsent, hauthentic⟩

end Client
end ChefAccess
