import ChefAccess.Proofs.Client.Authentic
import ChefAccess.Proofs.Registry.Run
import ChefAccess.Proofs.Service.Ledger
import ChefAccess.Proofs.Service.Restart

/-!
# Clients speak for the contexts they were asked for

The registry keeps clients for a while, and contexts of the same server may replace each other
in the meantime.  A client that it gives is nevertheless bound to the very context that it was
asked about, and uses the transport of its kind: for zone servers the one that was built with the
service, for tenants' servers the one that they all share.  So every request that a service sends
speaks for the context that was resolved in the same step.

Main definitions:

- {lit}`Server.Context.SpokenFor`: a request has the address, the user and the signature of a
  context.
- {lit}`Service.SharedFrom`: a transport is the one of its kind, then and ever after.

Main results:

- Theorem {lit}`Client.spokenFor_of_sent`: a client speaks for its context.
- Theorems {lit}`Service.exists_of_sent_execute` and {lit}`Service.exists_of_sent_onServer`: a
  request is sent by the client of the context that was resolved.
- Theorem {lit}`Service.speaks_for_context`: whom clients and requests speak for, over every way
  to use a service.
-/

namespace ChefAccess

/-! ## Requests of one client -/

/-- A request speaks for a context: it goes to the address of the context, and the user and the
signature are those of the context, for the path of its resource. -/
structure Server.Context.SpokenFor (context : Server.Context) (command : Command)
    (request : Http.Request) : Prop where
  address : Http.Uri.parse (context.baseUri ++ context.resourcePath command.resource ++
    (match command.query with | some query => "?" ++ query | none => "")) = .ok request.uri
  signed : ∃ pieces signature contentHash timestamp,
    Signing.Authentic context.key ("/" ++ context.resourcePath command.resource) request pieces
      signature contentHash timestamp context.username

namespace Client

variable {client : Client} {command : Command} {request : Http.Request}

/-- The user of a request is that of the context. -/
theorem userId_of_prepare {timeOfDay : Time.Instant}
    (hprepare : client.prepare timeOfDay command = .ok request) :
    request.headers.values "x-ops-userid" = [client.context.username] := by
  obtain ⟨signature, -, hheaders⟩ := Signing.eq_of_sign_ok (eq_of_prepare_ok hprepare).1
  obtain ⟨pieces, hpieces, -⟩ := Signing.authorization_encode signature
  rw [hheaders, hpieces, Signing.values_signed _ _ _ (by decide)]
  rfl

/-- A client speaks for its context. -/
theorem spokenFor_of_sent {α : Type} {outside : Outside} {decoder : Json.Decoder α} {count : Nat}
    {transport : Transport}
    (hsent : .sent transport request ∈ (client.execute outside decoder command count).events) :
    client.context.SpokenFor command request := by
  have hprepare := prepare_of_sent hsent
  obtain ⟨pieces, signature, contentHash, timestamp, userId, hauthentic⟩ :=
    authentic_of_prepare hprepare
  refine ⟨(eq_of_prepare_ok hprepare).2.1, pieces, signature, contentHash, timestamp, ?_⟩
  have huser := hauthentic.userId_values
  rw [userId_of_prepare hprepare] at huser
  obtain rfl := (List.cons.inj huser).1
  exact hauthentic

/-- A client sends over its own transport. -/
theorem transport_of_sent {α : Type} {outside : Outside} {decoder : Json.Decoder α} {count : Nat}
    {transport : Transport}
    (hsent : .sent transport request ∈ (client.execute outside decoder command count).events) :
    transport = client.transport := by
  have hprepare := prepare_of_sent hsent
  rw [execute_of_prepare_ok hprepare] at hsent
  exact (Event.sent.inj (List.mem_singleton.mp hsent)).1

end Client

namespace Service

variable {settings : Settings} {around : Surroundings} {s : Service} {v : Issued}
  {transport : Transport} {request : Http.Request} {command : Command}

/-! ## Requests of a service -/

/-- A registry sends nothing. -/
theorem not_sent_of_client (around : Registry.Surroundings) (v : Issued) (r : Registry) :
    .sent transport request ∉ (Registry.client around v r).events := by
  have hcourse := Registry.client_course around v r
  generalize Registry.client around v r = outcome at hcourse
  cases hcourse with
  | kept _ => simp
  | shared _ _ => simp
  | built _ _ _ _ => simp
  | refused _ _ _ _ => simp

/-- A resolver sends nothing. -/
theorem not_sent_of_resolveFor (hreachable : Reachable settings s)
    (around : Resolver.Surroundings) (tenancy : Tenancy) :
    .sent transport request ∉ (Resolver.resolveFor around tenancy s.resolver).events := by
  obtain ⟨now, halike⟩ := alike_self_of_reachable hreachable
  have hplain : Event.Plain fun event _ => ∀ t q, event ≠ .sent t q :=
    ⟨fun _ _ _ hsame => (nomatch hsame), fun _ _ _ hsame => (nomatch hsame)⟩
  have haround : around.Alike Eq around := ⟨.refl Eq _, rfl⟩
  have hevents := (Resolver.resolveFor_inStep hplain Eq.refl haround tenancy _ _
    halike.resolver).events
  rw [List.forall₂_same] at hevents
  intro hmem
  exact hevents _ hmem transport request rfl

/-- What a performance sends, its client sends. -/
theorem exists_of_sent_perform {α : Type} {client : Client} {decoder : Json.Decoder α}
    (hsent : .sent transport request ∈ (perform around client decoder command s).events) :
    ∃ count, .sent transport request ∈
      (client.execute around.outside decoder command count).events := by
  rcases Action.mem_events_of_bind hsent with hsent | ⟨response, -, hlater⟩
  · exact ⟨s.requests, hsent⟩
  · -- after the exchange there is a warning at most
    dsimp only at hlater
    split at hlater
    · rcases Action.mem_events_of_bind hlater with hwarning | ⟨-, -, hnothing⟩
      · exact nomatch List.mem_singleton.mp hwarning
      · cases hnothing
    · cases hlater

/-- The transport of a kind is shared from a service on: for zone servers it is the one that was
built with the first service, and for tenants' servers it is the one that all later services
have. -/
structure SharedFrom (first : Service) (kind : Server.ContextKind) (transport : Transport)
    (after : Service) (hand : Issued → Prop) : Prop where
  zone : kind = .zone → transport = first.registry.zoneTransport
  project : kind = .project → ∀ later hand', Used after hand later hand' →
    later.registry.projectTransport = some transport

/-- What is shared after some use of a service is shared ever after. -/
theorem SharedFrom.of_shared {first after : Service} {ledger : List Server.Context}
    {kind : Server.ContextKind} {hand : Issued → Prop}
    (haudited : Audited first.registry.plant ledger after)
    (hhand : ∀ v, hand v → v.BookedIn ledger)
    (hshared : after.registry.plant.shared kind = some transport) :
    SharedFrom first kind transport after hand := by
  constructor
  case zone =>
    rintro rfl
    rw [← Option.some.inj hshared]
    exact haudited.plant.zone
  case project =>
    rintro rfl later hand' hused
    have hnow : Audited after.registry.plant ledger after :=
      ⟨haudited.resolver, haudited.registry, .refl _⟩
    obtain ⟨_, hlater, -⟩ := hnow.used hhand hused
    exact hlater.plant.project transport hshared

/-- A command for a context that is booked is sent by the client of that very context, over the
transport that is shared. -/
theorem spokenFor_of_sent_bound {α : Type} {plant : Plant} {ledger : List Server.Context}
    {decoder : Json.Decoder α} (haudited : Audited plant ledger s) (hbooked : v.BookedIn ledger)
    (hsent : .sent transport request ∈ ((onRegistry (Registry.client around.registry v) >>=
      fun client => perform around client decoder command) s).events) :
    v.context.SpokenFor command request ∧
      ((onRegistry (Registry.client around.registry v) >>=
        fun client => perform around client decoder command) s).state.registry.plant.shared
          v.context.kind = some transport := by
  rcases Action.mem_events_of_bind hsent with hclient | ⟨client, hok, hperform⟩
  · exact absurd hclient (not_sent_of_client around.registry v s.registry)
  · obtain ⟨count, hexecute⟩ := exists_of_sent_perform hperform
    obtain ⟨now, -, hnow, hbound⟩ := onRegistry_client_books around.registry hbooked s haudited
    obtain rfl := hbound client hok
    obtain rfl := Client.transport_of_sent hexecute
    refine ⟨Client.spokenFor_of_sent hexecute, ?_⟩
    have hshared := (haudited.registry.of_client_ok hok).2
    -- the performance leaves the transports alone
    obtain ⟨_, _, hlater, -⟩ := perform_books around client decoder command now _
      ⟨hnow.resolver, hnow.registry, Plant.LeadsTo.refl _⟩
    rw [Action.bind_ok hok]
    exact hlater.plant.shared_eq hshared

/-- A request for a tenant is sent for the context that was resolved, over the transport that is
shared. -/
theorem exists_of_sent_execute {α : Type} {plant : Plant} {ledger : List Server.Context}
    {tenancy : Tenancy} {decoder : Json.Decoder α} (haudited : Audited plant ledger s)
    (hreachable : Reachable settings s)
    (hsent : .sent transport request ∈ (execute around tenancy decoder command s).events) :
    ∃ v, (Resolver.resolveFor around.resolver tenancy s.resolver).result = .ok v ∧
      v.context.SpokenFor command request ∧
      (execute around tenancy decoder command s).state.registry.plant.shared v.context.kind =
        some transport := by
  have hgroup : execute around tenancy decoder command s =
      (onResolver (Resolver.resolveFor around.resolver tenancy) >>= fun v =>
        onRegistry (Registry.client around.registry v) >>= fun client =>
          perform around client decoder command) s :=
    Action.bind_assoc _ _ _ s
  rw [hgroup] at hsent ⊢
  rcases Action.mem_events_of_bind hsent with hresolve | ⟨v, hok, hbound⟩
  · exact absurd hresolve (not_sent_of_resolveFor hreachable around.resolver tenancy)
  · obtain ⟨_, _, hnow, hbooked⟩ := onResolver_books
      (Resolver.resolveFor_books around.resolver tenancy ledger) s haudited
    obtain ⟨hspoken, hshared⟩ := spokenFor_of_sent_bound hnow (hbooked v hok) hbound
    rw [Action.bind_ok hok]
    exact ⟨v, hok, hspoken, hshared⟩

/-- A request to a server by its name is sent for the context that was resolved, over the
transport that is shared. -/
theorem exists_of_sent_onServer {α : Type} {plant : Plant} {ledger : List Server.Context}
    {serverId : String} {decoder : Json.Decoder α} (haudited : Audited plant ledger s)
    (hsent : .sent transport request ∈
      (executeOnServer around serverId decoder command s).events) :
    ∃ v, (Resolver.known around.resolver serverId s.resolver).result = .ok (some v) ∧
      v.context.SpokenFor command request ∧
      (executeOnServer around serverId decoder command s).state.registry.plant.shared
        v.context.kind = some transport := by
  unfold executeOnServer at hsent ⊢
  rcases Action.mem_events_of_bind hsent with hlookup | ⟨found, hok, hbound⟩
  · cases hlookup
  · obtain ⟨_, _, hnow, hbooked⟩ := onResolver_books
      (Resolver.lookup_books around.resolver serverId ledger) s haudited
    cases found with
    | none => cases hbound
    | some v =>
      obtain ⟨hspoken, hshared⟩ := spokenFor_of_sent_bound hnow (hbooked _ hok v rfl) hbound
      rw [Action.bind_ok hok]
      exact ⟨v, hok, hspoken, hshared⟩

/-! ## The law -/

/-- Whom clients and requests speak for, for every service that was created and however it was
used since.  A client that the registry gives for a context in the hands of a caller is bound to
that context, and its transport is shared by its kind.  A request that is sent for a tenant
speaks for the context that was resolved in the same step, over the transport that is shared by
its kind; and so does a request that is sent to a server by its name. -/
theorem speaks_for_context {refusal : Nat → Option Error} {instances : Instances}
    {workshop : Workshop} {first : Service} {hand : Issued → Prop}
    (hcreate : (create refusal settings instances workshop).result = .ok first)
    (hused : Used first (fun _ => False) s hand) :
    (∀ around v client, hand v → (Registry.client around v s.registry).result = .ok client →
      client.issued = v ∧ SharedFrom first v.context.kind client.transport
        (onRegistry (Registry.client around v) s).state hand) ∧
    (∀ (α : Type) around tenancy (decoder : Json.Decoder α) command transport request,
      .sent transport request ∈ (execute around tenancy decoder command s).events →
      ∃ v, (Resolver.resolveFor around.resolver tenancy s.resolver).result = .ok v ∧
        v.context.SpokenFor command request ∧
        SharedFrom first v.context.kind transport
          (execute around tenancy decoder command s).state hand) ∧
    (∀ (α : Type) around serverId (decoder : Json.Decoder α) command transport request,
      .sent transport request ∈ (executeOnServer around serverId decoder command s).events →
      ∃ v, (Resolver.known around.resolver serverId s.resolver).result = .ok (some v) ∧
        v.context.SpokenFor command request ∧
        SharedFrom first v.context.kind transport
          (executeOnServer around serverId decoder command s).state hand) := by
  have hreachable := hused.reachable (.created hcreate)
  obtain rfl := eq_initial_of_create_ok hcreate
  obtain ⟨ledger, haudited, hhand⟩ :=
    (audited_initial settings instances workshop).used (fun _ hfalse => False.elim hfalse) hused
  refine ⟨?_, ?_, ?_⟩
  · intro around v client hv hok
    obtain ⟨later, hextends, hafter, hbound⟩ :=
      onRegistry_client_books around (hhand v hv) s haudited
    refine ⟨hbound client hok, .of_shared hafter ?_ (haudited.registry.of_client_ok hok).2⟩
    exact fun w hw => (hhand w hw).extend hextends
  · intro α around tenancy decoder command transport request hsent
    obtain ⟨v, hok, hspoken, hshared⟩ := exists_of_sent_execute haudited hreachable hsent
    obtain ⟨later, hextends, hafter, -⟩ :=
      execute_books around tenancy decoder command ledger s haudited
    exact ⟨v, hok, hspoken, .of_shared hafter (fun w hw => (hhand w hw).extend hextends) hshared⟩
  · intro α around serverId decoder command transport request hsent
    obtain ⟨v, hok, hspoken, hshared⟩ := exists_of_sent_onServer haudited hsent
    obtain ⟨later, hextends, hafter, -⟩ :=
      executeOnServer_books around serverId decoder command ledger s haudited
    exact ⟨v, hok, hspoken, .of_shared hafter (fun w hw => (hhand w hw).extend hextends) hshared⟩

/-- A service that was just created, with the default settings. -/
def newService : Service :=
  initial .default .empty .idle

/-- The surroundings of a registry in which every build succeeds. -/
def calm : Registry.Surroundings :=
  ⟨fun _ => none, ⟨0⟩⟩

/-- Two contexts of one shared server, for different users. -/
def olderContext : Server.Context :=
  Registry.sampleContext .zone "alice"

@[inherit_doc olderContext]
def newerContext : Server.Context :=
  Registry.sampleContext .zone "bob"

/-- The service after two contexts of one server were issued, and a client was asked for the
first of them. -/
def replacedService : Service :=
  let issued := (onResolver (Resolver.issue newerContext)
    (onResolver (Resolver.issue olderContext) newService).state).state
  (onRegistry (Registry.client calm ⟨0, olderContext⟩) issued).state

/-- The client of the second context does not speak for the first one, which the registry keeps
under the same name. -/
theorem speaks_for_context_replaced :
    (create (fun _ => none) .default .empty .idle).result = .ok newService ∧
      ∃ hand, Used newService (fun _ => False) replacedService hand ∧
        hand ⟨1, newerContext⟩ ∧
        replacedService.registry.zoneClients.size = 1 ∧
        ∃ client, (Registry.client calm ⟨1, newerContext⟩ replacedService.registry).result =
            .ok client ∧
          client.issued = ⟨1, newerContext⟩ ∧ client.transport = ⟨0⟩ := by
  have hcreate : (create (fun _ => none) .default .empty .idle).result = .ok newService := rfl
  obtain ⟨hand, hused, hhand⟩ : ∃ hand, Used newService (fun _ => False) replacedService hand ∧
      hand ⟨1, newerContext⟩ :=
    ⟨_, .registry calm (Or.inl (Or.inr rfl)) (.issued newerContext
      (.issued olderContext .here)), Or.inr rfl⟩
  have hok : (Registry.client calm ⟨1, newerContext⟩ replacedService.registry).result =
      .ok ⟨⟨1, newerContext⟩, ⟨0⟩, none⟩ := rfl
  obtain ⟨hbound, hshared⟩ := (speaks_for_context hcreate hused).1 calm _ _ hhand hok
  exact ⟨hcreate, hand, hused, hhand, rfl, _, hok, hbound, hshared.zone rfl⟩

end Service
end ChefAccess
