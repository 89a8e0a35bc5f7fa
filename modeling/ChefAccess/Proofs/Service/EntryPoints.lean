import ChefAccess.Proofs.Service.Confidential
import ChefAccess.Proofs.Service.Faithful
import ChefAccess.Proofs.Service.Parts

/-!
# The entry points of a service

There are several ways to have a command executed for a tenant.  An administrator has a transport
built for a single command, and whoever knows a machine only names it.  All of them resolve the
same context and send the same request: a client with a transport of its own and a client that is
kept differ in their transports alone.

Main definitions:

- {lit}`Event.blurred`: what is seen of an event by somebody who cannot tell transports apart.
- {lit}`Client.SameButTransport`: two clients differ in their transports alone.
- {lit}`Service.SameButTransports`: two outcomes differ in transports and registries alone.

Main results:

- Theorem {lit}`Client.execute_sameButTransport`: a client on another transport does the same.
- Theorem {lit}`Service.adminExecute_agrees`: an administrator gets the same as a tenant.
- Theorem {lit}`Service.entry_points_agree`: all ways to execute a command come to the same.
-/

namespace ChefAccess

/-! ## Outcomes that differ in transports -/

/-- What is seen of an event by somebody who cannot tell transports apart: a build is not seen at
all, and a request is seen without its transport. -/
def Event.blurred : Event → Option Event
  | .built _ => none
  | .sent _ request => some (.sent ⟨0⟩ request)
  | .asked query => some (.asked query)
  | .warning text => some (.warning text)
  | .notice text => some (.notice text)

/-- The request of an event, if one is sent. -/
def Event.request? : Event → Option Http.Request
  | .sent _ request => some request
  | .asked _ | .built _ | .warning _ | .notice _ => none

/-- A journal without requests. -/
theorem Event.request?_eq_nil {events : List Event}
    (hnone : ∀ transport request, .sent transport request ∉ events) :
    events.filterMap Event.request? = [] := by
  refine List.filterMap_eq_nil_iff.mpr fun event hevent => ?_
  cases event with
  | sent transport request => exact absurd hevent (hnone transport request)
  | asked query => rfl
  | built timeouts => rfl
  | warning text => rfl
  | notice text => rfl

namespace Client

variable {α : Type} {first second : Client} {outside : Outside} {decoder : Json.Decoder α}
  {command : Command} {count : Nat}

/-- Two clients differ in their transports alone. -/
structure SameButTransport (first second : Client) : Prop where
  issued : first.issued = second.issued
  signedAt : first.signedAt = second.signedAt

theorem SameButTransport.context (hsame : first.SameButTransport second) :
    first.context = second.context :=
  congrArg Issued.context hsame.issued

/-- The transport does not matter for the request. -/
theorem SameButTransport.prepare (hsame : first.SameButTransport second)
    (timeOfDay : Time.Instant) (command : Command) :
    first.prepare timeOfDay command = second.prepare timeOfDay command := by
  unfold Client.prepare Client.uri
  rw [hsame.context, hsame.signedAt]

/-- A client on another transport does the same, if it gets the same replies. -/
theorem execute_sameButTransport (hsame : first.SameButTransport second)
    (hreply : ∀ transport request,
      .sent transport request ∈ (second.execute outside decoder command count).events →
        outside.reply count first.transport request = outside.reply count transport request) :
    (first.execute outside decoder command count).result =
        (second.execute outside decoder command count).result ∧
      (first.execute outside decoder command count).state =
        (second.execute outside decoder command count).state ∧
      (first.execute outside decoder command count).events.filterMap Event.blurred =
        (second.execute outside decoder command count).events.filterMap Event.blurred := by
  have hprepare := hsame.prepare outside.timeOfDay command
  cases hsecond : second.prepare outside.timeOfDay command with
  | error e =>
    rw [execute_of_prepare_error hsecond, execute_of_prepare_error (hprepare.trans hsecond)]
    exact ⟨rfl, rfl, rfl⟩
  | ok request =>
    rw [execute_of_prepare_ok hsecond] at hreply
    have hanswer := hreply second.transport request (List.mem_singleton_self _)
    have huri : first.uri command = second.uri command := by
      rw [uri, uri, hsame.context]
    rw [execute_of_prepare_ok hsecond, execute_of_prepare_ok (hprepare.trans hsecond)]
    refine ⟨?_, rfl, rfl⟩
    rw [hanswer]
    simp only [Client.unanswered, huri]

/-- A client sends one request at most. -/
theorem sent_le_one (client : Client) (outside : Outside) (decoder : Json.Decoder α)
    (command : Command) (count : Nat) :
    ((client.execute outside decoder command count).events.filterMap Event.request?).length ≤
      1 := by
  have hcourse := client.execute_course outside decoder command count
  generalize client.execute outside decoder command count = outcome at hcourse ⊢
  cases hcourse with
  | unsent => exact Nat.zero_le 1
  | unanswered => exact Nat.le_refl 1
  | malformed => exact Nat.le_refl 1
  | answered => exact Nat.le_refl 1

end Client

namespace Registry

variable {around : Surroundings} {r : Registry}

/-- A registry gives a client, if a build would succeed. -/
theorem exists_client_ok (issued : Issued) (hnot : around.refusal r.workshop.tried = none) :
    ∃ client, (Registry.client around issued r).result = .ok client := by
  have hcourse := client_course around issued r
  generalize Registry.client around issued r = outcome at hcourse ⊢
  cases hcourse with
  | kept _ => exact ⟨_, rfl⟩
  | shared _ _ => exact ⟨_, rfl⟩
  | built _ _ _ _ => exact ⟨_, rfl⟩
  | refused _ _ _ hrefused => cases hnot.symm.trans hrefused

/-- A registry that is asked for a client does no more than to build. -/
theorem blurred_client (around : Surroundings) (issued : Issued) (r : Registry) :
    (Registry.client around issued r).events.filterMap Event.blurred = [] := by
  have hcourse := client_course around issued r
  generalize Registry.client around issued r = outcome at hcourse ⊢
  cases hcourse with
  | kept _ => rfl
  | shared _ _ => rfl
  | built _ _ _ _ => rfl
  | refused _ _ _ _ => rfl

end Registry

namespace Service

variable {α : Type} {settings : Settings} {around : Surroundings} {tenancy : Tenancy}
  {s : Service} {v : Issued} {plant : Plant} {ledger : List Server.Context}
  {decoder : Json.Decoder α} {command : Command}

/-- Two outcomes of a service differ in transports and in the registry alone: somebody who cannot
tell transports apart sees the same result, the same journal and the same other parts. -/
structure SameButTransports (first second : Outcome Service α) : Prop where
  result : first.result = second.result
  events : first.events.filterMap Event.blurred = second.events.filterMap Event.blurred
  resolver : first.state.resolver = second.state.resolver
  instances : first.state.instances = second.state.instances
  requests : first.state.requests = second.state.requests

/-- Performances by clients that differ in their transports alone differ in transports alone. -/
theorem perform_sameButTransports {first second : Client} {t : Service}
    (hsame : first.SameButTransport second) (hresolver : t.resolver = s.resolver)
    (hinstances : t.instances = s.instances) (hrequests : t.requests = s.requests)
    (hreply : ∀ transport request,
      .sent transport request ∈ (perform around second decoder command s).events →
        around.outside.reply s.requests first.transport request =
          around.outside.reply s.requests transport request) :
    SameButTransports (perform around first decoder command t)
      (perform around second decoder command s) := by
  have hsend : ∀ transport request, .sent transport request ∈
      (second.execute around.outside decoder command s.requests).events →
        around.outside.reply s.requests first.transport request =
          around.outside.reply s.requests transport request := by
    intro transport request hsent
    refine hreply transport request ?_
    rw [perform_apply]
    exact List.mem_append_left _ hsent
  obtain ⟨hresult, hcount, hevents⟩ := Client.execute_sameButTransport hsame hsend
  rw [perform_apply, perform_apply, hrequests]
  refine ⟨hresult, ?_, hresolver, hinstances, hcount⟩
  simp only [List.filterMap_append, hevents, hresult, complaint, hsame.context]

/-- A performance sends one request at most. -/
theorem requests_perform_le (around : Surroundings) (client : Client) (decoder : Json.Decoder α)
    (command : Command) (s : Service) :
    ((perform around client decoder command s).events.filterMap Event.request?).length ≤ 1 := by
  have hquiet : ∀ result : Except Error (Response α),
      (complaint client command result).filterMap Event.request? = [] := by
    intro result
    refine Event.request?_eq_nil fun transport request hsent => ?_
    unfold complaint at hsent
    split at hsent
    · cases hsent
    · split at hsent
      · cases List.mem_singleton.mp hsent
      · cases hsent
  rw [perform_apply]
  dsimp only
  rw [List.filterMap_append, hquiet, List.append_nil]
  exact client.sent_le_one around.outside decoder command s.requests

/-- A registry whose builds succeed gives a client for a booked context, which is bound to it and
signs with the time of day; only builds are seen of that. -/
theorem exists_client_of_booked (haudited : Audited plant ledger s) (hbooked : v.BookedIn ledger)
    (hunpinned : s.registry.Unpinned)
    (hbuild : around.refusal s.registry.workshop.tried = none) :
    ∃ client registry built, onRegistry (Registry.client around.registry v) s =
        ⟨.ok client, { s with registry }, built⟩ ∧
      client.issued = v ∧ client.signedAt = none ∧ built.filterMap Event.blurred = [] ∧
      built.filterMap Event.request? = [] := by
  have hnot : around.registry.refusal s.registry.workshop.tried = none := hbuild
  obtain ⟨client, hclient⟩ := Registry.exists_client_ok v hnot
  obtain ⟨_, -, -, hbound⟩ := onRegistry_client_books around.registry hbooked s haudited
  refine ⟨client, (Registry.client around.registry v s.registry).state, _, ?_,
    hbound client hclient, hunpinned.of_client_ok hclient,
    Registry.blurred_client around.registry v s.registry,
    Event.request?_eq_nil fun _ _ => not_sent_of_client around.registry v s.registry⟩
  rw [← hclient]
  rfl

/-- A registry whose builds succeed gives an administrator a client of its own. -/
theorem onRegistry_adminClient (hbuild : around.refusal s.registry.workshop.tried = none)
    (v : Issued) (timeouts : Timeouts) :
    onRegistry (Registry.adminClient around.registry v timeouts) s =
      ⟨.ok ⟨v, s.registry.plant.next, none⟩,
        { s with registry := s.registry.withPlant s.registry.plant.afterBuild },
        [.built timeouts]⟩ := by
  rcases Registry.adminClient_cases around.registry v timeouts s.registry with
    ⟨-, houtcome⟩ | ⟨e, hrefused, -⟩
  · rw [onRegistry, Action.onPart, houtcome]
  · cases hbuild.symm.trans hrefused

/-- An administrator gets the same as a tenant, up to transports, and leaves the registry alone
but for the build.  A tenant sends one request at most. -/
theorem adminExecute_agrees (haudited : Audited plant ledger s)
    (hreachable : Reachable settings s) (timeouts : Timeouts)
    (hbuild : ∀ v, (Resolver.resolveFor around.resolver tenancy s.resolver).result = .ok v →
      around.refusal s.registry.workshop.tried = none)
    (hreply : ∀ transport request,
      .sent transport request ∈ (execute around tenancy decoder command s).events →
        around.outside.reply s.requests s.registry.plant.next request =
          around.outside.reply s.requests transport request) :
    SameButTransports (adminExecute around tenancy timeouts decoder command s)
        (execute around tenancy decoder command s) ∧
      ((execute around tenancy decoder command s).events.filterMap Event.request?).length ≤ 1 ∧
      ∃ workshop, (adminExecute around tenancy timeouts decoder command s).state.registry =
        { s.registry with workshop } := by
  have hsilent : ((Resolver.resolveFor around.resolver tenancy s.resolver).events).filterMap
      Event.request? = [] :=
    Event.request?_eq_nil fun _ _ => not_sent_of_resolveFor hreachable around.resolver tenancy
  obtain ⟨now, -, hnow, hbooked⟩ := onResolver_books
    (Resolver.resolveFor_books around.resolver tenancy ledger) s haudited
  rcases hresolve : Resolver.resolveFor around.resolver tenancy s.resolver with
    ⟨result, resolver, events⟩
  have hpart : onResolver (Resolver.resolveFor around.resolver tenancy) s =
      ⟨result, { s with resolver }, events⟩ := by
    rw [onResolver, Action.onPart, hresolve]
  rw [hresolve] at hsilent hbuild
  rw [hpart] at hnow hbooked
  rw [execute_eq] at hreply ⊢
  cases result with
  | error e =>
    rw [adminExecute, Action.bind_eq_of_error hpart, Action.bind_eq_of_error hpart]
    exact ⟨⟨rfl, rfl, rfl, rfl, rfl⟩, by rw [hsilent]; exact Nat.zero_le 1, _, rfl⟩
  | ok v =>
    have hbuild := hbuild v rfl
    obtain ⟨client, registry, built, hclient, hissued, hsigned, hblurred, hrequest⟩ :=
      exists_client_of_booked hnow (hbooked v rfl) hreachable.unpinned hbuild
    have hadmin := onRegistry_adminClient (s := { s with resolver }) hbuild v timeouts
    rw [Action.bind_eq_of_ok hpart, Action.bind_eq_of_ok hclient] at hreply
    rw [adminExecute, Action.bind_eq_of_ok hpart, Action.bind_eq_of_ok hpart,
      Action.bind_eq_of_ok hadmin, Action.bind_eq_of_ok hclient]
    have hsame : Client.SameButTransport ⟨v, s.registry.plant.next, none⟩ client :=
      ⟨hissued.symm, hsigned.symm⟩
    have hperform : SameButTransports
        (perform around ⟨v, s.registry.plant.next, none⟩ decoder command
          { s with resolver, registry := s.registry.withPlant s.registry.plant.afterBuild })
        (perform around client decoder command { s with resolver, registry }) := by
      refine perform_sameButTransports hsame rfl rfl rfl fun transport request hsent => ?_
      exact hreply transport request
        (List.mem_append_right events (List.mem_append_right built hsent))
    refine ⟨⟨hperform.result, ?_, hperform.resolver, hperform.instances, hperform.requests⟩,
      ?_, ⟨s.registry.workshop.tried + 1, s.registry.workshop.built + 1⟩, ?_⟩
    · simp only [List.filterMap_append, hperform.events, hblurred]
      rfl
    · simp only [List.filterMap_append, hsilent, hrequest, List.nil_append]
      exact requests_perform_le around client decoder command _
    · rw [perform_apply]
      rfl

/-- A command for a machine is one for the tenant of its record, and fails at once if there is no
record. -/
theorem executeForInstance_eq (around : Surroundings) (instanceId : String)
    (decoder : Json.Decoder α) (command : Command) (s : Service) :
    executeForInstance around instanceId decoder command s =
      match s.instances.record? instanceId with
      | some record => execute around ⟨record.tenant, record.region⟩ decoder command s
      | none => ⟨.error ((Error.requestInvalid
          ("instance " ++ instanceId ++ " is not known")).withOperation command.label), s, []⟩ := by
  rw [executeForInstance, Action.read_bind]
  cases s.instances.record? instanceId with
  | none => rfl
  | some record => rfl

/-- All ways to have a command executed come to the same, for every service that was created and
however it was used since.  If the build for the context succeeds, and the transport that is built
gets the same replies, an administrator gets the same result as a tenant; the same questions are
asked, the same request is sent, one at most, and the same warnings are left; the resolver is left
the same; and the registry of the administrator has only seen a build.  A command for a machine is
the one for the tenant of its record; without a record it fails at once, and nothing is done. -/
theorem entry_points_agree {refusal : Nat → Option Error} {instances : Instances}
    {workshop : Workshop} {first : Service} {hand : Issued → Prop}
    (hcreate : (create refusal settings instances workshop).result = .ok first)
    (hused : Used first (fun _ => False) s hand) :
    (∀ (α : Type) (around : Surroundings) (tenancy : Tenancy) (timeouts : Timeouts)
      (decoder : Json.Decoder α) (command : Command),
      (∀ v, (Resolver.resolveFor around.resolver tenancy s.resolver).result = .ok v →
        around.refusal s.registry.workshop.tried = none) →
      (∀ transport request,
        .sent transport request ∈ (execute around tenancy decoder command s).events →
          around.outside.reply s.requests s.registry.plant.next request =
            around.outside.reply s.requests transport request) →
      let admin := adminExecute around tenancy timeouts decoder command s
      let plain := execute around tenancy decoder command s
      SameButTransports admin plain ∧
        (plain.events.filterMap Event.request?).length ≤ 1 ∧
        ∃ workshop, admin.state.registry = { s.registry with workshop }) ∧
    (∀ (α : Type) (around : Surroundings) (instanceId : String) (decoder : Json.Decoder α)
      (command : Command),
      executeForInstance around instanceId decoder command s =
        match s.instances.record? instanceId with
        | some record => execute around ⟨record.tenant, record.region⟩ decoder command s
        | none => ⟨.error ((Error.requestInvalid
            ("instance " ++ instanceId ++ " is not known")).withOperation command.label),
            s, []⟩) := by
  have hreachable := hused.reachable (.created hcreate)
  obtain rfl := eq_initial_of_create_ok hcreate
  obtain ⟨ledger, haudited, -⟩ :=
    (audited_initial settings instances workshop).used (fun _ hfalse => False.elim hfalse) hused
  refine ⟨?_, ?_⟩
  · intro α around tenancy timeouts decoder command hbuild hreply
    exact adminExecute_agrees haudited hreachable timeouts hbuild hreply
  · intro α around instanceId decoder command
    exact executeForInstance_eq around instanceId decoder command s

/-- An administrator and a tenant of a region with a shared server, and a machine without a
record. -/
theorem entry_points_agree_wide :
    let around := wideWorld (String.ofList (wideText firstExponents))
    let command := Command.get "/nodes"
    (create (fun _ => none) .default .empty .idle).result = .ok newService ∧
      Used newService (fun _ => False) newService (fun _ => False) ∧
      SameButTransports
        (adminExecute around ⟨"acme", "eu"⟩ .default Json.Decoder.value command newService)
        (execute around ⟨"acme", "eu"⟩ Json.Decoder.value command newService) ∧
      executeForInstance around "i-1" Json.Decoder.value command newService =
        ⟨.error ((Error.requestInvalid "instance i-1 is not known").withOperation command.label),
          newService, []⟩ := by
  intro around command
  have hcreate : (create (fun _ => none) .default .empty .idle).result = .ok newService := rfl
  obtain ⟨hadmin, hmachine⟩ := entry_points_agree hcreate .here
  exact ⟨hcreate, .here,
    (hadmin Json.Value around ⟨"acme", "eu"⟩ .default Json.Decoder.value command
      (fun _ _ => rfl) fun _ _ _ => rfl).1,
    hmachine Json.Value around "i-1" Json.Decoder.value command⟩

end Service
end ChefAccess
