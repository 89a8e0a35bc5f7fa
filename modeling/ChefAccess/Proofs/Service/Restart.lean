import ChefAccess.Proofs.Resolver.Fresh
import ChefAccess.Proofs.Service.Lockstep

/-!
# A refresh is as good as a restart

After a refresh, a service that was used in any way does the same as a new service in the same
surroundings.  The transports have other numbers, and a transport for tenants' servers that was
built before the refresh is not built again.  So nothing that was read before the refresh matters
afterwards.

Main definitions:

- {lit}`Service.Conforms`: what the settings say about a service that was used.
- {lit}`Service.Turn.after`: a turn that a service begins with when others came before it.

Main results:

- Theorem {lit}`Service.conforms_of_reachable`: every service that was used conforms to its
  settings.
- Theorem {lit}`Service.refresh_as_restart`: a service that was refreshed and a new one are in
  lockstep.
-/

namespace ChefAccess

/-! ## Equal contexts -/

/-- Contexts that differ in equal keys alone are equal. -/
theorem Server.Context.Alike.eq {first second : Server.Context}
    (halike : first.Alike Eq second) : first = second := by
  rw [halike.fields, halike.key]

theorem Server.Context.Alike.refl {Keys : Key.Rsa → Key.Rsa → Prop}
    (hrefl : ∀ key, Keys key key) (context : Server.Context) : context.Alike Keys context :=
  ⟨rfl, hrefl context.key⟩

/-- Clients with equal contexts make equal requests. -/
theorem Client.prepare_eq {first second : Client} (hcontext : first.context.Alike Eq second.context)
    (hsigned : first.signedAt = second.signedAt) (timeOfDay : Time.Instant) (command : Command) :
    Agree Eq (first.prepare timeOfDay command) (second.prepare timeOfDay command) := by
  have hsame : first.prepare timeOfDay command = second.prepare timeOfDay command := by
    unfold prepare Client.uri
    rw [hcontext.eq, hsigned]
  rw [hsame]
  exact Agree.refl Eq.refl _

/-- The calls of a resolver are in step. -/
theorem Resolver.Turn.action_inStep {Same : Event → Event → Prop} {settings : Settings}
    (hplain : Event.Plain Same) (turn : Resolver.Turn) :
    Action.InStep Same (Resolver.Alike settings Eq 0) (Option.Rel (Issued.Alike Eq 0))
      turn.action turn.action := by
  have haround : turn.around.Alike Eq turn.around := ⟨.refl Eq _, rfl⟩
  unfold Resolver.Turn.action
  split
  · exact Resolver.resolve_inStep hplain Eq.refl haround _
  · exact Resolver.resolveProject_inStep hplain Eq.refl haround _
  · refine (Resolver.resolveFor_inStep hplain Eq.refl haround _).bind ?_
    intro v w hissued
    exact .pure (.some hissued)
  · exact Resolver.lookup_inStep rfl _
  · refine Resolver.forget_inStep.bind ?_
    intro _ _ _
    exact .pure .none

namespace Service

/-! ## A service beside itself -/

/-- The comparison of a service with itself. -/
def selfComparison (settings : Settings) : Comparison where
  settings
  Keys := Eq
  Requests := Eq
  Shared := True
  issued := 0
  sent := 0
  spare := 0
  keys_refl := Eq.refl
  prepare_agree := Client.prepare_eq
  spare_eq_zero _ := Nat.zero_add 0

/-- Surroundings are like themselves. -/
theorem Surroundings.alike_self (around : Surroundings) (settings : Settings) :
    around.Alike (selfComparison settings) around where
  sources := .refl Eq around.sources
  refusal := .same trivial around.refusal
  outside := by
    refine ⟨rfl, ?_⟩
    rintro count t u request _ hshared rfl
    have hcount : (selfComparison settings).sent + count = count := Nat.zero_add count
    rw [hshared trivial, hcount]
  now := rfl

/-- A context that was issued is like itself. -/
theorem issued_alike_self (v : Issued) : v.Alike Eq 0 v :=
  ⟨(Nat.zero_add v.serial).symm, .refl Eq.refl v.context⟩

/-- A service that was created and used is like itself at some stage. -/
theorem alike_self_of_reachable {settings : Settings} {s : Service}
    (hreachable : Reachable settings s) :
    ∃ now, Service.Alike (selfComparison settings) now s s := by
  have hplain : ∀ now : Stage True, Event.Plain (Event.Alike Eq now.links) :=
    fun now => plain_alike Eq now.links
  induction hreachable with
  | @created refusal instances workshop service hcreate =>
    rw [eq_initial_of_create_ok hcreate]
    exact ⟨_, alike_initial (C := selfComparison settings) rfl rfl instances workshop⟩
  | turn turn _ ih =>
    obtain ⟨now, hstate⟩ := ih
    have hturn : turn.Alike (selfComparison settings) turn :=
      ⟨turn.around.alike_self settings, rfl⟩
    obtain ⟨later, houtcome⟩ :=
      Turn.action_coupled hturn now (Stage.LeadsTo.refl now) _ _ hstate
    exact ⟨later, houtcome.state⟩
  | resolver turn _ ih =>
    obtain ⟨now, hstate⟩ := ih
    have hstep : Action.InStep (Event.Alike Eq now.links)
        (Service.Alike (selfComparison settings) now) (Option.Rel (Issued.Alike Eq 0))
        (onResolver turn.action) (onResolver turn.action) :=
      onResolver_inStep (Resolver.Turn.action_inStep (hplain now) turn)
    exact ⟨now, (hstep _ _ hstate).state⟩
  | issued context _ ih =>
    obtain ⟨now, hstate⟩ := ih
    have hstep : Action.InStep Eq (Service.Alike (selfComparison settings) now)
        (Issued.Alike Eq 0) (onResolver (Resolver.issue context))
        (onResolver (Resolver.issue context)) :=
      onResolver_inStep (Resolver.issue_inStep (.refl Eq.refl context))
    exact ⟨now, (hstep _ _ hstate).state⟩
  | registry around issued _ ih =>
    obtain ⟨now, hstate⟩ := ih
    have haround : around.Alike True around := ⟨.same trivial around.refusal, rfl⟩
    have hcoupled : (selfComparison settings).Coupled
        (Service.Alike (selfComparison settings)) (selfComparison settings).Clients now
        (onRegistry (Registry.client around issued))
        (onRegistry (Registry.client around issued)) :=
      onRegistry_coupled (Registry.client_coupled haround (issued_alike_self issued))
    obtain ⟨later, houtcome⟩ := hcoupled now (Stage.LeadsTo.refl now) _ _ hstate
    exact ⟨later, houtcome.state⟩
  | adminRegistry around issued timeouts _ ih =>
    obtain ⟨now, hstate⟩ := ih
    have haround : around.Alike True around := ⟨.same trivial around.refusal, rfl⟩
    have hcoupled : (selfComparison settings).Coupled
        (Service.Alike (selfComparison settings)) (selfComparison settings).Clients now
        (onRegistry (Registry.adminClient around issued timeouts))
        (onRegistry (Registry.adminClient around issued timeouts)) :=
      onRegistry_coupled
        (Registry.adminClient_coupled haround (issued_alike_self issued) timeouts)
    obtain ⟨later, houtcome⟩ := hcoupled now (Stage.LeadsTo.refl now) _ _ hstate
    exact ⟨later, houtcome.state⟩
  | forgotten _ ih =>
    obtain ⟨now, hstate⟩ := ih
    have hstep : Action.InStep Eq (Service.Alike (selfComparison settings) now) Eq
        forgetClients forgetClients :=
      onRegistry_inStep Registry.forget_inStep
    exact ⟨now, (hstep _ _ hstate).state⟩

/-- What the settings say about a service that was used: they are in force, and the shared
transports were built and differ from each other. -/
structure Conforms (settings : Settings) (s : Service) : Prop where
  insecure : s.resolver.insecure = settings.insecure
  contexts : s.resolver.cache.Limited settings.contextCapacity settings.contextTtl
  timeouts : s.registry.timeouts = settings.timeouts
  zoneClients : s.registry.zoneClients.Limited settings.zoneClientCapacity settings.zoneClientTtl
  projectClients : s.registry.projectClients.Limited settings.projectClientCapacity
    settings.projectClientTtl
  zone : s.registry.zoneTransport.number < s.registry.workshop.built
  project : ∀ t, s.registry.projectTransport = some t →
    t.number < s.registry.workshop.built ∧ t ≠ s.registry.zoneTransport

/-- Every service that was created and used conforms to its settings. -/
theorem conforms_of_reachable {settings : Settings} {s : Service}
    (hreachable : Reachable settings s) : Conforms settings s := by
  obtain ⟨now, hstate⟩ := alike_self_of_reachable hreachable
  have hplant := hstate.registry.plant
  refine ⟨hstate.resolver.first_insecure, hstate.resolver.cache.first_limited,
    hstate.registry.first_timeouts, hstate.registry.zoneClients.first_limited,
    hstate.registry.projectClients.first_limited, (hplant.bounds hplant.zone).1, ?_⟩
  intro t hsome
  have hproject := hplant.project
  generalize hplanted : s.registry.plant.project = project at hproject
  have heq : project = some t := hplanted.symm.trans hsome
  cases hproject with
  | unbuilt => cases heq
  | built hlinks hne =>
    cases heq
    exact ⟨(hplant.bounds hlinks).1, hne⟩

/-! ## A service beside a new one -/

/-- How many builds a service is spared when it is compared with a new one: that of the
transport for tenants' servers, if it has one. -/
def spare (s : Service) : Nat :=
  if s.registry.projectTransport.isSome then 1 else 0

/-- The comparison of a service that was used with a new one. -/
def restartComparison (settings : Settings) (s : Service) : Comparison where
  settings
  Keys := Eq
  Requests := Eq
  Shared := False
  issued := s.resolver.issued
  sent := s.requests
  spare := s.spare
  keys_refl := Eq.refl
  prepare_agree := Client.prepare_eq
  spare_eq_zero hfalse := hfalse.elim

/-- A service that was refreshed corresponds to a new one: only their transports for zone servers
do so far. -/
theorem alike_refresh {settings : Settings} {s : Service} (hconforms : Conforms settings s)
    (workshop : Workshop) :
    Service.Alike (restartComparison settings s)
      (.start s.registry.zoneTransport ⟨workshop.built⟩ False.elim) (refresh s).state
      (initial settings s.instances workshop) where
  resolver := ⟨hconforms.insecure, rfl,
    ⟨hconforms.contexts.withEntries [], ⟨rfl, rfl⟩, .nil⟩, rfl⟩
  registry := by
    refine ⟨hconforms.timeouts, rfl, ⟨False.elim, ?_, ⟨rfl, rfl⟩, ?_, Nat.zero_le _⟩,
      ⟨hconforms.zoneClients.withEntries [], ⟨rfl, rfl⟩, .nil⟩,
      ⟨hconforms.projectClients.withEntries [], ⟨rfl, rfl⟩, .nil⟩⟩
    · rintro t u ⟨rfl, rfl⟩
      exact ⟨hconforms.zone, Nat.lt_succ_self _⟩
    · have hproject := hconforms.project
      have hspare : (restartComparison settings s).spare =
          if s.registry.projectTransport.isSome then 1 else 0 := rfl
      have hafter : (refresh s).state.registry.plant.project = s.registry.projectTransport := rfl
      rw [hafter, hspare]
      cases hbuilt : s.registry.projectTransport with
      | none => exact .unbuilt
      | some t =>
        obtain ⟨hlt, hne⟩ := hproject t hbuilt
        refine .ahead hlt ?_ Nat.one_pos
        rintro u ⟨rfl, -⟩
        exact hne rfl
  instances := rfl
  requests := rfl

end Service

/-! ## Turns of a new service -/

/-- The world outside after some requests, for a service that counts its own requests from
zero. -/
def Outside.after (outside : Outside) (sent : Nat) : Outside :=
  { outside with reply := fun count => outside.reply (sent + count) }

/-- It does not matter over which transport a request is sent. -/
def Outside.Uniform (outside : Outside) : Prop :=
  ∀ count (t u : Transport) request, outside.reply count t request = outside.reply count u request

namespace Service

variable {α : Type}

/-- A turn for a service that begins when some requests were sent by others. -/
def Turn.after (turn : Turn α) (sent : Nat) : Turn α :=
  { turn with around := { turn.around with outside := turn.around.outside.after sent } }

/-- In a turn of a new service everything is as it is for the service that was used. -/
theorem Turn.alike_after {turn : Turn α} (hbuilds : ∀ count, turn.around.refusal count = none)
    (huniform : turn.around.outside.Uniform) (settings : Settings) (s : Service) :
    turn.Alike (restartComparison settings s) (turn.after s.requests) := by
  refine ⟨⟨.refl Eq _, .never hbuilds hbuilds, ⟨rfl, ?_⟩, rfl⟩, rfl⟩
  rintro count t u request _ _ rfl
  exact huniform (s.requests + count) t u request

/-- A service that was refreshed and a new one with the same settings and the same records are
in lockstep, whatever the old one did before.  Their transports correspond one-to-one, and at
most one build is spared, that of a transport for tenants' servers. -/
theorem refresh_as_restart {settings : Settings} {s fresh : Service}
    (hreachable : Reachable settings s) {refusal : Nat → Option Error} {workshop : Workshop}
    (hcreate : (create refusal settings s.instances workshop).result = .ok fresh)
    {turns : List (Turn α)} (hbuilds : ∀ turn ∈ turns, ∀ count, turn.around.refusal count = none)
    (huniform : ∀ turn ∈ turns, turn.around.outside.Uniform) :
    ∃ links, OneToOne links ∧ links s.registry.zoneTransport fresh.registry.zoneTransport ∧
      ∃ spared ≤ s.spare,
        Lockstep (Client.Alike Eq s.resolver.issued links) (Event.Alike Eq links)
          settings.timeouts 0 spared (observations (refresh s).state turns)
          (observations fresh (turns.map (·.after s.requests))) := by
  have hstart := alike_refresh (conforms_of_reachable hreachable) workshop
  have hturns : List.Forall₂ (Turn.Alike (restartComparison settings s)) turns
      (turns.map (·.after s.requests)) := by
    rw [List.forall₂_map_right_iff, List.forall₂_same]
    intro turn hturn
    exact Turn.alike_after (hbuilds turn hturn) (huniform turn hturn) settings s
  obtain ⟨later, hleads, hspared, hlockstep⟩ := exists_lockstep hturns hstart
  rw [eq_initial_of_create_ok hcreate]
  exact ⟨later.links, later.oneToOne, hleads ⟨rfl, rfl⟩, later.spared, hspared, hlockstep⟩

/-- A service with a client for the server of a tenant, and so with a transport for such
servers. -/
def usedService : Service :=
  (onRegistry (Registry.client ⟨fun _ => none, ⟨0⟩⟩ ⟨0, {
    serverId := "chef-1"
    baseUri := "https://chef.example/"
    organization := ""
    username := "alice"
    key := ⟨55, 3, 7⟩
    version := .v11
    kind := .project
    roles := []
    regions := []
    dataBagNames := Dict.empty }⟩) (initial .default .empty .idle)).state

/-- Later turns: a tenant with a server of its own is served, another one takes over the server,
and there is another refresh. -/
def laterTurns : List (Turn Json.Value) :=
  let around owner : Surroundings := {
    sources := (Resolver.smallWorld "chef-1" owner "alice").sources
    refusal := fun _ => none
    outside := ⟨.epoch, fun _ _ _ => .error (Error.transport "no reply")⟩
    now := ⟨0⟩ }
  [⟨around ⟨"acme", "eu"⟩, .client ⟨"acme", "eu"⟩⟩,
    ⟨around ⟨"globex", "eu"⟩,
      .execute ⟨"globex", "eu"⟩ Json.Decoder.value (Command.get "/nodes")⟩,
    ⟨around ⟨"globex", "eu"⟩, .refresh⟩,
    ⟨around ⟨"globex", "eu"⟩,
      .adminExecute ⟨"globex", "eu"⟩ .default Json.Decoder.value (Command.get "/nodes")⟩]

/-- A used service that may be spared a build, and a new one. -/
theorem refresh_as_restart_small :
    Reachable .default usedService ∧ usedService.spare = 1 ∧
      ∃ links, OneToOne links ∧ links ⟨0⟩ ⟨0⟩ ∧ ∃ spared ≤ 1,
        Lockstep (Client.Alike Eq 0 links) (Event.Alike Eq links) Timeouts.default 0 spared
          (observations (refresh usedService).state laterTurns)
          (observations (initial .default .empty .idle) (laterTurns.map (·.after 0))) := by
  have hnew : (create (fun _ => none) .default .empty .idle).result =
      .ok (initial .default .empty .idle) := rfl
  have hreachable : Reachable .default usedService := .registry _ _ (.created hnew)
  have hcreate : (create (fun _ => none) .default usedService.instances .idle).result =
      .ok (initial .default .empty .idle) := rfl
  have hbuilds : ∀ turn ∈ laterTurns, ∀ count, turn.around.refusal count = none := by
    intro turn hturn count
    simp only [laterTurns, List.mem_cons, List.not_mem_nil, or_false] at hturn
    rcases hturn with rfl | rfl | rfl | rfl <;> rfl
  have huniform : ∀ turn ∈ laterTurns, turn.around.outside.Uniform := by
    intro turn hturn count t u request
    simp only [laterTurns, List.mem_cons, List.not_mem_nil, or_false] at hturn
    rcases hturn with rfl | rfl | rfl | rfl <;> rfl
  exact ⟨hreachable, rfl, refresh_as_restart hreachable hcreate hbuilds huniform⟩

end Service
end ChefAccess
