import ChefAccess.Proofs.Resolver.InStep
import ChefAccess.Proofs.Service.Transports

/-!
# Two registries side by side

Two services with the same settings are compared turn by turn.  Their surroundings may differ
in key material, and the services in how many contexts they issued, how many requests they
sent and which transports they have.  A comparison fixes what may differ.  From it follows, part
by part, that the services do the same up to those differences.

Main definitions:

- {lit}`Comparison`: what may differ between two services.
- {lit}`Registry.Alike`: two registries correspond at a stage.

Main results:

- Theorem {lit}`Registry.client_coupled`: the clients of contexts that are alike.
- Theorem {lit}`Registry.adminClient_coupled`: their clients on transports of their own.
-/

namespace ChefAccess

/-- What may differ between two services. -/
structure Comparison where
  settings : Settings
  /-- Keys that may stand for each other. -/
  Keys : Key.Rsa → Key.Rsa → Prop
  /-- Requests that may stand for each other. -/
  Requests : Http.Request → Http.Request → Prop
  /-- Both services have the same transports. -/
  Shared : Prop
  /-- How many contexts the first service issued before. -/
  issued : Nat
  /-- How many requests the first service sent before. -/
  sent : Nat
  /-- How many builds the first service may be spared. -/
  spare : Nat
  keys_refl : ∀ key, Keys key key
  /-- Clients whose keys correspond make requests that correspond. -/
  prepare_agree : ∀ {first second : Client}, first.context.Alike Keys second.context →
    first.signedAt = second.signedAt → ∀ timeOfDay command,
      Agree Requests (first.prepare timeOfDay command) (second.prepare timeOfDay command)
  /-- A service with the same transports is spared nothing. -/
  spare_eq_zero : Shared → spare = 0

/-! ## Clients -/

/-- Two clients are alike: their contexts and their transports correspond. -/
structure Client.Alike (Keys : Key.Rsa → Key.Rsa → Prop) (ahead : Nat)
    (links : Transport → Transport → Prop) (first second : Client) : Prop where
  issued : first.issued.Alike Keys ahead second.issued
  transport : links first.transport second.transport
  signedAt : first.signedAt = second.signedAt

theorem Client.Alike.imp {Keys : Key.Rsa → Key.Rsa → Prop} {ahead : Nat}
    {links links' : Transport → Transport → Prop} {first second : Client}
    (halike : Client.Alike Keys ahead links first second)
    (himp : ∀ {t u}, links t u → links' t u) : Client.Alike Keys ahead links' first second :=
  ⟨halike.issued, himp halike.transport, halike.signedAt⟩

/-- Clients that are alike send commands to the same address. -/
theorem Client.uri_eq {Keys : Key.Rsa → Key.Rsa → Prop} {first second : Client}
    (hcontext : first.context.Alike Keys second.context) (command : Command) :
    first.uri command = second.uri command := by
  unfold Client.uri
  rw [hcontext.fields]
  rfl

namespace Comparison

variable (C : Comparison)

/-- Clients correspond at a stage. -/
def Clients (now : Stage C.Shared) (first second : Client) : Prop :=
  first.Alike C.Keys C.issued now.links second

/-- Two actions are coupled. -/
def Coupled {σ τ α β : Type} (State : Stage C.Shared → σ → τ → Prop)
    (Value : Stage C.Shared → α → β → Prop) (stage : Stage C.Shared) (first : Action σ α)
    (second : Action τ β) : Prop :=
  Action.Coupled C.Requests C.settings.timeouts State Value stage first second

end Comparison

/-- How many clients are kept for servers of a kind. -/
def Settings.clientCapacity (settings : Settings) : Server.ContextKind → Nat
  | .zone => settings.zoneClientCapacity
  | .project => settings.projectClientCapacity

/-- How long clients are kept for servers of a kind. -/
def Settings.clientTtl (settings : Settings) : Server.ContextKind → Duration
  | .zone => settings.zoneClientTtl
  | .project => settings.projectClientTtl

namespace Registry

/-- Two surroundings are alike: builds fail on both sides or on neither, at the same time. -/
structure Surroundings.Alike (Shared : Prop) (first second : Surroundings) : Prop where
  refusal : RefusalsAlike Shared first.refusal second.refusal
  now : first.now = second.now

/-- Two registries with the same settings correspond at a stage. -/
structure Alike (C : Comparison) (now : Stage C.Shared) (first second : Registry) : Prop where
  first_timeouts : first.timeouts = C.settings.timeouts
  second_timeouts : second.timeouts = C.settings.timeouts
  plant : first.plant.Alike C.spare now second.plant
  zoneClients : first.zoneClients.Alike C.settings.zoneClientCapacity C.settings.zoneClientTtl
    (C.Clients now) second.zoneClients
  projectClients : first.projectClients.Alike C.settings.projectClientCapacity
    C.settings.projectClientTtl (C.Clients now) second.projectClients

variable {C : Comparison} {stage now later : Stage C.Shared} {r r' : Registry}
  {around around' : Surroundings}

namespace Alike

/-- The clients that are kept correspond. -/
theorem clients (halike : Alike C now r r') (kind : Server.ContextKind) :
    (r.clients kind).Alike (C.settings.clientCapacity kind) (C.settings.clientTtl kind)
      (C.Clients now) (r'.clients kind) := by
  cases kind with
  | zone => exact halike.zoneClients
  | project => exact halike.projectClients

/-- Clients of one kind are replaced on both sides. -/
theorem withClients (halike : Alike C now r r') (kind : Server.ContextKind)
    {cache cache' : Cache Client}
    (hcache : cache.Alike (C.settings.clientCapacity kind) (C.settings.clientTtl kind)
      (C.Clients now) cache') :
    Alike C now (r.withClients kind cache) (r'.withClients kind cache') := by
  cases kind with
  | zone =>
    exact ⟨halike.first_timeouts, halike.second_timeouts, halike.plant, hcache,
      halike.projectClients⟩
  | project =>
    exact ⟨halike.first_timeouts, halike.second_timeouts, halike.plant, halike.zoneClients,
      hcache⟩

/-- The clients that are kept go with every later stage. -/
theorem clients_later (hleads : now.LeadsTo later) {v w : Client} (hclients : C.Clients now v w) :
    C.Clients later v w :=
  hclients.imp hleads

end Alike

/-- The transports are replaced on both sides. -/
theorem Alike.withPlant (halike : Alike C now r r') (hleads : now.LeadsTo later)
    {plant plant' : Plant} (hplant : plant.Alike C.spare later plant') :
    Alike C later (r.withPlant plant) (r'.withPlant plant') :=
  ⟨halike.first_timeouts, halike.second_timeouts, hplant,
    halike.zoneClients.imp fun _ _ => clients_later hleads,
    halike.projectClients.imp fun _ _ => clients_later hleads⟩

/-! ## Builds -/

/-- Builds are coupled, and their transports correspond. -/
theorem build_coupled (haround : around.Alike C.Shared around') (timeouts : Timeouts) :
    C.Coupled (Alike C) Stage.links stage (build around timeouts) (build around' timeouts) := by
  intro now _ r r' hstate
  have hrefusal := haround.refusal.eq hstate.plant.workshop
  cases hbuild : around.refusal r.workshop.tried with
  | some e =>
    rw [build_of_refused hbuild, build_of_refused (hrefusal.symm.trans hbuild)]
    exact ⟨now, Stage.LeadsTo.refl now, .error e,
      hstate.withPlant (Stage.LeadsTo.refl now) hstate.plant.refused,
      .cons (.built timeouts) (.nil _)⟩
  | none =>
    rw [build_of_not_refused hbuild, build_of_not_refused (hrefusal.symm.trans hbuild)]
    exact ⟨hstate.plant.linkNext, hstate.plant.leadsTo_linkNext,
      .ok hstate.plant.linkNext_links,
      hstate.withPlant hstate.plant.leadsTo_linkNext hstate.plant.afterBuild,
      .cons (.built timeouts) (.nil _)⟩

/-- The shared transports are coupled.  Here the second registry may build a transport that
the first one has already. -/
theorem sharedTransport_coupled (haround : around.Alike C.Shared around')
    (kind : Server.ContextKind) :
    C.Coupled (Alike C) Stage.links stage (sharedTransport around kind)
      (sharedTransport around' kind) := by
  intro now _ r r' hstate
  cases kind with
  | zone =>
    rw [sharedTransport_zone, sharedTransport_zone]
    exact ⟨now, Stage.LeadsTo.refl now, .ok hstate.plant.zone, hstate, .nil _⟩
  | project =>
    have hproject := hstate.plant.project
    have hrefusal := haround.refusal.eq hstate.plant.workshop
    generalize hfirst : r.plant.project = project at hproject
    generalize hsecond : r'.plant.project = project' at hproject
    cases hproject with
    | built hlinks hne =>
      rw [sharedTransport_of_some hfirst, sharedTransport_of_some hsecond]
      exact ⟨now, Stage.LeadsTo.refl now, .ok hlinks, hstate, .nil _⟩
    | unbuilt =>
      cases hbuild : around.refusal r.workshop.tried with
      | some e =>
        rw [sharedTransport_of_refused hfirst hbuild,
          sharedTransport_of_refused hsecond (hrefusal.symm.trans hbuild),
          hstate.first_timeouts, hstate.second_timeouts]
        exact ⟨now, Stage.LeadsTo.refl now, .error e,
          hstate.withPlant (Stage.LeadsTo.refl now) hstate.plant.refused,
          .cons (.built _) (.nil _)⟩
      | none =>
        rw [sharedTransport_of_not_refused hfirst hbuild,
          sharedTransport_of_not_refused hsecond (hrefusal.symm.trans hbuild),
          hstate.first_timeouts, hstate.second_timeouts]
        exact ⟨hstate.plant.linkNext, hstate.plant.leadsTo_linkNext,
          .ok hstate.plant.linkNext_links,
          hstate.withPlant hstate.plant.leadsTo_linkNext hstate.plant.afterProject,
          .cons (.built _) (.nil _)⟩
    | ahead hlt hnew hspared =>
      have hshared : ¬ C.Shared := by
        intro hshared
        rw [C.spare_eq_zero hshared] at hspared
        exact Nat.not_lt_zero _ hspared
      have hbuild := haround.refusal.eq_none hshared r'.workshop.tried
      rw [sharedTransport_of_some hfirst, sharedTransport_of_not_refused hsecond hbuild,
        hstate.second_timeouts]
      have hleads : now.LeadsTo (hstate.plant.spareNext hnew hshared) := Or.inl
      exact ⟨hstate.plant.spareNext hnew hshared, hleads, .ok (Or.inr ⟨rfl, rfl⟩),
        hstate.withPlant hleads (hstate.plant.afterSpare hfirst hlt hnew hspared hshared),
        .spared (.nil _)⟩

/-! ## Clients of registries -/

/-- The clients that are kept for contexts that are alike correspond. -/
theorem kept_inStep (haround : around.Alike C.Shared around') {v w : Issued}
    (hissued : v.Alike C.Keys C.issued w) {Same : Event → Event → Prop} :
    Action.InStep Same (Alike C now) (Option.Rel (C.Clients now)) (kept around v)
      (kept around' w) := by
  unfold kept
  rw [hissued.context.kind, hissued.context.serverId, haround.now]
  refine Action.InStep.bind (V := Option.Rel (C.Clients now)) ?_ ?_
  · refine Action.InStep.update ?_
    intro r r' hstate
    obtain ⟨hfound, hcache⟩ := (hstate.clients w.context.kind).get around'.now w.context.serverId
    exact ⟨hfound, hstate.withClients _ hcache⟩
  · intro found found' hfound
    refine Action.InStep.pure ?_
    cases hfound with
    | none => exact .none
    | @some first second hclients =>
      have hserial : decide (first.issued.serial = v.serial) =
          decide (second.issued.serial = w.serial) := by
        rw [hclients.issued.serial, hissued.serial, decide_eq_decide]
        omega
      rw [Option.filter_some, Option.filter_some, hserial]
      split
      · exact .some hclients
      · exact .none

/-- The clients of contexts that are alike are coupled. -/
theorem client_coupled (haround : around.Alike C.Shared around') {v w : Issued}
    (hissued : v.Alike C.Keys C.issued w) :
    C.Coupled (Alike C) C.Clients stage (client around v) (client around' w) := by
  refine (Action.Coupled.of_inStep fun now _ => kept_inStep haround hissued).bind ?_
  intro now _ found found' hfound
  cases hfound with
  | some hclients =>
    exact .pure fun later hleads => Alike.clients_later hleads hclients
  | none =>
    dsimp only
    rw [hissued.context.kind, hissued.context.serverId]
    refine (sharedTransport_coupled haround w.context.kind).bind ?_
    intro now _ t u hlinks
    have hclients : C.Clients now ⟨v, t, none⟩ ⟨w, u, none⟩ := ⟨hissued, hlinks, rfl⟩
    refine Action.Coupled.bind (V := fun _ => Eq) ?_ ?_
    · refine .of_inStep fun later hleads => .modify ?_
      intro r r' hstate
      rw [haround.now]
      exact hstate.withClients _
        ((hstate.clients w.context.kind).insert around'.now w.context.serverId
          (Alike.clients_later hleads hclients))
    · intro middle hmiddle _ _ _
      exact .pure fun later hleads => Alike.clients_later (hmiddle.trans hleads) hclients

/-- Clients on transports of their own are coupled. -/
theorem adminClient_coupled (haround : around.Alike C.Shared around') {v w : Issued}
    (hissued : v.Alike C.Keys C.issued w) (timeouts : Timeouts) :
    C.Coupled (Alike C) C.Clients stage (adminClient around v timeouts)
      (adminClient around' w timeouts) := by
  refine (build_coupled haround timeouts).bind ?_
  intro now _ t u hlinks
  exact .pure fun later hleads => ⟨hissued, hleads hlinks, rfl⟩

/-- Both registries can forget their clients. -/
theorem forget_inStep {Same : Event → Event → Prop} :
    Action.InStep Same (Alike C now) Eq (Action.modify Registry.forget)
      (Action.modify Registry.forget) := by
  refine Action.InStep.modify ?_
  intro r r' hstate
  exact ⟨hstate.first_timeouts, hstate.second_timeouts, hstate.plant,
    hstate.zoneClients.clear _, hstate.projectClients.clear _⟩

end Registry
end ChefAccess
