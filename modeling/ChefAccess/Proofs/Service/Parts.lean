import ChefAccess.Proofs.Registry.Run
import ChefAccess.Proofs.Resolver.Traffic
import ChefAccess.Proofs.Service.Run
import Mathlib.Logic.Relation

/-!
# The parts of a service

Whatever is asked of a service, its resolver and its registry change by their own calls only.
So what each call of a part preserves holds for that part in every service that can be reached.

Main definitions:

- {lit}`Service.Moves`: a service changes by one call of one of its parts.
- {lit}`Service.Traverses`: an action changes a service by such calls only.
- {lit}`Registry.Unpinned`: the clients that are kept sign with the time of day.
- {lit}`Service.complaint`: the warning after a response that is a failure.

Main results:

- Theorem {lit}`Service.Turn.action_traverses`: every call of a service comes down to calls of its
  parts.
- Theorems {lit}`Service.perform_apply` and {lit}`Service.execute_eq`: the parts of a command.
- Theorem {lit}`Service.Reachable.moves`: every use of a service comes down to calls of its
  parts.
- Theorems {lit}`Service.Reachable.regular` and {lit}`Service.Reachable.unpinned`: what is known
  of the parts of a service.
-/

namespace ChefAccess

/-! ## Clients that are not pinned to a time -/

namespace Registry

variable {around : Surroundings} {issued : Issued} {r after : Registry} {client : Client}

/-- The clients that a registry keeps sign with the time of day. -/
def Unpinned (r : Registry) : Prop :=
  ∀ kind key client, (r.clients kind).Holds key client → client.signedAt = none

/-- Clients may be forgotten. -/
theorem Unpinned.thin (hunpinned : r.Unpinned) (hthins : r.Thins after) : after.Unpinned :=
  fun kind key client hholds => hunpinned kind key client (hthins kind key client hholds)

theorem Unpinned.withClient (hunpinned : r.Unpinned) (hsigned : client.signedAt = none) :
    (r.withClient around client).Unpinned := by
  intro kind key held hholds
  rcases held_or_eq_of_withClient hholds with hbefore | ⟨-, rfl⟩
  · exact hunpinned kind key held hbefore
  · exact hsigned

/-- A turn does not pin any client to a time. -/
theorem Unpinned.apply (hunpinned : r.Unpinned) (turn : Turn) : (turn.apply r).Unpinned := by
  rcases turn with ⟨around, call⟩
  cases call with
  | client issued =>
    have hlooked : (r.looked around issued).Unpinned :=
      hunpinned.thin (r.thins_looked around issued)
    have hcourse := client_course around issued r
    simp only [Turn.apply]
    generalize Registry.client around issued r = outcome at hcourse ⊢
    cases hcourse with
    | kept _ => exact hlooked
    | shared _ _ => exact hlooked.withClient rfl
    | built _ _ _ _ => exact (hlooked.thin (thins_withPlant _ _)).withClient rfl
    | refused _ _ _ _ => exact hlooked.thin (thins_withPlant _ _)
  | adminClient issued timeouts =>
    simp only [Turn.apply]
    rcases adminClient_cases around issued timeouts r with ⟨-, houtcome⟩ | ⟨e, -, houtcome⟩
    · rw [houtcome]
      exact hunpinned.thin (thins_withPlant _ _)
    · rw [houtcome]
      exact hunpinned.thin (thins_withPlant _ _)
  | forget => exact hunpinned.thin r.thins_forget

/-- A client that is given signs with the time of day. -/
theorem Unpinned.of_client_ok (hunpinned : r.Unpinned)
    (hok : (Registry.client around issued r).result = .ok client) : client.signedAt = none := by
  have hcourse := client_course around issued r
  generalize Registry.client around issued r = outcome at hcourse hok
  cases hcourse with
  | @kept found hfound =>
    obtain rfl : found = client := Except.ok.inj hok
    exact hunpinned _ _ _ (Cache.holds_of_get (Option.filter_eq_some_iff.mp hfound).1)
  | shared _ _ =>
    rw [← Except.ok.inj hok]
  | built _ _ _ _ =>
    rw [← Except.ok.inj hok]
  | refused _ _ _ _ => cases hok

end Registry

namespace Service

open Relation (ReflTransGen)

variable {α β : Type} {settings : Settings} {s t : Service}

/-! ## Calls of parts -/

/-- A service changes by one call of one of its parts. -/
inductive Moves : Service → Service → Prop
  /-- The resolver is called. -/
  | resolver (turn : Resolver.Turn) (s : Service) : Moves s (onResolver turn.action s).state
  /-- A context is issued that the resolver did not make. -/
  | issued (context : Server.Context) (s : Service) :
      Moves s (onResolver (Resolver.issue context) s).state
  /-- The registry is called. -/
  | registry (turn : Registry.Turn) (s : Service) :
      Moves s { s with registry := turn.apply s.registry }
  /-- Something else is done. -/
  | aside {s t : Service} (hresolver : t.resolver = s.resolver)
      (hregistry : t.registry = s.registry) : Moves s t

/-- An action changes a service by calls of its parts only. -/
def Traverses (action : Action Service α) : Prop :=
  ∀ s, ReflTransGen Moves s (action s).state

namespace Traverses

/-- An action that touches neither the resolver nor the registry. -/
theorem of_aside {action : Action Service α}
    (hresolver : ∀ s, (action s).state.resolver = s.resolver)
    (hregistry : ∀ s, (action s).state.registry = s.registry) : Traverses action :=
  fun s => .single (.aside (hresolver s) (hregistry s))

theorem pure (a : α) : Traverses (Pure.pure a) :=
  of_aside (fun _ => rfl) fun _ => rfl

theorem fail (e : Error) : Traverses (Action.fail e : Action Service α) :=
  of_aside (fun _ => rfl) fun _ => rfl

theorem record (event : Event) : Traverses (Action.record event) :=
  of_aside (fun _ => rfl) fun _ => rfl

theorem bind {action : Action Service α} {next : α → Action Service β}
    (hfirst : Traverses action) (hnext : ∀ a, Traverses (next a)) :
    Traverses (action >>= next) := by
  intro s
  have hmoves := hfirst s
  rcases houtcome : action s with ⟨result, t, events⟩
  rw [houtcome] at hmoves
  cases result with
  | error e =>
    rw [Action.bind_eq_of_error houtcome]
    exact hmoves
  | ok a =>
    rw [Action.bind_eq_of_ok houtcome]
    exact hmoves.trans (hnext a t)

end Traverses

theorem onResolver_traverses (turn : Resolver.Turn) : Traverses (onResolver turn.action) :=
  fun s => .single (.resolver turn s)

theorem resolveFor_traverses (around : Resolver.Surroundings) (tenancy : Tenancy) :
    Traverses (onResolver (Resolver.resolveFor around tenancy)) := by
  intro s
  have hmoves := onResolver_traverses ⟨around, .resolveFor tenancy⟩ s
  -- the call of the resolver gives the context as an option
  have hstate : (onResolver (Resolver.Turn.action ⟨around, .resolveFor tenancy⟩) s).state =
      (onResolver (Resolver.resolveFor around tenancy) s).state := by
    rcases houtcome : Resolver.resolveFor around tenancy s.resolver with ⟨result, t, events⟩
    cases result with
    | error e =>
      simp only [onResolver, Action.onPart, Resolver.Turn.action, houtcome,
        Action.bind_eq_of_error houtcome]
    | ok v =>
      simp only [onResolver, Action.onPart, Resolver.Turn.action, houtcome,
        Action.bind_eq_of_ok houtcome, Action.pure_apply]
  rwa [hstate] at hmoves

theorem registryClient_traverses (around : Registry.Surroundings) (issued : Issued) :
    Traverses (onRegistry (Registry.client around issued)) :=
  fun s => .single (.registry ⟨around, .client issued⟩ s)

theorem adminClient_traverses (around : Registry.Surroundings) (issued : Issued)
    (timeouts : Timeouts) : Traverses (onRegistry (Registry.adminClient around issued timeouts)) :=
  fun s => .single (.registry ⟨around, .adminClient issued timeouts⟩ s)

theorem forgetClients_traverses : Traverses forgetClients :=
  fun s => .single (.registry ⟨⟨fun _ => none, ⟨0⟩⟩, .forget⟩ s)

theorem forgetContexts_traverses : Traverses forgetContexts :=
  fun s => .single (.resolver ⟨⟨.of .empty .empty [], ⟨0⟩⟩, .forget⟩ s)

/-! ## Calls of a service -/

theorem client_traverses (around : Surroundings) (tenancy : Tenancy) :
    Traverses (client around tenancy) :=
  (resolveFor_traverses around.resolver tenancy).bind fun v =>
    registryClient_traverses around.registry v

theorem perform_traverses (around : Surroundings) (client : Client) (decoder : Json.Decoder α)
    (command : Command) : Traverses (perform around client decoder command) := by
  have hsend : Traverses (onRequests (client.execute around.outside decoder command)) :=
    .of_aside (fun _ => rfl) fun _ => rfl
  refine hsend.bind fun response => ?_
  dsimp only
  split
  · exact (Traverses.record _).bind fun _ => .pure response
  · exact .pure response

theorem execute_traverses (around : Surroundings) (tenancy : Tenancy) (decoder : Json.Decoder α)
    (command : Command) : Traverses (execute around tenancy decoder command) :=
  (client_traverses around tenancy).bind fun client =>
    perform_traverses around client decoder command

theorem executeOnServer_traverses (around : Surroundings) (serverId : String)
    (decoder : Json.Decoder α) (command : Command) :
    Traverses (executeOnServer around serverId decoder command) := by
  have hknown : Traverses (onResolver (Resolver.known around.resolver serverId)) :=
    onResolver_traverses ⟨around.resolver, .known serverId⟩
  refine hknown.bind fun found => ?_
  cases found with
  | none => exact .fail _
  | some v =>
    exact (registryClient_traverses around.registry v).bind fun client =>
      perform_traverses around client decoder command

theorem executeForInstance_traverses (around : Surroundings) (instanceId : String)
    (decoder : Json.Decoder α) (command : Command) :
    Traverses (executeForInstance around instanceId decoder command) := by
  have hread : Traverses (Action.read : Action Service Service) :=
    .of_aside (fun _ => rfl) fun _ => rfl
  refine hread.bind fun service => ?_
  cases service.instances.record? instanceId with
  | none => exact .fail _
  | some record => exact execute_traverses around _ decoder command

theorem adminExecute_traverses (around : Surroundings) (tenancy : Tenancy) (timeouts : Timeouts)
    (decoder : Json.Decoder α) (command : Command) :
    Traverses (adminExecute around tenancy timeouts decoder command) :=
  (resolveFor_traverses around.resolver tenancy).bind fun v =>
    (adminClient_traverses around.registry v timeouts).bind fun client =>
      perform_traverses around client decoder command

theorem setInstanceState_traverses (instanceId : String) (state : SetupState) :
    Traverses (setInstanceState instanceId state) := by
  refine Traverses.bind (.of_aside (fun _ => rfl) fun _ => rfl) fun updated => ?_
  dsimp only
  split
  · exact (Traverses.record _).bind fun _ => .pure updated
  · exact (Traverses.record _).bind fun _ => .pure updated

/-- Every call of a service comes down to calls of its parts. -/
theorem Turn.action_traverses (turn : Turn α) : Traverses turn.action := by
  rcases turn with ⟨around, call⟩
  cases call with
  | client tenancy => exact (client_traverses around tenancy).bind fun _ => .pure _
  | execute tenancy decoder command =>
    exact (execute_traverses around tenancy decoder command).bind fun _ => .pure _
  | executeOnServer serverId decoder command =>
    exact (executeOnServer_traverses around serverId decoder command).bind fun _ => .pure _
  | executeForInstance instanceId decoder command =>
    exact (executeForInstance_traverses around instanceId decoder command).bind fun _ => .pure _
  | adminExecute tenancy timeouts decoder command =>
    exact (adminExecute_traverses around tenancy timeouts decoder command).bind fun _ => .pure _
  | setInstanceState instanceId state =>
    exact (setInstanceState_traverses instanceId state).bind fun _ => .pure _
  | editInstances change =>
    exact Traverses.bind (.of_aside (fun _ => rfl) fun _ => rfl) fun _ => .pure _
  | refresh =>
    exact Traverses.bind (forgetContexts_traverses.bind fun _ => forgetClients_traverses)
      fun _ => .pure _

/-! ## Commands -/

/-- The warning that a response leaves if it is a failure. -/
def complaint (client : Client) (command : Command) : Except Error (Response α) → List Event
  | .error _ => []
  | .ok response =>
    if response.verdict.failed then
      [.warning (command.label ++ " on chef server " ++ client.context.serverId ++ " failed: " ++
        response.verdict.description)]
    else []

/-- A performance is what the client does, and a warning after a response that is a failure. -/
theorem perform_apply (around : Surroundings) (client : Client) (decoder : Json.Decoder α)
    (command : Command) (s : Service) :
    perform around client decoder command s =
      let sent := client.execute around.outside decoder command s.requests
      ⟨sent.result, { s with requests := sent.state },
        sent.events ++ complaint client command sent.result⟩ := by
  rcases hsent : client.execute around.outside decoder command s.requests with
    ⟨result, count, events⟩
  have hpart : onRequests (client.execute around.outside decoder command) s =
      ⟨result, { s with requests := count }, events⟩ := by
    rw [onRequests, Action.onPart, hsent]
  cases result with
  | error e =>
    rw [perform, Action.bind_eq_of_error hpart]
    simp [complaint]
  | ok response =>
    rw [perform, Action.bind_eq_of_ok hpart]
    dsimp only [complaint]
    split <;> rfl

/-- The parts of a command for a tenant: the context, its client, and what that client does. -/
theorem execute_eq (around : Surroundings) (tenancy : Tenancy) (decoder : Json.Decoder α)
    (command : Command) (s : Service) :
    execute around tenancy decoder command s =
      (onResolver (Resolver.resolveFor around.resolver tenancy) >>= fun v =>
        onRegistry (Registry.client around.registry v) >>= fun client =>
          perform around client decoder command) s :=
  Action.bind_assoc _ _ _ s

/-! ## Services that can be reached -/

/-- A service that can be reached has changed by calls of its parts since it was created. -/
theorem Reachable.moves (hreachable : Reachable settings s) :
    ∃ instances workshop, ReflTransGen Moves (initial settings instances workshop) s := by
  induction hreachable with
  | @created refusal instances workshop service hcreate =>
    rw [eq_initial_of_create_ok hcreate]
    exact ⟨instances, workshop, .refl⟩
  | turn turn _ ih =>
    obtain ⟨instances, workshop, hmoves⟩ := ih
    exact ⟨instances, workshop, hmoves.trans (turn.action_traverses _)⟩
  | resolver turn _ ih =>
    obtain ⟨instances, workshop, hmoves⟩ := ih
    exact ⟨instances, workshop, hmoves.tail (.resolver turn _)⟩
  | issued context _ ih =>
    obtain ⟨instances, workshop, hmoves⟩ := ih
    exact ⟨instances, workshop, hmoves.tail (.issued context _)⟩
  | registry around issued _ ih =>
    obtain ⟨instances, workshop, hmoves⟩ := ih
    exact ⟨instances, workshop, hmoves.trans (registryClient_traverses around issued _)⟩
  | adminRegistry around issued timeouts _ ih =>
    obtain ⟨instances, workshop, hmoves⟩ := ih
    exact ⟨instances, workshop, hmoves.trans (adminClient_traverses around issued timeouts _)⟩
  | forgotten _ ih =>
    obtain ⟨instances, workshop, hmoves⟩ := ih
    exact ⟨instances, workshop, hmoves.trans (forgetClients_traverses _)⟩

/-- What holds of a new service, and is preserved by the calls of its parts, holds of every
service that can be reached. -/
theorem Reachable.invariant (Inv : Service → Prop) (hreachable : Reachable settings s)
    (hinitial : ∀ instances workshop, Inv (initial settings instances workshop))
    (hmoves : ∀ s t, Moves s t → Inv s → Inv t) : Inv s := by
  obtain ⟨instances, workshop, hpath⟩ := hreachable.moves
  clear hreachable
  induction hpath with
  | refl => exact hinitial instances workshop
  | tail _ hstep ih => exact hmoves _ _ hstep ih

/-- The cache of the resolver is regular. -/
theorem Reachable.regular (hreachable : Reachable settings s) :
    s.resolver.Regular settings.contextCapacity settings.contextTtl := by
  refine hreachable.invariant
    (fun s => s.resolver.Regular settings.contextCapacity settings.contextTtl)
    (fun _ _ => Cache.Regular.empty settings.contextCapacity settings.contextTtl) ?_
  intro s t hstep hregular
  cases hstep with
  | resolver turn =>
    by_cases hforget : turn.call = .forget
    · rcases turn with ⟨around, call⟩
      obtain rfl : call = .forget := hforget
      exact hregular.apply ⟨around.now, .clear⟩
    · exact (Resolver.Turn.action_traced hforget).regular hregular
  | issued context => exact hregular
  | registry turn => exact hregular
  | aside hresolver _ =>
    rw [hresolver]
    exact hregular

/-- The clients that the registry keeps sign with the time of day. -/
theorem Reachable.unpinned (hreachable : Reachable settings s) : s.registry.Unpinned := by
  refine hreachable.invariant (fun s => s.registry.Unpinned) ?_ ?_
  · intro instances workshop kind key client hholds
    cases kind with
    | zone => exact absurd hholds (Cache.not_holds_empty _ _ key client)
    | project => exact absurd hholds (Cache.not_holds_empty _ _ key client)
  · intro s t hstep hunpinned
    cases hstep with
    | resolver turn => exact hunpinned
    | issued context => exact hunpinned
    | registry turn => exact hunpinned.apply turn
    | aside _ hregistry =>
      rw [hregistry]
      exact hunpinned

end Service
end ChefAccess
