import ChefAccess.Proofs.Resolver.Address
import ChefAccess.Proofs.Service.Faithful
import ChefAccess.Proofs.Service.Parts

/-!
# Commands to servers by their names

After a command for a tenant, the server can be addressed by the name in the context of the
tenant, as long as the context is found under that name.  Then the command to the server goes on
with the client of that very context, whose transport is there since the first command.

Main results:

- Theorem {lit}`Service.exists_of_execute_ok`: what a command for a tenant leaves behind.
- Theorems {lit}`Service.result_executeOnServer` and {lit}`Service.onServer_of_known`: a command
  to a server that is known by its name.
- Theorem {lit}`Service.addressed_by_name`: when a server can be addressed after a tenant has got
  its context.
-/

namespace ChefAccess
namespace Service

variable {α : Type} {settings : Settings} {around later : Surroundings} {tenancy : Tenancy}
  {s : Service} {v : Issued} {plant : Plant} {ledger : List Server.Context}

/-- A command for a tenant that succeeds leaves the resolver as the resolution has left it, and
the transport for its context is there. -/
theorem exists_of_execute_ok {decoder : Json.Decoder α} {command : Command}
    {response : Response α} (haudited : Audited plant ledger s)
    (hok : (execute around tenancy decoder command s).result = .ok response)
    (hresolve : (Resolver.resolveFor around.resolver tenancy s.resolver).result = .ok v) :
    (execute around tenancy decoder command s).state.resolver =
        (Resolver.resolveFor around.resolver tenancy s.resolver).state ∧
      ∃ transport, (execute around tenancy decoder command s).state.registry.plant.shared
        v.context.kind = some transport := by
  rw [execute_eq] at hok ⊢
  obtain ⟨w, t, _, hfirst, hok, hstate⟩ := Action.exists_parts_of_ok hok
  obtain ⟨client, u, _, hsecond, -, hlater⟩ := Action.exists_parts_of_ok hok
  rw [hstate, hlater, perform_apply]
  obtain rfl : w = v :=
    Except.ok.inj ((congrArg Outcome.result hfirst).symm.trans hresolve)
  obtain rfl : { s with resolver := (Resolver.resolveFor around.resolver tenancy
      s.resolver).state } = t := congrArg Outcome.state hfirst
  obtain rfl : { s with
      resolver := (Resolver.resolveFor around.resolver tenancy s.resolver).state
      registry := (Registry.client around.registry w s.registry).state } = u :=
    congrArg Outcome.state hsecond
  have hclient : (Registry.client around.registry w s.registry).result = .ok client :=
    congrArg Outcome.result hsecond
  exact ⟨rfl, client.transport, (haudited.registry.of_client_ok hclient).2⟩

/-- The result of a command to a server that is known by its name is what its client gets. -/
theorem result_executeOnServer {serverId : String} {client : Client}
    (hknown : (Resolver.known around.resolver serverId s.resolver).result = .ok (some v))
    (hclient : (Registry.client around.registry v s.registry).result = .ok client)
    (decoder : Json.Decoder α) (command : Command) :
    (executeOnServer around serverId decoder command s).result =
      (client.execute around.outside decoder command s.requests).result := by
  have hlookup : onResolver (Resolver.known around.resolver serverId) s =
      ⟨.ok (some v), { s with
        resolver := (Resolver.known around.resolver serverId s.resolver).state },
        (Resolver.known around.resolver serverId s.resolver).events⟩ := by
    rw [← hknown]
    rfl
  have hgiven : onRegistry (Registry.client around.registry v)
      { s with resolver := (Resolver.known around.resolver serverId s.resolver).state } =
      ⟨.ok client, { s with
        resolver := (Resolver.known around.resolver serverId s.resolver).state
        registry := (Registry.client around.registry v s.registry).state },
        (Registry.client around.registry v s.registry).events⟩ := by
    rw [← hclient]
    rfl
  rw [executeOnServer, Action.bind_eq_of_ok hlookup]
  dsimp only
  rw [Action.bind_eq_of_ok hgiven, perform_apply]

/-- A command to a server that is known by its name, and for whose context the transport is
there, goes on with the client of that context.  It does not fail for want of a context, and
whatever it sends speaks for the context. -/
theorem onServer_of_known {serverId : String} (haudited : Audited plant ledger s)
    (hknown : (Resolver.known around.resolver serverId s.resolver).result = .ok (some v))
    {transport : Transport} (hshared : s.registry.plant.shared v.context.kind = some transport)
    (decoder : Json.Decoder α) (command : Command) :
    (∀ e, (executeOnServer around serverId decoder command s).result = .error e →
      e.kind ≠ .configInvalid) ∧
    ∀ transport request,
      .sent transport request ∈ (executeOnServer around serverId decoder command s).events →
        v.context.SpokenFor command request := by
  constructor
  · intro e herror
    have hserved : ¬ (s.registry.found around.registry v = none ∧
        s.registry.plant.shared v.context.kind = none) := by
      simp [hshared]
    obtain ⟨client, hclient, -, -⟩ := Registry.client_of_served hserved
    rw [result_executeOnServer hknown hclient] at herror
    have hlaw := (Client.execute_law client around.outside decoder command s.requests).1 e herror
    rcases hlaw.2 with ⟨hkind | hkind, -⟩ | ⟨hkind, -⟩
    · simp [hkind]
    · simp [hkind]
    · simp [hkind]
  · intro transport request hsent
    obtain ⟨w, hfound, hspoken, -⟩ := exists_of_sent_onServer haudited hsent
    rw [hknown] at hfound
    cases hfound
    exact hspoken

/-- When a server can be addressed by its name after a tenant has got its context, for every
service that was created and however it was used since.  If the tenant had its entry, the context
is found under the name of its server exactly if it was still there, or the name is the key of
the tenant.  If the context was resolved anew, and the name is the one in the configuration of
the server, the context is found exactly if it had no rival there.  And if it is found, a command
to the server by its name, right after a command for the tenant that succeeded, does not fail for
want of a context, and whatever it sends speaks for the context of the tenant. -/
theorem addressed_by_name {refusal : Nat → Option Error} {instances : Instances}
    {workshop : Workshop} {first : Service} {hand : Issued → Prop}
    (hcreate : (create refusal settings instances workshop).result = .ok first)
    (hused : Used first (fun _ => False) s hand) (hroom : 2 ≤ settings.contextCapacity)
    (hresolve : (Resolver.resolveFor around.resolver tenancy s.resolver).result = .ok v)
    (hsoon : later.now.nanoseconds - around.now.nanoseconds <
      settings.contextTtl.nanoseconds) :
    let resolver := (Resolver.resolveFor around.resolver tenancy s.resolver).state
    let kept := s.resolver.found around.resolver (Resolver.tenancyKey tenancy)
    let name := v.context.serverId
    let known := (Resolver.known later.resolver name resolver).result = .ok (some v)
    (kept ≠ none → (known ↔
      name = Resolver.tenancyKey tenancy ∨ s.resolver.found later.resolver name = some v)) ∧
    (kept = none → ∃ config, Resolver.Chosen around.resolver tenancy v.context.kind config ∧
      (config.serverId = name → (known ↔
        Resolver.rival around.resolver name v.context.kind s.resolver = none))) ∧
    (known → ∀ (α β : Type) (decoder : Json.Decoder α) (command : Command)
      (response : Response α) (other : Json.Decoder β) (next : Command),
      (execute around tenancy decoder command s).result = .ok response →
      let outcome :=
        executeOnServer later name other next (execute around tenancy decoder command s).state
      (∀ e, outcome.result = .error e → e.kind ≠ .configInvalid) ∧
        ∀ transport request, .sent transport request ∈ outcome.events →
          v.context.SpokenFor next request) := by
  intro resolver kept name known
  have hregular := (hused.reachable (.created hcreate)).regular
  have hsoon : later.resolver.now.nanoseconds - around.resolver.now.nanoseconds <
      settings.contextTtl.nanoseconds := hsoon
  refine ⟨?_, ?_, ?_⟩
  · intro hkept
    obtain ⟨w, hhit⟩ := Option.ne_none_iff_exists'.mp hkept
    exact Resolver.known_of_hit_iff hregular hhit hresolve hsoon
  · intro hmiss
    obtain ⟨config, hchosen, hiff⟩ :=
      Resolver.known_of_miss hregular hroom hmiss hresolve hsoon
    refine ⟨config, hchosen, ?_⟩
    rintro hname
    rwa [hname] at hiff
  · intro hknown α β decoder command response other next hok
    obtain rfl := eq_initial_of_create_ok hcreate
    obtain ⟨ledger, haudited, -⟩ :=
      (audited_initial settings instances workshop).used (fun _ hfalse => False.elim hfalse) hused
    obtain ⟨hstate, transport, hshared⟩ := exists_of_execute_ok haudited hok hresolve
    obtain ⟨_, _, hafter, -⟩ := execute_books around tenancy decoder command ledger s haudited
    refine onServer_of_known hafter ?_ hshared other next
    rw [hstate]
    exact hknown

/-- The surroundings in which a tenant is mapped to a server that its region shares. -/
def sharedRegion (seconds : Nat) : Surroundings where
  sources := .of Resolver.smallBackend
    ((Resolver.smallStore "chef-1" Resolver.acme "alice").bindRegion "eu" "chef-1") []
  refusal := fun _ => none
  outside := ⟨.epoch, fun _ _ _ => .error (Error.transport "no reply")⟩
  now := .ofSecs seconds

/-- A tenant that is the first one on its server can address it. -/
theorem addressed_by_name_sharedRegion :
    (create (fun _ => none) .default .empty .idle).result = .ok newService ∧
      Used newService (fun _ => False) newService (fun _ => False) ∧
      2 ≤ Settings.default.contextCapacity ∧
      (sharedRegion 60).now.nanoseconds - (sharedRegion 0).now.nanoseconds <
        Settings.default.contextTtl.nanoseconds ∧
      ∃ v, (Resolver.resolveFor (sharedRegion 0).resolver Resolver.acme
          newService.resolver).result = .ok v ∧
        (Resolver.known (sharedRegion 60).resolver "chef-1"
          (Resolver.resolveFor (sharedRegion 0).resolver Resolver.acme
            newService.resolver).state).result = .ok (some v) := by
  have hcreate : (create (fun _ => none) .default .empty .idle).result = .ok newService := rfl
  have hroom : 2 ≤ Settings.default.contextCapacity := by decide
  have hsoon : (sharedRegion 60).now.nanoseconds - (sharedRegion 0).now.nanoseconds <
      Settings.default.contextTtl.nanoseconds := by
    decide
  have hfound : (Resolver.resolveFor (sharedRegion 0).resolver Resolver.acme
      newService.resolver).result.map (fun v => (v.context.serverId, v.context.kind)) =
        .ok ("chef-1", .project) := by
    decide +kernel
  refine ⟨hcreate, .here, hroom, hsoon, ?_⟩
  cases hresolve : (Resolver.resolveFor (sharedRegion 0).resolver Resolver.acme
      newService.resolver).result with
  | error e =>
    rw [hresolve] at hfound
    cases hfound
  | ok v =>
    rw [hresolve] at hfound
    obtain ⟨hname, hkind⟩ := Prod.mk.inj (Except.ok.inj hfound)
    obtain ⟨-, hanew, -⟩ := addressed_by_name hcreate .here hroom hresolve hsoon
    obtain ⟨config, hchosen, hiff⟩ := hanew rfl
    rw [hkind] at hchosen
    rw [hname] at hiff
    refine ⟨v, rfl, (hiff ?_).mpr rfl⟩
    have htenant : (sharedRegion 0).sources.tenant Resolver.acme =
        .ok (some (Resolver.smallMapping "chef-1" Resolver.acme "alice")) := by
      decide +kernel
    have hserver : (sharedRegion 0).sources.server "chef-1" =
        .ok (some (Resolver.smallServer "chef-1")) := rfl
    cases hchosen with
    | project hmaps =>
      cases htenant.symm.trans hmaps.tenant
      cases hserver.symm.trans hmaps.server
      rfl

/-- A tenant does not address its own context by the name of its server, if the context of the
region came first, if the name was left alone for too long while the tenant polled, or if there is
white space around the name in the configuration. -/
theorem not_addressed_sharedRegion :
    0 < Settings.default.contextTtl.nanoseconds ∧ 2 ≤ Settings.default.contextCapacity ∧
      (let start := Resolver.after (.ofSettings .default)
          [⟨(sharedRegion 0).resolver, .resolveFor Resolver.globex⟩]
        let tenant := Resolver.resolveFor (sharedRegion 0).resolver Resolver.acme start
        let addressed := Resolver.known (sharedRegion 0).resolver "chef-1" tenant.state
        tenant.result.map (fun v => (v.serial, v.context.serverId)) = .ok (1, "chef-1") ∧
          addressed.result.map (·.map (·.serial)) = .ok (some 0)) ∧
      (let start := Resolver.after (.ofSettings .default)
          [⟨(sharedRegion 0).resolver, .resolveFor Resolver.acme⟩,
            ⟨(sharedRegion 4000).resolver, .resolveFor Resolver.acme⟩]
        let tenant := Resolver.resolveFor (sharedRegion 8000).resolver Resolver.acme start
        let addressed := Resolver.known (sharedRegion 8000).resolver "chef-1" tenant.state
        tenant.result.map (fun v => (v.serial, v.context.serverId)) = .ok (0, "chef-1") ∧
          addressed.result.map (·.map (·.serial)) = .ok none) ∧
      (let around := Resolver.smallWorld " chef-1" Resolver.acme "alice"
        let tenant := Resolver.resolveFor around Resolver.acme (.ofSettings .default)
        let addressed := Resolver.known around "chef-1" tenant.state
        tenant.result.map (fun v => (v.serial, v.context.serverId)) = .ok (0, "chef-1") ∧
          addressed.result.map (·.map (·.serial)) = .ok none) := by
  decide +kernel

end Service
end ChefAccess
