import ChefAccess.Proofs.Resolver.Repeat

/-!
# Contexts under the names of their servers

The context that a tenant gets is kept for the tenant, and the name of its server has an entry of
its own.  The two entries go separate ways.  A tenant whose entry is alive does not touch the
entry of the server, which may be gone or hold another context by then.  A resolution that is
done anew leaves its context under the name in its configuration, unless a context of the other
kind is alive there.

Main definitions:

- {lit}`Resolver.Chosen`: the configuration of the server that a tenant uses.
- {lit}`Resolver.Addressed`: what is found under the name of that server.

Main results:

- Theorem {lit}`Resolver.known_of_hit_iff`: when a server is known by its name, after a tenant
  has got its context from its own entry.
- Theorem {lit}`Resolver.known_of_miss`: when a server is known by its name, after a tenant has
  got its context anew.
-/

namespace ChefAccess
namespace Resolver

variable {around later : Surroundings} {start s : Resolver} {tenancy : Tenancy} {key : String}
  {v w : Issued} {capacity : Nat} {ttl : Duration}

/-- The configuration of the server that a tenant uses in a region: its own server, or the one
that the region shares. -/
inductive Chosen (around : Surroundings) (tenancy : Tenancy) :
    Server.ContextKind → ServerConfig → Prop
  | project {mapping : TenantConfig} {config : ServerConfig}
      (hmaps : Maps around tenancy mapping config) : Chosen around tenancy .project config
  | zone {config : ServerConfig}
      (hshared : around.sources.regionServer tenancy.region = .ok (some config)) :
      Chosen around tenancy .zone config

/-- What is found under the name of the server that a tenant uses: the rival that its context had
before, or the context. -/
def Addressed (ttl : Duration) (around : Surroundings) (tenancy : Tenancy) (before : Resolver)
    (v : Issued) (after : Resolver) : Prop :=
  ∃ config, Chosen around tenancy v.context.kind config ∧ ∀ later : Surroundings,
    later.now.nanoseconds - around.now.nanoseconds < ttl.nanoseconds →
    after.found later config.serverId =
      some ((rival around config.serverId v.context.kind before).getD v)

/-! ## Resolutions that are done anew -/

/-- The entry of the tenant does not replace what a construction has left under the name of the
server, where there is room for both. -/
theorem Constructed.addressed {config : ServerConfig} {kind : Server.ContextKind}
    (hconstructed : Constructed capacity ttl around start config.serverId kind v s)
    (hroom : 2 ≤ capacity) (hmiss : start.found around (tenancyKey tenancy) = none)
    (hchosen : Chosen around tenancy kind config) :
    Addressed ttl around tenancy start v (keep around (tenancyKey tenancy) v s).state := by
  obtain rfl := hconstructed.of_kind
  refine ⟨config, hchosen, fun later hsoon => ?_⟩
  have hregular := hconstructed.heads.regular
  by_cases hkey : config.serverId = tenancyKey tenancy
  · rw [hkey, rival, hmiss]
    have hheads := keep_heads around (tenancyKey tenancy) v s hregular () rfl
    exact hheads.found hsoon
  · have hcrowd : (s.cache.touched [⟨around.now, .insert (tenancyKey tenancy) v⟩]).toFinset.card <
        max 1 capacity := by
      refine (Cache.card_touched_le _ _).trans_lt ?_
      rw [List.length_singleton]
      omega
    refine hconstructed.heads.front.get_after hregular ?_ ?_ hcrowd hsoon
    · simpa [Cache.Call.subject?] using Ne.symm hkey
    · simp [Cache.Call.Drops]

/-- A construction for a tenant leaves its context under the name of the server. -/
theorem constructProject_yields {mapping : TenantConfig} {server : ServerConfig}
    (hmaps : Maps around tenancy mapping server) (hroom : 2 ≤ capacity)
    (hmiss : start.found around (tenancyKey tenancy) = none) :
    Action.Ensures (Peeked capacity ttl around start 0)
      (constructProject around tenancy mapping server)
      (Yields capacity ttl around start (Addressed ttl around tenancy start)) := by
  refine .bind_of_asks (fileMaterial_asks around mapping) fun material _ => ?_
  refine (construct_yields around server material _ .project).bind fun resolved => ?_
  cases resolved with
  | none => exact .pure fun s hs => yields_none (hs.vacant rfl)
  | some v =>
    intro s hs result hresult
    obtain rfl := Except.ok.inj hresult
    exact yields_some ((hs.given v rfl).addressed hroom hmiss (.project hmaps))

/-- A lookup of a kind yields nothing where nothing is found. -/
theorem lookupKind_vacant (kind : Server.ContextKind)
    (hmiss : start.found around key = none) :
    Action.Ensures (Peeked capacity ttl around start 0) (lookupKind around key kind)
      fun result after => result = none ∧ Peeked capacity ttl around start 0 after := by
  refine (lookup_peeked around key).bind fun result => .pure ?_
  rintro s ⟨rfl, hpeeked, -⟩
  rw [hmiss]
  exact ⟨rfl, hpeeked⟩

/-- A resolution of a tenant's own server that is done anew leaves the context under the name of
the server. -/
theorem resolveProject_yields (hroom : 2 ≤ capacity)
    (hmiss : start.found around (tenancyKey tenancy) = none) :
    Action.Ensures (Peeked capacity ttl around start 0) (resolveProject around tenancy)
      (Yields capacity ttl around start (Addressed ttl around tenancy start)) := by
  refine (lookupKind_vacant .project hmiss).bind_of_known fun result hvacant => ?_
  subst hvacant
  refine .bind_of_asks (Sources.ask_asks _ _) fun answer htenant => ?_
  cases answer with
  | none => exact warnNone_ensures _ fun s => yields_none
  | some mapping =>
    refine .bind_of_asks (projectServer_asks htenant) fun chosen hmaps => ?_
    cases chosen with
    | none => exact .pure fun s => yields_none
    | some server => exact constructProject_yields (hmaps server rfl) hroom hmiss

/-- A resolution of the server that a region shares leaves its context, or the rival, under the
name of the server. -/
theorem resolveRegion_ensures (around : Surroundings) (region : String) :
    Action.Ensures (Peeked capacity ttl around start 0) (resolveRegion around region)
      fun v after => ∃ config, around.sources.regionServer region = .ok (some config) ∧
        Constructed capacity ttl around start config.serverId .zone v after := by
  refine .bind_of_asks (Sources.ask_asks _ _) fun answer hshared => ?_
  cases answer with
  | none => exact .fail _
  | some config =>
    refine (resolve_yields around config).bind fun resolved => ?_
    cases resolved with
    | none => exact .fail _
    | some v => exact .pure fun s hs => ⟨config, hshared, hs.given v rfl⟩

/-- A resolution for a tenant that is done anew leaves its context, or the rival, under the name
of the server. -/
theorem addressed_of_miss (hregular : s.Regular capacity ttl) (hroom : 2 ≤ capacity)
    (hmiss : s.found around (tenancyKey tenancy) = none)
    (hresult : (resolveFor around tenancy s).result = .ok v) :
    Addressed ttl around tenancy s v (resolveFor around tenancy s).state := by
  have hensures : Action.Ensures (Peeked capacity ttl around s 0) (resolveFor around tenancy)
      (Addressed ttl around tenancy s) := by
    refine (lookup_peeked around (tenancyKey tenancy)).bind_of_known fun result hfound => ?_
    obtain rfl : result = none := hfound.trans hmiss
    refine .restrict ?_ fun u hu => hu.1
    refine (resolveProject_yields hroom hmiss).bind fun resolved => ?_
    cases resolved with
    | some v => exact .pure fun u hu => hu.given v rfl
    | none =>
      refine .restrict ?_ fun u hu => hu.vacant rfl
      refine (resolveRegion_ensures around tenancy.region).bind fun v => ?_
      rintro u ⟨config, hshared, hconstructed⟩ w hw
      obtain rfl := Except.ok.inj hw
      exact hconstructed.addressed hroom hmiss (.zone hshared)
  exact hensures s (.refl hregular around) v hresult

/-! ## Servers that are known by name -/

/-- A server is known by its name if a context is found under it. -/
theorem known_eq_some_iff :
    (known around key s).result = .ok (some v) ↔ s.found around key = some v := by
  rw [known, lookup, Action.update_apply, Except.ok.injEq]
  rfl

/-- A tenant has got its context from its own entry.  The context is found under the name of its
server exactly if it was still there, or the name is the key of the tenant. -/
theorem known_of_hit_iff (hregular : s.Regular capacity ttl)
    (hhit : s.found around (tenancyKey tenancy) = some w)
    (hresult : (resolveFor around tenancy s).result = .ok v)
    (hsoon : later.now.nanoseconds - around.now.nanoseconds < ttl.nanoseconds) :
    (known later v.context.serverId (resolveFor around tenancy s).state).result =
        .ok (some v) ↔
      v.context.serverId = tenancyKey tenancy ∨ s.found later v.context.serverId = some v := by
  have hheads := resolveFor_heads around tenancy s hregular v hresult
  rw [known_eq_some_iff]
  by_cases hkey : v.context.serverId = tenancyKey tenancy
  · rw [hkey]
    simpa using hheads.found hsoon
  · have hstate : (resolveFor around tenancy s).state.cache =
        (s.cache.get around.now (tenancyKey tenancy)).2 := by
      have hlookup : lookup around (tenancyKey tenancy) s = ⟨.ok (some w),
          { s with cache := (s.cache.get around.now (tenancyKey tenancy)).2 }, []⟩ := by
        rw [← hhit]
        rfl
      rw [resolveFor, Action.bind_eq_of_ok hlookup]
      rfl
    have hother : (resolveFor around tenancy s).state.found later v.context.serverId =
        s.found later v.context.serverId := by
      rw [Resolver.found, hstate]
      exact s.cache.get_get_of_ne around.now later.now hkey
    rw [hother]
    simp [hkey]

/-- A tenant has got its context anew, from the configuration of a server.  Under the name in that
configuration the context is found exactly if it had no rival there. -/
theorem known_of_miss (hregular : s.Regular capacity ttl) (hroom : 2 ≤ capacity)
    (hmiss : s.found around (tenancyKey tenancy) = none)
    (hresult : (resolveFor around tenancy s).result = .ok v)
    (hsoon : later.now.nanoseconds - around.now.nanoseconds < ttl.nanoseconds) :
    ∃ config, Chosen around tenancy v.context.kind config ∧
      ((known later config.serverId (resolveFor around tenancy s).state).result =
          .ok (some v) ↔
        rival around config.serverId v.context.kind s = none) := by
  obtain ⟨config, hchosen, hfound⟩ := addressed_of_miss hregular hroom hmiss hresult
  refine ⟨config, hchosen, ?_⟩
  rw [known_eq_some_iff, hfound later hsoon, Option.some.injEq]
  exact getD_rival_eq_iff rfl

end Resolver
end ChefAccess
