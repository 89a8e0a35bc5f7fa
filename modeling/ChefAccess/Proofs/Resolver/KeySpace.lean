import ChefAccess.Proofs.Resolver.Fresh
import ChefAccess.Proofs.Resolver.Run

/-!
# The keys of the cache

One cache keeps contexts by the names of servers and by tenants in regions, and the key of a
tenant in a region is made of the two names with a slash between them.  Nothing keeps such a
key from being the name of a server, or the key of another tenant.  So an entry serves only
what it was made for, in every run, exactly if the keys happen to be different.

Main definitions:

- {lit}`Resolver.Turn.Among`: a turn is about given tenants and given names of servers.
- {lit}`Resolver.KeysApart`: the keys of the tenants are different from each other and from
  the names of servers.
- {lit}`Resolver.Separated`: entries serve only what they were made for.

Main results:

- Theorem {lit}`Resolver.separated_iff_keysApart`: when entries serve only what they were made
  for.
- Theorem {lit}`Resolver.keysApart_of_noSlash`: names without slashes lead to different keys.
-/

namespace ChefAccess
namespace Resolver

variable {tenancies : Tenancy → Prop} {servers : String → Prop}

/-! ## Tenants and names of servers -/

/-- A turn is about given tenants, and all names of servers that it meets are given ones. -/
structure Turn.Among (tenancies : Tenancy → Prop) (servers : String → Prop) (turn : Turn) :
    Prop where
  /-- The turn is about one of the tenants, if it is about a tenant. -/
  served : ∀ tenancy, turn.Serves tenancy → tenancies tenancy
  /-- A context that is asked for by the name of its server is asked for by a given name. -/
  asked : ∀ serverId, turn.call = .known serverId → servers serverId
  /-- A configuration that is resolved has a given name. -/
  resolved : ∀ config, turn.call = .resolve config → servers config.serverId
  /-- The configuration of a tenant's server has a given name. -/
  configured : ∀ id config, turn.around.sources.server id = .ok (some config) →
    servers config.serverId
  /-- The configuration of the server that a region shares has a given name. -/
  shared : ∀ region config, turn.around.sources.regionServer region = .ok (some config) →
    servers config.serverId

/-- The keys of the tenants are no names of servers, and those of two tenants are different,
unless there is no server with a name at all. -/
def KeysApart (tenancies : Tenancy → Prop) (servers : String → Prop) : Prop :=
  ∀ tenancy, tenancies tenancy → ¬ servers (tenancyKey tenancy) ∧
    ∀ other, tenancies other → tenancy ≠ other → tenancyKey tenancy = tenancyKey other →
      ∀ serverId, servers serverId → Text.isBlank serverId = true

/-- A configuration from which a turn issues a context has a given name. -/
theorem Turn.Issues.among {config : ServerConfig} {v : Issued} {s : Resolver} {turn : Turn}
    (hissues : turn.Issues config v s) (hamong : turn.Among tenancies servers) :
    servers config.serverId := by
  cases hissues with
  | zone hreads hbuilds =>
    rcases hreads with hcall | ⟨tenancy, hcall, hregion⟩
    · exact hamong.resolved config hcall
    · exact hamong.shared tenancy.region config hregion
  | project tenancy mapping hissues =>
    exact hamong.configured mapping.serverId config hissues.builds.maps.server

/-! ## Keys that are apart -/

section Apart

variable {start : Resolver} {turns : List Turn} {v : Issued}

/-- Where the keys are apart, what is kept for a tenant was put there for that tenant. -/
theorem KeysApart.lately_puts (hapart : KeysApart tenancies servers)
    (hstart : ∀ key v, ¬ start.cache.Holds key v)
    (hamong : ∀ turn ∈ turns, turn.Among tenancies servers) {tenancy : Tenancy}
    (htenancy : tenancies tenancy)
    (hholds : (after start turns).cache.Holds (tenancyKey tenancy) v) :
    Lately start turns (Turn.Puts tenancy v) := by
  obtain ⟨⟨config, hissued⟩, hplaced⟩ := origin_of_held hstart hholds
  obtain ⟨hnotName, hnotKey⟩ := hapart tenancy htenancy
  rcases hplaced with ⟨named, hkey, hlately⟩ | ⟨other, hkey, hlately⟩
  · obtain ⟨s, turn, hturn, hissues⟩ := hlately.exists_mem
    rw [hkey] at hnotName
    exact absurd (hissues.among (hamong turn hturn)) hnotName
  · by_cases hsame : tenancy = other
    · rw [hsame]
      exact hlately
    · obtain ⟨_, turn, hturn, hputs⟩ := hlately.exists_mem
      obtain ⟨_, issuing, hissuing, hissues⟩ := hissued.exists_mem
      have hblank := hnotKey other ((hamong turn hturn).served other hputs.serves) hsame hkey
        config.serverId (hissues.among (hamong issuing hissuing))
      rw [hissues.named] at hblank
      cases hblank

/-- Where the keys are apart, what is kept under the name of a server was issued from a
configuration with that name. -/
theorem KeysApart.lately_issues (hapart : KeysApart tenancies servers)
    (hstart : ∀ key v, ¬ start.cache.Holds key v)
    (hamong : ∀ turn ∈ turns, turn.Among tenancies servers) {serverId : String}
    (hserver : servers serverId) (hholds : (after start turns).cache.Holds serverId v) :
    ∃ config, config.serverId = serverId ∧ Lately start turns (Turn.Issues config v) := by
  obtain ⟨-, hplaced⟩ := origin_of_held hstart hholds
  rcases hplaced with ⟨config, hkey, hlately⟩ | ⟨tenancy, hkey, hlately⟩
  · exact ⟨config, hkey.symm, hlately⟩
  · obtain ⟨_, turn, hturn, hputs⟩ := hlately.exists_mem
    obtain ⟨hnotName, -⟩ := hapart tenancy ((hamong turn hturn).served tenancy hputs.serves)
    rw [hkey] at hserver
    exact absurd hserver hnotName

end Apart

/-! ## Keys that are not apart -/

/-- A turn of the small world is about the name of its server. -/
theorem among_small {serverId username : String} {owner : Tenancy} {call : Call}
    (hserved : ∀ tenancy, Turn.Serves ⟨smallWorld serverId owner username, call⟩ tenancy →
      tenancies tenancy)
    (hasked : ∀ id, call ≠ .known id)
    (hresolved : ∀ config, call = .resolve config → servers config.serverId)
    (hserver : servers serverId) :
    Turn.Among tenancies servers ⟨smallWorld serverId owner username, call⟩ := by
  refine ⟨hserved, fun id hcall => absurd hcall (hasked id), hresolved, ?_, ?_⟩
  · intro id config hconfig
    rw [smallWorld_server, Except.ok.injEq] at hconfig
    split at hconfig
    · rw [← Option.some.inj hconfig]
      exact hserver
    · cases hconfig
  · intro region config hconfig
    cases hconfig

/-- A turn is about the tenant that it resolves. -/
theorem Turn.Serves.eq_of_resolveFor {around : Surroundings} {tenancy other : Tenancy}
    (hserves : Turn.Serves ⟨around, .resolveFor tenancy⟩ other) : tenancy = other := by
  rcases hserves with hcall | hcall
  · cases hcall
  · exact Call.resolveFor.inj hcall

/-- A turn is about the tenant whose own server it resolves. -/
theorem Turn.Serves.eq_of_resolveProject {around : Surroundings} {tenancy other : Tenancy}
    (hserves : Turn.Serves ⟨around, .resolveProject tenancy⟩ other) : tenancy = other := by
  rcases hserves with hcall | hcall
  · exact Call.resolveProject.inj hcall
  · cases hcall

/-- Two turns in which a tenant finds a context under its key, although the first turn was not
about that tenant. -/
structure Mistaken (tenancies : Tenancy → Prop) (servers : String → Prop) (tenancy : Tenancy)
    (first second : Turn) (v : Issued) : Prop where
  among : ∀ turn ∈ [first, second], turn.Among tenancies servers
  call : second.call = .resolveFor tenancy
  found : (lookup second.around (tenancyKey tenancy)
    (after (ofSettings .default) [first])).result = .ok (some v)
  notServed : ¬ first.Serves tenancy

/-- A tenant is mistaken in the small world, if a turn that is not about the tenant leaves a
context under its key. -/
theorem mistaken_of_live {tenancy owner : Tenancy} {serverId username : String} {call : Call}
    {v : Issued} {t : Resolver} (htenancy : tenancies tenancy) (hserver : servers serverId)
    (hfirst : Turn.Among tenancies servers ⟨smallWorld serverId owner username, call⟩)
    (hafter : (Turn.action ⟨smallWorld serverId owner username, call⟩
      (ofSettings .default)).state = t)
    (hlive : (t.cache.get ⟨0⟩ (tenancyKey tenancy)).1 = some v)
    (hnotServed : ¬ Turn.Serves ⟨smallWorld serverId owner username, call⟩ tenancy) :
    Mistaken tenancies servers tenancy ⟨smallWorld serverId owner username, call⟩
      ⟨smallWorld serverId owner username, .resolveFor tenancy⟩ v := by
  refine ⟨List.forall_mem_cons.mpr ⟨hfirst, List.forall_mem_singleton.mpr ?_⟩, rfl, ?_,
    hnotServed⟩
  · refine among_small ?_ (fun id h => nomatch h) (fun config h => nomatch h) hserver
    intro other hserves
    rw [← hserves.eq_of_resolveFor]
    exact htenancy
  · have hlookup : ∃ u, lookup (smallWorld serverId owner username) (tenancyKey tenancy) t =
        ⟨.ok (some v), u, []⟩ := lookup_of_live hlive
    obtain ⟨u, hlookup⟩ := hlookup
    rw [after_singleton, hafter, hlookup]

/-- If the key of a tenant is the name of a server, the tenant gets the context of that server
as if it had been kept for the tenant. -/
theorem exists_mistaken_of_name {tenancy : Tenancy} (htenancy : tenancies tenancy)
    (hserver : servers (tenancyKey tenancy)) :
    ∃ first second v, Mistaken tenancies servers tenancy first second v := by
  obtain ⟨v, t, events, hfirst, hname⟩ :=
    exists_resolve_small tenancy "alice" (isBlank_tenancyKey tenancy)
  have hafter : (Turn.action ⟨smallWorld (tenancyKey tenancy) tenancy "alice",
      .resolve (smallServer (tenancyKey tenancy))⟩ (ofSettings .default)).state = t :=
    congrArg Outcome.state hfirst
  have hserves : ∀ other, ¬ Turn.Serves ⟨smallWorld (tenancyKey tenancy) tenancy "alice",
      .resolve (smallServer (tenancyKey tenancy))⟩ other := by
    rintro other (hcall | hcall)
    · cases hcall
    · cases hcall
  refine ⟨_, _, v, mistaken_of_live htenancy hserver ?_ hafter hname (hserves tenancy)⟩
  refine among_small ?_ (fun id h => nomatch h) ?_ hserver
  · intro other hother
    exact absurd hother (hserves other)
  · intro config hcall
    rw [← Call.resolve.inj hcall]
    exact hserver

/-- If two tenants have the same key, the one gets the context of the other as if it had been
kept for itself. -/
theorem exists_mistaken_of_key {tenancy other : Tenancy} {serverId : String}
    (htenancy : tenancies tenancy) (hother : tenancies other) (hne : tenancy ≠ other)
    (hkey : tenancyKey tenancy = tenancyKey other) (hserver : servers serverId)
    (hnamed : Text.isBlank serverId = false) :
    ∃ first second v, Mistaken tenancies servers tenancy first second v := by
  obtain ⟨v, t, events, hfirst, -, -, -, hkept, -⟩ :=
    exists_resolveProject_small other hnamed isBlank_alice
  rw [← hkey] at hkept
  have hafter : (Turn.action ⟨smallWorld serverId other "alice", .resolveProject other⟩
      (ofSettings .default)).state = t :=
    congrArg Outcome.state hfirst
  refine ⟨_, _, v, mistaken_of_live htenancy hserver ?_ hafter hkept ?_⟩
  · refine among_small ?_ (fun id h => nomatch h) (fun config h => nomatch h) hserver
    intro served hserves
    rw [← hserves.eq_of_resolveProject]
    exact hother
  · intro hserves
    exact hne hserves.eq_of_resolveProject.symm

/-! ## When the keys are separate -/

/-- Entries serve only what they were made for, in every run. -/
structure Separated (tenancies : Tenancy → Prop) (servers : String → Prop) : Prop where
  /-- The context that a tenant in a region finds under its key was put there for it. -/
  kept : ∀ settings turns turn tenancy v,
    (∀ other ∈ turns ++ [turn], other.Among tenancies servers) →
    turn.call = .resolveFor tenancy →
    (lookup turn.around (tenancyKey tenancy)
      (after (ofSettings settings) turns)).result = .ok (some v) →
    Lately (ofSettings settings) turns (Turn.Puts tenancy v)
  /-- The context that is known by the name of a server was issued from a configuration with
  that name. -/
  known : ∀ settings turns turn serverId v,
    (∀ other ∈ turns ++ [turn], other.Among tenancies servers) →
    turn.call = .known serverId →
    (turn.action (after (ofSettings settings) turns)).result = .ok (some v) →
    ∃ config, config.serverId = serverId ∧
      Lately (ofSettings settings) turns (Turn.Issues config v)

/-- Where the keys are apart, they are separate. -/
theorem KeysApart.separated (hapart : KeysApart tenancies servers) :
    Separated tenancies servers := by
  have hstart : ∀ settings key v, ¬ (ofSettings settings).cache.Holds key v :=
    fun settings => Cache.not_holds_empty settings.contextCapacity settings.contextTtl
  constructor
  · intro settings turns turn tenancy v hamong hcall hresult
    obtain ⟨hbefore, hlast⟩ := List.forall_mem_append.mp hamong
    have htenancy : tenancies tenancy :=
      (hlast turn (List.mem_singleton_self turn)).served tenancy (Or.inr hcall)
    exact hapart.lately_puts (hstart settings) hbefore htenancy
      (Cache.holds_of_get (Except.ok.inj hresult))
  · intro settings turns turn serverId v hamong hcall hresult
    obtain ⟨hbefore, hlast⟩ := List.forall_mem_append.mp hamong
    have hserver : servers serverId :=
      (hlast turn (List.mem_singleton_self turn)).asked serverId hcall
    rw [Turn.action, hcall] at hresult
    exact hapart.lately_issues (hstart settings) hbefore hserver
      (Cache.holds_of_get (Except.ok.inj hresult))

/-- Where the keys are separate, they are apart. -/
theorem Separated.keysApart (hseparate : Separated tenancies servers) :
    KeysApart tenancies servers := by
  intro tenancy htenancy
  have hcorrect : ∀ first second v, ¬ Mistaken tenancies servers tenancy first second v := by
    intro first second v hmistaken
    have hlately := hseparate.kept .default [first] second tenancy v hmistaken.among
      hmistaken.call hmistaken.found
    obtain ⟨_, turn, hturn, hputs⟩ := hlately.exists_mem
    rw [List.mem_singleton] at hturn
    rw [hturn] at hputs
    exact hmistaken.notServed hputs.serves
  constructor
  · intro hserver
    obtain ⟨first, second, v, hmistaken⟩ := exists_mistaken_of_name htenancy hserver
    exact hcorrect first second v hmistaken
  · intro other hother hne hkey serverId hserver
    by_contra hnamed
    rw [Bool.not_eq_true] at hnamed
    obtain ⟨first, second, v, hmistaken⟩ :=
      exists_mistaken_of_key htenancy hother hne hkey hserver hnamed
    exact hcorrect first second v hmistaken

/-- Entries serve only what they were made for, in every run, exactly if the keys are apart. -/
theorem separated_iff_keysApart (tenancies : Tenancy → Prop) (servers : String → Prop) :
    Separated tenancies servers ↔ KeysApart tenancies servers :=
  ⟨Separated.keysApart, KeysApart.separated⟩

/-- The turn that resolves a tenant in a region with a slash in its name. -/
def slashTurn : Turn :=
  ⟨smallWorld "chef-1" ⟨"acme", "eu/1"⟩ "alice", .resolveProject ⟨"acme", "eu/1"⟩⟩

/-- The context of that tenant is also found under the key of another tenant, and by the name
of a server that nobody has configured. -/
theorem crossed_keys_slashTurn :
    ∃ v, (lookup slashTurn.around (tenancyKey ⟨"acme/eu", "1"⟩)
        (after (ofSettings .default) [slashTurn])).result = .ok (some v) ∧
      ¬ Lately (ofSettings .default) [slashTurn] (Turn.Puts ⟨"acme/eu", "1"⟩ v) ∧
      (known slashTurn.around "acme/eu/1"
        (after (ofSettings .default) [slashTurn])).result = .ok (some v) ∧
      ¬ ∃ config, config.serverId = "acme/eu/1" ∧
        Lately (ofSettings .default) [slashTurn] (Turn.Issues config v) := by
  have hnamed : Text.isBlank "chef-1" = false :=
    Text.isBlank_of_mem (c := 'c') (by decide) (by decide)
  obtain ⟨v, t, events, hfirst, -, -, -, hkept, -⟩ :=
    exists_resolveProject_small ⟨"acme", "eu/1"⟩ hnamed isBlank_alice
  have hafter : (slashTurn.action (ofSettings .default)).state = t :=
    congrArg Outcome.state hfirst
  have hlookup : ∃ u, lookup slashTurn.around "acme/eu/1" t = ⟨.ok (some v), u, []⟩ :=
    lookup_of_live hkept
  obtain ⟨u, hlookup⟩ := hlookup
  have hkey : tenancyKey ⟨"acme/eu", "1"⟩ = "acme/eu/1" := by
    decide
  rw [after_singleton, hafter, hkey, known, hlookup]
  refine ⟨v, rfl, ?_, rfl, ?_⟩
  · intro hlately
    obtain ⟨_, turn, hturn, hputs⟩ := hlately.exists_mem
    rw [List.mem_singleton] at hturn
    rw [hturn] at hputs
    have hwrong : (⟨"acme", "eu/1"⟩ : Tenancy) = ⟨"acme/eu", "1"⟩ :=
      hputs.serves.eq_of_resolveProject
    exact absurd hwrong (by decide)
  · rintro ⟨config, hname, hlately⟩
    obtain ⟨_, turn, hturn, hissues⟩ := hlately.exists_mem
    have hamong : Turn.Among (fun _ => True) (· = "chef-1") turn := by
      rw [List.mem_singleton.mp hturn]
      exact among_small (fun _ _ => trivial) (fun id h => nomatch h) (fun config h => nomatch h)
        rfl
    have hwrong := hissues.among hamong
    rw [hname] at hwrong
    exact absurd hwrong (by decide)

/-! ## Names without slashes -/

/-- The part of a key before its first slash is the name of the tenant, if that has none. -/
theorem takeWhile_tenancyKey {tenancy : Tenancy} (hslash : '/' ∉ tenancy.tenant.toList) :
    (tenancyKey tenancy).toList.takeWhile (· != '/') = tenancy.tenant.toList := by
  have hname : ∀ c ∈ tenancy.tenant.toList, (c != '/') = true := by
    intro c hc
    rw [bne_iff_ne]
    rintro rfl
    exact hslash hc
  have hkey : (tenancyKey tenancy).toList =
      tenancy.tenant.toList ++ '/' :: tenancy.region.toList := by
    simp [tenancyKey, String.toList_append]
  rw [hkey, List.takeWhile_append_of_pos hname]
  simp

/-- Tenants whose names have no slash have different keys. -/
theorem eq_of_tenancyKey_eq {tenancy other : Tenancy}
    (htenancy : '/' ∉ tenancy.tenant.toList) (hother : '/' ∉ other.tenant.toList)
    (hkey : tenancyKey tenancy = tenancyKey other) : tenancy = other := by
  have htenant : tenancy.tenant = other.tenant := by
    rw [← String.toList_inj, ← takeWhile_tenancyKey htenancy, ← takeWhile_tenancyKey hother, hkey]
  obtain ⟨tenant, region⟩ := tenancy
  obtain ⟨_, otherRegion⟩ := other
  cases htenant
  rw [tenancyKey, tenancyKey, ← String.toList_inj] at hkey
  simp only [String.toList_append] at hkey
  rw [String.toList_inj.mp (List.append_cancel_left hkey)]

/-- The keys are apart if neither the names of tenants nor those of servers have slashes. -/
theorem keysApart_of_noSlash
    (htenants : ∀ tenancy, tenancies tenancy → '/' ∉ tenancy.tenant.toList)
    (hservers : ∀ serverId, servers serverId → '/' ∉ serverId.toList) :
    KeysApart tenancies servers := by
  intro tenancy htenancy
  constructor
  · intro hserver
    have hslash : '/' ∈ (tenancyKey tenancy).toList := by
      simp [tenancyKey, String.toList_append]
    exact hservers _ hserver hslash
  · intro other hother hne hkey
    exact absurd (eq_of_tenancyKey_eq (htenants tenancy htenancy) (htenants other hother) hkey) hne

end Resolver
end ChefAccess
