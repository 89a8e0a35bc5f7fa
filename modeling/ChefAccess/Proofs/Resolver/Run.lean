import ChefAccess.Proofs.Resolver.Provenance
import ChefAccess.Proofs.Text.Trim
import Mathlib.Data.List.Induction

/-!
# Runs of a resolver

A resolver is called again and again.  Between two calls the surroundings may change in any
way: configurations, mappings, secrets and files are written, services go down, and time
passes.  So each call of a run has surroundings of its own.

Main definitions:

- {lit}`Resolver.Turn`: a call in its surroundings, and {lit}`Resolver.after`, what is left
  of a resolver after some turns.
- {lit}`Resolver.Lately`: something happened in a turn, and nothing was forgotten since.
- {lit}`Resolver.Turn.Adds`: the entries that a turn adds to the cache.

Main results:

- Theorem {lit}`Resolver.Turn.held_or_adds`: what one turn does to the cache.
- Theorem {lit}`Resolver.origin_of_held`: where the entries of the cache come from.
-/

namespace ChefAccess
namespace Resolver

/-! ## Turns -/

/-- What a resolver is asked for. -/
inductive Call where
  | resolve (config : ServerConfig)
  | resolveProject (tenancy : Tenancy)
  | resolveFor (tenancy : Tenancy)
  | known (serverId : String)
  | forget

/-- A call with the surroundings that it is made in. -/
structure Turn where
  around : Surroundings
  call : Call

/-- A turn as an action that may give a context. -/
def Turn.action (turn : Turn) : Action Resolver (Option Issued) :=
  match turn.call with
  | .resolve config => Resolver.resolve turn.around config
  | .resolveProject tenancy => Resolver.resolveProject turn.around tenancy
  | .resolveFor tenancy => do
    let issued ← Resolver.resolveFor turn.around tenancy
    return some issued
  | .known serverId => Resolver.known turn.around serverId
  | .forget => do
    Action.modify Resolver.forget
    return none

/-- What is left of a resolver after some turns. -/
def after (start : Resolver) (turns : List Turn) : Resolver :=
  turns.foldl (fun resolver turn => (turn.action resolver).state) start

@[simp]
theorem after_nil (start : Resolver) : after start [] = start :=
  rfl

@[simp]
theorem after_singleton (start : Resolver) (turn : Turn) :
    after start [turn] = (turn.action start).state :=
  rfl

@[simp]
theorem after_concat (start : Resolver) (turns : List Turn) (last : Turn) :
    after start (turns ++ [last]) = (last.action (after start turns)).state := by
  simp [after]

/-! ## What happened lately -/

/-- Something happened in one of some turns, and nothing was forgotten since. -/
def Lately (start : Resolver) (turns : List Turn) (Happens : Resolver → Turn → Prop) : Prop :=
  ∃ before turn rest, turns = before ++ turn :: rest ∧ Happens (after start before) turn ∧
    ∀ later ∈ rest, later.call ≠ .forget

namespace Lately

variable {start : Resolver} {turns : List Turn} {last : Turn}
  {Happens Other : Resolver → Turn → Prop}

/-- The last turn is one of late. -/
theorem of_last (hlast : Happens (after start turns) last) :
    Lately start (turns ++ [last]) Happens :=
  ⟨turns, last, [], rfl, hlast, fun _ hlater => nomatch hlater⟩

/-- What happened lately still did so after one more turn that forgets nothing. -/
theorem concat (hlately : Lately start turns Happens) (hlast : last.call ≠ .forget) :
    Lately start (turns ++ [last]) Happens := by
  obtain ⟨before, turn, rest, rfl, hturn, hrest⟩ := hlately
  refine ⟨before, turn, rest ++ [last], by simp, hturn, ?_⟩
  intro later hlater
  rcases List.mem_append.mp hlater with hold | hnew
  · exact hrest later hold
  · rw [List.mem_singleton.mp hnew]
    exact hlast

/-- What follows from something that happened lately happened lately, too. -/
theorem imp (hlately : Lately start turns Happens)
    (himp : ∀ s turn, turn ∈ turns → Happens s turn → Other s turn) :
    Lately start turns Other := by
  obtain ⟨before, turn, rest, rfl, hturn, hrest⟩ := hlately
  exact ⟨before, turn, rest, rfl, himp _ turn (by simp) hturn, hrest⟩

/-- What happened lately happened in one of the turns. -/
theorem exists_mem (hlately : Lately start turns Happens) :
    ∃ s, ∃ turn ∈ turns, Happens s turn := by
  obtain ⟨before, turn, rest, rfl, hturn, -⟩ := hlately
  exact ⟨_, turn, by simp, hturn⟩

end Lately

namespace Turn

/-! ## What one turn does -/

/-- A turn is about a tenant in a region. -/
def Serves (turn : Turn) (tenancy : Tenancy) : Prop :=
  turn.call = .resolveProject tenancy ∨ turn.call = .resolveFor tenancy

/-- A turn reads the configuration of a shared server. -/
def Reads (turn : Turn) (config : ServerConfig) : Prop :=
  turn.call = .resolve config ∨ ∃ tenancy, turn.call = .resolveFor tenancy ∧
    turn.around.sources.regionServer tenancy.region = .ok (some config)

/-- A turn issues a context for a tenant from the tenant's own mapping. -/
structure IssuesFor (tenancy : Tenancy) (mapping : TenantConfig) (server : ServerConfig)
    (v : Issued) (s : Resolver) (turn : Turn) : Prop where
  serves : turn.Serves tenancy
  builds : BuildsProject turn.around s tenancy mapping server v

/-- A turn issues a context from the configuration of a server. -/
inductive Issues (config : ServerConfig) (v : Issued) (s : Resolver) (turn : Turn) : Prop
  /-- The server is a shared one. -/
  | zone (hreads : turn.Reads config) (hbuilds : BuildsZone turn.around s config v)
  /-- The server is that of a tenant. -/
  | project (tenancy : Tenancy) (mapping : TenantConfig)
      (hissues : turn.IssuesFor tenancy mapping config v s)

/-- Where a turn takes the context of a tenant from, if not from what was kept for the
tenant. -/
inductive Obtains (tenancy : Tenancy) (v : Issued) (s : Resolver) (turn : Turn) : Prop
  /-- The context was kept under the name of the server to which the tenant is mapped. -/
  | held (mapping : TenantConfig) (server : ServerConfig)
      (hmaps : Maps turn.around tenancy mapping server)
      (hheld : s.cache.Holds server.serverId v) (hkind : v.context.kind = .project)
  /-- The context is issued for the tenant. -/
  | issued (mapping : TenantConfig) (server : ServerConfig)
      (hissues : turn.IssuesFor tenancy mapping server v s)
  /-- The context was kept under the name of a shared server. -/
  | sharedHeld (config : ServerConfig) (hreads : turn.Reads config)
      (hheld : s.cache.Holds config.serverId v) (hkind : v.context.kind = .zone)
  /-- The context is issued for a shared server. -/
  | sharedIssued (config : ServerConfig) (hreads : turn.Reads config)
      (hbuilds : BuildsZone turn.around s config v)

/-- The entries that a turn adds to the cache. -/
inductive Adds (s : Resolver) (turn : Turn) : String → Issued → Prop
  /-- A new context is kept under the name of its server. -/
  | issued (config : ServerConfig) (v : Issued) (hissues : turn.Issues config v s) :
      Adds s turn config.serverId v
  /-- A context is kept for a tenant. -/
  | obtained (tenancy : Tenancy) (v : Issued) (hserves : turn.Serves tenancy)
      (hobtains : turn.Obtains tenancy v s) : Adds s turn (tenancyKey tenancy) v

end Turn

/-- A new context of a shared server is of the kind of shared servers. -/
theorem BuildsZone.kind {around : Surroundings} {s : Resolver} {config : ServerConfig}
    {v : Issued} (hbuilds : BuildsZone around s config v) : v.context.kind = .zone := by
  obtain ⟨text, -, hassemble⟩ := hbuilds.assembled
  exact (eq_of_assemble_ok hassemble).2.2.2.2

/-- A new context of a tenant's server is of the kind of such servers. -/
theorem BuildsProject.kind {around : Surroundings} {s : Resolver} {tenancy : Tenancy}
    {mapping : TenantConfig} {server : ServerConfig} {v : Issued}
    (hbuilds : BuildsProject around s tenancy mapping server v) :
    v.context.kind = .project := by
  obtain ⟨token, text, -, -, hassemble⟩ := hbuilds.assembled
  exact (eq_of_assemble_ok hassemble).2.2.2.2

/-- A server from whose configuration a context is issued has a name. -/
theorem Turn.Issues.named {config : ServerConfig} {v : Issued} {s : Resolver} {turn : Turn}
    (hissues : turn.Issues config v s) : Text.isBlank config.serverId = false := by
  cases hissues with
  | zone hreads hbuilds =>
    obtain ⟨text, -, hassemble⟩ := hbuilds.assembled
    exact (eq_of_assemble_ok hassemble).2.2.1
  | project tenancy mapping hissues =>
    obtain ⟨token, text, -, -, hassemble⟩ := hissues.builds.assembled
    exact (eq_of_assemble_ok hassemble).2.2.1

/-! ## The step lemma -/

section Step

variable {s t : Resolver} {turn : Turn} {tenancy : Tenancy} {key : String} {v w : Issued}

/-- A tenant's own server adds its new context, and the entry of the tenant. -/
theorem SuppliesProject.held_or (hserves : turn.Serves tenancy)
    (hsupplies : SuppliesProject turn.around s t tenancy v) (hholds : t.cache.Holds key w) :
    s.cache.Holds key w ∨ turn.Adds s key w := by
  cases hsupplies with
  | kept _ _ hfades => exact Or.inl (hfades.held hholds)
  | mapped mapping server between hmaps hserver hgains =>
    rcases hgains.held hholds with hold | ⟨rfl, rfl⟩
    · rcases hserver.held_or hold with hbefore | ⟨hbuilds, rfl, rfl⟩
      · exact Or.inl hbefore
      · exact Or.inr (.issued server w (.project tenancy mapping ⟨hserves, hbuilds⟩))
    · refine Or.inr (.obtained tenancy w hserves ?_)
      cases hserver with
      | kept hheld hkind => exact .held mapping server hmaps hheld hkind
      | built hbuilds => exact .issued mapping server ⟨hserves, hbuilds⟩

/-- A shared server adds its new context. -/
theorem Supplies.held_or_adds {config : ServerConfig} (hreads : turn.Reads config)
    (hsupplies : Supplies s t config.serverId .zone v (BuildsZone turn.around s config v))
    (hholds : t.cache.Holds key w) : s.cache.Holds key w ∨ turn.Adds s key w := by
  rcases hsupplies.held_or hholds with hold | ⟨hbuilds, rfl, rfl⟩
  · exact Or.inl hold
  · exact Or.inr (.issued config w (.zone hreads hbuilds))

/-- A tenant in a region adds what its own server or the shared one adds, and the entry of
the tenant. -/
theorem SuppliesTenancy.held_or (hcall : turn.call = .resolveFor tenancy)
    (hsupplies : SuppliesTenancy turn.around s t tenancy v) (hholds : t.cache.Holds key w) :
    s.cache.Holds key w ∨ turn.Adds s key w := by
  cases hsupplies with
  | kept _ hfades => exact Or.inl (hfades.held hholds)
  | project hproject => exact hproject.held_or (Or.inr hcall) hholds
  | region config between hshared hserver hgains =>
    have hreads : turn.Reads config := Or.inr ⟨tenancy, hcall, hshared⟩
    rcases hgains.held hholds with hold | ⟨rfl, rfl⟩
    · exact hserver.held_or_adds hreads hold
    · refine Or.inr (.obtained tenancy w (Or.inr hcall) ?_)
      cases hserver with
      | kept hheld hkind => exact .sharedHeld config hreads hheld hkind
      | built hbuilds => exact .sharedIssued config hreads hbuilds

/-- What is held after a turn was held before it, or is added by it. -/
theorem Turn.held_or_adds (hholds : (turn.action s).state.cache.Holds key w) :
    s.cache.Holds key w ∨ turn.Adds s key w := by
  cases hcall : turn.call with
  | resolve config =>
    rw [Turn.action, hcall] at hholds
    refine (resolve_settles turn.around config s).held_or ?_ hholds
    intro v after hsupplies hafter
    exact hsupplies.held_or_adds (Or.inl hcall) hafter
  | resolveProject tenancy =>
    rw [Turn.action, hcall] at hholds
    refine (resolveProject_settles turn.around tenancy s).held_or ?_ hholds
    intro v after hsupplies hafter
    exact hsupplies.held_or (Or.inl hcall) hafter
  | resolveFor tenancy =>
    rw [Turn.action, hcall] at hholds
    refine (resolveFor_settles turn.around tenancy s).held_or ?_ hholds
    intro v after hsupplies hafter
    exact hsupplies.held_or hcall hafter
  | known serverId =>
    rw [Turn.action, hcall] at hholds
    exact Or.inl (Cache.holds_of_holds_get hholds)
  | forget =>
    rw [Turn.action, hcall] at hholds
    exact absurd hholds (Cache.not_holds_clear s.cache key w)

/-- A turn after which something is held forgot nothing. -/
theorem Turn.call_ne_forget (hholds : (turn.action s).state.cache.Holds key w) :
    turn.call ≠ .forget := by
  intro hcall
  rw [Turn.action, hcall] at hholds
  exact Cache.not_holds_clear s.cache key w hholds

end Step

/-! ## Keys -/

/-- The key of a tenant in a region is not blank, whatever their names are. -/
theorem isBlank_tenancyKey (tenancy : Tenancy) :
    Text.isBlank (tenancyKey tenancy) = false := by
  have hslash : '/' ∈ (tenancyKey tenancy).toList := by
    simp only [tenancyKey, String.toList_append, List.mem_append]
    exact Or.inl (Or.inr (by decide))
  exact Text.isBlank_of_mem hslash (by decide)

/-! ## The origin of entries -/

/-- A turn puts a context under the key of a tenant that it is about. -/
structure Turn.Puts (tenancy : Tenancy) (v : Issued) (s : Resolver) (turn : Turn) : Prop where
  serves : turn.Serves tenancy
  absent : ¬ s.cache.Holds (tenancyKey tenancy) v
  present : (turn.action s).state.cache.Holds (tenancyKey tenancy) v

/-- Where an entry of the cache comes from: its context was issued lately, and lately it was
put under its key, either as a new context of the server with that name or for the tenant with
that key. -/
structure Origin (start : Resolver) (turns : List Turn) (key : String) (v : Issued) : Prop where
  issued : ∃ config, Lately start turns (Turn.Issues config v)
  placed : (∃ config, key = config.serverId ∧ Lately start turns (Turn.Issues config v)) ∨
    ∃ tenancy, key = tenancyKey tenancy ∧ Lately start turns (Turn.Puts tenancy v)

/-- Each entry of the cache of a resolver that held nothing at the start has its origin in
one of the turns. -/
theorem origin_of_held {start : Resolver} (hstart : ∀ key v, ¬ start.cache.Holds key v)
    {turns : List Turn} {key : String} {v : Issued}
    (hholds : (after start turns).cache.Holds key v) : Origin start turns key v := by
  induction turns using List.reverseRecOn generalizing key v with
  | nil => exact absurd hholds (hstart key v)
  | append_singleton turns last ih =>
    rw [after_concat] at hholds
    have hkeeps : last.call ≠ .forget := Turn.call_ne_forget hholds
    have hold : ∀ {key v}, (after start turns).cache.Holds key v →
        Origin start (turns ++ [last]) key v := by
      intro key v hbefore
      obtain ⟨⟨config, hissued⟩, hplaced⟩ := ih hbefore
      refine ⟨⟨config, hissued.concat hkeeps⟩, ?_⟩
      rcases hplaced with ⟨config, hkey, hplaced⟩ | ⟨tenancy, hkey, hplaced⟩
      · exact Or.inl ⟨config, hkey, hplaced.concat hkeeps⟩
      · exact Or.inr ⟨tenancy, hkey, hplaced.concat hkeeps⟩
    by_cases hbefore : (after start turns).cache.Holds key v
    · exact hold hbefore
    · rcases Turn.held_or_adds hholds with hsame | hadds
      · exact absurd hsame hbefore
      · cases hadds with
        | issued config _ hissues =>
          have hlately := Lately.of_last hissues
          exact ⟨⟨config, hlately⟩, Or.inl ⟨config, rfl, hlately⟩⟩
        | obtained tenancy _ hserves hobtains =>
          refine ⟨?_, Or.inr ⟨tenancy, rfl, Lately.of_last ⟨hserves, hbefore, hholds⟩⟩⟩
          cases hobtains with
          | held mapping server hmaps hheld => exact (hold hheld).issued
          | issued mapping server hissues =>
            exact ⟨server, Lately.of_last (.project tenancy mapping hissues)⟩
          | sharedHeld config hreads hheld => exact (hold hheld).issued
          | sharedIssued config hreads hbuilds =>
            exact ⟨config, Lately.of_last (.zone hreads hbuilds)⟩

end Resolver
end ChefAccess
