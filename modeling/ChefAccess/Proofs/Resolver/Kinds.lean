import ChefAccess.Proofs.Resolver.Run

/-!
# Shared servers and servers of tenants

A region and a tenant may use the same server, and the context of either is kept under its
name.  The kind of a context tells the two apart: a context for a shared server signs as the
user of a server configuration, with a secret, and a context for a tenant's server signs with
a key file.  Whichever of the two was resolved first, nobody is given the other one.

Main definitions:

- {lit}`Resolver.Turn.Furnishes`: a turn issues a context with the credentials of its kind.

Main results:

- Theorem {lit}`Resolver.Turn.held_or_issues`: what a turn gives was kept, or the turn issues
  it.
- Theorem {lit}`Resolver.kinds_separated`: kinds and credentials go together in every run.
-/

namespace ChefAccess
namespace Resolver

variable {s : Resolver} {turn : Turn} {config : ServerConfig} {v : Issued}

/-! ## Credentials -/

/-- A turn issues a context, the next one of the resolver, with the credentials of its kind,
which it finds in its surroundings. -/
inductive Turn.Furnishes (v : Issued) (s : Resolver) (turn : Turn) : Prop
  /-- The context of a shared server has the user of a configuration that the turn reads, and
  the key in the secret that the configuration names. -/
  | zone (config : ServerConfig) (text : String) (hkind : v.context.kind = .zone)
      (hserial : v.serial = s.issued) (hreads : turn.Reads config)
      (hclient : v.context.username = Text.trim config.username)
      (hsecret : turn.around.sources.HasSecret config.clientKey text)
      (hkey : Key.Rsa.ofMaterial text = .ok v.context.key)
  /-- The context of a tenant's server has the key in a file. -/
  | project (path text : String) (hkind : v.context.kind = .project)
      (hserial : v.serial = s.issued) (hfile : turn.around.sources.HasText path text)
      (hkey : Key.Rsa.ofMaterial text = .ok v.context.key)

/-- A turn that issues a context furnishes it with the credentials of its kind. -/
theorem Turn.Issues.furnishes (hissues : turn.Issues config v s) : turn.Furnishes v s := by
  cases hissues with
  | zone hreads hbuilds =>
    obtain ⟨text, hsecret, hassemble⟩ := hbuilds.assembled
    obtain ⟨hkey, hclient, -⟩ := eq_of_assemble_ok hassemble
    exact .zone config text hbuilds.kind hbuilds.serial hreads hclient hsecret hkey
  | project tenancy mapping hissues =>
    obtain ⟨token, text, -, hfile, hassemble⟩ := hissues.builds.assembled
    obtain ⟨hkey, -⟩ := eq_of_assemble_ok hassemble
    exact .project token text hissues.builds.kind hissues.builds.serial hfile hkey

/-! ## What a turn gives -/

/-- What is supplied under a name was kept under it, or is issued by the turn. -/
theorem Supplies.held_or_issues {t : Resolver} {kind : Server.ContextKind} {Built : Prop}
    (hsupplies : Supplies s t config.serverId kind v Built)
    (hissues : Built → turn.Issues config v s) :
    (∃ key, s.cache.Holds key v) ∨ ∃ config, turn.Issues config v s := by
  cases hsupplies with
  | kept hheld => exact Or.inl ⟨config.serverId, hheld⟩
  | built hbuilt => exact Or.inr ⟨config, hissues hbuilt⟩

/-- What is supplied for a tenant's own server was kept, or is issued by the turn. -/
theorem SuppliesProject.held_or_issues {t : Resolver} {tenancy : Tenancy}
    (hserves : turn.Serves tenancy) (hsupplies : SuppliesProject turn.around s t tenancy v) :
    (∃ key, s.cache.Holds key v) ∨ ∃ config, turn.Issues config v s := by
  cases hsupplies with
  | kept hheld => exact Or.inl ⟨tenancyKey tenancy, hheld⟩
  | mapped mapping server between hmaps hserver =>
    exact hserver.held_or_issues fun hbuilds => .project tenancy mapping ⟨hserves, hbuilds⟩

/-- A turn that gives a context found it in the cache, or issues it. -/
theorem Turn.held_or_issues (hgives : (turn.action s).result = .ok (some v)) :
    (∃ key, s.cache.Holds key v) ∨ ∃ config, turn.Issues config v s := by
  cases hcall : turn.call with
  | resolve config =>
    rw [Turn.action, hcall] at hgives
    have hsupplies := (resolve_settles turn.around config s).of_ok_some hgives
    exact hsupplies.held_or_issues fun hbuilds => .zone (Or.inl hcall) hbuilds
  | resolveProject tenancy =>
    rw [Turn.action, hcall] at hgives
    have hsupplies := (resolveProject_settles turn.around tenancy s).of_ok_some hgives
    exact hsupplies.held_or_issues (Or.inl hcall)
  | resolveFor tenancy =>
    rw [Turn.action, hcall] at hgives
    cases (resolveFor_settles turn.around tenancy s).of_ok_some hgives with
    | kept hheld => exact Or.inl ⟨tenancyKey tenancy, hheld⟩
    | project hproject => exact hproject.held_or_issues (Or.inr hcall)
    | region config between hshared hserver =>
      exact hserver.held_or_issues fun hbuilds =>
        .zone (Or.inr ⟨tenancy, hcall, hshared⟩) hbuilds
  | known serverId =>
    rw [Turn.action, hcall] at hgives
    exact Or.inl ⟨serverId, Cache.holds_of_get (Except.ok.inj hgives)⟩
  | forget =>
    rw [Turn.action, hcall] at hgives
    cases hgives

/-- A turn that gives a context forgets nothing. -/
theorem Turn.call_ne_forget_of_gives (hgives : (turn.action s).result = .ok (some v)) :
    turn.call ≠ .forget := by
  intro hcall
  rw [Turn.action, hcall] at hgives
  cases hgives

/-- Whoever asks for a shared server gets a context of that kind. -/
theorem Turn.kind_of_resolve (hcall : turn.call = .resolve config)
    (hgives : (turn.action s).result = .ok (some v)) : v.context.kind = .zone := by
  rw [Turn.action, hcall] at hgives
  cases (resolve_settles turn.around config s).of_ok_some hgives with
  | kept _ hkind => exact hkind
  | built hbuilds => exact hbuilds.kind

/-- Whoever asks for a tenant's own server gets a context of that kind. -/
theorem Turn.kind_of_resolveProject {tenancy : Tenancy}
    (hcall : turn.call = .resolveProject tenancy)
    (hgives : (turn.action s).result = .ok (some v)) : v.context.kind = .project := by
  rw [Turn.action, hcall] at hgives
  cases (resolveProject_settles turn.around tenancy s).of_ok_some hgives with
  | kept _ hkind => exact hkind
  | mapped mapping server between hmaps hserver =>
    cases hserver with
    | kept _ hkind => exact hkind
    | built hbuilds => exact hbuilds.kind

/-! ## Whole runs -/

/-- Kinds and credentials go together, in every run.  Each context in the cache was issued
lately, with the credentials of its kind.  So was each context that is given; and whoever asks
for a shared server or for a tenant's own server gets a context of that kind, whatever is kept
under the name of the server. -/
theorem kinds_separated (settings : Settings) (turns : List Turn) :
    (∀ key v, (after (ofSettings settings) turns).cache.Holds key v →
      Lately (ofSettings settings) turns (Turn.Furnishes v)) ∧
    ∀ turn v, (turn.action (after (ofSettings settings) turns)).result = .ok (some v) →
      Lately (ofSettings settings) (turns ++ [turn]) (Turn.Furnishes v) ∧
        (∀ config, turn.call = .resolve config → v.context.kind = .zone) ∧
        ∀ tenancy, turn.call = .resolveProject tenancy → v.context.kind = .project := by
  have hstart : ∀ key v, ¬ (ofSettings settings).cache.Holds key v :=
    Cache.not_holds_empty settings.contextCapacity settings.contextTtl
  have hheld : ∀ key v, (after (ofSettings settings) turns).cache.Holds key v →
      Lately (ofSettings settings) turns (Turn.Furnishes v) := by
    intro key v hholds
    obtain ⟨config, hissued⟩ := (origin_of_held hstart hholds).issued
    exact hissued.imp fun s turn _ hissues => hissues.furnishes
  refine ⟨hheld, ?_⟩
  intro turn v hgives
  refine ⟨?_, ?_, ?_⟩
  · rcases Turn.held_or_issues hgives with ⟨key, hholds⟩ | ⟨config, hissues⟩
    · exact (hheld key v hholds).concat (Turn.call_ne_forget_of_gives hgives)
    · exact Lately.of_last hissues.furnishes
  · intro config hcall
    exact Turn.kind_of_resolve hcall hgives
  · intro tenancy hcall
    exact Turn.kind_of_resolveProject hcall hgives

end Resolver
end ChefAccess
