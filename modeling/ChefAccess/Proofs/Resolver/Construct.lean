import ChefAccess.Proofs.Action
import ChefAccess.Proofs.Cache
import ChefAccess.Proofs.Server.Context
import ChefAccess.Resolver.Basic

/-!
# What a resolver does to its cache

Each step of a resolver either only drops entries of the cache, or keeps one context under
one key besides.  A construction does the latter if it has to issue a new context, and the
former in every other case.

Main definitions:

- {lit}`Resolver.Fades`: a resolver has at most dropped entries.
- {lit}`Resolver.Gains`: a resolver has at most dropped entries, and kept one context.
- {lit}`Resolver.Settles`: an outcome gives a context in a given way, or only drops entries.
- {lit}`Resolver.Supplies`: where a context under a key comes from.

Main results:

- Theorem {lit}`Resolver.eq_of_assemble_ok`: where the fields of a new context come from.
- Theorem {lit}`Resolver.construct_settles`: a construction finds its context, or issues it.
-/

namespace ChefAccess
namespace Resolver

variable {around : Surroundings} {s t u : Resolver} {key other : String} {v w : Issued}

/-! ## Changes of the cache -/

/-- A resolver has at most dropped entries. -/
structure Fades (before after : Resolver) : Prop where
  /-- The settings stay. -/
  insecure : after.insecure = before.insecure
  /-- No context was issued. -/
  issued : after.issued = before.issued
  /-- What is held was held before. -/
  held : ∀ {key v}, after.cache.Holds key v → before.cache.Holds key v

/-- A resolver has at most dropped entries, and kept one context under one key. -/
structure Gains (before after : Resolver) (key : String) (v : Issued) : Prop where
  /-- The settings stay. -/
  insecure : after.insecure = before.insecure
  /-- What is held was held before, or is the new entry. -/
  held : ∀ {other w}, after.cache.Holds other w →
    before.cache.Holds other w ∨ other = key ∧ w = v

theorem Fades.refl (s : Resolver) : Fades s s :=
  ⟨rfl, rfl, id⟩

theorem Fades.trans (hst : Fades s t) (htu : Fades t u) : Fades s u :=
  ⟨htu.insecure.trans hst.insecure, htu.issued.trans hst.issued,
    fun hholds => hst.held (htu.held hholds)⟩

theorem Fades.gains (hst : Fades s t) (htu : Gains t u key v) : Gains s u key v := by
  refine ⟨htu.insecure.trans hst.insecure, ?_⟩
  intro other w hholds
  rcases htu.held hholds with hold | hnew
  · exact Or.inl (hst.held hold)
  · exact Or.inr hnew

theorem Fades.toGains (hst : Fades s t) (key : String) (v : Issued) : Gains s t key v :=
  ⟨hst.insecure, fun hholds => Or.inl (hst.held hholds)⟩

/-- Keeping a context gains its entry. -/
theorem gains_keep (around : Surroundings) (key : String) (v : Issued) (s : Resolver) :
    Gains s (keep around key v s).state key v :=
  ⟨rfl, fun hholds => Cache.holds_of_holds_insert hholds⟩

/-- An outcome settles the question for a context: it gives one, in a given way, or it gives
none and has only dropped entries. -/
inductive Settles (before : Resolver) (Given : Issued → Resolver → Prop) :
    Outcome Resolver (Option Issued) → Prop
  /-- There is a context. -/
  | given (v : Issued) (after : Resolver) (events : List Event) (hgiven : Given v after) :
      Settles before Given ⟨.ok (some v), after, events⟩
  /-- There is no context. -/
  | none (after : Resolver) (events : List Event) (hfades : Fades before after) :
      Settles before Given ⟨.ok none, after, events⟩
  /-- There was a failure. -/
  | error (e : Error) (after : Resolver) (events : List Event) (hfades : Fades before after) :
      Settles before Given ⟨.error e, after, events⟩

namespace Settles

variable {Given Other : Issued → Resolver → Prop} {outcome : Outcome Resolver (Option Issued)}

/-- Events before the outcome do not matter. -/
theorem prepend (hsettles : Settles s Given outcome) (events : List Event) :
    Settles s Given ⟨outcome.result, outcome.state, events ++ outcome.events⟩ := by
  cases hsettles with
  | given v after _ hgiven => exact .given v after _ hgiven
  | none after _ hfades => exact .none after _ hfades
  | error e after _ hfades => exact .error e after _ hfades

/-- Entries may be dropped before the outcome. -/
theorem of_fades (hfades : Fades s t) (hsettles : Settles t Given outcome)
    (hgiven : ∀ v after, Given v after → Other v after) : Settles s Other outcome := by
  cases hsettles with
  | given v after _ hv => exact .given v after _ (hgiven v after hv)
  | none after _ hrest => exact .none after _ (hfades.trans hrest)
  | error e after _ hrest => exact .error e after _ (hfades.trans hrest)

/-- A first part with a known outcome, which only drops entries, is left behind. -/
theorem bind {α : Type} {first : Action Resolver α} {next : α → Action Resolver (Option Issued)}
    {result : Except Error α} {events : List Event} (hfirst : first t = ⟨result, u, events⟩)
    (hfades : Fades s u) (hnext : ∀ a, result = .ok a → Settles s Given (next a u)) :
    Settles s Given ((first >>= next) t) := by
  cases result with
  | error e =>
    rw [Action.bind_eq_of_error hfirst]
    exact .error e u _ hfades
  | ok a =>
    rw [Action.bind_eq_of_ok hfirst]
    exact (hnext a rfl).prepend events

/-- A first part that only asks is left behind with its answer. -/
theorem bind_of_asks {α : Type} {first : Action Resolver α}
    {next : α → Action Resolver (Option Issued)} {Answer : α → Prop} (hasks : first.Asks Answer)
    (hfades : Fades s t) (hnext : ∀ a, Answer a → Settles s Given (next a t)) :
    Settles s Given ((first >>= next) t) := by
  obtain ⟨result, events, hfirst, hanswer⟩ := hasks t
  exact bind hfirst hfades fun a ha => hnext a (hanswer a ha)

/-- A first part that settles the question for one context leads to what comes after it. -/
theorem bind_settles {first : Action Resolver (Option Issued)}
    {next : Option Issued → Action Resolver (Option Issued)}
    (hfirst : Settles s Given (first t))
    (hnone : ∀ u, Fades s u → Settles s Other (next Option.none u))
    (hgiven : ∀ v u, Given v u → Settles s Other (next (some v) u)) :
    Settles s Other ((first >>= next) t) := by
  generalize houtcome : first t = outcome at hfirst
  cases hfirst with
  | given v u events hv =>
    rw [Action.bind_eq_of_ok houtcome]
    exact (hgiven v u hv).prepend events
  | none u events hfades =>
    rw [Action.bind_eq_of_ok houtcome]
    exact (hnone u hfades).prepend events
  | error e u events hfades =>
    rw [Action.bind_eq_of_error houtcome]
    exact .error e u events hfades

/-- A context was given in the given way. -/
theorem of_ok_some (hsettles : Settles s Given outcome) (hok : outcome.result = .ok (some v)) :
    Given v outcome.state := by
  cases hsettles with
  | given w after events hgiven =>
    cases hok
    exact hgiven
  | none => cases hok
  | error => cases hok

/-- A first part that gives a context or fails leads to what comes after it. -/
theorem bind_some {first : Action Resolver Issued}
    {next : Issued → Action Resolver (Option Issued)}
    (hfirst : Settles s Given ((first >>= fun v => return some v) t))
    (hgiven : ∀ v u, Given v u → Settles s Other (next v u)) :
    Settles s Other ((first >>= next) t) := by
  rcases houtcome : first t with ⟨result, u, events⟩
  cases result with
  | error e =>
    rw [Action.bind_eq_of_error houtcome] at hfirst ⊢
    cases hfirst with
    | error _ _ _ hfades => exact .error e u events hfades
  | ok v =>
    rw [Action.bind_eq_of_ok houtcome] at hfirst ⊢
    exact (hgiven v u (hfirst.of_ok_some rfl)).prepend events

/-- What is held in the end was held before, or comes with the context that is given. -/
theorem held_or {Adds : String → Issued → Prop} (hsettles : Settles s Given outcome)
    (hgiven : ∀ v after, Given v after → after.cache.Holds key w →
      s.cache.Holds key w ∨ Adds key w) (hholds : outcome.state.cache.Holds key w) :
    s.cache.Holds key w ∨ Adds key w := by
  cases hsettles with
  | given v after _ hv => exact hgiven v after hv hholds
  | none _ _ hfades => exact Or.inl (hfades.held hholds)
  | error _ _ _ hfades => exact Or.inl (hfades.held hholds)

end Settles

/-! ## Lookups -/

/-- A lookup finds what was held, and only drops entries. -/
theorem exists_lookup (around : Surroundings) (key : String) (s : Resolver) :
    ∃ found t, lookup around key s = ⟨.ok found, t, []⟩ ∧ Fades s t ∧
      ∀ v, found = some v → s.cache.Holds key v := by
  refine ⟨_, _, rfl, ⟨rfl, rfl, fun hholds => Cache.holds_of_holds_get hholds⟩, ?_⟩
  intro v hfound
  exact Cache.holds_of_get hfound

/-- A lookup of a kind finds what was held and is of that kind, and only drops entries. -/
theorem exists_lookupKind (around : Surroundings) (key : String) (kind : Server.ContextKind)
    (s : Resolver) :
    ∃ found t, lookupKind around key kind s = ⟨.ok found, t, []⟩ ∧ Fades s t ∧
      ∀ v, found = some v → s.cache.Holds key v ∧ v.context.kind = kind := by
  obtain ⟨found, t, hlookup, hfades, hheld⟩ := exists_lookup around key s
  refine ⟨found.filter fun issued => decide (issued.context.kind = kind), t, ?_, hfades, ?_⟩
  · rw [lookupKind, Action.bind_eq_of_ok hlookup]
    rfl
  · intro v hfound
    obtain ⟨hsome, hkind⟩ := Option.filter_eq_some_iff.mp hfound
    exact ⟨hheld v hsome, of_decide_eq_true hkind⟩

/-- Keeping a new context under the name of its server gains at most its entry. -/
theorem exists_keepNew (around : Surroundings) (serverId : String) (v : Issued)
    (s : Resolver) :
    ∃ t, keepNew around serverId v s = ⟨.ok (), t, []⟩ ∧ Gains s t serverId v := by
  obtain ⟨found, t, hlookup, hfades, -⟩ := exists_lookup around serverId s
  rw [keepNew, Action.bind_eq_of_ok hlookup]
  cases found with
  | none => exact ⟨_, rfl, hfades.gains (gains_keep around serverId v t)⟩
  | some existing =>
    dsimp only
    split
    · exact ⟨_, rfl, hfades.gains (gains_keep around serverId v t)⟩
    · exact ⟨t, rfl, hfades.toGains serverId v⟩

/-! ## Construction -/

/-- Where the fields of a new context come from. -/
theorem eq_of_assemble_ok {insecure : Bool} {config : ServerConfig} {material username : String}
    {kind : Server.ContextKind} {context : Server.Context}
    (hassemble : assemble insecure config material username kind = .ok context) :
    Key.Rsa.ofMaterial material = .ok context.key ∧
      context.username = Text.trim username ∧
      Text.isBlank config.serverId = false ∧
      context.serverId = Text.trim config.serverId ∧ context.kind = kind := by
  unfold assemble at hassemble
  cases hkey : Key.Rsa.ofMaterial material with
  | error e =>
    rw [hkey] at hassemble
    cases hassemble
  | ok key =>
    rw [hkey] at hassemble
    dsimp only at hassemble
    obtain ⟨same, hsame, hassemble⟩ := exists_of_bind_ok hassemble
    obtain ⟨version, -, hbuild⟩ := exists_of_bind_ok hassemble
    obtain ⟨hfilled, hserver, hname, hown, hkind⟩ := Server.Context.Draft.eq_of_build_ok hbuild
    rw [Except.ok.inj hsame, Option.some.inj hown]
    exact ⟨rfl, hname, hfilled, hserver, hkind⟩

/-- What a new context needs: a key that can be read, a version that is known, and an
organization if the version needs one. -/
theorem flawless_of_assemble_ok {insecure : Bool} {config : ServerConfig}
    {material username : String} {kind : Server.ContextKind} {context : Server.Context}
    (hassemble : assemble insecure config material username kind = .ok context) :
    Key.Rsa.ofMaterial material = .ok context.key ∧
      ∃ version, Server.Version.ofTagOrDefault config.version = .ok version ∧
        (version.hasOrganizations = true → Text.isBlank config.organization = false) := by
  have hkey := (eq_of_assemble_ok hassemble).1
  refine ⟨hkey, ?_⟩
  unfold assemble at hassemble
  rw [hkey] at hassemble
  dsimp only at hassemble
  obtain ⟨key, -, hassemble⟩ := exists_of_bind_ok hassemble
  obtain ⟨version, hversion, hbuild⟩ := exists_of_bind_ok hassemble
  have horganization := Server.Context.Draft.organization_of_build_ok hbuild
  exact ⟨version, hversion, horganization⟩

/-- Where a context under a key comes from: it was held, or it was issued in a given way and
kept. -/
inductive Supplies (before after : Resolver) (key : String) (kind : Server.ContextKind)
    (v : Issued) (Built : Prop) : Prop
  /-- The context was held. -/
  | kept (hheld : before.cache.Holds key v) (hkind : v.context.kind = kind)
      (hfades : Fades before after)
  /-- The context was issued. -/
  | built (hbuilt : Built) (hgains : Gains before after key v)

/-- What is held in the end was held before, or is the context that was issued. -/
theorem Supplies.held_or {kind : Server.ContextKind} {Built : Prop}
    (hsupplies : Supplies s t key kind v Built) (hholds : t.cache.Holds other w) :
    s.cache.Holds other w ∨ Built ∧ other = key ∧ w = v := by
  cases hsupplies with
  | kept _ _ hfades => exact Or.inl (hfades.held hholds)
  | built hbuilt hgains =>
    rcases hgains.held hholds with hold | hnew
    · exact Or.inl hold
    · exact Or.inr ⟨hbuilt, hnew⟩

/-- Entries may be dropped before a context is supplied. -/
theorem Supplies.of_fades {kind : Server.ContextKind} {Built Other : Prop} (hfades : Fades s t)
    (hsupplies : Supplies t u key kind v Built) (hbuilt : Built → Other) :
    Supplies s u key kind v Other := by
  cases hsupplies with
  | kept hheld hkind hrest => exact .kept (hfades.held hheld) hkind (hfades.trans hrest)
  | built hway hgains => exact .built (hbuilt hway) (hfades.gains hgains)

/-- A construction finds its context, or assembles it from its key material and issues it. -/
theorem construct_settles (around : Surroundings) (config : ServerConfig)
    (material : Option String) (username : String) (kind : Server.ContextKind) (s : Resolver) :
    Settles s (fun v after => Supplies s after config.serverId kind v
        (∃ text, material = some text ∧ v.serial = s.issued ∧
          assemble s.insecure config text username kind = .ok v.context))
      (construct around config material username kind s) := by
  obtain ⟨found, t, hlookup, hfades, hheld⟩ := exists_lookupKind around config.serverId kind s
  rw [construct]
  refine Settles.bind hlookup hfades ?_
  rintro _ ⟨⟩
  cases found with
  | some v =>
    obtain ⟨hholds, hkind⟩ := hheld v rfl
    exact .given v t _ (.kept hholds hkind hfades)
  | none =>
    dsimp only
    split
    case isTrue => exact .none t _ hfades
    split
    case isTrue => exact .none t _ hfades
    cases hmaterial : material.filter fun text => !Text.isBlank text with
    | none => exact .none t _ hfades
    | some text =>
      obtain ⟨htext, -⟩ := Option.filter_eq_some_iff.mp hmaterial
      dsimp only
      rw [Action.read_bind]
      cases hassemble : assemble t.insecure config text username kind with
      | error e =>
        rw [Action.ofExcept_error_bind]
        exact .error e t _ hfades
      | ok context =>
        rw [Action.ofExcept_ok_bind]
        have hissue : issue context t =
            ⟨.ok ⟨t.issued, context⟩, { t with issued := t.issued + 1 }, []⟩ := rfl
        obtain ⟨u, hkeep, hgains⟩ := exists_keepNew around config.serverId ⟨t.issued, context⟩
          { t with issued := t.issued + 1 }
        rw [Action.bind_eq_of_ok hissue, Action.bind_eq_of_ok hkeep]
        refine .given ⟨t.issued, context⟩ u _ (.built ⟨text, htext, hfades.issued, ?_⟩ ?_)
        · rw [← hfades.insecure]
          exact hassemble
        · refine ⟨hgains.insecure.trans hfades.insecure, ?_⟩
          intro other w hholds
          rcases hgains.held hholds with hold | hnew
          · exact Or.inl (hfades.held hold)
          · exact Or.inr hnew

end Resolver
end ChefAccess
