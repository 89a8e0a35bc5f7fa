import ChefAccess.Proofs.Resolver.Kinds
import ChefAccess.Proofs.Resolver.Repeat

/-!
# Resolutions that fail

A resolution looks up some keys, asks some questions, and keeps a context once it has one.  A
resolution that ends without a context has therefore kept nothing, wherever it ended.  The most
that it leaves behind is that entries are gone which had expired anyway, so nothing that it came
across on its way is served later.

Main definitions:

- {lit}`Resolver.Wanes`: a resolver has at most dropped entries that had expired.
- {lit}`Resolver.Careful`: an action leaves a resolver that has waned, unless it gives a value
  of a given kind.

Main results:

- Theorem {lit}`Resolver.Careful.bind`: two careful actions in turn.
- Theorem {lit}`Resolver.Turn.wanes_of_failed`: what a call without a context does.
- Theorem {lit}`Resolver.held_or_issued_after`: what is held after a run was held before it, or
  was issued in it.
- Theorem {lit}`Resolver.failure_leaves_no_trace`: a resolution that fails leaves no trace.
-/

namespace ChefAccess
namespace Resolver

variable {α β : Type} {around : Surroundings} {s t u : Resolver} {key : String} {v w : Issued}

/-! ## Resolvers that wane -/

/-- A resolver has at most dropped entries, and what is found at the time is the same as
before. -/
structure Wanes (around : Surroundings) (before after : Resolver) : Prop where
  fades : Fades before after
  found : ∀ key, after.found around key = before.found around key

theorem Wanes.refl (around : Surroundings) (s : Resolver) : Wanes around s s :=
  ⟨Fades.refl s, fun _ => rfl⟩

theorem Wanes.trans (hst : Wanes around s t) (htu : Wanes around t u) : Wanes around s u :=
  ⟨hst.fades.trans htu.fades, fun key => (htu.found key).trans (hst.found key)⟩

/-- An entry that is gone had expired. -/
theorem Wanes.isExpired {capacity : Nat} {ttl : Duration} (hwanes : Wanes around s t)
    (hregular : s.Regular capacity ttl) {entry : Cache.Entry Issued}
    (hentry : entry ∈ s.cache.entries) (hgone : ¬ ∃ v, t.cache.Holds entry.key v) :
    s.cache.isExpired around.now entry = true := by
  by_contra hlive
  have hfound : s.found around entry.key = some entry.value :=
    (hregular.get_eq_some_iff hentry rfl).mpr ⟨by simpa using hlive, rfl⟩
  rw [← hwanes.found] at hfound
  exact hgone ⟨entry.value, Cache.holds_of_get hfound⟩

/-- A key that is still there has the same context. -/
theorem Wanes.eq_of_holds {capacity : Nat} {ttl : Duration} (hwanes : Wanes around s t)
    (hregular : s.Regular capacity ttl) (hbefore : s.cache.Holds key v)
    (hafter : t.cache.Holds key w) : v = w := by
  obtain ⟨first, hfirst, hkey, rfl⟩ := hbefore
  obtain ⟨second, hsecond, hsame, rfl⟩ := hwanes.fades.held hafter
  exact congrArg _ (hregular.eq_of_key_eq hfirst hsecond (hkey.trans hsame.symm))

/-! ## Careful actions -/

/-- An action leaves a resolver that has waned, unless it gives a value of a given kind. -/
def Careful (around : Surroundings) (Given : α → Prop) (action : Action Resolver α) : Prop :=
  ∀ s, Wanes around s (action s).state ∨ ∃ a, (action s).result = .ok a ∧ Given a

namespace Careful

variable {Given : α → Prop} {Last : β → Prop} {action : Action Resolver α}
  {next : α → Action Resolver β}

/-- An action that leaves the resolver alone is careful. -/
theorem of_idle (hidle : ∀ s, (action s).state = s) : Careful around Given action := by
  intro s
  rw [hidle]
  exact Or.inl (.refl around s)

theorem pure (a : α) : Careful around Given (Pure.pure a) :=
  of_idle fun _ => rfl

theorem fail (e : Error) : Careful around Given (Action.fail e) :=
  of_idle fun _ => rfl

/-- An action that always gives a value of the kind is careful. -/
theorem of_gives (hgives : ∀ s, ∃ a, (action s).result = .ok a ∧ Given a) :
    Careful around Given action :=
  fun s => Or.inr (hgives s)

/-- Two actions in turn are careful if both are, and if nothing can go wrong in the second one
once the first one has given its value. -/
theorem bind (hfirst : Careful around Given action) (hnext : ∀ a, Careful around Last (next a))
    (hgiven : ∀ a, Given a → ∀ s, ∃ b, (next a s).result = .ok b ∧ Last b) :
    Careful around Last (action >>= next) := by
  intro s
  have hends := hfirst s
  rcases houtcome : action s with ⟨result, t, events⟩
  rw [houtcome] at hends
  cases result with
  | error e =>
    rw [Action.bind_eq_of_error houtcome]
    rcases hends with hwanes | ⟨a, hok, -⟩
    · exact Or.inl hwanes
    · cases hok
  | ok a =>
    rw [Action.bind_eq_of_ok houtcome]
    rcases hends with hwanes | ⟨a', hok, ha⟩
    · exact (hnext a t).imp_left hwanes.trans
    · obtain rfl := Except.ok.inj hok
      exact Or.inr (hgiven a ha t)

/-- A first part that is careful whatever it gives is left behind. -/
theorem bind_of_never (hfirst : Careful around (fun _ => False) action)
    (hnext : ∀ a, Careful around Last (next a)) : Careful around Last (action >>= next) :=
  hfirst.bind hnext fun _ hfalse => hfalse.elim

/-- A question before a careful action is left behind with its answer. -/
theorem bind_of_asks {Answer : α → Prop} (hasks : action.Asks Answer)
    (hnext : ∀ a, Answer a → Careful around Last (next a)) :
    Careful around Last (action >>= next) := by
  intro s
  obtain ⟨result, events, houtcome, hanswer⟩ := hasks s
  cases result with
  | error e =>
    rw [Action.bind_eq_of_error houtcome]
    exact Or.inl (.refl around s)
  | ok a =>
    rw [Action.bind_eq_of_ok houtcome]
    exact hnext a (hanswer a rfl) s

end Careful

/-- A resolution gives a context. -/
def Found (result : Option Issued) : Prop :=
  ∃ v, result = some v

/-- A warning gives no context. -/
theorem warnNone_careful (around : Surroundings) (text : String) :
    Careful around Found (warnNone text) :=
  .of_idle fun _ => rfl

theorem lookup_careful (around : Surroundings) (key : String) :
    Careful around (fun _ => False) (lookup around key) := by
  intro s
  refine Or.inl ⟨⟨rfl, rfl, Cache.holds_of_holds_get⟩, fun other => ?_⟩
  by_cases hother : other = key
  · subst hother
    exact congrArg Prod.fst (s.cache.get_get around.now other)
  · exact s.cache.get_get_of_ne around.now around.now hother

theorem lookupKind_careful (around : Surroundings) (key : String) (kind : Server.ContextKind) :
    Careful around (fun _ => False) (lookupKind around key kind) :=
  (lookup_careful around key).bind_of_never fun _ => .pure _

/-- A new context is kept without any failure. -/
theorem keepNew_succeeds (around : Surroundings) (serverId : String) (v : Issued)
    (s : Resolver) : (keepNew around serverId v s).result = .ok () := by
  obtain ⟨t, hkeep, -⟩ := exists_keepNew around serverId v s
  rw [hkeep]

theorem construct_careful (around : Surroundings) (config : ServerConfig)
    (material : Option String) (username : String) (kind : Server.ContextKind) :
    Careful around Found (construct around config material username kind) := by
  refine (lookupKind_careful around config.serverId kind).bind_of_never fun found => ?_
  cases found with
  | some v => exact .pure _
  | none =>
    dsimp only
    split
    · exact warnNone_careful around _
    split
    · exact warnNone_careful around _
    cases material.filter fun text => !Text.isBlank text with
    | none => exact warnNone_careful around _
    | some text =>
      refine .bind_of_asks .read fun resolver _ => ?_
      refine .bind_of_asks (.ofExcept _) fun context _ => .of_gives fun s => ?_
      -- from here on nothing can fail
      have hissue : issue context s =
          ⟨.ok ⟨s.issued, context⟩, { s with issued := s.issued + 1 }, []⟩ := rfl
      rw [Action.bind_eq_of_ok hissue, Action.bind_ok (keepNew_succeeds _ _ _ _)]
      exact ⟨_, rfl, _, rfl⟩

theorem resolve_careful (around : Surroundings) (config : ServerConfig) :
    Careful around Found (resolve around config) := by
  refine (lookupKind_careful around config.serverId .zone).bind_of_never fun found => ?_
  cases found with
  | some v => exact .pure _
  | none =>
    exact .bind_of_asks (secretMaterial_asks around config) fun material _ =>
      construct_careful around config material config.username .zone

theorem constructProject_careful (around : Surroundings) (tenancy : Tenancy)
    (mapping : TenantConfig) (server : ServerConfig) :
    Careful around Found (constructProject around tenancy mapping server) := by
  refine .bind_of_asks (fileMaterial_asks around mapping) fun material _ => ?_
  refine (construct_careful around server material _ .project).bind ?_ ?_
  · intro resolved
    cases resolved with
    | none => exact .pure _
    | some v => exact .of_gives fun s => ⟨_, rfl, v, rfl⟩
  · rintro _ ⟨v, rfl⟩ s
    exact ⟨_, rfl, v, rfl⟩

theorem resolveProject_careful (around : Surroundings) (tenancy : Tenancy) :
    Careful around Found (resolveProject around tenancy) := by
  refine (lookupKind_careful around (tenancyKey tenancy) .project).bind_of_never fun found => ?_
  cases found with
  | some v => exact .pure _
  | none =>
    refine .bind_of_asks (Sources.ask_asks _ _) fun answer htenant => ?_
    cases answer with
    | none => exact warnNone_careful around _
    | some mapping =>
      refine .bind_of_asks (projectServer_asks htenant) fun chosen _ => ?_
      cases chosen with
      | none => exact .pure _
      | some server => exact constructProject_careful around tenancy mapping server

theorem resolveRegion_careful (around : Surroundings) (region : String) :
    Careful around (fun _ => True) (resolveRegion around region) := by
  refine .bind_of_asks (Sources.ask_asks _ _) fun answer _ => ?_
  cases answer with
  | none => exact .fail _
  | some config =>
    refine (resolve_careful around config).bind ?_ ?_
    · intro resolved
      cases resolved with
      | none => exact .fail _
      | some v => exact .pure v
    · rintro _ ⟨v, rfl⟩ s
      exact ⟨v, rfl, trivial⟩

theorem resolveFor_careful (around : Surroundings) (tenancy : Tenancy) :
    Careful around (fun _ => True) (resolveFor around tenancy) := by
  refine (lookup_careful around (tenancyKey tenancy)).bind_of_never fun found => ?_
  cases found with
  | some v => exact .pure v
  | none =>
    refine (resolveProject_careful around tenancy).bind ?_ ?_
    · intro resolved
      cases resolved with
      | some v => exact .pure v
      | none =>
        refine (resolveRegion_careful around tenancy.region).bind ?_ ?_
        · exact fun v => .of_gives fun s => ⟨v, rfl, trivial⟩
        · exact fun v _ s => ⟨v, rfl, trivial⟩
    · rintro _ ⟨v, rfl⟩ s
      exact ⟨v, rfl, trivial⟩

/-- Every call but the one to forget is careful. -/
theorem Turn.action_careful {turn : Turn} (hkeeps : turn.call ≠ .forget) :
    Careful turn.around Found turn.action := by
  rcases turn with ⟨around, call⟩
  cases call with
  | resolve config => exact resolve_careful around config
  | resolveProject tenancy => exact resolveProject_careful around tenancy
  | resolveFor tenancy =>
    refine (resolveFor_careful around tenancy).bind ?_ ?_
    · exact fun v => .pure _
    · exact fun v _ s => ⟨_, rfl, v, rfl⟩
  | known serverId =>
    intro s
    rcases lookup_careful around serverId s with hwanes | ⟨_, _, hfalse⟩
    · exact Or.inl hwanes
    · exact hfalse.elim
  | forget => exact absurd rfl hkeeps

/-- A call that ends without a context leaves a resolver that has waned. -/
theorem Turn.wanes_of_failed {turn : Turn} (hkeeps : turn.call ≠ .forget)
    (hfailed : ∀ v, (turn.action s).result ≠ .ok (some v)) :
    Wanes turn.around s (turn.action s).state := by
  rcases Turn.action_careful hkeeps s with hwanes | ⟨_, hok, v, rfl⟩
  · exact hwanes
  · exact absurd hok (hfailed v)

/-! ## What is served later -/

/-- A context that a turn adds to the cache was held before it, or is issued by it. -/
theorem Turn.Adds.held_or_issues {turn : Turn} (hadds : turn.Adds s key v) :
    (∃ other, s.cache.Holds other v) ∨ ∃ config, turn.Issues config v s := by
  cases hadds with
  | issued config _ hissues => exact Or.inr ⟨config, hissues⟩
  | obtained tenancy _ _ hobtains =>
    cases hobtains with
    | held mapping server _ hheld => exact Or.inl ⟨server.serverId, hheld⟩
    | issued mapping server hissues => exact Or.inr ⟨server, .project tenancy mapping hissues⟩
    | sharedHeld config _ hheld => exact Or.inl ⟨config.serverId, hheld⟩
    | sharedIssued config hreads hbuilds => exact Or.inr ⟨config, .zone hreads hbuilds⟩

/-- What is held after a run was held before it, or was issued in it. -/
theorem held_or_issued_after {turns : List Turn} (hholds : (after s turns).cache.Holds key v) :
    (∃ other, s.cache.Holds other v) ∨ ∃ config, Lately s turns (Turn.Issues config v) := by
  induction turns using List.reverseRecOn generalizing key with
  | nil => exact Or.inl ⟨key, hholds⟩
  | append_singleton turns last ih =>
    rw [after_concat] at hholds
    have hkeeps : last.call ≠ .forget := Turn.call_ne_forget hholds
    have hold : ∀ {key}, (after s turns).cache.Holds key v →
        (∃ other, s.cache.Holds other v) ∨
          ∃ config, Lately s (turns ++ [last]) (Turn.Issues config v) := by
      intro key hbefore
      exact (ih hbefore).imp_right fun ⟨config, hissued⟩ => ⟨config, hissued.concat hkeeps⟩
    rcases Turn.held_or_adds hholds with hbefore | hadds
    · exact hold hbefore
    · rcases hadds.held_or_issues with ⟨other, hbefore⟩ | ⟨config, hissues⟩
      · exact hold hbefore
      · exact Or.inr ⟨config, Lately.of_last hissues⟩

/-- What is given after a run was held before it, or was issued in it or just now. -/
theorem held_or_issued_of_gives {turns : List Turn} {last : Turn}
    (hgives : (last.action (after s turns)).result = .ok (some v)) :
    (∃ key, s.cache.Holds key v) ∨
      ∃ config, Lately s (turns ++ [last]) (Turn.Issues config v) := by
  rcases Turn.held_or_issues hgives with ⟨key, hholds⟩ | ⟨config, hissues⟩
  · have hkeeps := Turn.call_ne_forget_of_gives hgives
    exact (held_or_issued_after hholds).imp_right
      fun ⟨config, hissued⟩ => ⟨config, hissued.concat hkeeps⟩
  · exact Or.inr ⟨config, Lately.of_last hissues⟩

/-! ## No trace -/

/-- A resolution that fails, or ends without a context, leaves no trace, from whatever state of
the resolver and wherever it ends.  No key is new, and no key has another context than before.
The entries that are gone had expired.  And whatever a later call gives was held before the
failure, or is issued after it. -/
theorem failure_leaves_no_trace (settings : Settings) (turns : List Turn) (turn : Turn)
    (hkeeps : turn.call ≠ .forget)
    (hfailed : ∀ v, (turn.action (after (ofSettings settings) turns)).result ≠ .ok (some v)) :
    let start := after (ofSettings settings) turns
    let final := (turn.action start).state
    (∀ key v, final.cache.Holds key v → start.cache.Holds key v) ∧
      (∀ key v w, start.cache.Holds key v → final.cache.Holds key w → v = w) ∧
      (∀ entry ∈ start.cache.entries, (¬ ∃ v, final.cache.Holds entry.key v) →
        start.cache.isExpired turn.around.now entry = true) ∧
      ∀ later last v, (Turn.action last (after final later)).result = .ok (some v) →
        (∃ key, start.cache.Holds key v) ∨
          ∃ config, Lately final (later ++ [last]) (Turn.Issues config v) := by
  intro start final
  have hregular : start.Regular settings.contextCapacity settings.contextTtl :=
    regular_after settings turns
  have hwanes : Wanes turn.around start final := Turn.wanes_of_failed hkeeps hfailed
  refine ⟨fun key v => hwanes.fades.held, fun key v w => hwanes.eq_of_holds hregular,
    fun entry => hwanes.isExpired hregular, ?_⟩
  intro later last v hgives
  rcases held_or_issued_of_gives hgives with ⟨key, hholds⟩ | hissued
  · exact Or.inl ⟨key, hwanes.fades.held hholds⟩
  · exact Or.inr hissued

/-- The owner of the server of the small world was served. -/
def ownerServed : Resolver :=
  after (ofSettings .default) [⟨smallWorld "chef-1" acme "alice", .resolveFor acme⟩]

/-- The owner comes back after three hours, when all configurations are gone. -/
def ownerLate : Turn :=
  ⟨emptyWorld (.ofSecs 10800), .resolveFor acme⟩

/-- A tenant whose context has expired and whose configuration is gone loses its entry.  The
server keeps its own one, which nobody looked at. -/
theorem failure_leaves_no_trace_expired :
    ownerLate.call ≠ .forget ∧ (∀ v, (ownerLate.action ownerServed).result ≠ .ok (some v)) ∧
      (ownerLate.action ownerServed).state.cache.entries.map (·.key) = ["chef-1"] ∧
      ∃ entry ∈ ownerServed.cache.entries, entry.key = tenancyKey acme ∧
        ownerServed.cache.isExpired ownerLate.around.now entry = true := by
  have hkeeps : ownerLate.call ≠ .forget := by simp [ownerLate]
  obtain ⟨hresult, hheld, hleft⟩ : (ownerLate.action ownerServed).result.toOption.isNone = true ∧
      ownerServed.cache.entries.map (·.key) = [tenancyKey acme, "chef-1"] ∧
      (ownerLate.action ownerServed).state.cache.entries.map (·.key) = ["chef-1"] := by
    decide +kernel
  have hfailed : ∀ v, (ownerLate.action ownerServed).result ≠ .ok (some v) := by
    intro v hgives
    rw [hgives] at hresult
    cases hresult
  obtain ⟨-, -, hexpired, -⟩ := failure_leaves_no_trace .default _ ownerLate hkeeps hfailed
  rw [← ownerServed] at hexpired
  have hmem : tenancyKey acme ∈ ownerServed.cache.entries.map (·.key) := by
    rw [hheld]
    exact List.mem_cons_self
  obtain ⟨entry, hentry, hkey⟩ := List.mem_map.mp hmem
  refine ⟨hkeeps, hfailed, hleft, entry, hentry, hkey, hexpired entry hentry ?_⟩
  have hne : tenancyKey acme ≠ "chef-1" := by decide
  rintro ⟨v, kept, hkept, hsame, -⟩
  have hother : kept.key ∈ (ownerLate.action ownerServed).state.cache.entries.map (·.key) :=
    List.mem_map_of_mem hkept
  rw [hleft, hsame, hkey, List.mem_singleton] at hother
  exact hne hother

end Resolver
end ChefAccess
