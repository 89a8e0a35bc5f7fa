import ChefAccess.Proofs.Resolver.Isolation
import ChefAccess.Proofs.Resolver.Traffic

/-!
# Polling

Whoever asks for the context of a tenant again and again keeps it alive.  Each answer moves the
entry of the tenant to the head of the cache, so the entry is there at the next poll, unless the
poll comes too late, the contexts were forgotten, or the calls of others in between crowd it
out.  What the surroundings would answer by then does not matter, since nobody asks them.

Main definitions:

- {lit}`Resolver.Heads`: an entry stands at the head of the cache of a resolver.
- {lit}`Resolver.Round`: the calls of others, and a poll after them.
- {lit}`Resolver.Brisk`: rounds in which the polls follow each other quickly enough, and the
  calls of others leave the entry of the tenant alone.
- {lit}`Resolver.polls`: the outcomes of the polls of some rounds.

Main results:

- Theorem {lit}`Resolver.resolveFor_heads`: a resolution leaves its context at the head.
- Theorem {lit}`Resolver.Heads.ask`: a poll finds the context that stood at the head.
- Theorem {lit}`Resolver.polling_keeps_warm`: a resolution that is polled lasts.
-/

namespace ChefAccess
namespace Resolver

variable {around : Surroundings} {s : Resolver} {key : String} {tenancy : Tenancy} {v : Issued}
  {capacity : Nat} {ttl : Duration}

/-! ## The head of the cache -/

/-- An entry stands at the head of the regular cache of a resolver. -/
structure Heads (capacity : Nat) (ttl : Duration) (entry : Cache.Entry Issued)
    (resolver : Resolver) : Prop where
  regular : resolver.Regular capacity ttl
  front : Cache.Front ∅ entry resolver.cache

/-- What is found, if anything, stands at the head. -/
structure FoundHeads (capacity : Nat) (ttl : Duration) (around : Surroundings) (key : String)
    (found : Option Issued) (resolver : Resolver) : Prop where
  regular : resolver.Regular capacity ttl
  heads : ∀ v, found = some v → Heads capacity ttl ⟨key, v, around.now⟩ resolver

theorem foundHeads_none (hregular : s.Regular capacity ttl) :
    FoundHeads capacity ttl around key none s :=
  ⟨hregular, fun _ hsome => nomatch hsome⟩

theorem foundHeads_some (hheads : Heads capacity ttl ⟨key, v, around.now⟩ s) :
    FoundHeads capacity ttl around key (some v) s := by
  refine ⟨hheads.regular, ?_⟩
  rintro _ ⟨⟩
  exact hheads

/-- A lookup leaves at the head what it finds. -/
theorem lookup_heads (around : Surroundings) (key : String) :
    Action.Ensures (Regular capacity ttl) (lookup around key)
      (FoundHeads capacity ttl around key) := by
  intro s hregular found hfound
  have hafter := (lookup_traced around key).ensures s hregular found hfound
  refine ⟨hafter, ?_⟩
  rintro v rfl
  exact ⟨hafter, Cache.front_get (Except.ok.inj hfound)⟩

/-- A lookup of a kind leaves at the head what it finds. -/
theorem lookupKind_heads (around : Surroundings) (key : String) (kind : Server.ContextKind) :
    Action.Ensures (Regular capacity ttl) (lookupKind around key kind)
      (FoundHeads capacity ttl around key) := by
  refine (lookup_heads around key).bind fun found => .pure fun s hheads => ?_
  refine ⟨hheads.regular, fun v hfilter => ?_⟩
  exact hheads.heads v (Option.filter_eq_some_iff.mp hfilter).1

/-- A context that is kept stands at the head. -/
theorem keep_heads (around : Surroundings) (key : String) (v : Issued) :
    Action.Ensures (Regular capacity ttl) (keep around key v)
      fun _ => Heads capacity ttl ⟨key, v, around.now⟩ := by
  intro s hregular _ hkept
  refine ⟨(keep_traced around key v).ensures s hregular _ hkept,
    Cache.front_insert s.cache around.now key v ?_⟩
  rw [hregular.limited.capacity]
  exact Nat.lt_of_lt_of_le Nat.one_pos (Nat.le_max_left 1 capacity)

/-- After a warning there is no context, and the resolver is what it was. -/
theorem warnNone_ensures (text : String) {α : Type} {Before : Resolver → Prop}
    {After : Option α → Resolver → Prop} (hnone : ∀ s, Before s → After none s) :
    Action.Ensures Before (warnNone text) After := by
  intro s hs found hfound
  obtain rfl : none = found := Except.ok.inj hfound
  exact hnone s hs

/-- A construction for a tenant leaves its context at the head. -/
theorem constructProject_heads (around : Surroundings) (tenancy : Tenancy)
    (mapping : TenantConfig) (server : ServerConfig) :
    Action.Ensures (Regular capacity ttl) (constructProject around tenancy mapping server)
      (FoundHeads capacity ttl around (tenancyKey tenancy)) := by
  refine .bind_of_asks (fileMaterial_asks around mapping) fun material _ => ?_
  refine (construct_traced around server material _ .project).ensures.bind fun resolved => ?_
  cases resolved with
  | none => exact .pure fun s => foundHeads_none
  | some v =>
    exact (keep_heads around (tenancyKey tenancy) v).bind fun _ => .pure fun s => foundHeads_some

/-- A resolution of a tenant's own server leaves its context at the head. -/
theorem resolveProject_heads (around : Surroundings) (tenancy : Tenancy) :
    Action.Ensures (Regular capacity ttl) (resolveProject around tenancy)
      (FoundHeads capacity ttl around (tenancyKey tenancy)) := by
  refine (lookupKind_heads around (tenancyKey tenancy) .project).bind fun found => ?_
  cases found with
  | some v => exact .pure fun s => id
  | none =>
    refine .restrict ?_ fun s => FoundHeads.regular
    refine .bind_of_asks (Sources.ask_asks _ _) fun answer htenant => ?_
    cases answer with
    | none => exact warnNone_ensures _ fun s => foundHeads_none
    | some mapping =>
      refine .bind_of_asks (projectServer_asks htenant) fun chosen _ => ?_
      cases chosen with
      | none => exact .pure fun s => foundHeads_none
      | some server => exact constructProject_heads around tenancy mapping server

/-- A resolution for a tenant leaves its context at the head. -/
theorem resolveFor_heads (around : Surroundings) (tenancy : Tenancy) :
    Action.Ensures (Regular capacity ttl) (resolveFor around tenancy)
      fun v => Heads capacity ttl ⟨tenancyKey tenancy, v, around.now⟩ := by
  refine (lookup_heads around (tenancyKey tenancy)).bind fun found => ?_
  cases found with
  | some v => exact .pure fun s hfound => hfound.heads v rfl
  | none =>
    refine .restrict ?_ fun s => FoundHeads.regular
    refine (resolveProject_heads around tenancy).bind fun resolved => ?_
    cases resolved with
    | some v => exact .pure fun s hfound => hfound.heads v rfl
    | none =>
      refine .restrict ?_ fun s => FoundHeads.regular
      refine (resolveRegion_traced around tenancy.region).ensures.bind fun v => ?_
      exact (keep_heads around (tenancyKey tenancy) v).bind fun _ => .pure fun s => id

/-! ## Polls -/

/-- The calls of others, and the surroundings of a poll after them. -/
structure Round where
  others : List Turn
  around : Surroundings

/-- A poll for the context of a tenant, after the calls of others. -/
def Round.ask (tenancy : Tenancy) (start : Resolver) (round : Round) : Outcome Resolver Issued :=
  resolveFor round.around tenancy (after start round.others)

/-- The outcomes of the polls of some rounds. -/
def polls (tenancy : Tenancy) (start : Resolver) : List Round → List (Outcome Resolver Issued)
  | [] => []
  | round :: rounds =>
    let outcome := round.ask tenancy start
    outcome :: polls tenancy outcome.state rounds

/-- A round spares an entry that was used last at a given time.  The poll comes within the time
to live, nothing is forgotten, and the calls of others do not use the key of the entry, and
touch fewer other keys than there is room for. -/
structure Round.Spares (capacity : Nat) (ttl : Duration) (key : String) (last : Duration)
    (start : Resolver) (round : Round) : Prop where
  soon : round.around.now.nanoseconds - last.nanoseconds < ttl.nanoseconds
  keeps : ∀ turn ∈ round.others, turn.call ≠ .forget
  aside : ∃ traffic, Traffic start round.others traffic ∧
    (∀ turn ∈ traffic, turn.call.subject? ≠ some key) ∧
    (start.cache.touched traffic).toFinset.card < max 1 capacity

/-- Rounds are brisk for a tenant whose entry was used last at a given time: each of them spares
the entry, which is then used by its poll. -/
inductive Brisk (capacity : Nat) (ttl : Duration) (tenancy : Tenancy) :
    Duration → Resolver → List Round → Prop
  | nil (last : Duration) (s : Resolver) : Brisk capacity ttl tenancy last s []
  | cons {last : Duration} {s : Resolver} {round : Round} {rounds : List Round}
      (hspares : round.Spares capacity ttl (tenancyKey tenancy) last s)
      (hlater : Brisk capacity ttl tenancy round.around.now (round.ask tenancy s).state rounds) :
      Brisk capacity ttl tenancy last s (round :: rounds)

/-- A tenant whose entry is alive gets its context, and nobody is asked. -/
theorem resolveFor_of_live (hlive : (s.cache.get around.now (tenancyKey tenancy)).1 = some v) :
    ∃ t, resolveFor around tenancy s = ⟨.ok v, t, []⟩ := by
  obtain ⟨t, hlookup⟩ := lookup_of_live hlive
  refine ⟨t, ?_⟩
  rw [resolveFor, Action.bind_eq_of_ok hlookup]
  rfl

/-- A poll finds the context that stood at the head before the calls of others, asks nobody, and
leaves the context at the head again. -/
theorem Heads.ask {last : Duration} {round : Round}
    (hheads : Heads capacity ttl ⟨tenancyKey tenancy, v, last⟩ s)
    (hspares : round.Spares capacity ttl (tenancyKey tenancy) last s) :
    ∃ t, round.ask tenancy s = ⟨.ok v, t, []⟩ ∧
      Heads capacity ttl ⟨tenancyKey tenancy, v, round.around.now⟩ t := by
  obtain ⟨traffic, htraffic, hunused, hcrowd⟩ := hspares.aside
  have hlive : ((after s round.others).cache.get round.around.now (tenancyKey tenancy)).1 =
      some v := by
    rw [htraffic.cache_eq]
    exact hheads.front.get_after hheads.regular hunused
      (htraffic.not_drops hspares.keeps (tenancyKey tenancy)) hcrowd hspares.soon
  have hregular : (after s round.others).Regular capacity ttl := by
    rw [Regular, htraffic.cache_eq]
    exact hheads.regular.after traffic
  obtain ⟨t, hask⟩ := resolveFor_of_live hlive
  refine ⟨t, hask, ?_⟩
  have hagain := resolveFor_heads round.around tenancy _ hregular v (by rw [hask])
  rwa [hask] at hagain

/-- Polls in brisk rounds find the context that stands at the head, and ask nobody. -/
theorem Brisk.polls_eq {last : Duration} {rounds : List Round}
    (hbrisk : Brisk capacity ttl tenancy last s rounds)
    (hheads : Heads capacity ttl ⟨tenancyKey tenancy, v, last⟩ s) :
    ∀ outcome ∈ polls tenancy s rounds, outcome.result = .ok v ∧ outcome.events = [] := by
  induction hbrisk with
  | nil last s => exact fun _ houtcome => nomatch houtcome
  | cons hspares hlater ih =>
    obtain ⟨t, hask, hagain⟩ := hheads.ask hspares
    rw [polls, hask]
    rw [hask] at ih
    exact List.forall_mem_cons.mpr ⟨⟨rfl, rfl⟩, ih hagain⟩

/-- A resolution that is polled lasts.  Once a tenant has got a context, from whatever state of
the resolver, every poll in a chain of brisk rounds gives the very same context and asks nobody,
whatever the surroundings would answer by then. -/
theorem polling_keeps_warm (settings : Settings) (turns : List Turn) (around : Surroundings)
    (tenancy : Tenancy) (v : Issued) (rounds : List Round)
    (hresult : (resolveFor around tenancy (after (ofSettings settings) turns)).result = .ok v)
    (hbrisk : Brisk settings.contextCapacity settings.contextTtl tenancy around.now
      (resolveFor around tenancy (after (ofSettings settings) turns)).state rounds) :
    ∀ outcome ∈ polls tenancy
        (resolveFor around tenancy (after (ofSettings settings) turns)).state rounds,
      outcome.result = .ok v ∧ outcome.events = [] := by
  have hregular := regular_after settings turns
  exact hbrisk.polls_eq (resolveFor_heads around tenancy _ hregular v hresult)

/-- Surroundings in which nothing is configured. -/
def emptyWorld (now : Duration) : Surroundings where
  sources := .of .empty .empty []
  now

/-- A lookup of another key is no danger for an entry. -/
theorem spares_known {serverId : String} {last time now : Duration} (hne : serverId ≠ key)
    (hroom : 1 < max 1 capacity)
    (hsoon : now.nanoseconds - last.nanoseconds < ttl.nanoseconds) :
    Round.Spares capacity ttl key last s
      ⟨[⟨emptyWorld time, .known serverId⟩], emptyWorld now⟩ := by
  refine ⟨hsoon, by simp, [⟨time, .get serverId⟩], ?_, by simpa [Cache.Call.subject?], ?_⟩
  · have htakes : Takes (Turn.action ⟨emptyWorld time, .known serverId⟩) s
        [⟨time, .get serverId⟩] := .lookup (emptyWorld time) serverId s
    exact .cons (by simp) htakes (.nil _)
  · exact (Cache.card_touched_le _ _).trans_lt hroom

/-- A tenant that polls every hour keeps its context after all configurations are gone, while
another caller asks for the server by its name. -/
theorem polling_outlasts_configuration :
    ∃ v, (resolveFor (smallWorld "chef-1" acme "alice") acme
        (after (ofSettings .default) [])).result = .ok v ∧
      ∀ outcome ∈ polls acme
          (resolveFor (smallWorld "chef-1" acme "alice") acme
            (after (ofSettings .default) [])).state
          [⟨[⟨emptyWorld (.ofSecs 1800), .known "chef-1"⟩], emptyWorld (.ofSecs 3600)⟩,
            ⟨[⟨emptyWorld (.ofSecs 5400), .known "chef-1"⟩], emptyWorld (.ofSecs 7200)⟩,
            ⟨[⟨emptyWorld (.ofSecs 9000), .known "chef-1"⟩], emptyWorld (.ofSecs 10800)⟩],
        outcome.result = .ok v ∧ outcome.events = [] := by
  have hfound : (resolveFor (smallWorld "chef-1" acme "alice") acme
      (after (ofSettings .default) [])).result.map (·.context.username) = .ok "alice" := by
    decide +kernel
  cases hresult : (resolveFor (smallWorld "chef-1" acme "alice") acme
      (after (ofSettings .default) [])).result with
  | error e =>
    rw [hresult] at hfound
    cases hfound
  | ok v =>
    refine ⟨v, rfl, polling_keeps_warm .default [] _ acme v _ hresult ?_⟩
    have hne : "chef-1" ≠ tenancyKey acme := by decide
    exact .cons (spares_known hne (by decide) (by decide))
      (.cons (spares_known hne (by decide) (by decide))
        (.cons (spares_known hne (by decide) (by decide)) (.nil _ _)))

end Resolver
end ChefAccess
