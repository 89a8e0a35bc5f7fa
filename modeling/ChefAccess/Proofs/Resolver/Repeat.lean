import ChefAccess.Proofs.Resolver.Polling

/-!
# Resolutions that are repeated

There is one entry for the name of a server.  A server that is shared by a region and belongs
to a tenant as well has contexts of both kinds, and whichever came first stays under the name.
The other side gets a new context, which is not kept there.  So a resolution that is repeated at
once finds its own context exactly if the other side has no context under the name.

Main definitions:

- {lit}`Resolver.found`: what a lookup finds.
- {lit}`Resolver.rival`: the context of the other kind under the name of a server.
- {lit}`Resolver.Peeked`: a resolver has kept nothing, and dropped nothing that was alive.
- {lit}`Resolver.Constructed`: what a construction leaves behind.

Main results:

- Theorems {lit}`Resolver.construct_yields` and {lit}`Resolver.resolve_yields`: a construction
  leaves the rival of its context under the name of the server, or the context itself.
- Theorem {lit}`Resolver.resolve_again_iff`: when a resolution that is repeated gives the same
  context.
-/

namespace ChefAccess
namespace Resolver

variable {around later : Surroundings} {start s t : Resolver} {serverId key : String}
  {kind : Server.ContextKind} {v w : Issued} {capacity count : Nat} {ttl : Duration}

/-! ## Lookups -/

/-- What a lookup finds. -/
def found (around : Surroundings) (key : String) (resolver : Resolver) : Option Issued :=
  (resolver.cache.get around.now key).1

/-- The context of the other kind that is alive under the name of a server. -/
def rival (around : Surroundings) (serverId : String) (kind : Server.ContextKind)
    (resolver : Resolver) : Option Issued :=
  (resolver.found around serverId).filter fun issued => decide (issued.context.kind ≠ kind)

/-- A rival is alive, and of the other kind. -/
theorem rival_eq_some_iff :
    rival around serverId kind s = some w ↔
      s.found around serverId = some w ∧ w.context.kind ≠ kind := by
  rw [rival, Option.filter_eq_some_iff, decide_eq_true_iff]

/-- Nothing rivals a context that is found. -/
theorem rival_of_found (hfound : s.found around serverId = some v)
    (hkind : v.context.kind = kind) : rival around serverId kind s = none := by
  rw [rival, hfound, Option.filter_some, if_neg (by simp [hkind])]

/-- Of a context and its rival it is the context that stays, exactly if there is no rival. -/
theorem getD_rival_eq_iff (hkind : v.context.kind = kind) :
    (rival around serverId kind s).getD v = v ↔ rival around serverId kind s = none := by
  cases hrival : rival around serverId kind s with
  | none => simp
  | some w =>
    have hother := (rival_eq_some_iff.mp hrival).2
    simp only [Option.getD_some, reduceCtorEq, iff_false]
    rintro rfl
    exact hother hkind

/-- What stands at the head is found within its time. -/
theorem Heads.found {used : Duration} (hheads : Heads capacity ttl ⟨key, v, used⟩ s)
    (hsoon : later.now.nanoseconds - used.nanoseconds < ttl.nanoseconds) :
    s.found later key = some v :=
  hheads.front.get hheads.regular hsoon

/-! ## Resolvers that were looked at -/

/-- A resolver has kept nothing since an earlier state, and dropped nothing that was alive, but
may have issued some contexts. -/
structure Peeked (capacity : Nat) (ttl : Duration) (around : Surroundings) (before : Resolver)
    (count : Nat) (after : Resolver) : Prop where
  regular : after.Regular capacity ttl
  issued : after.issued = before.issued + count
  found : ∀ key, after.found around key = before.found around key

theorem Peeked.refl (hregular : s.Regular capacity ttl) (around : Surroundings) :
    Peeked capacity ttl around s 0 s :=
  ⟨hregular, rfl, fun _ => rfl⟩

/-- What is found does not change by being looked for. -/
theorem lookup_peeked (around : Surroundings) (key : String) :
    Action.Ensures (Peeked capacity ttl around start count) (lookup around key)
      fun result after => result = start.found around key ∧
        Peeked capacity ttl around start count after ∧
        FoundHeads capacity ttl around key result after := by
  intro s hpeeked result hresult
  have hheads := lookup_heads around key s hpeeked.regular result hresult
  refine ⟨?_, ⟨hheads.regular, hpeeked.issued, fun other => ?_⟩, hheads⟩
  · rw [← hpeeked.found key]
    exact (Except.ok.inj hresult).symm
  · rw [← hpeeked.found other]
    by_cases hother : other = key
    · subst hother
      exact congrArg Prod.fst (s.cache.get_get around.now other)
    · exact s.cache.get_get_of_ne around.now around.now hother

/-- The result of a resolution: without a context nothing was kept, and a context is given in a
given way. -/
structure Yields (capacity : Nat) (ttl : Duration) (around : Surroundings) (before : Resolver)
    (Given : Issued → Resolver → Prop) (result : Option Issued) (after : Resolver) : Prop where
  vacant : result = none → Peeked capacity ttl around before 0 after
  given : ∀ v, result = some v → Given v after

theorem yields_none {Given : Issued → Resolver → Prop}
    (hpeeked : Peeked capacity ttl around start 0 s) :
    Yields capacity ttl around start Given none s :=
  ⟨fun _ => hpeeked, fun _ hsome => nomatch hsome⟩

theorem yields_some {Given : Issued → Resolver → Prop} (hgiven : Given v s) :
    Yields capacity ttl around start Given (some v) s := by
  constructor
  case vacant => exact fun hnone => nomatch hnone
  case given =>
    rintro _ ⟨⟩
    exact hgiven

/-! ## Constructions -/

/-- What a construction of a context leaves behind.  Under the name of the server stays its
rival, if there is one, and the context itself if there is none.  A context that has a rival is
a new one. -/
structure Constructed (capacity : Nat) (ttl : Duration) (around : Surroundings)
    (before : Resolver) (serverId : String) (kind : Server.ContextKind) (v : Issued)
    (after : Resolver) : Prop where
  of_kind : v.context.kind = kind
  heads : Heads capacity ttl ⟨serverId, (rival around serverId kind before).getD v, around.now⟩
    after
  anew : ∀ w, rival around serverId kind before = some w →
    v.serial = before.issued ∧ after.issued = before.issued + 1

/-- A lookup of a kind yields the context of that kind. -/
theorem lookupKind_yields (around : Surroundings) (serverId : String)
    (kind : Server.ContextKind) :
    Action.Ensures (Peeked capacity ttl around start 0) (lookupKind around serverId kind)
      fun result after =>
        (result = none → ∀ v, start.found around serverId = some v → v.context.kind ≠ kind) ∧
          Yields capacity ttl around start
            (Constructed capacity ttl around start serverId kind) result after := by
  refine (lookup_peeked around serverId).bind fun result => .pure ?_
  rintro s ⟨hfound, hpeeked, hheads⟩
  refine ⟨fun hnone v hv => ?_, ⟨fun _ => hpeeked, fun v hfilter => ?_⟩⟩
  · rw [hfound, hv] at hnone
    simpa using hnone
  · obtain ⟨rfl, hkind⟩ := Option.filter_eq_some_iff.mp hfilter
    have hkind := of_decide_eq_true hkind
    have hnone := rival_of_found hfound.symm hkind
    refine ⟨hkind, ?_, fun w hw => ?_⟩
    · rw [hnone]
      exact hheads.heads v rfl
    · rw [hnone] at hw
      cases hw

/-- A new context is kept under the name of its server, unless it has a rival there. -/
theorem keepNew_heads (around : Surroundings) (serverId : String) (v : Issued)
    (hmiss : ∀ w, start.found around serverId = some w → w.context.kind ≠ v.context.kind) :
    Action.Ensures (Peeked capacity ttl around start 1) (keepNew around serverId v)
      fun _ after => after.issued = start.issued + 1 ∧ Heads capacity ttl
        ⟨serverId, (rival around serverId v.context.kind start).getD v, around.now⟩ after := by
  refine (lookup_peeked around serverId).bind_of_known fun existing hfound => ?_
  cases existing with
  | none =>
    rintro s ⟨hpeeked, -⟩ _ hkept
    rw [rival, ← hfound]
    exact ⟨hpeeked.issued, keep_heads around serverId v s hpeeked.regular _ hkept⟩
  | some w =>
    dsimp only
    split
    case isTrue hsame => exact absurd hsame (hmiss w hfound.symm)
    case isFalse hother =>
      refine .pure ?_
      rintro s ⟨hpeeked, hheads⟩
      rw [rival_eq_some_iff.mpr ⟨hfound.symm, hother⟩]
      exact ⟨hpeeked.issued, hheads.heads w rfl⟩

/-- A new context has the next number. -/
theorem issue_peeked (context : Server.Context) :
    Action.Ensures (Peeked capacity ttl around start 0) (issue context)
      fun v after => v = ⟨start.issued, context⟩ ∧ Peeked capacity ttl around start 1 after := by
  intro s hpeeked v hv
  have hissued : s.issued = start.issued := hpeeked.issued
  refine ⟨?_, hpeeked.regular, congrArg Nat.succ hissued, hpeeked.found⟩
  rw [← hissued]
  exact (Except.ok.inj hv).symm

/-- A construction yields a context, and leaves it or its rival under the name of the server. -/
theorem construct_yields (around : Surroundings) (config : ServerConfig)
    (material : Option String) (username : String) (kind : Server.ContextKind) :
    Action.Ensures (Peeked capacity ttl around start 0)
      (construct around config material username kind)
      (Yields capacity ttl around start
        (Constructed capacity ttl around start config.serverId kind)) := by
  refine (lookupKind_yields around config.serverId kind).bind_of_known fun result hmiss => ?_
  cases result with
  | some v => exact .pure fun s => id
  | none =>
    -- what is left to do starts from a resolver that was only looked at
    refine .restrict ?_ fun s hs => hs.vacant rfl
    dsimp only
    split
    · exact warnNone_ensures _ fun s => yields_none
    split
    · exact warnNone_ensures _ fun s => yields_none
    cases material.filter fun text => !Text.isBlank text with
    | none => exact warnNone_ensures _ fun s => yields_none
    | some text =>
      refine .bind_of_asks .read fun resolver _ => ?_
      refine .bind_of_asks (.ofExcept _) fun context hassemble => ?_
      obtain rfl : context.kind = kind := (eq_of_assemble_ok hassemble).2.2.2.2
      refine (issue_peeked context).bind_of_known fun v hissue => ?_
      subst hissue
      refine (keepNew_heads around config.serverId _ (hmiss rfl)).bind fun _ => .pure ?_
      rintro u ⟨hissued, hheads⟩
      exact yields_some ⟨rfl, hheads, fun _ _ => ⟨rfl, hissued⟩⟩

/-- A resolution of a shared server yields a context, and leaves it or its rival under the name
of the server. -/
theorem resolve_yields (around : Surroundings) (config : ServerConfig) :
    Action.Ensures (Peeked capacity ttl around start 0) (resolve around config)
      (Yields capacity ttl around start
        (Constructed capacity ttl around start config.serverId .zone)) := by
  refine (lookupKind_yields around config.serverId .zone).bind_of_known fun result _ => ?_
  cases result with
  | some v => exact .pure fun s => id
  | none =>
    refine .restrict ?_ fun s hs => hs.vacant rfl
    exact .bind_of_asks (secretMaterial_asks around config) fun material _ =>
      construct_yields around config material config.username .zone

/-- What a resolution of a shared server leaves behind. -/
theorem constructed_of_resolve {config : ServerConfig} (hregular : s.Regular capacity ttl)
    (hresult : (resolve around config s).result = .ok (some v)) :
    Constructed capacity ttl around s config.serverId .zone v (resolve around config s).state :=
  (resolve_yields around config s (.refl hregular around) _ hresult).given v rfl

/-! ## Repetition -/

/-- A resolution of a shared server whose context stands under its name gives that context, and
nobody is asked. -/
theorem resolve_of_found {config : ServerConfig}
    (hfound : s.found around config.serverId = some v) (hkind : v.context.kind = .zone) :
    ∃ t, resolve around config s = ⟨.ok (some v), t, []⟩ := by
  obtain ⟨t, hlookup⟩ := lookupKind_of_live hfound
  refine ⟨t, ?_⟩
  rw [hkind] at hlookup
  rw [resolve, Action.bind_eq_of_ok hlookup]
  rfl

/-- A resolution of a shared server that is repeated gives the same context exactly if no context
of the other kind was alive under the name of the server, and then it asks nobody.  This holds
for every state that a resolver can reach, and whatever the surroundings would answer by
then. -/
theorem resolve_again_iff (settings : Settings) (turns : List Turn) (around later : Surroundings)
    (config : ServerConfig) (v : Issued)
    (hresult : (resolve around config (after (ofSettings settings) turns)).result =
      .ok (some v))
    (hsoon : later.now.nanoseconds - around.now.nanoseconds <
      settings.contextTtl.nanoseconds) :
    let start := after (ofSettings settings) turns
    let again := resolve later config (resolve around config start).state
    (again.result = .ok (some v) ↔ rival around config.serverId .zone start = none) ∧
      (rival around config.serverId .zone start = none → again.events = []) := by
  intro start again
  have hregular := regular_after settings turns
  have hfirst := constructed_of_resolve hregular hresult
  have hfound := hfirst.heads.found hsoon
  cases hrival : rival around config.serverId .zone start with
  | none =>
    rw [hrival] at hfound
    obtain ⟨t, hagain⟩ := resolve_of_found hfound hfirst.of_kind
    exact ⟨⟨fun _ => rfl, fun _ => congrArg Outcome.result hagain⟩,
      fun _ => congrArg Outcome.events hagain⟩
  | some w =>
    refine ⟨⟨fun hsame => ?_, fun hnone => nomatch hnone⟩, fun hnone => nomatch hnone⟩
    -- the rival is still there, so the second context is issued after the first one
    rw [hrival] at hfound
    have hstays : rival later config.serverId .zone (resolve around config start).state =
        some w :=
      rival_eq_some_iff.mpr ⟨hfound, (rival_eq_some_iff.mp hrival).2⟩
    have hsecond := constructed_of_resolve hfirst.heads.regular hsame
    obtain ⟨hserial, hissued⟩ := hfirst.anew w hrival
    obtain ⟨hagain, -⟩ := hsecond.anew w hstays
    omega

/-- A shared server without rivals keeps its context after all configurations are gone. -/
theorem resolve_again_small :
    ∃ v, (resolve (smallWorld "chef-1" acme "alice") (smallServer "chef-1")
        (after (ofSettings .default) [])).result = .ok (some v) ∧
      (emptyWorld (.ofSecs 60)).now.nanoseconds -
          (smallWorld "chef-1" acme "alice").now.nanoseconds <
        Settings.default.contextTtl.nanoseconds ∧
      let again := resolve (emptyWorld (.ofSecs 60)) (smallServer "chef-1")
        (resolve (smallWorld "chef-1" acme "alice") (smallServer "chef-1")
          (after (ofSettings .default) [])).state
      again.result = .ok (some v) ∧ again.events = [] := by
  have hnamed : Text.isBlank "chef-1" = false :=
    Text.isBlank_of_mem (c := 'c') (by decide) (by decide)
  obtain ⟨v, t, events, hresolve, -⟩ := exists_resolve_small acme "alice" hnamed
  have hresult := congrArg Outcome.result hresolve
  have hsoon : (emptyWorld (.ofSecs 60)).now.nanoseconds -
      (smallWorld "chef-1" acme "alice").now.nanoseconds <
        Settings.default.contextTtl.nanoseconds := by
    decide
  obtain ⟨hsame, hquiet⟩ := resolve_again_iff .default [] (smallWorld "chef-1" acme "alice")
    (emptyWorld (.ofSecs 60)) (smallServer "chef-1") v hresult hsoon
  exact ⟨v, hresult, hsoon, hsame.mpr rfl, hquiet rfl⟩

/-- A shared server on which a tenant has its context gets a new context each time, and its
secret is read each time. -/
theorem resolve_again_sharedWorld :
    let start := after (ofSettings .default) [⟨sharedWorld, .resolveProject acme⟩]
    let first := resolve sharedWorld (smallServer "chef-1") start
    let again := resolve sharedWorld (smallServer "chef-1") first.state
    0 < Settings.default.contextTtl.nanoseconds ∧
      first.result.map (·.map (·.serial)) = .ok (some 1) ∧
      again.result.map (·.map (·.serial)) = .ok (some 2) ∧
      .asked (.secret "root-key") ∈ again.events := by
  decide +kernel

end Resolver
end ChefAccess
