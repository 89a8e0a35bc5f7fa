import ChefAccess.Proofs.Cache.History
import ChefAccess.Proofs.Resolver.Run

/-!
# The traffic on the cache of a resolver

A resolver touches its cache in three ways only: it looks up a key, it keeps a context under a
key, and it forgets everything.  So each call comes down to some turns of the cache, which are
read off the call as it runs, and what is known about the history of a cache holds for the
cache of a resolver.

Main definitions:

- {lit}`Resolver.Takes`: the turns of the cache that an action takes.
- {lit}`Resolver.Traffic`: the turns of the cache that some calls take.
- {lit}`Resolver.Traced`: an action takes some turns of the cache, wherever it starts.

Main results:

- Theorem {lit}`Resolver.Takes.cache_eq`: an action leaves the cache that its turns lead to.
- Theorem {lit}`Resolver.Turn.action_traced`: every call takes some turns of the cache.
- Theorem {lit}`Resolver.regular_after`: the cache of a resolver is regular after every run.
-/

namespace ChefAccess
namespace Resolver

variable {α β : Type} {around : Surroundings} {s : Resolver} {key : String} {v : Issued}
  {capacity : Nat} {ttl : Duration}

/-! ## The turns of an action -/

/-- The turns of the cache that an action takes, in their order. -/
inductive Takes : {α : Type} → Action Resolver α → Resolver → List (Cache.Turn Issued) → Prop
  /-- An action that leaves the cache alone takes none. -/
  | idle {α : Type} {action : Action Resolver α}
      (hidle : ∀ s, (action s).state.cache = s.cache) (s : Resolver) : Takes action s []
  /-- A lookup asks for its key. -/
  | lookup (around : Surroundings) (key : String) (s : Resolver) :
      Takes (lookup around key) s [⟨around.now, .get key⟩]
  /-- Keeping a context sets its key. -/
  | keep (around : Surroundings) (key : String) (v : Issued) (s : Resolver) :
      Takes (keep around key v) s [⟨around.now, .insert key v⟩]
  /-- After a success the turns of the second part follow. -/
  | bind_ok {α β : Type} {action : Action Resolver α} {next : α → Action Resolver β}
      {s t : Resolver} {a : α} {events : List Event} {first second : List (Cache.Turn Issued)}
      (houtcome : action s = ⟨.ok a, t, events⟩) (hfirst : Takes action s first)
      (hsecond : Takes (next a) t second) : Takes (action >>= next) s (first ++ second)
  /-- After a failure nothing follows. -/
  | bind_error {α β : Type} {action : Action Resolver α} {next : α → Action Resolver β}
      {s t : Resolver} {e : Error} {events : List Event} {first : List (Cache.Turn Issued)}
      (houtcome : action s = ⟨.error e, t, events⟩) (hfirst : Takes action s first) :
      Takes (action >>= next) s first

/-- An action leaves the cache that its turns lead to. -/
theorem Takes.cache_eq {action : Action Resolver α} {turns : List (Cache.Turn Issued)}
    (htakes : Takes action s turns) : (action s).state.cache = s.cache.after turns := by
  induction htakes with
  | idle hidle s => exact hidle s
  | lookup around key s => rfl
  | keep around key v s => rfl
  | bind_ok houtcome hfirst hsecond ihfirst ihsecond =>
    rw [houtcome] at ihfirst
    rw [Action.bind_eq_of_ok houtcome, Cache.after_append, ← ihfirst]
    exact ihsecond
  | bind_error houtcome hfirst ihfirst =>
    rw [houtcome] at ihfirst
    rw [Action.bind_eq_of_error houtcome]
    exact ihfirst

/-- The turns of an action drop nothing on purpose. -/
theorem Takes.not_drops {action : Action Resolver α} {turns : List (Cache.Turn Issued)}
    (htakes : Takes action s turns) (key : String) : ∀ turn ∈ turns, ¬ turn.call.Drops key := by
  induction htakes with
  | idle hidle s => exact fun _ hturn => nomatch hturn
  | lookup around other s => simp [Cache.Call.Drops]
  | keep around other v s => simp [Cache.Call.Drops]
  | bind_ok houtcome hfirst hsecond ihfirst ihsecond =>
    exact List.forall_mem_append.mpr ⟨ihfirst, ihsecond⟩
  | bind_error houtcome hfirst ihfirst => exact ihfirst

/-! ## Actions whose turns are known -/

/-- The cache of a resolver is regular. -/
def Regular (capacity : Nat) (ttl : Duration) (resolver : Resolver) : Prop :=
  resolver.cache.Regular capacity ttl

/-- An action takes some turns of the cache, wherever it starts. -/
def Traced (action : Action Resolver α) : Prop :=
  ∀ s, ∃ turns, Takes action s turns

namespace Traced

theorem of_idle {action : Action Resolver α} (hidle : ∀ s, (action s).state.cache = s.cache) :
    Traced action :=
  fun s => ⟨[], .idle hidle s⟩

theorem pure (a : α) : Traced (Pure.pure a) :=
  of_idle fun _ => rfl

theorem fail (e : Error) : Traced (Action.fail e : Action Resolver α) :=
  of_idle fun _ => rfl

/-- An action that only asks leaves the cache alone. -/
theorem of_asks {action : Action Resolver α} {Answer : α → Prop} (hasks : action.Asks Answer) :
    Traced action := by
  refine of_idle fun s => ?_
  obtain ⟨result, events, houtcome, -⟩ := hasks s
  rw [houtcome]

/-- The turns of two actions follow each other. -/
theorem bind {action : Action Resolver α} {next : α → Action Resolver β}
    (hfirst : Traced action) (hnext : ∀ a, Traced (next a)) : Traced (action >>= next) := by
  intro s
  obtain ⟨first, hfirst⟩ := hfirst s
  rcases houtcome : action s with ⟨result, t, events⟩
  cases result with
  | error e => exact ⟨first, .bind_error houtcome hfirst⟩
  | ok a =>
    obtain ⟨second, hsecond⟩ := hnext a t
    exact ⟨first ++ second, .bind_ok houtcome hfirst hsecond⟩

/-- A question before an action takes no turns of the cache. -/
theorem bind_of_asks {action : Action Resolver α} {next : α → Action Resolver β}
    {Answer : α → Prop} (hasks : action.Asks Answer) (hnext : ∀ a, Answer a → Traced (next a)) :
    Traced (action >>= next) := by
  intro s
  obtain ⟨first, hfirst⟩ := of_asks hasks s
  obtain ⟨result, events, houtcome, hanswer⟩ := hasks s
  cases result with
  | error e => exact ⟨first, .bind_error houtcome hfirst⟩
  | ok a =>
    obtain ⟨second, hsecond⟩ := hnext a (hanswer a rfl) s
    exact ⟨first ++ second, .bind_ok houtcome hfirst hsecond⟩

/-- The cache stays regular. -/
theorem regular {action : Action Resolver α} (htraced : Traced action)
    (hregular : s.Regular capacity ttl) : (action s).state.Regular capacity ttl := by
  obtain ⟨turns, htakes⟩ := htraced s
  rw [Regular, htakes.cache_eq]
  exact hregular.after turns

theorem ensures {action : Action Resolver α} (htraced : Traced action) :
    action.Ensures (Regular capacity ttl) fun _ => Regular capacity ttl :=
  fun _ hregular _ _ => htraced.regular hregular

end Traced

theorem lookup_traced (around : Surroundings) (key : String) : Traced (lookup around key) :=
  fun s => ⟨_, .lookup around key s⟩

theorem keep_traced (around : Surroundings) (key : String) (v : Issued) :
    Traced (keep around key v) :=
  fun s => ⟨_, .keep around key v s⟩

theorem warnNone_traced (text : String) :
    Traced (warnNone text : Action Resolver (Option α)) :=
  .of_idle fun _ => rfl

theorem lookupKind_traced (around : Surroundings) (key : String) (kind : Server.ContextKind) :
    Traced (lookupKind around key kind) :=
  (lookup_traced around key).bind fun _ => .pure _

theorem keepNew_traced (around : Surroundings) (serverId : String) (v : Issued) :
    Traced (keepNew around serverId v) := by
  refine (lookup_traced around serverId).bind fun found => ?_
  cases found with
  | none => exact keep_traced around serverId v
  | some other =>
    dsimp only
    split
    · exact keep_traced around serverId v
    · exact .pure ()

theorem construct_traced (around : Surroundings) (config : ServerConfig)
    (material : Option String) (username : String) (kind : Server.ContextKind) :
    Traced (construct around config material username kind) := by
  refine (lookupKind_traced around config.serverId kind).bind fun found => ?_
  cases found with
  | some v => exact .pure _
  | none =>
    dsimp only
    split
    · exact warnNone_traced _
    split
    · exact warnNone_traced _
    cases material.filter fun text => !Text.isBlank text with
    | none => exact warnNone_traced _
    | some text =>
      refine .bind_of_asks .read fun resolver _ => ?_
      refine .bind_of_asks (.ofExcept _) fun context _ => ?_
      have hissue : Traced (issue context) := .of_idle fun _ => rfl
      exact hissue.bind fun v => (keepNew_traced around config.serverId v).bind fun _ => .pure _

theorem resolve_traced (around : Surroundings) (config : ServerConfig) :
    Traced (resolve around config) := by
  refine (lookupKind_traced around config.serverId .zone).bind fun found => ?_
  cases found with
  | some v => exact .pure _
  | none =>
    exact .bind_of_asks (secretMaterial_asks around config) fun material _ =>
      construct_traced around config material config.username .zone

theorem constructProject_traced (around : Surroundings) (tenancy : Tenancy)
    (mapping : TenantConfig) (server : ServerConfig) :
    Traced (constructProject around tenancy mapping server) := by
  refine .bind_of_asks (fileMaterial_asks around mapping) fun material _ => ?_
  refine (construct_traced around server material _ .project).bind fun resolved => ?_
  cases resolved with
  | none => exact .pure _
  | some v => exact (keep_traced around (tenancyKey tenancy) v).bind fun _ => .pure _

theorem resolveProject_traced (around : Surroundings) (tenancy : Tenancy) :
    Traced (resolveProject around tenancy) := by
  refine (lookupKind_traced around (tenancyKey tenancy) .project).bind fun found => ?_
  cases found with
  | some v => exact .pure _
  | none =>
    refine .bind_of_asks (Sources.ask_asks _ _) fun answer htenant => ?_
    cases answer with
    | none => exact warnNone_traced _
    | some mapping =>
      refine .bind_of_asks (projectServer_asks htenant) fun chosen _ => ?_
      cases chosen with
      | none => exact .pure _
      | some server => exact constructProject_traced around tenancy mapping server

theorem resolveRegion_traced (around : Surroundings) (region : String) :
    Traced (resolveRegion around region) := by
  refine .bind_of_asks (Sources.ask_asks _ _) fun answer _ => ?_
  cases answer with
  | none => exact .fail _
  | some config =>
    refine (resolve_traced around config).bind fun resolved => ?_
    cases resolved with
    | none => exact .fail _
    | some v => exact .pure v

theorem resolveFor_traced (around : Surroundings) (tenancy : Tenancy) :
    Traced (resolveFor around tenancy) := by
  refine (lookup_traced around (tenancyKey tenancy)).bind fun found => ?_
  cases found with
  | some v => exact .pure v
  | none =>
    refine (resolveProject_traced around tenancy).bind fun resolved => ?_
    cases resolved with
    | some v => exact .pure v
    | none =>
      exact (resolveRegion_traced around tenancy.region).bind fun v =>
        (keep_traced around (tenancyKey tenancy) v).bind fun _ => .pure v

/-- Every call but the one to forget takes some turns of the cache. -/
theorem Turn.action_traced {turn : Turn} (hkeeps : turn.call ≠ .forget) :
    Traced turn.action := by
  rcases turn with ⟨around, call⟩
  cases call with
  | resolve config => exact resolve_traced around config
  | resolveProject tenancy => exact resolveProject_traced around tenancy
  | resolveFor tenancy => exact (resolveFor_traced around tenancy).bind fun _ => .pure _
  | known serverId => exact lookup_traced around serverId
  | forget => exact absurd rfl hkeeps

/-! ## The turns of a run -/

/-- The turns of the cache that some calls take, in their order. -/
inductive Traffic : Resolver → List Turn → List (Cache.Turn Issued) → Prop
  | nil (s : Resolver) : Traffic s [] []
  /-- The turns of a call come before those of the calls after it. -/
  | cons {s : Resolver} {turn : Turn} {turns : List Turn} {first later : List (Cache.Turn Issued)}
      (hkeeps : turn.call ≠ .forget) (hfirst : Takes turn.action s first)
      (hlater : Traffic (turn.action s).state turns later) :
      Traffic s (turn :: turns) (first ++ later)
  /-- To forget everything is one turn. -/
  | forget {s : Resolver} {around : Surroundings} {turns : List Turn}
      {later : List (Cache.Turn Issued)} (hlater : Traffic s.forget turns later) :
      Traffic s (⟨around, .forget⟩ :: turns) (⟨around.now, .clear⟩ :: later)

@[simp]
theorem after_cons (start : Resolver) (turn : Turn) (turns : List Turn) :
    after start (turn :: turns) = after (turn.action start).state turns :=
  rfl

/-- A run leaves the cache that its turns lead to. -/
theorem Traffic.cache_eq {turns : List Turn} {traffic : List (Cache.Turn Issued)}
    (htraffic : Traffic s turns traffic) :
    (after s turns).cache = s.cache.after traffic := by
  induction htraffic with
  | nil s => rfl
  | cons hkeeps hfirst hlater ih =>
    rw [after_cons, ih, hfirst.cache_eq, Cache.after_append]
  | forget hlater ih => exact ih

/-- A run in which nothing is forgotten drops nothing on purpose. -/
theorem Traffic.not_drops {turns : List Turn} {traffic : List (Cache.Turn Issued)}
    (htraffic : Traffic s turns traffic) (hkeeps : ∀ turn ∈ turns, turn.call ≠ .forget)
    (key : String) : ∀ turn ∈ traffic, ¬ turn.call.Drops key := by
  induction htraffic with
  | nil s => exact fun _ hturn => nomatch hturn
  | cons _ hfirst hlater ih =>
    exact List.forall_mem_append.mpr
      ⟨hfirst.not_drops key, ih (List.forall_mem_cons.mp hkeeps).2⟩
  | forget hlater ih => exact absurd rfl (List.forall_mem_cons.mp hkeeps).1

/-- Every run takes some turns of the cache. -/
theorem exists_traffic (s : Resolver) (turns : List Turn) :
    ∃ traffic, Traffic s turns traffic := by
  induction turns generalizing s with
  | nil => exact ⟨[], .nil s⟩
  | cons turn turns ih =>
    obtain ⟨later, hlater⟩ := ih (turn.action s).state
    by_cases hforget : turn.call = .forget
    · rcases turn with ⟨around, call⟩
      obtain rfl : call = .forget := hforget
      exact ⟨⟨around.now, .clear⟩ :: later, .forget hlater⟩
    · obtain ⟨first, hfirst⟩ := Turn.action_traced hforget s
      exact ⟨first ++ later, .cons hforget hfirst hlater⟩

/-- The cache of a resolver is regular after every run. -/
theorem regular_after (settings : Settings) (turns : List Turn) :
    (after (ofSettings settings) turns).Regular settings.contextCapacity
      settings.contextTtl := by
  obtain ⟨traffic, htraffic⟩ := exists_traffic (ofSettings settings) turns
  rw [Regular, htraffic.cache_eq]
  exact (Cache.Regular.empty settings.contextCapacity settings.contextTtl).after traffic

end Resolver
end ChefAccess
