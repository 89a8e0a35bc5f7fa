import ChefAccess.Proofs.Cache
import ChefAccess.Proofs.InStep
import ChefAccess.Proofs.Server.Context
import ChefAccess.Resolver.Basic

/-!
# Resolvers in step

Two resolvers whose surroundings give the same answers, up to the keys in secrets and key
files, do the same.  They ask the same questions, leave the same warnings, and give contexts
that differ in their keys alone.  The two may have issued different numbers of contexts before:
what counts is how far one of them is ahead.

Main definitions:

- {lit}`MaterialAlike`: two texts are equal, or hold keys that correspond.
- {lit}`Issued.Alike`: two contexts differ in their keys and in their numbers alone.
- {lit}`Resolver.Surroundings.Alike`: surroundings that differ in key material alone.
- {lit}`Resolver.Alike`: resolvers with the same settings that keep contexts that are alike.

Main results:

- Theorem {lit}`Resolver.assemble_agree`: what becomes of key material.
- Theorem {lit}`Resolver.resolve_inStep` and the like: the functions of the resolver are in
  step.
-/

namespace ChefAccess

/-! ## Contexts -/

/-- Two contexts are alike: they differ in their keys alone, and the keys correspond. -/
structure Server.Context.Alike (Keys : Key.Rsa → Key.Rsa → Prop)
    (first second : Server.Context) : Prop where
  fields : first = { second with key := first.key }
  key : Keys first.key second.key

/-- Two contexts that were issued are alike: the contexts are, and the first number is ahead of
the second one by a given amount. -/
structure Issued.Alike (Keys : Key.Rsa → Key.Rsa → Prop) (ahead : Nat) (first second : Issued) :
    Prop where
  serial : first.serial = ahead + second.serial
  context : first.context.Alike Keys second.context

namespace Server.Context

variable {Keys : Key.Rsa → Key.Rsa → Prop} {first second : Server.Context}

theorem Alike.kind (halike : first.Alike Keys second) : first.kind = second.kind :=
  (congrArg Server.Context.kind halike.fields).trans rfl

theorem Alike.serverId (halike : first.Alike Keys second) : first.serverId = second.serverId :=
  (congrArg Server.Context.serverId halike.fields).trans rfl

/-- Drafts that differ in their keys alone are complete together. -/
theorem Draft.build_agree (draft : Draft) {key key' : Key.Rsa} (hkeys : Keys key key') :
    Agree (Alike Keys) (Draft.build { draft with key := some key })
      (Draft.build { draft with key := some key' }) := by
  unfold Draft.build
  refine Agree.bind (Agree.refl Eq.refl _) ?_
  rintro serverId _ rfl
  refine Agree.bind (Agree.refl Eq.refl _) ?_
  rintro baseUri _ rfl
  refine Agree.bind (Agree.refl Eq.refl _) ?_
  rintro username _ rfl
  dsimp only
  split
  · exact .error _
  · exact .ok ⟨rfl, hkeys⟩

end Server.Context

/-! ## Key material -/

/-- Two texts are alike as key material: they are equal, or they hold keys that correspond. -/
inductive MaterialAlike (Keys : Key.Rsa → Key.Rsa → Prop) : String → String → Prop
  /-- The texts are equal. -/
  | same (text : String) : MaterialAlike Keys text text
  /-- Both texts hold keys. -/
  | keys {text text' : String} {key key' : Key.Rsa} (hkey : Key.Rsa.ofMaterial text = .ok key)
      (hkey' : Key.Rsa.ofMaterial text' = .ok key') (hkeys : Keys key key') :
      MaterialAlike Keys text text'

/-- A blank text holds no key. -/
theorem Key.Rsa.not_isBlank_of_ofMaterial {text : String} {key : Key.Rsa}
    (hkey : Key.Rsa.ofMaterial text = .ok key) : Text.isBlank text = false := by
  refine Bool.eq_false_iff.mpr ?_
  intro hblank
  have hnone : (Key.Rsa.ofBlock (Text.unescape "")).isOk = false := by
    decide +kernel
  rw [Key.Rsa.ofMaterial, (Text.isBlank_iff_trim_eq text).mp hblank] at hkey
  rw [hkey] at hnone
  cases hnone

namespace MaterialAlike

variable {Keys : Key.Rsa → Key.Rsa → Prop} {text text' : String}

theorem isBlank (halike : MaterialAlike Keys text text') :
    Text.isBlank text = Text.isBlank text' := by
  cases halike with
  | same => rfl
  | keys hkey hkey' hkeys =>
    rw [Key.Rsa.not_isBlank_of_ofMaterial hkey, Key.Rsa.not_isBlank_of_ofMaterial hkey']

/-- Material is there in both cases, or in neither. -/
theorem filter {material material' : Option String}
    (halike : Option.Rel (MaterialAlike Keys) material material') :
    Option.Rel (MaterialAlike Keys) (material.filter fun text => !Text.isBlank text)
      (material'.filter fun text => !Text.isBlank text) := by
  cases halike with
  | none => exact .none
  | some htext =>
    rw [Option.filter_some, Option.filter_some, htext.isBlank]
    split
    · exact .some htext
    · exact .none

end MaterialAlike

/-! ## Surroundings -/

/-- Two sources are alike: they give the same answers, up to key material. -/
structure Sources.Alike (Keys : Key.Rsa → Key.Rsa → Prop) (first second : Sources) : Prop where
  server : first.server = second.server
  tenant : first.tenant = second.tenant
  regionServer : first.regionServer = second.regionServer
  /-- There is a service for secrets for both, or for neither. -/
  secret : Option.Rel
    (fun answer answer' => ∀ name, Agree (Option.Rel fun value value' =>
      MaterialAlike Keys (Text.unescape value) (Text.unescape value')) (answer name) (answer' name))
    first.secret second.secret
  /-- There is a service for files for both, or for neither. -/
  file : Option.Rel
    (fun answer answer' => ∀ path, Agree (fun bytes bytes' =>
      MaterialAlike Keys (Text.Utf8.lossy bytes) (Text.Utf8.lossy bytes')) (answer path)
        (answer' path))
    first.file second.file

/-- Sources are like themselves. -/
theorem Sources.Alike.refl (Keys : Key.Rsa → Key.Rsa → Prop) (sources : Sources) :
    sources.Alike Keys sources := by
  refine ⟨rfl, rfl, rfl, ?_, ?_⟩
  · cases sources.secret with
    | none => exact .none
    | some answer =>
      refine .some fun name => Agree.refl ?_ (answer name)
      intro value
      cases value with
      | none => exact .none
      | some text => exact .some (.same _)
  · cases sources.file with
    | none => exact .none
    | some answer => exact .some fun path => Agree.refl (fun _ => .same _) (answer path)

/-- Journals in which a resolver may write: questions and warnings are like themselves. -/
structure Event.Plain (Same : Event → Event → Prop) : Prop where
  asked : ∀ query, Same (.asked query) (.asked query)
  warning : ∀ text, Same (.warning text) (.warning text)

namespace Resolver

/-- Two surroundings are alike: they give the same answers, up to key material, at the same
time. -/
structure Surroundings.Alike (Keys : Key.Rsa → Key.Rsa → Prop) (first second : Surroundings) :
    Prop where
  sources : first.sources.Alike Keys second.sources
  now : first.now = second.now

/-- Two resolvers with given settings are alike: they keep contexts that are alike, and the
first one is ahead of the second one by a given amount. -/
structure Alike (settings : Settings) (Keys : Key.Rsa → Key.Rsa → Prop) (ahead : Nat)
    (first second : Resolver) : Prop where
  first_insecure : first.insecure = settings.insecure
  second_insecure : second.insecure = settings.insecure
  cache : first.cache.Alike settings.contextCapacity settings.contextTtl
    (Issued.Alike Keys ahead) second.cache
  issued : first.issued = ahead + second.issued

section InStep

variable {Same : Event → Event → Prop} {settings : Settings} {Keys : Key.Rsa → Key.Rsa → Prop}
  {ahead : Nat} {around around' : Surroundings}

/-! ## The cache -/

/-- A lookup finds contexts that are alike, or none. -/
theorem lookup_inStep (hnow : around.now = around'.now) (key : String) :
    Action.InStep Same (Alike settings Keys ahead) (Option.Rel (Issued.Alike Keys ahead))
      (lookup around key) (lookup around' key) := by
  refine Action.InStep.update ?_
  intro s t hstate
  obtain ⟨hfound, hcache⟩ := hstate.cache.get around.now key
  rw [hnow] at hfound hcache ⊢
  exact ⟨hfound, hstate.first_insecure, hstate.second_insecure, hcache, hstate.issued⟩

/-- Contexts that are alike are of the same kind. -/
theorem lookupKind_inStep (hnow : around.now = around'.now) (key : String)
    (kind : Server.ContextKind) :
    Action.InStep Same (Alike settings Keys ahead) (Option.Rel (Issued.Alike Keys ahead))
      (lookupKind around key kind) (lookupKind around' key kind) := by
  refine (lookup_inStep hnow key).bind ?_
  intro found found' hfound
  refine Action.InStep.pure ?_
  cases hfound with
  | none => exact .none
  | some hissued =>
    rw [Option.filter_some, Option.filter_some, hissued.context.kind]
    split
    · exact .some hissued
    · exact .none

/-- Contexts that are alike are kept in the same place. -/
theorem keep_inStep (hnow : around.now = around'.now) (key : String) {v w : Issued}
    (hissued : v.Alike Keys ahead w) :
    Action.InStep Same (Alike settings Keys ahead) Eq (keep around key v)
      (keep around' key w) := by
  refine Action.InStep.modify ?_
  intro s t hstate
  rw [← hnow]
  exact ⟨hstate.first_insecure, hstate.second_insecure,
    hstate.cache.insert around.now key hissued, hstate.issued⟩

/-- Contexts that are alike are issued under numbers that are as far apart as before. -/
theorem issue_inStep {context context' : Server.Context}
    (hcontext : context.Alike Keys context') :
    Action.InStep Same (Alike settings Keys ahead) (Issued.Alike Keys ahead) (issue context)
      (issue context') := by
  refine Action.InStep.update ?_
  intro s t hstate
  refine ⟨⟨hstate.issued, hcontext⟩, hstate.first_insecure, hstate.second_insecure,
    hstate.cache, ?_⟩
  have hissued := hstate.issued
  dsimp only
  omega

theorem warnNone_inStep {α β : Type} {Value : Option α → Option β → Prop}
    (hplain : Event.Plain Same) (text : String) (hnone : Value none none) :
    Action.InStep Same (Alike settings Keys ahead) Value (warnNone text) (warnNone text) := by
  refine (Action.InStep.record (hplain.warning text)).bind ?_
  intro _ _ _
  exact .pure hnone

/-! ## Construction -/

/-- Keys that correspond are assembled to contexts that are alike, and equal material fails
alike. -/
theorem assemble_agree (hrefl : ∀ key, Keys key key) (insecure : Bool) (config : ServerConfig)
    {text text' : String} (hmaterial : MaterialAlike Keys text text') (username : String)
    (kind : Server.ContextKind) :
    Agree (Server.Context.Alike Keys) (assemble insecure config text username kind)
      (assemble insecure config text' username kind) := by
  have hparsed : ∀ {key key' : Key.Rsa}, Keys key key' →
      Agree (Server.Context.Alike Keys)
        (Server.Version.ofTagOrDefault config.version >>= fun version =>
          (draft insecure config username key version kind).build)
        (Server.Version.ofTagOrDefault config.version >>= fun version =>
          (draft insecure config username key' version kind).build) := by
    intro key key' hkeys
    refine Agree.bind (Agree.refl Eq.refl _) ?_
    rintro version _ rfl
    exact Server.Context.Draft.build_agree
      (draft insecure config username key version kind) hkeys
  unfold assemble
  cases hmaterial with
  | same =>
    cases Key.Rsa.ofMaterial text with
    | error e => exact .error _
    | ok key => exact hparsed (hrefl key)
  | keys hkey hkey' hkeys =>
    rw [hkey, hkey']
    exact hparsed hkeys

/-- Whether a new context is kept depends on its kind. -/
theorem keepNew_inStep (hnow : around.now = around'.now) (serverId : String) {v w : Issued}
    (hissued : v.Alike Keys ahead w) :
    Action.InStep Same (Alike settings Keys ahead) Eq (keepNew around serverId v)
      (keepNew around' serverId w) := by
  refine (lookup_inStep hnow serverId).bind ?_
  intro existing existing' hexisting
  cases hexisting with
  | none => exact keep_inStep hnow serverId hissued
  | some hother =>
    dsimp only
    rw [hother.context.kind, hissued.context.kind]
    split
    · exact keep_inStep hnow serverId hissued
    · exact .pure rfl

/-- Constructions with material that is alike are in step. -/
theorem construct_inStep (hplain : Event.Plain Same) (hrefl : ∀ key, Keys key key)
    (hnow : around.now = around'.now) (config : ServerConfig) {material material' : Option String}
    (hmaterial : Option.Rel (MaterialAlike Keys) material material') (username : String)
    (kind : Server.ContextKind) :
    Action.InStep Same (Alike settings Keys ahead) (Option.Rel (Issued.Alike Keys ahead))
      (construct around config material username kind)
      (construct around' config material' username kind) := by
  refine (lookupKind_inStep hnow config.serverId kind).bind ?_
  intro found found' hfound
  cases hfound with
  | some hissued => exact .pure (.some hissued)
  | none =>
    dsimp only
    split
    · exact warnNone_inStep hplain _ .none
    · split
      · exact warnNone_inStep hplain _ .none
      · have hfilled := MaterialAlike.filter hmaterial
        generalize material.filter _ = filled at hfilled ⊢
        generalize material'.filter _ = filled' at hfilled ⊢
        cases hfilled with
        | none => exact warnNone_inStep hplain _ .none
        | some htext =>
          refine Action.InStep.read.bind ?_
          intro s t hstate
          rw [hstate.first_insecure, hstate.second_insecure]
          refine (Action.InStep.ofExcept
            (assemble_agree hrefl settings.insecure config htext username kind)).bind ?_
          intro context context' hcontext
          refine (issue_inStep hcontext).bind ?_
          intro v w hissued
          refine (keepNew_inStep hnow config.serverId hissued).bind ?_
          intro _ _ _
          exact .pure (.some hissued)

/-! ## Questions -/

theorem ask_inStep {α β : Type} {Value : α → β → Prop} (hplain : Event.Plain Same) (query : Query)
    {answer : Except Error α} {answer' : Except Error β} (hanswer : Agree Value answer answer') :
    Action.InStep Same (Alike settings Keys ahead) Value (Sources.ask query answer)
      (Sources.ask query answer') := by
  refine (Action.InStep.record (hplain.asked query)).bind ?_
  intro _ _ _
  exact .ofExcept hanswer

/-- The key material of a shared server is alike. -/
theorem secretMaterial_inStep (hplain : Event.Plain Same) (haround : around.Alike Keys around')
    (config : ServerConfig) :
    Action.InStep Same (Alike settings Keys ahead) (Option.Rel (MaterialAlike Keys))
      (secretMaterial around config) (secretMaterial around' config) := by
  unfold secretMaterial
  split
  · exact .pure .none
  · refine Action.InStep.bind (V := Option.Rel fun value value' =>
      MaterialAlike Keys (Text.unescape value) (Text.unescape value')) ?_ ?_
    · have hsecret := haround.sources.secret
      unfold Sources.askRawSecret
      generalize around.sources.secret = secret at hsecret ⊢
      generalize around'.sources.secret = secret' at hsecret ⊢
      cases hsecret with
      | none => exact .fail _
      | some hanswer => exact ask_inStep hplain _ (hanswer config.clientKey)
    · intro value value' hvalue
      refine Action.InStep.pure ?_
      cases hvalue with
      | none => exact .none
      | some htext => exact .some htext

/-- The key material of the server of a tenant is alike. -/
theorem fileMaterial_inStep (hplain : Event.Plain Same) (haround : around.Alike Keys around')
    (config : TenantConfig) :
    Action.InStep Same (Alike settings Keys ahead) (Option.Rel (MaterialAlike Keys))
      (fileMaterial around config) (fileMaterial around' config) := by
  unfold fileMaterial
  split
  · exact .pure .none
  · rename_i token htoken
    refine Action.InStep.bind (V := MaterialAlike Keys) ?_ ?_
    · refine Action.InStep.bind (V := fun bytes bytes' =>
        MaterialAlike Keys (Text.Utf8.lossy bytes) (Text.Utf8.lossy bytes')) ?_ ?_
      · have hfile := haround.sources.file
        unfold Sources.askFile
        generalize around.sources.file = file at hfile ⊢
        generalize around'.sources.file = file' at hfile ⊢
        cases hfile with
        | none => exact .fail _
        | some hanswer => exact ask_inStep hplain _ (hanswer token)
      · intro bytes bytes' hbytes
        exact .pure hbytes
    · intro text text' htext
      exact .pure (.some htext)

/-! ## Resolution -/

/-- Resolutions of a shared server are in step. -/
theorem resolve_inStep (hplain : Event.Plain Same) (hrefl : ∀ key, Keys key key)
    (haround : around.Alike Keys around') (config : ServerConfig) :
    Action.InStep Same (Alike settings Keys ahead) (Option.Rel (Issued.Alike Keys ahead))
      (resolve around config) (resolve around' config) := by
  refine (lookupKind_inStep haround.now config.serverId .zone).bind ?_
  intro found found' hfound
  cases hfound with
  | some hissued => exact .pure (.some hissued)
  | none =>
    refine (secretMaterial_inStep hplain haround config).bind ?_
    intro material material' hmaterial
    exact construct_inStep hplain hrefl haround.now config hmaterial config.username .zone

/-- The same server is found for a tenant. -/
theorem projectServer_inStep (hplain : Event.Plain Same) (haround : around.Alike Keys around')
    (tenancy : Tenancy) (config : TenantConfig) :
    Action.InStep Same (Alike settings Keys ahead) Eq (projectServer around tenancy config)
      (projectServer around' tenancy config) := by
  unfold projectServer
  dsimp only
  split
  · exact warnNone_inStep hplain _ rfl
  · split
    · exact warnNone_inStep hplain _ rfl
    · refine Action.InStep.bind (V := Eq) ?_ ?_
      · unfold Sources.askServer
        rw [haround.sources.server]
        exact ask_inStep hplain _ (Agree.refl Eq.refl _)
      · rintro found _ rfl
        cases found with
        | none => exact warnNone_inStep hplain _ rfl
        | some server => exact .pure rfl

/-- Constructions for a tenant are in step. -/
theorem constructProject_inStep (hplain : Event.Plain Same) (hrefl : ∀ key, Keys key key)
    (haround : around.Alike Keys around') (tenancy : Tenancy) (config : TenantConfig)
    (server : ServerConfig) :
    Action.InStep Same (Alike settings Keys ahead) (Option.Rel (Issued.Alike Keys ahead))
      (constructProject around tenancy config server)
      (constructProject around' tenancy config server) := by
  refine (fileMaterial_inStep hplain haround config).bind ?_
  intro material material' hmaterial
  refine (construct_inStep hplain hrefl haround.now server hmaterial _ .project).bind ?_
  intro resolved resolved' hresolved
  cases hresolved with
  | none => exact .pure .none
  | some hissued =>
    refine (keep_inStep haround.now (tenancyKey tenancy) hissued).bind ?_
    intro _ _ _
    exact .pure (.some hissued)

/-- Resolutions of the server of a tenant are in step. -/
theorem resolveProject_inStep (hplain : Event.Plain Same) (hrefl : ∀ key, Keys key key)
    (haround : around.Alike Keys around') (tenancy : Tenancy) :
    Action.InStep Same (Alike settings Keys ahead) (Option.Rel (Issued.Alike Keys ahead))
      (resolveProject around tenancy) (resolveProject around' tenancy) := by
  refine (lookupKind_inStep haround.now (tenancyKey tenancy) .project).bind ?_
  intro found found' hfound
  cases hfound with
  | some hissued => exact .pure (.some hissued)
  | none =>
    refine Action.InStep.bind (V := Eq) ?_ ?_
    · unfold Sources.askTenant
      rw [haround.sources.tenant]
      exact ask_inStep hplain _ (Agree.refl Eq.refl _)
    · rintro mapping _ rfl
      cases mapping with
      | none => exact warnNone_inStep hplain _ .none
      | some config =>
        refine (projectServer_inStep hplain haround tenancy config).bind ?_
        rintro server _ rfl
        cases server with
        | none => exact .pure .none
        | some server => exact constructProject_inStep hplain hrefl haround tenancy config server

/-- Resolutions of the server that a region shares are in step. -/
theorem resolveRegion_inStep (hplain : Event.Plain Same) (hrefl : ∀ key, Keys key key)
    (haround : around.Alike Keys around') (region : String) :
    Action.InStep Same (Alike settings Keys ahead) (Issued.Alike Keys ahead)
      (resolveRegion around region) (resolveRegion around' region) := by
  refine Action.InStep.bind (V := Eq) ?_ ?_
  · unfold Sources.askRegionServer
    rw [haround.sources.regionServer]
    exact ask_inStep hplain _ (Agree.refl Eq.refl _)
  · rintro bound _ rfl
    cases bound with
    | none => exact .fail _
    | some config =>
      refine (resolve_inStep hplain hrefl haround config).bind ?_
      intro resolved resolved' hresolved
      cases hresolved with
      | none => exact .fail _
      | some hissued => exact .pure hissued

/-- Resolutions for a tenant in a region are in step. -/
theorem resolveFor_inStep (hplain : Event.Plain Same) (hrefl : ∀ key, Keys key key)
    (haround : around.Alike Keys around') (tenancy : Tenancy) :
    Action.InStep Same (Alike settings Keys ahead) (Issued.Alike Keys ahead)
      (resolveFor around tenancy) (resolveFor around' tenancy) := by
  refine (lookup_inStep haround.now (tenancyKey tenancy)).bind ?_
  intro found found' hfound
  cases hfound with
  | some hissued => exact .pure hissued
  | none =>
    refine (resolveProject_inStep hplain hrefl haround tenancy).bind ?_
    intro resolved resolved' hresolved
    cases hresolved with
    | some hissued => exact .pure hissued
    | none =>
      refine (resolveRegion_inStep hplain hrefl haround tenancy.region).bind ?_
      intro v w hissued
      refine (keep_inStep haround.now (tenancyKey tenancy) hissued).bind ?_
      intro _ _ _
      exact .pure hissued

/-- Both resolvers can forget their contexts. -/
theorem forget_inStep :
    Action.InStep Same (Alike settings Keys ahead) Eq (Action.modify Resolver.forget)
      (Action.modify Resolver.forget) := by
  refine Action.InStep.modify ?_
  intro s t hstate
  exact ⟨hstate.first_insecure, hstate.second_insecure, hstate.cache.clear _, hstate.issued⟩

end InStep
end Resolver
end ChefAccess
