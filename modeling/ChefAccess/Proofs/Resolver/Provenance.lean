import ChefAccess.Proofs.Resolver.Construct

/-!
# Where resolved contexts come from

A context that a resolution gives was kept before, or is issued by the resolution itself from
what the surroundings answer.  The context of a shared server is assembled with a secret, and
the context of a tenant's server with a key file that the mapping of the tenant refers to.

Main definitions:

- {lit}`Resolver.Maps`: a tenant is mapped to a server.
- {lit}`Resolver.BuildsZone` and {lit}`Resolver.BuildsProject`: a context is issued anew.
- {lit}`Resolver.SuppliesProject` and {lit}`Resolver.SuppliesTenancy`: where the context of a
  tenant comes from.

Main results:

- Theorems {lit}`Resolver.resolve_settles`, {lit}`Resolver.resolveProject_settles` and
  {lit}`Resolver.resolveFor_settles`: what the three resolutions do.
-/

namespace ChefAccess

/-! ## Answers of the surroundings -/

namespace Sources

/-- The surroundings hold a secret, whose escapes are undone. -/
def HasSecret (sources : Sources) (key text : String) : Prop :=
  ∃ secret raw, sources.secret = some secret ∧ secret key = .ok (some raw) ∧
    text = Text.unescape raw

/-- The surroundings hold a file, which is read as text. -/
def HasText (sources : Sources) (path text : String) : Prop :=
  ∃ file bytes, sources.file = some file ∧ file path = .ok bytes ∧ text = Text.Utf8.lossy bytes

variable {σ : Type}

/-- A question leaves its mark in the journal alone. -/
@[simp]
theorem ask_apply {α : Type} (query : Query) (answer : Except Error α) (s : σ) :
    ask query answer s = ⟨answer, s, [.asked query]⟩ := by
  cases answer with
  | error e => rfl
  | ok a => rfl

/-- A question is answered by the service that it is put to. -/
theorem ask_asks {α : Type} (query : Query) (answer : Except Error α) :
    (ask query answer : Action σ α).Asks fun a => answer = .ok a :=
  fun s => ⟨answer, [.asked query], ask_apply query answer s, fun _ hanswer => hanswer⟩

/-- A secret that is given is held by the surroundings. -/
theorem askSecret_asks (sources : Sources) (key : String) :
    (sources.askSecret key : Action σ (Option String)).Asks fun found =>
      ∀ text, found = some text → sources.HasSecret key text := by
  have hraw : (sources.askRawSecret key : Action σ (Option String)).Asks fun found =>
      ∃ secret, sources.secret = some secret ∧ secret key = .ok found := by
    rw [askRawSecret]
    cases hservice : sources.secret with
    | none => exact .fail _
    | some secret => exact (ask_asks _ _).imp fun found hfound => ⟨secret, rfl, hfound⟩
  rw [askSecret]
  refine hraw.bind ?_
  rintro found ⟨secret, hservice, hfound⟩
  apply Action.Asks.pure
  intro text htext
  obtain ⟨raw, rfl, hunescaped⟩ := Option.map_eq_some_iff.mp htext
  exact ⟨secret, raw, hservice, hfound, hunescaped.symm⟩

/-- A text that is given is that of a file of the surroundings. -/
theorem askText_asks (sources : Sources) (path : String) :
    (sources.askText path : Action σ String).Asks (sources.HasText path) := by
  have hbytes : (sources.askFile path : Action σ (List UInt8)).Asks fun bytes =>
      ∃ file, sources.file = some file ∧ file path = .ok bytes := by
    rw [askFile]
    cases hservice : sources.file with
    | none => exact .fail _
    | some file => exact (ask_asks _ _).imp fun bytes hbytes => ⟨file, rfl, hbytes⟩
  rw [askText]
  refine hbytes.bind ?_
  rintro bytes ⟨file, hservice, hanswer⟩
  apply Action.Asks.pure
  exact ⟨file, bytes, hservice, hanswer, rfl⟩

end Sources

namespace Resolver

variable {around : Surroundings} {s t u : Resolver} {v w : Issued}

/-! ## Ways to issue a context -/

/-- A tenant brings a server of its own in a region, and the server is configured. -/
structure Maps (around : Surroundings) (tenancy : Tenancy) (mapping : TenantConfig)
    (server : ServerConfig) : Prop where
  tenant : around.sources.tenant tenancy = .ok (some mapping)
  named : Text.isBlank mapping.serverId = false
  mode : mapping.mode = .external
  server : around.sources.server mapping.serverId = .ok (some server)

/-- The context of a shared server is issued: the user is the one of the configuration, and
the key is in the secret that the configuration names. -/
structure BuildsZone (around : Surroundings) (s : Resolver) (config : ServerConfig)
    (v : Issued) : Prop where
  /-- The context is the next one of the resolver. -/
  serial : v.serial = s.issued
  /-- The configuration names a secret. -/
  named : Text.isBlank config.clientKey = false
  /-- The context is assembled with that secret. -/
  assembled : ∃ text, around.sources.HasSecret config.clientKey text ∧
    assemble s.insecure config text config.username .zone = .ok v.context

/-- The context of a tenant's server is issued: the user is the tenant's own or the one of
the server, and the key is in the file that the mapping of the tenant refers to. -/
structure BuildsProject (around : Surroundings) (s : Resolver) (tenancy : Tenancy)
    (mapping : TenantConfig) (server : ServerConfig) (v : Issued) : Prop where
  /-- The context is the next one of the resolver. -/
  serial : v.serial = s.issued
  /-- The tenant is mapped to the server. -/
  maps : Maps around tenancy mapping server
  /-- The context is assembled with the file that the mapping refers to. -/
  assembled : ∃ token text, Blobs.token? mapping.apiKeyUrl = some token ∧
    around.sources.HasText token text ∧
    assemble s.insecure server text (clientName mapping server) .project = .ok v.context

theorem BuildsZone.of_fades {config : ServerConfig} (hfades : Fades s t)
    (hbuilds : BuildsZone around t config v) : BuildsZone around s config v := by
  refine ⟨hbuilds.serial.trans hfades.issued, hbuilds.named, ?_⟩
  rw [← hfades.insecure]
  exact hbuilds.assembled

theorem BuildsProject.of_fades {tenancy : Tenancy} {mapping : TenantConfig}
    {server : ServerConfig} (hfades : Fades s t)
    (hbuilds : BuildsProject around t tenancy mapping server v) :
    BuildsProject around s tenancy mapping server v := by
  refine ⟨hbuilds.serial.trans hfades.issued, hbuilds.maps, ?_⟩
  rw [← hfades.insecure]
  exact hbuilds.assembled

/-! ## Shared servers -/

/-- The key material of a shared server is the secret that its configuration names. -/
theorem secretMaterial_asks (around : Surroundings) (config : ServerConfig) :
    (secretMaterial around config).Asks fun found => ∀ text, found = some text →
      Text.isBlank config.clientKey = false ∧ around.sources.HasSecret config.clientKey text := by
  rw [secretMaterial]
  cases hblank : Text.isBlank config.clientKey with
  | true => exact .pure fun text h => nomatch h
  | false =>
    refine (Sources.askSecret_asks around.sources config.clientKey).imp ?_
    intro found hsecret text htext
    exact ⟨rfl, hsecret text htext⟩

/-- A resolution finds the context of a shared server under its name, or issues it. -/
theorem resolve_settles (around : Surroundings) (config : ServerConfig) (s : Resolver) :
    Settles s (fun v after =>
        Supplies s after config.serverId .zone v (BuildsZone around s config v))
      (resolve around config s) := by
  obtain ⟨found, t, hlookup, hfades, hheld⟩ := exists_lookupKind around config.serverId .zone s
  rw [resolve]
  refine Settles.bind hlookup hfades ?_
  rintro _ ⟨⟩
  cases found with
  | some v =>
    obtain ⟨hholds, hkind⟩ := hheld v rfl
    exact .given v t _ (.kept hholds hkind hfades)
  | none =>
    refine Settles.bind_of_asks (secretMaterial_asks around config) hfades ?_
    intro material hmaterial
    refine (construct_settles around config material config.username .zone t).of_fades hfades ?_
    intro v after hsupplies
    refine hsupplies.of_fades hfades ?_
    rintro ⟨text, rfl, hserial, hassemble⟩
    obtain ⟨hnamed, hsecret⟩ := hmaterial text rfl
    exact BuildsZone.of_fades hfades ⟨hserial, hnamed, text, hsecret, hassemble⟩

/-! ## Servers of tenants -/

/-- The key material of a tenant's server is the file that the mapping refers to. -/
theorem fileMaterial_asks (around : Surroundings) (mapping : TenantConfig) :
    (fileMaterial around mapping).Asks fun found => ∀ text, found = some text →
      ∃ token, Blobs.token? mapping.apiKeyUrl = some token ∧
        around.sources.HasText token text := by
  rw [fileMaterial]
  cases htoken : Blobs.token? mapping.apiKeyUrl with
  | none => exact .pure fun text h => nomatch h
  | some token =>
    refine (Sources.askText_asks around.sources token).bind ?_
    intro found hfile
    apply Action.Asks.pure
    intro text htext
    rw [← Option.some.inj htext]
    exact ⟨token, rfl, hfile⟩

/-- There is no context after a warning. -/
theorem warnNone_asks {α : Type} (text : String) {Answer : α → Prop} :
    (warnNone text : Action Resolver (Option α)).Asks fun found =>
      ∀ a, found = some a → Answer a := by
  rw [warnNone]
  exact (Action.Asks.record _).bind fun _ _ => .pure fun a h => nomatch h

/-- A mapping that passes all checks maps its tenant to a server. -/
theorem projectServer_asks {tenancy : Tenancy} {mapping : TenantConfig}
    (htenant : around.sources.tenant tenancy = .ok (some mapping)) :
    (projectServer around tenancy mapping).Asks fun found =>
      ∀ server, found = some server → Maps around tenancy mapping server := by
  rw [projectServer]
  split
  case isTrue => exact warnNone_asks _
  case isFalse hnamed =>
    split
    case isTrue => exact warnNone_asks _
    case isFalse hmode =>
      refine (Sources.ask_asks _ _).bind ?_
      intro found hserver
      cases found with
      | none => exact warnNone_asks _
      | some server =>
        apply Action.Asks.pure
        intro other hother
        rw [← Option.some.inj hother]
        exact ⟨htenant, Bool.eq_false_iff.mpr hnamed, Decidable.not_not.mp hmode, hserver⟩

/-- Where the context of a tenant's own server comes from: it was kept for the tenant, or it
is supplied under the name of the server and then kept for the tenant. -/
inductive SuppliesProject (around : Surroundings) (before after : Resolver)
    (tenancy : Tenancy) (v : Issued) : Prop
  /-- The context was kept for the tenant. -/
  | kept (hheld : before.cache.Holds (tenancyKey tenancy) v)
      (hkind : v.context.kind = .project) (hfades : Fades before after)
  /-- The context is that of the server to which the tenant is mapped. -/
  | mapped (mapping : TenantConfig) (server : ServerConfig) (between : Resolver)
      (hmaps : Maps around tenancy mapping server)
      (hsupplies : Supplies before between server.serverId .project v
        (BuildsProject around before tenancy mapping server v))
      (hgains : Gains between after (tenancyKey tenancy) v)

theorem SuppliesProject.of_fades {tenancy : Tenancy} (hfades : Fades s t)
    (hsupplies : SuppliesProject around t u tenancy v) :
    SuppliesProject around s u tenancy v := by
  cases hsupplies with
  | kept hheld hkind hrest => exact .kept (hfades.held hheld) hkind (hfades.trans hrest)
  | mapped mapping server between hmaps hserver hgains =>
    exact .mapped mapping server between hmaps
      (hserver.of_fades hfades (BuildsProject.of_fades hfades)) hgains

/-- A construction for a tenant keeps its context for the tenant. -/
theorem constructProject_settles {tenancy : Tenancy} {mapping : TenantConfig}
    {server : ServerConfig} (hmaps : Maps around tenancy mapping server) (s : Resolver) :
    Settles s (fun v after => SuppliesProject around s after tenancy v)
      (constructProject around tenancy mapping server s) := by
  rw [constructProject]
  refine Settles.bind_of_asks (fileMaterial_asks around mapping) (.refl s) ?_
  intro material hmaterial
  refine (construct_settles around server material (clientName mapping server) .project
    s).bind_settles ?_ ?_
  · intro t hfades
    exact .none t _ hfades
  · intro v t hsupplies
    refine .given v (keep around (tenancyKey tenancy) v t).state _
      (.mapped mapping server t hmaps ?_ (gains_keep around (tenancyKey tenancy) v t))
    refine hsupplies.of_fades (.refl s) ?_
    rintro ⟨text, rfl, hserial, hassemble⟩
    obtain ⟨token, htoken, hfile⟩ := hmaterial text rfl
    exact ⟨hserial, hmaps, token, text, htoken, hfile, hassemble⟩

/-- A resolution finds the context of a tenant's own server, or issues it. -/
theorem resolveProject_settles (around : Surroundings) (tenancy : Tenancy) (s : Resolver) :
    Settles s (fun v after => SuppliesProject around s after tenancy v)
      (resolveProject around tenancy s) := by
  obtain ⟨found, t, hlookup, hfades, hheld⟩ :=
    exists_lookupKind around (tenancyKey tenancy) .project s
  rw [resolveProject]
  refine Settles.bind hlookup hfades ?_
  rintro _ ⟨⟩
  cases found with
  | some v =>
    obtain ⟨hholds, hkind⟩ := hheld v rfl
    exact .given v t _ (.kept hholds hkind hfades)
  | none =>
    refine Settles.bind_of_asks (Sources.ask_asks _ _) hfades ?_
    intro answer htenant
    cases answer with
    | none => exact .none t _ hfades
    | some mapping =>
      refine Settles.bind_of_asks (projectServer_asks htenant) hfades ?_
      intro chosen hmaps
      cases chosen with
      | none => exact .none t _ hfades
      | some server =>
        refine (constructProject_settles (hmaps server rfl) t).of_fades hfades ?_
        intro v after hsupplies
        exact hsupplies.of_fades hfades

/-! ## Tenants in regions -/

/-- The server that a region shares supplies its context, or there is a failure. -/
theorem resolveRegion_settles (around : Surroundings) (region : String) (s : Resolver) :
    Settles s (fun v after => ∃ config,
        around.sources.regionServer region = .ok (some config) ∧
          Supplies s after config.serverId .zone v (BuildsZone around s config v))
      ((resolveRegion around region >>= fun issued => return some issued) s) := by
  rw [resolveRegion, Action.bind_assoc]
  refine Settles.bind_of_asks (Sources.ask_asks _ _) (.refl s) ?_
  intro answer hshared
  cases answer with
  | none => exact .error _ s _ (.refl s)
  | some config =>
    rw [Action.bind_assoc]
    refine (resolve_settles around config s).bind_settles ?_ ?_
    · intro t hfades
      exact .error _ t _ hfades
    · intro v t hsupplies
      exact .given v t _ ⟨config, hshared, hsupplies⟩

/-- Where the context that a tenant uses in a region comes from: it was kept for the tenant,
or it is that of the tenant's own server, or it is that of the server that the region shares
and then kept for the tenant. -/
inductive SuppliesTenancy (around : Surroundings) (before after : Resolver)
    (tenancy : Tenancy) (v : Issued) : Prop
  /-- The context was kept for the tenant. -/
  | kept (hheld : before.cache.Holds (tenancyKey tenancy) v) (hfades : Fades before after)
  /-- The context is that of the tenant's own server. -/
  | project (hsupplies : SuppliesProject around before after tenancy v)
  /-- The context is that of the server that the region shares. -/
  | region (config : ServerConfig) (between : Resolver)
      (hshared : around.sources.regionServer tenancy.region = .ok (some config))
      (hsupplies : Supplies before between config.serverId .zone v
        (BuildsZone around before config v))
      (hgains : Gains between after (tenancyKey tenancy) v)

/-- A resolution finds the context that a tenant uses, or issues it. -/
theorem resolveFor_settles (around : Surroundings) (tenancy : Tenancy) (s : Resolver) :
    Settles s (fun v after => SuppliesTenancy around s after tenancy v)
      ((resolveFor around tenancy >>= fun issued => return some issued) s) := by
  obtain ⟨found, t, hlookup, hfades, hheld⟩ := exists_lookup around (tenancyKey tenancy) s
  rw [resolveFor, Action.bind_assoc]
  refine Settles.bind hlookup hfades ?_
  rintro _ ⟨⟩
  cases found with
  | some v => exact .given v t _ (.kept (hheld v rfl) hfades)
  | none =>
    have hproject : Settles s (fun v after => SuppliesProject around s after tenancy v)
        (resolveProject around tenancy t) :=
      (resolveProject_settles around tenancy t).of_fades hfades
        fun v after hsupplies => hsupplies.of_fades hfades
    rw [Action.bind_assoc]
    refine hproject.bind_settles ?_ ?_
    · intro u hfades
      have hregion := (resolveRegion_settles around tenancy.region u).of_fades hfades
        fun v after hgiven => hgiven
      rw [Action.bind_assoc]
      refine hregion.bind_some ?_
      rintro v w ⟨config, hshared, hsupplies⟩
      exact .given v _ _ (.region config w hshared
        (hsupplies.of_fades hfades (BuildsZone.of_fades hfades))
        (gains_keep around (tenancyKey tenancy) v w))
    · intro v u hsupplies
      exact .given v u _ (.project hsupplies)

end Resolver
end ChefAccess
