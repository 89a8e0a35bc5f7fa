import ChefAccess.Proofs.Resolver.Fallback
import ChefAccess.Proofs.Server.Host

/-!
# Resolutions of shared servers

What becomes of the resolution of a shared server, if nothing is kept, depends on its
configuration and on the secret that the configuration names.  A secret store that fails comes
first, then what is lacking, then a key that cannot be read, and last a configuration that no
context can be built from.  So a configuration with gaps is no failure, whatever else is wrong
with it.

Main definitions:

- {lit}`Server.Version.NamedBy`: the version that a tag names.
- {lit}`Resolver.SecretFails`: the secret store fails.
- {lit}`Resolver.Lacks`: something is lacking for a context.
- {lit}`Resolver.Unfit`: no context can be built from a configuration.
- {lit}`Resolver.Suits`: a context is the one that a configuration describes.

Main results:

- Theorem {lit}`Resolver.resolve_course`: how the resolution of a shared server may end.
- Theorem {lit}`Resolver.shared_server_law`: which of the ends it comes to.
-/

namespace ChefAccess

/-! ## Versions -/

namespace Server.Version

/-- A tag names a version: a blank one names the usual version, and any other one the version
that has the tag, around which white space may stand. -/
inductive NamedBy (tag : String) : Version → Prop
  | usual (hblank : Text.isBlank tag = true) : NamedBy tag .default
  | tagged (version : Version) (htag : Text.trim tag = version.tag) : NamedBy tag version

/-- The tag of a version is not empty. -/
theorem tag_ne_empty (version : Version) : version.tag ≠ "" := by
  cases version <;> decide

/-- The version of a tag is the one that it names. -/
theorem ofTagOrDefault_eq_ok_iff {tag : String} {version : Version} :
    ofTagOrDefault tag = .ok version ↔ NamedBy tag version := by
  unfold ofTagOrDefault
  by_cases hblank : Text.isBlank tag = true
  · rw [if_pos hblank]
    constructor
    · rintro ⟨⟩
      exact .usual hblank
    · intro hnamed
      cases hnamed with
      | usual _ => rfl
      | tagged _ htag =>
        rw [(Text.isBlank_iff_trim_eq tag).mp hblank] at htag
        exact absurd htag.symm version.tag_ne_empty
  · rw [if_neg hblank]
    constructor
    · intro hok
      refine .tagged version ?_
      simp only [ofTag] at hok
      split at hok
      · cases hok
        assumption
      split at hok
      · cases hok
        assumption
      split at hok
      · cases hok
        assumption
      · cases hok
    · intro hnamed
      cases hnamed with
      | usual h => exact absurd h hblank
      | tagged _ htag =>
        rw [ofTag, htag]
        cases version <;> rfl

/-- A tag that names no version is a fault of the configuration. -/
theorem kind_of_ofTagOrDefault_error {tag : String} {e : Error}
    (herror : ofTagOrDefault tag = .error e) : e.kind = .configInvalid := by
  simp only [ofTagOrDefault, ofTag] at herror
  split at herror
  · cases herror
  repeat' split at herror
  all_goals cases herror
  rfl

end Server.Version

/-- Key material that cannot be read is invalid. -/
theorem Key.Rsa.kind_of_ofMaterial_error {text : String} {e : Error}
    (herror : Key.Rsa.ofMaterial text = .error e) : e.kind = .keyInvalid := by
  unfold ofMaterial ofBlock at herror
  repeat' split at herror
  all_goals cases herror
  all_goals rfl

/-- A secret has one text. -/
theorem Sources.HasSecret.eq {sources : Sources} {key text other : String}
    (htext : sources.HasSecret key text) (hother : sources.HasSecret key other) :
    text = other := by
  obtain ⟨secret, raw, hservice, hanswer, rfl⟩ := htext
  obtain ⟨secret', raw', hservice', hanswer', rfl⟩ := hother
  rw [hservice, Option.some.injEq] at hservice'
  rw [← hservice', hanswer, Except.ok.injEq, Option.some.injEq] at hanswer'
  rw [hanswer']

namespace Resolver

variable {around : Surroundings} {s : Resolver} {config : ServerConfig} {text : String}

/-! ## Contexts that are assembled -/

/-- The address of a host has no outer white space, and a slash at its end. -/
theorem withSlash_trim_address (host : String) (insecure : Bool) :
    Server.Context.withSlash (Text.trim (Server.Host.address host insecure)) =
      Server.Host.address host insecure := by
  have hlast : (Server.Host.address host insecure).toList.getLast? = some '/' := by
    simp [Server.Host.address, List.getLast?_cons]
  rw [(Server.Host.trimmed_address host insecure).trim_eq, Server.Context.withSlash, if_pos hlast]

/-- No context can be built from a configuration, whatever its key is. -/
inductive Unfit (config : ServerConfig) : Prop
  /-- The tag names no version. -/
  | version (hversion : ∀ version, ¬ Server.Version.NamedBy config.version version)
  /-- The server has no name. -/
  | serverId (hserver : Text.isBlank config.serverId = true)
  /-- There is no organization, and the version is not the oldest one. -/
  | organization (version : Server.Version)
      (hversion : Server.Version.NamedBy config.version version) (hneeds : version ≠ .v11)
      (horganization : Text.isBlank config.organization = true)

/-- A context is the one of a shared server that a configuration describes, with a key. -/
structure Suits (insecure : Bool) (config : ServerConfig) (key : Key.Rsa)
    (context : Server.Context) : Prop where
  kind : context.kind = .zone
  key : context.key = key
  serverId : context.serverId = Text.trim config.serverId
  username : context.username = Text.trim config.username
  organization : context.organization = Text.trim config.organization
  baseUri : context.baseUri = Server.Host.address config.host insecure
  version : Server.Version.NamedBy config.version context.version
  organizationPath : context.organizationPath =
    if context.version = .v11 then ""
    else "organizations/" ++ Text.trim config.organization ++ "/"
  roles : context.roles = config.roles
  regions : context.regions = config.regions
  dataBagNames : context.dataBagNames = config.dataBags

/-- The draft of a configuration stands for the context that suits it. -/
theorem suits_context (insecure : Bool) (key : Key.Rsa) {version : Server.Version}
    (hversion : Server.Version.NamedBy config.version version) :
    Suits insecure config key
      ((draft insecure config config.username key version .zone).context key) := by
  have huri := withSlash_trim_address config.host insecure
  constructor
  case organizationPath => cases version <;> rfl
  case version => exact hversion
  all_goals simp only [Server.Context.Draft.context, draft, Option.getD_some, huri]

/-- The draft of a configuration that is fit for a context is complete. -/
theorem complete_of_fit (insecure : Bool) (key : Key.Rsa) {version : Server.Version}
    (husername : Text.isBlank config.username = false)
    (hversion : Server.Version.NamedBy config.version version) (hfit : ¬ Unfit config) :
    (draft insecure config config.username key version .zone).Complete key := by
  constructor
  case serverId => exact Bool.eq_false_iff.mpr fun hblank => hfit (.serverId hblank)
  case baseUri => exact isBlank_address config.host insecure
  case username => exact husername
  case key => rfl
  case organization =>
    intro hneeds
    have hnewer := (Server.Version.hasOrganizations_iff version).mp hneeds
    exact Bool.eq_false_iff.mpr fun hblank => hfit (.organization version hversion hnewer hblank)

/-- A configuration from which a context is assembled is fit for one. -/
theorem not_unfit_of_assemble_ok {insecure : Bool} {username : String}
    {kind : Server.ContextKind} {context : Server.Context}
    (hassemble : assemble insecure config text username kind = .ok context) : ¬ Unfit config := by
  obtain ⟨-, -, hserver, -, -⟩ := eq_of_assemble_ok hassemble
  obtain ⟨-, version, hversion, horganization⟩ := flawless_of_assemble_ok hassemble
  intro hunfit
  cases hunfit with
  | version hunknown =>
    exact hunknown version (Server.Version.ofTagOrDefault_eq_ok_iff.mp hversion)
  | serverId hblank => simp [hserver] at hblank
  | organization other hnamed hneeds hblank =>
    rw [Server.Version.ofTagOrDefault_eq_ok_iff.mpr hnamed, Except.ok.injEq] at hversion
    rw [hversion, ← Server.Version.hasOrganizations_iff] at hneeds
    simp [horganization hneeds] at hblank

/-- A context is assembled with a key that can be read exactly if the configuration is fit for
it, and then it suits the configuration. -/
theorem assemble_cases (insecure : Bool) {key : Key.Rsa}
    (husername : Text.isBlank config.username = false)
    (hkey : Key.Rsa.ofMaterial text = .ok key) :
    (Unfit config ∧ ∃ e, assemble insecure config text config.username .zone = .error e ∧
        e.kind = .configInvalid) ∨
      (¬ Unfit config ∧ ∃ context,
        assemble insecure config text config.username .zone = .ok context ∧
          Suits insecure config key context) := by
  have hassemble : assemble insecure config text config.username .zone =
      Server.Version.ofTagOrDefault config.version >>= fun version =>
        (draft insecure config config.username key version .zone).build := by
    unfold assemble
    rw [hkey]
    dsimp only [bind, Except.bind]
  by_cases hunfit : Unfit config
  · refine Or.inl ⟨hunfit, ?_⟩
    cases hresult : assemble insecure config text config.username .zone with
    | ok context => exact absurd hunfit (not_unfit_of_assemble_ok hresult)
    | error e =>
      refine ⟨e, rfl, ?_⟩
      rw [hassemble] at hresult
      rcases exists_of_bind_error hresult with hversion | ⟨version, -, hbuild⟩
      · exact Server.Version.kind_of_ofTagOrDefault_error hversion
      · exact Server.Context.Draft.kind_of_build_error hbuild
  · refine Or.inr ⟨hunfit, ?_⟩
    cases hversion : Server.Version.ofTagOrDefault config.version with
    | error e =>
      refine absurd (.version fun version hnamed => ?_) hunfit
      rw [Server.Version.ofTagOrDefault_eq_ok_iff.mpr hnamed] at hversion
      cases hversion
    | ok version =>
      have hnamed := Server.Version.ofTagOrDefault_eq_ok_iff.mp hversion
      have hbuild := (complete_of_fit insecure key husername hnamed hunfit).build_eq
      refine ⟨_, ?_, suits_context insecure key hnamed⟩
      rw [hassemble, hversion, ← hbuild]
      dsimp only [bind, Except.bind]

/-- A context is not assembled without a key. -/
theorem assemble_of_unreadable (insecure : Bool) (username : String)
    (kind : Server.ContextKind) {e : Error} (hkey : Key.Rsa.ofMaterial text = .error e) :
    assemble insecure config text username kind =
      .error (e.withOperation ("resolve chef server " ++ config.serverId)) := by
  unfold assemble
  rw [hkey]
  dsimp only [bind, Except.bind]

/-! ## Secrets and gaps -/

/-- The secret that a configuration names cannot be asked for. -/
inductive SecretFails (around : Surroundings) (config : ServerConfig) : Error → Prop
  /-- There is no secret store. -/
  | unserved (hnamed : Text.isBlank config.clientKey = false)
      (hservice : around.sources.secret = none) :
      SecretFails around config (Backend.noSecrets "lookup")
  /-- The secret store fails. -/
  | failed (e : Error) (secret : String → Except Error (Option String))
      (hnamed : Text.isBlank config.clientKey = false)
      (hservice : around.sources.secret = some secret)
      (hanswer : secret config.clientKey = .error e) : SecretFails around config e

/-- Something is lacking for the context of a shared server. -/
inductive Lacks (around : Surroundings) (config : ServerConfig) : Prop
  /-- The server has no host. -/
  | host (hhost : Text.isBlank config.host = true)
  /-- The server names no client. -/
  | username (husername : Text.isBlank config.username = true)
  /-- The server names no secret. -/
  | clientKey (hname : Text.isBlank config.clientKey = true)
  /-- There is no secret by the name. -/
  | secret (secret : String → Except Error (Option String))
      (hservice : around.sources.secret = some secret)
      (hanswer : secret config.clientKey = .ok none)
  /-- The secret is blank. -/
  | text (text : String) (hsecret : around.sources.HasSecret config.clientKey text)
      (htext : Text.isBlank text = true)

/-- Everything is there for the context of a shared server. -/
structure Supplied (around : Surroundings) (config : ServerConfig) (text : String) : Prop where
  host : Text.isBlank config.host = false
  username : Text.isBlank config.username = false
  clientKey : Text.isBlank config.clientKey = false
  secret : around.sources.HasSecret config.clientKey text
  text : Text.isBlank text = false

/-- A failing secret store is asked for the secret that is named. -/
theorem SecretFails.named {e : Error} (hfails : SecretFails around config e) :
    Text.isBlank config.clientKey = false := by
  cases hfails with
  | unserved hnamed => exact hnamed
  | failed _ _ hnamed => exact hnamed

/-- A secret store that is there fails with its answer. -/
theorem SecretFails.answer {e : Error} {secret : String → Except Error (Option String)}
    (hfails : SecretFails around config e) (hservice : around.sources.secret = some secret) :
    secret config.clientKey = .error e := by
  cases hfails with
  | unserved _ hmissing => simp [hservice] at hmissing
  | failed _ other _ hother hanswer =>
    rw [hservice, Option.some.injEq] at hother
    rwa [hother]

/-- The secret store fails in one way. -/
theorem SecretFails.eq {e e' : Error} (hfails : SecretFails around config e)
    (hfails' : SecretFails around config e') : e = e' := by
  cases hfails with
  | unserved _ hmissing =>
    cases hfails' with
    | unserved => rfl
    | failed _ secret _ hservice => simp [hservice] at hmissing
  | failed _ secret _ hservice hanswer =>
    have hsame := hfails'.answer hservice
    rwa [hanswer, Except.error.injEq] at hsame

/-- A secret that is there was asked for without a failure. -/
theorem not_fails_of_hasSecret (hsecret : around.sources.HasSecret config.clientKey text)
    (e : Error) : ¬ SecretFails around config e := by
  obtain ⟨secret, raw, hservice, hanswer, -⟩ := hsecret
  intro hfails
  simp [hfails.answer hservice] at hanswer

/-- Where everything is there, nothing is lacking. -/
theorem Supplied.not_lacks (hsupplied : Supplied around config text) :
    ¬ Lacks around config := by
  intro hlacks
  cases hlacks with
  | host hblank => simp [hsupplied.host] at hblank
  | username hblank => simp [hsupplied.username] at hblank
  | clientKey hblank => simp [hsupplied.clientKey] at hblank
  | secret secret hservice hanswer =>
    obtain ⟨secret', raw, hservice', hanswer', -⟩ := hsupplied.secret
    rw [hservice, Option.some.injEq] at hservice'
    rw [← hservice', hanswer] at hanswer'
    cases hanswer'
  | text other hother hblank =>
    rw [hother.eq hsupplied.secret, hsupplied.text] at hblank
    cases hblank

/-- The secret that a configuration names is asked for, and the resolver stays as it is. -/
theorem secretMaterial_cases (around : Surroundings) (config : ServerConfig) (s : Resolver) :
    (∃ e events, SecretFails around config e ∧
        secretMaterial around config s = ⟨.error e, s, events⟩) ∨
      (∃ events, (∀ e, ¬ SecretFails around config e) ∧ Lacks around config ∧
        secretMaterial around config s = ⟨.ok none, s, events⟩) ∨
      ∃ text events, Text.isBlank config.clientKey = false ∧
        around.sources.HasSecret config.clientKey text ∧
        secretMaterial around config s = ⟨.ok (some text), s, events⟩ := by
  unfold secretMaterial
  by_cases hnamed : Text.isBlank config.clientKey = true
  · rw [if_pos hnamed]
    refine Or.inr (Or.inl ⟨[], fun e hfails => ?_, .clientKey hnamed, rfl⟩)
    simp [hfails.named] at hnamed
  · rw [if_neg hnamed, Sources.askSecret, Sources.askRawSecret]
    rw [Bool.not_eq_true] at hnamed
    cases hservice : around.sources.secret with
    | none => exact Or.inl ⟨_, _, .unserved hnamed hservice, rfl⟩
    | some secret =>
      have hasked := Sources.ask_apply (.secret config.clientKey) (secret config.clientKey) s
      dsimp only
      cases hanswer : secret config.clientKey with
      | error e =>
        rw [hanswer] at hasked
        rw [Action.bind_eq_of_error hasked]
        exact Or.inl ⟨e, _, .failed e secret hnamed hservice hanswer, rfl⟩
      | ok found =>
        rw [hanswer] at hasked
        rw [Action.bind_eq_of_ok hasked]
        cases found with
        | none =>
          refine Or.inr (Or.inl ⟨_, fun e hfails => ?_, .secret secret hservice hanswer, rfl⟩)
          simp [hfails.answer hservice] at hanswer
        | some raw =>
          exact Or.inr (Or.inr ⟨_, _, hnamed, ⟨secret, raw, hservice, hanswer, rfl⟩, rfl⟩)

/-! ## The ends of a resolution -/

/-- How the resolution of a shared server may end, if nothing is kept. -/
inductive Course (around : Surroundings) (config : ServerConfig) (s : Resolver) :
    Except Error (Option Issued) → Prop
  /-- The secret store fails. -/
  | unanswered (e : Error) (hfails : SecretFails around config e) :
      Course around config s (.error e)
  /-- Something is lacking. -/
  | lacking (hanswered : ∀ e, ¬ SecretFails around config e) (hlacks : Lacks around config) :
      Course around config s (.ok none)
  /-- The key cannot be read. -/
  | unreadable (text : String) (e : Error) (hsupplied : Supplied around config text)
      (hkey : Key.Rsa.ofMaterial text = .error e) :
      Course around config s
        (.error (e.withOperation ("resolve chef server " ++ config.serverId)))
  /-- No context can be built. -/
  | unfit (text : String) (key : Key.Rsa) (e : Error) (hsupplied : Supplied around config text)
      (hkey : Key.Rsa.ofMaterial text = .ok key) (hunfit : Unfit config)
      (hkind : e.kind = .configInvalid) : Course around config s (.error e)
  /-- The context is issued. -/
  | issued (text : String) (key : Key.Rsa) (context : Server.Context)
      (hsupplied : Supplied around config text) (hkey : Key.Rsa.ofMaterial text = .ok key)
      (hfit : ¬ Unfit config) (hsuits : Suits s.insecure config key context) :
      Course around config s (.ok (some ⟨s.issued, context⟩))

/-- A construction with a secret that is there ends in one of these ways. -/
theorem construct_course (hempty : ∀ key v, ¬ s.cache.Holds key v)
    (hnamed : Text.isBlank config.clientKey = false)
    (hsecret : around.sources.HasSecret config.clientKey text) :
    Course around config s
      (construct around config (some text) config.username .zone s).result := by
  have habsent := hempty config.serverId
  have hanswered := not_fails_of_hasSecret hsecret
  by_cases hlacks : Text.isBlank config.host = true ∨ Text.isBlank config.username = true ∨
      Text.isBlank text = true
  · have hgap : Lacks around config := by
      rcases hlacks with hblank | hblank | hblank
      · exact .host hblank
      · exact .username hblank
      · exact .text text hsecret hblank
    have hunusable : Text.isBlank text = true →
        ∀ other, some text = some other → Text.isBlank other = true := by
      rintro hblank _ ⟨⟩
      exact hblank
    obtain ⟨warning, hconstruct⟩ := construct_of_unusable around config.username .zone habsent
      (hlacks.imp_right (Or.imp_right hunusable))
    rw [hconstruct]
    exact .lacking hanswered hgap
  · simp only [not_or, Bool.not_eq_true] at hlacks
    obtain ⟨hhost, husername, htext⟩ := hlacks
    have hsupplied : Supplied around config text := ⟨hhost, husername, hnamed, hsecret, htext⟩
    cases hkey : Key.Rsa.ofMaterial text with
    | error e =>
      have hassemble : assemble s.insecure config text config.username .zone = .error _ :=
        assemble_of_unreadable s.insecure config.username .zone hkey
      rw [construct_of_flawed habsent hhost husername htext hassemble]
      exact .unreadable text e hsupplied hkey
    | ok key =>
      rcases assemble_cases s.insecure husername hkey with
        ⟨hunfit, e, hassemble, hkind⟩ | ⟨hfit, context, hassemble, hsuits⟩
      · rw [construct_of_flawed habsent hhost husername htext hassemble]
        exact .unfit text key e hsupplied hkey hunfit hkind
      · rw [construct_of_absent habsent hhost husername htext hassemble]
        exact .issued text key context hsupplied hkey hfit hsuits

/-- How the resolution of a shared server may end, if nothing is kept. -/
theorem resolve_course (around : Surroundings) (config : ServerConfig)
    (hempty : ∀ key v, ¬ s.cache.Holds key v) :
    Course around config s (resolve around config s).result := by
  have habsent := hempty config.serverId
  rw [resolve, Action.bind_eq_of_ok (lookupKind_of_absent .zone habsent)]
  dsimp only
  rcases secretMaterial_cases around config s with ⟨e, events, hfails, hmaterial⟩ |
    ⟨events, hanswered, hlacks, hmaterial⟩ | ⟨text, events, hnamed, hsecret, hmaterial⟩
  · rw [Action.bind_eq_of_error hmaterial]
    exact .unanswered e hfails
  · rw [Action.bind_eq_of_ok hmaterial]
    have hnone : ∀ text, none = some text → Text.isBlank text = true := by simp
    obtain ⟨warning, hconstruct⟩ := construct_of_unusable around config.username .zone habsent
      (Or.inr (Or.inr hnone))
    rw [hconstruct]
    exact .lacking hanswered hlacks
  · rw [Action.bind_eq_of_ok hmaterial]
    exact construct_course hempty hnamed hsecret

/-- What becomes of the resolution of a shared server, if nothing is kept.  A failure of the
secret store is passed on.  Otherwise there is no context, and no failure, exactly if something
is lacking, whatever else is wrong.  Otherwise the key is invalid exactly if it cannot be read,
and the failure names the server.  Otherwise the configuration is invalid exactly if no context
can be built from it.  Otherwise there is the context that the configuration describes. -/
theorem shared_server_law (around : Surroundings) (config : ServerConfig) {s : Resolver}
    (hempty : s.cache.entries = []) :
    (∀ e, SecretFails around config e → (resolve around config s).result = .error e) ∧
      ((∀ e, ¬ SecretFails around config e) →
        ((resolve around config s).result = .ok none ↔ Lacks around config) ∧
        (¬ Lacks around config →
          ∃ text, around.sources.HasSecret config.clientKey text ∧
            ((∃ e, (resolve around config s).result = .error e ∧ e.kind = .keyInvalid ∧
                e.operation = some ("resolve chef server " ++ config.serverId)) ↔
              ∃ e, Key.Rsa.ofMaterial text = .error e) ∧
            ∀ key, Key.Rsa.ofMaterial text = .ok key →
              ((∃ e, (resolve around config s).result = .error e ∧ e.kind = .configInvalid) ↔
                Unfit config) ∧
              (¬ Unfit config → ∃ v, (resolve around config s).result = .ok (some v) ∧
                Suits s.insecure config key v.context))) := by
  have habsent : ∀ key v, ¬ s.cache.Holds key v := by
    rintro key v ⟨entry, hentry, -⟩
    rw [hempty] at hentry
    cases hentry
  have hcourse := resolve_course around config habsent
  generalize (resolve around config s).result = result at hcourse
  cases hcourse with
  | unanswered e hfails =>
    refine ⟨fun e' hfails' => by rw [hfails.eq hfails'], fun hanswered => ?_⟩
    exact absurd hfails (hanswered e)
  | lacking hanswered hlacks =>
    exact ⟨fun e hfails => absurd hfails (hanswered e),
      fun _ => ⟨⟨fun _ => hlacks, fun _ => rfl⟩, absurd hlacks⟩⟩
  | unreadable text e hsupplied hkey =>
    refine ⟨fun e' hfails => absurd hfails (not_fails_of_hasSecret hsupplied.secret e'),
      fun _ => ⟨?_, fun _ => ⟨text, hsupplied.secret, ?_, ?_⟩⟩⟩
    · simp [hsupplied.not_lacks]
    · have hkind := Key.Rsa.kind_of_ofMaterial_error hkey
      simp [hkey, hkind]
    · simp [hkey]
  | unfit text key e hsupplied hkey hunfit hkind =>
    refine ⟨fun e' hfails => absurd hfails (not_fails_of_hasSecret hsupplied.secret e'),
      fun _ => ⟨?_, fun _ => ⟨text, hsupplied.secret, ?_, ?_⟩⟩⟩
    · simp [hsupplied.not_lacks]
    · simp [hkey, hkind]
    · simp [hkey, hkind, hunfit]
  | issued text key context hsupplied hkey hfit hsuits =>
    refine ⟨fun e' hfails => absurd hfails (not_fails_of_hasSecret hsupplied.secret e'),
      fun _ => ⟨?_, fun _ => ⟨text, hsupplied.secret, ?_, ?_⟩⟩⟩
    · simp [hsupplied.not_lacks]
    · simp [hkey]
    · simp [hkey, hfit, hsuits]

/-- In the small world everything is there for the context of the server. -/
theorem supplied_small (owner : Tenancy) (username : String) :
    Supplied (smallWorld "chef-1" owner username) (smallServer "chef-1") smallKeyFile := by
  have hunescape : smallKeyFile = Text.unescape smallKeyFile := by
    decide +kernel
  have hroot : Text.isBlank "root" = false :=
    Text.isBlank_of_mem (c := 'r') (by decide) (by decide)
  exact ⟨isBlank_host_small, hroot, isBlank_clientKey_small,
    ⟨_, smallKeyFile, rfl, rfl, hunescape⟩, isBlank_smallKeyFile⟩

/-- The server of the small world has its context.  Without a host it has none, and that is no
failure, though its version is not known either. -/
theorem shared_server_law_small :
    (ofSettings .default).cache.entries = [] ∧
      (∃ v, (resolve (smallWorld "chef-1" ⟨"acme", "eu"⟩ "alice") (smallServer "chef-1")
          (ofSettings .default)).result = .ok (some v) ∧
        Suits false (smallServer "chef-1") ⟨55, 3, 7⟩ v.context) ∧
      (resolve (smallWorld "chef-1" ⟨"acme", "eu"⟩ "alice")
          { smallServer "chef-1" with host := " ", version := "9" }
          (ofSettings .default)).result = .ok none := by
  have hsupplied := supplied_small ⟨"acme", "eu"⟩ "alice"
  obtain ⟨-, hends⟩ := shared_server_law (smallWorld "chef-1" ⟨"acme", "eu"⟩ "alice")
    (smallServer "chef-1") (s := ofSettings .default) rfl
  obtain ⟨text, hsecret, -, hread⟩ :=
    (hends (not_fails_of_hasSecret hsupplied.secret)).2 hsupplied.not_lacks
  obtain rfl := hsecret.eq hsupplied.secret
  have hnamed : Text.isBlank "chef-1" = false :=
    Text.isBlank_of_mem (c := 'c') (by decide) (by decide)
  have hroot : Text.isBlank "root" = false :=
    Text.isBlank_of_mem (c := 'r') (by decide) (by decide)
  obtain ⟨context, hassemble⟩ := exists_assemble_small .zone hnamed hroot
  have hfit := not_unfit_of_assemble_ok hassemble
  obtain ⟨-, hgap⟩ := shared_server_law (smallWorld "chef-1" ⟨"acme", "eu"⟩ "alice")
    { smallServer "chef-1" with host := " ", version := "9" } (s := ofSettings .default) rfl
  have hblank : Text.isBlank " " = true := by decide
  exact ⟨rfl, (hread _ ofMaterial_smallKeyFile).2 hfit,
    (hgap (not_fails_of_hasSecret hsupplied.secret)).1.mpr (.host hblank)⟩

end Resolver
end ChefAccess
