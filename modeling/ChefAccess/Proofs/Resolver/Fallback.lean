import ChefAccess.Proofs.Resolver.Fresh

/-!
# Falling back on the server of a region

A tenant uses its own server, or else the one that its region shares.  Gaps in the
configuration of its own server lead to the shared one, but failures do not: a tenant whose
store is down or whose key cannot be read is not sent to a server that it shares with others.

Main definitions:

- {lit}`Resolver.ReadsAnswered`: everything that is asked about a tenant's own server is
  answered.
- {lit}`Resolver.Gap`: what a tenant lacks for a server of its own.
- {lit}`Resolver.Flaw`: what keeps a context from being assembled.
- {lit}`Resolver.GivesOwn`, {lit}`Resolver.Fails` and {lit}`Resolver.FallsBack`: the three ways
  in which a tenant in a region is served.

Main results:

- Theorem {lit}`Resolver.resolveProject_course`: how the resolution of a tenant's own server
  may end.
- Theorem {lit}`Resolver.fallback_law`: when a tenant falls back on the shared server.
-/

namespace ChefAccess

/-- A file has one text. -/
theorem Sources.HasText.eq {sources : Sources} {path text other : String}
    (htext : sources.HasText path text) (hother : sources.HasText path other) : text = other := by
  obtain ⟨file, bytes, hservice, hanswer, rfl⟩ := htext
  obtain ⟨file', bytes', hservice', hanswer', rfl⟩ := hother
  rw [hservice, Option.some.injEq] at hservice'
  rw [← hservice', hanswer, Except.ok.injEq] at hanswer'
  rw [hanswer']

namespace Resolver

variable {around : Surroundings} {s : Resolver} {tenancy : Tenancy}

/-! ## Answers, gaps and flaws -/

/-- Everything that is asked about a tenant's own server is answered: the mapping; the server,
if the mapping names one that the tenant manages; and the key file, if there is the server and
the mapping refers to a file. -/
def ReadsAnswered (around : Surroundings) (tenancy : Tenancy) : Prop :=
  ∃ found, around.sources.tenant tenancy = .ok found ∧
    ∀ mapping, found = some mapping → Text.isBlank mapping.serverId = false →
      mapping.mode = .external →
      ∃ configured, around.sources.server mapping.serverId = .ok configured ∧
        ∀ server, configured = some server →
          ∀ token, Blobs.token? mapping.apiKeyUrl = some token →
            ∃ text, around.sources.HasText token text

/-- What a tenant lacks for a server of its own. -/
inductive Gap (around : Surroundings) (tenancy : Tenancy) : Prop
  /-- The tenant has no mapping. -/
  | mapping (htenant : around.sources.tenant tenancy = .ok none)
  /-- The mapping names no server. -/
  | name (mapping : TenantConfig) (htenant : around.sources.tenant tenancy = .ok (some mapping))
      (hname : Text.isBlank mapping.serverId = true)
  /-- The tenant does not manage the server. -/
  | mode (mapping : TenantConfig) (htenant : around.sources.tenant tenancy = .ok (some mapping))
      (hmode : mapping.mode ≠ .external)
  /-- The server is not configured. -/
  | server (mapping : TenantConfig)
      (htenant : around.sources.tenant tenancy = .ok (some mapping))
      (hserver : around.sources.server mapping.serverId = .ok none)
  /-- The server has no host. -/
  | host (mapping : TenantConfig) (server : ServerConfig)
      (htenant : around.sources.tenant tenancy = .ok (some mapping))
      (hserver : around.sources.server mapping.serverId = .ok (some server))
      (hhost : Text.isBlank server.host = true)
  /-- Neither the tenant nor the server names a client. -/
  | client (mapping : TenantConfig) (server : ServerConfig)
      (htenant : around.sources.tenant tenancy = .ok (some mapping))
      (hserver : around.sources.server mapping.serverId = .ok (some server))
      (hclient : Text.isBlank (clientName mapping server) = true)
  /-- The mapping refers to no key file. -/
  | token (mapping : TenantConfig) (htenant : around.sources.tenant tenancy = .ok (some mapping))
      (htoken : Blobs.token? mapping.apiKeyUrl = none)
  /-- The key file is blank. -/
  | text (mapping : TenantConfig) (token text : String)
      (htenant : around.sources.tenant tenancy = .ok (some mapping))
      (htoken : Blobs.token? mapping.apiKeyUrl = some token)
      (hfile : around.sources.HasText token text) (htext : Text.isBlank text = true)

/-- A tenant has everything that a context of its own server is assembled from. -/
structure Ready (around : Surroundings) (tenancy : Tenancy) (mapping : TenantConfig)
    (server : ServerConfig) (text : String) : Prop where
  maps : Maps around tenancy mapping server
  host : Text.isBlank server.host = false
  client : Text.isBlank (clientName mapping server) = false
  file : ∃ token, Blobs.token? mapping.apiKeyUrl = some token ∧
    around.sources.HasText token text
  text : Text.isBlank text = false

/-- What keeps a context from being assembled. -/
inductive Flaw (server : ServerConfig) (text : String) : Prop
  /-- The key cannot be read. -/
  | key (e : Error) (hkey : Key.Rsa.ofMaterial text = .error e)
  /-- The version is not known. -/
  | version (e : Error) (hversion : Server.Version.ofTagOrDefault server.version = .error e)
  /-- There is no organization where one is needed. -/
  | organization (version : Server.Version)
      (hversion : Server.Version.ofTagOrDefault server.version = .ok version)
      (hneeds : version.hasOrganizations = true)
      (horganization : Text.isBlank server.organization = true)

/-- A journal in which neither a secret nor the server of a region is asked for. -/
def Unshared (events : List Event) : Prop :=
  ∀ query, .asked query ∈ events →
    (∀ region, query ≠ .regionServer region) ∧ ∀ key, query ≠ .secret key

theorem Unshared.append {front back : List Event} (hfront : Unshared front)
    (hback : Unshared back) : Unshared (front ++ back) := by
  intro query hquery
  rcases List.mem_append.mp hquery with hmem | hmem
  · exact hfront query hmem
  · exact hback query hmem

/-- A tenant that is ready has got all answers. -/
theorem Ready.readsAnswered {mapping : TenantConfig} {server : ServerConfig} {text : String}
    (hready : Ready around tenancy mapping server text) : ReadsAnswered around tenancy := by
  refine ⟨some mapping, hready.maps.tenant, ?_⟩
  rintro _ ⟨⟩ _ _
  refine ⟨some server, hready.maps.server, ?_⟩
  rintro _ ⟨⟩ token htoken
  obtain ⟨found, hfound, hfile⟩ := hready.file
  rw [hfound, Option.some.injEq] at htoken
  rw [← htoken]
  exact ⟨text, hfile⟩

/-- A tenant that is ready lacks nothing. -/
theorem Ready.not_gap {mapping : TenantConfig} {server : ServerConfig} {text : String}
    (hready : Ready around tenancy mapping server text) : ¬ Gap around tenancy := by
  have hmapping : ∀ other, around.sources.tenant tenancy = .ok (some other) →
      other = mapping := by
    intro other htenant
    rw [hready.maps.tenant] at htenant
    exact (Option.some.inj (Except.ok.inj htenant)).symm
  have hconfigured : ∀ other, around.sources.server mapping.serverId = .ok (some other) →
      other = server := by
    intro other hserver
    rw [hready.maps.server] at hserver
    exact (Option.some.inj (Except.ok.inj hserver)).symm
  obtain ⟨token, htoken, hfile⟩ := hready.file
  intro hgap
  cases hgap with
  | mapping htenant =>
    rw [hready.maps.tenant] at htenant
    cases htenant
  | name other htenant hname =>
    rw [hmapping other htenant, hready.maps.named] at hname
    cases hname
  | mode other htenant hmode =>
    rw [hmapping other htenant] at hmode
    exact hmode hready.maps.mode
  | server other htenant hserver =>
    rw [hmapping other htenant, hready.maps.server] at hserver
    cases hserver
  | host other found htenant hserver hhost =>
    rw [hmapping other htenant] at hserver
    rw [hconfigured found hserver, hready.host] at hhost
    cases hhost
  | client other found htenant hserver hclient =>
    rw [hmapping other htenant] at hserver hclient
    rw [hconfigured found hserver, hready.client] at hclient
    cases hclient
  | token other htenant hmissing =>
    rw [hmapping other htenant, htoken] at hmissing
    cases hmissing
  | text other path text htenant hpath hread hblank =>
    rw [hmapping other htenant, htoken, Option.some.injEq] at hpath
    rw [← hpath] at hread
    rw [hread.eq hfile, hready.text] at hblank
    cases hblank

/-- What a tenant is ready with is determined by the surroundings. -/
theorem Ready.unique {mapping mapping' : TenantConfig} {server server' : ServerConfig}
    {text text' : String} (hready : Ready around tenancy mapping server text)
    (hready' : Ready around tenancy mapping' server' text') :
    mapping = mapping' ∧ server = server' ∧ text = text' := by
  have htenant := hready.maps.tenant
  rw [hready'.maps.tenant, Except.ok.injEq, Option.some.injEq] at htenant
  subst htenant
  have hserver := hready.maps.server
  rw [hready'.maps.server, Except.ok.injEq, Option.some.injEq] at hserver
  obtain ⟨token, htoken, hfile⟩ := hready.file
  obtain ⟨token', htoken', hfile'⟩ := hready'.file
  rw [htoken, Option.some.injEq] at htoken'
  rw [← htoken'] at hfile'
  exact ⟨rfl, hserver.symm, hfile.eq hfile'⟩

/-- A flaw keeps a context from being assembled. -/
theorem Flaw.exists_error {server : ServerConfig} {text : String} (hflaw : Flaw server text)
    (insecure : Bool) (username : String) (kind : Server.ContextKind) :
    ∃ e, assemble insecure server text username kind = .error e := by
  cases hassemble : assemble insecure server text username kind with
  | error e => exact ⟨e, rfl⟩
  | ok context =>
    obtain ⟨hkey, version, hversion, horganization⟩ := flawless_of_assemble_ok hassemble
    cases hflaw with
    | key e hunreadable =>
      rw [hunreadable] at hkey
      cases hkey
    | version e hunknown =>
      rw [hunknown] at hversion
      cases hversion
    | organization other hknown hneeds hblank =>
      rw [hknown, Except.ok.injEq] at hversion
      rw [hversion] at hneeds
      rw [horganization hneeds] at hblank
      cases hblank

/-! ## Constructions that issue nothing -/

section Construct

variable {config : ServerConfig} {username text : String} {kind : Server.ContextKind}

/-- Without a host, a client or key material there is no context, but a warning. -/
theorem construct_of_unusable (around : Surroundings) (username : String)
    (kind : Server.ContextKind) {material : Option String}
    (habsent : ∀ v, ¬ s.cache.Holds config.serverId v)
    (hunusable : Text.isBlank config.host = true ∨ Text.isBlank username = true ∨
      ∀ text, material = some text → Text.isBlank text = true) :
    ∃ warning, construct around config material username kind s =
      ⟨.ok none, s, [.warning warning]⟩ := by
  rw [construct, Action.bind_eq_of_ok (lookupKind_of_absent kind habsent)]
  dsimp only
  split
  case isTrue => exact ⟨_, rfl⟩
  case isFalse hhost =>
    split
    case isTrue => exact ⟨_, rfl⟩
    case isFalse husername =>
      have hmaterial : material.filter (fun text => !Text.isBlank text) = none := by
        rcases hunusable with hblank | hblank | hblank
        · exact absurd hblank hhost
        · exact absurd hblank husername
        · refine Option.filter_eq_none_iff.mpr ?_
          intro text htext
          simp [hblank text htext]
      rw [hmaterial]
      exact ⟨_, rfl⟩

/-- A context that cannot be assembled is a failure. -/
theorem construct_of_flawed {e : Error} (habsent : ∀ v, ¬ s.cache.Holds config.serverId v)
    (hhost : Text.isBlank config.host = false) (husername : Text.isBlank username = false)
    (htext : Text.isBlank text = false)
    (hassemble : assemble s.insecure config text username kind = .error e) :
    construct around config (some text) username kind s = ⟨.error e, s, []⟩ := by
  have hmaterial : (some text).filter (fun text => !Text.isBlank text) = some text := by
    simp [htext]
  rw [construct, Action.bind_eq_of_ok (lookupKind_of_absent kind habsent)]
  simp only [hhost, husername, hmaterial, Bool.false_eq_true, if_false]
  rw [Action.read_bind, hassemble, Action.ofExcept_error_bind]
  rfl

end Construct

/-! ## The server of a tenant -/

/-- How the resolution of a tenant's own server may end, if nothing is kept.  Unless it issues
a context, it leaves the resolver as it was. -/
inductive ProjectCourse (around : Surroundings) (tenancy : Tenancy) (s : Resolver) :
    Outcome Resolver (Option Issued) → Prop
  /-- A question is not answered. -/
  | unanswered (e : Error) (events : List Event) (hreads : ¬ ReadsAnswered around tenancy)
      (hunshared : Unshared events) : ProjectCourse around tenancy s ⟨.error e, s, events⟩
  /-- The tenant lacks something. -/
  | lacking (events : List Event) (hreads : ReadsAnswered around tenancy)
      (hgap : Gap around tenancy) : ProjectCourse around tenancy s ⟨.ok none, s, events⟩
  /-- The context cannot be assembled. -/
  | flawed (mapping : TenantConfig) (server : ServerConfig) (text : String) (e : Error)
      (events : List Event) (hready : Ready around tenancy mapping server text)
      (hassemble : assemble s.insecure server text (clientName mapping server) .project =
        .error e)
      (hunshared : Unshared events) : ProjectCourse around tenancy s ⟨.error e, s, events⟩
  /-- The context is issued. -/
  | issued (mapping : TenantConfig) (server : ServerConfig) (text : String)
      (context : Server.Context) (t : Resolver) (events : List Event)
      (hready : Ready around tenancy mapping server text)
      (hassemble : assemble s.insecure server text (clientName mapping server) .project =
        .ok context) :
      ProjectCourse around tenancy s ⟨.ok (some ⟨s.issued, context⟩), t, events⟩

namespace ProjectCourse

variable {outcome : Outcome Resolver (Option Issued)}

/-- Events before the outcome do not matter, unless a secret or the server of a region is asked
for. -/
theorem prepend {events : List Event} (hcourse : ProjectCourse around tenancy s outcome)
    (hevents : Unshared events) :
    ProjectCourse around tenancy s
      ⟨outcome.result, outcome.state, events ++ outcome.events⟩ := by
  cases hcourse with
  | unanswered e later hreads hunshared =>
    exact .unanswered e _ hreads (hevents.append hunshared)
  | lacking later hreads hgap => exact .lacking _ hreads hgap
  | flawed mapping server text e later hready hassemble hunshared =>
    exact .flawed mapping server text e _ hready hassemble (hevents.append hunshared)
  | issued mapping server text context t later hready hassemble =>
    exact .issued mapping server text context t _ hready hassemble

/-- A first part with a known outcome, which leaves the resolver as it was, is left behind. -/
theorem bind {α : Type} {first : Action Resolver α}
    {next : α → Action Resolver (Option Issued)} {a : α} {events : List Event}
    (hfirst : first s = ⟨.ok a, s, events⟩) (hevents : Unshared events)
    (hnext : ProjectCourse around tenancy s (next a s)) :
    ProjectCourse around tenancy s ((first >>= next) s) := by
  rw [Action.bind_eq_of_ok hfirst]
  exact hnext.prepend hevents

end ProjectCourse

/-- A journal with one question that is not about a secret or a region. -/
theorem unshared_asked {query : Query} (hregion : ∀ region, query ≠ .regionServer region)
    (hsecret : ∀ key, query ≠ .secret key) : Unshared [.asked query] := by
  intro other hother
  obtain rfl := Event.asked.inj (List.mem_singleton.mp hother)
  exact ⟨hregion, hsecret⟩

theorem unshared_nil : Unshared [] :=
  fun _ hquery => nomatch hquery

/-- The key file of a tenant's server is read, or there is a failure. -/
theorem fileMaterial_of_token (around : Surroundings) {mapping : TenantConfig} {token : String}
    (htoken : Blobs.token? mapping.apiKeyUrl = some token) (s : Resolver) :
    (∃ text, around.sources.HasText token text ∧
        fileMaterial around mapping s = ⟨.ok (some text), s, [.asked (.file token)]⟩) ∨
      (¬ ∃ text, around.sources.HasText token text) ∧ ∃ e events, Unshared events ∧
        fileMaterial around mapping s = ⟨.error e, s, events⟩ := by
  by_cases hfile : ∃ text, around.sources.HasText token text
  · obtain ⟨text, hfile⟩ := hfile
    exact Or.inl ⟨text, hfile, fileMaterial_of_text htoken hfile s⟩
  · refine Or.inr ⟨hfile, ?_⟩
    rw [fileMaterial, htoken]
    dsimp only
    rw [Sources.askText, Sources.askFile]
    cases hservice : around.sources.file with
    | none => exact ⟨_, _, unshared_nil, rfl⟩
    | some file =>
      cases hanswer : file token with
      | error e =>
        refine ⟨e, [.asked (.file token)], ?_, ?_⟩
        · exact unshared_asked (by simp) (by simp)
        · simp only [hanswer]
          rfl
      | ok bytes => exact absurd ⟨_, file, bytes, hservice, hanswer, rfl⟩ hfile

/-- How the construction for a tenant that is mapped to a server may end. -/
theorem constructProject_course (hempty : ∀ key v, ¬ s.cache.Holds key v)
    {mapping : TenantConfig} {server : ServerConfig}
    (hmaps : Maps around tenancy mapping server) :
    ProjectCourse around tenancy s (constructProject around tenancy mapping server s) := by
  have hanswered : (∀ token, Blobs.token? mapping.apiKeyUrl = some token →
      ∃ text, around.sources.HasText token text) → ReadsAnswered around tenancy := by
    intro htokens
    refine ⟨some mapping, hmaps.tenant, ?_⟩
    rintro _ ⟨⟩ _ _
    refine ⟨some server, hmaps.server, ?_⟩
    rintro _ ⟨⟩ token htoken
    exact htokens token htoken
  have hserver := hempty server.serverId
  rw [constructProject]
  cases htoken : Blobs.token? mapping.apiKeyUrl with
  | none =>
    have hmaterial : fileMaterial around mapping s = ⟨.ok none, s, []⟩ := by
      rw [fileMaterial, htoken]
      rfl
    refine ProjectCourse.bind hmaterial unshared_nil ?_
    have hnone : ∀ text, none = some text → Text.isBlank text = true := by simp
    obtain ⟨warning, hconstruct⟩ := construct_of_unusable around (clientName mapping server)
      .project hserver (Or.inr (Or.inr hnone))
    rw [Action.bind_eq_of_ok hconstruct]
    refine .lacking _ (hanswered ?_) (.token mapping hmaps.tenant htoken)
    intro token hsome
    rw [htoken] at hsome
    cases hsome
  | some token =>
    rcases fileMaterial_of_token around htoken s with
      ⟨text, hfile, hmaterial⟩ | ⟨hunreadable, e, events, hunshared, hmaterial⟩
    · have hreads : ReadsAnswered around tenancy := by
        apply hanswered
        intro other hother
        rw [htoken, Option.some.injEq] at hother
        rw [← hother]
        exact ⟨text, hfile⟩
      refine ProjectCourse.bind hmaterial (unshared_asked (by simp) (by simp)) ?_
      by_cases hlacks : Text.isBlank server.host = true ∨
          Text.isBlank (clientName mapping server) = true ∨ Text.isBlank text = true
      · have hgap : Gap around tenancy := by
          rcases hlacks with hblank | hblank | hblank
          · exact .host mapping server hmaps.tenant hmaps.server hblank
          · exact .client mapping server hmaps.tenant hmaps.server hblank
          · exact .text mapping token text hmaps.tenant htoken hfile hblank
        have hmaterial : Text.isBlank text = true →
            ∀ other, some text = some other → Text.isBlank other = true := by
          rintro hblank _ ⟨⟩
          exact hblank
        obtain ⟨warning, hconstruct⟩ := construct_of_unusable around (clientName mapping server)
          .project hserver (hlacks.imp_right (Or.imp_right hmaterial))
        rw [Action.bind_eq_of_ok hconstruct]
        exact .lacking _ hreads hgap
      · simp only [not_or, Bool.not_eq_true] at hlacks
        obtain ⟨hhost, hclient, htext⟩ := hlacks
        have hready : Ready around tenancy mapping server text :=
          ⟨hmaps, hhost, hclient, ⟨token, htoken, hfile⟩, htext⟩
        cases hassemble : assemble s.insecure server text (clientName mapping server)
            .project with
        | error e =>
          rw [Action.bind_eq_of_error (construct_of_flawed hserver hhost hclient htext hassemble)]
          exact .flawed mapping server text e [] hready hassemble unshared_nil
        | ok context =>
          rw [Action.bind_eq_of_ok (construct_of_absent hserver hhost hclient htext hassemble)]
          exact .issued mapping server text context _ _ hready hassemble
    · rw [Action.bind_eq_of_error hmaterial]
      refine .unanswered e events ?_ hunshared
      rintro ⟨found, htenant, hfound⟩
      rw [hmaps.tenant, Except.ok.injEq] at htenant
      obtain ⟨configured, hconfigured, hread⟩ := hfound mapping htenant.symm hmaps.named hmaps.mode
      rw [hmaps.server, Except.ok.injEq] at hconfigured
      exact hunreadable (hread server hconfigured.symm token htoken)

/-- A mapping that names no server, or one that the tenant does not manage, leads to a
warning. -/
theorem projectServer_of_unmanaged (around : Surroundings) (tenancy : Tenancy)
    {mapping : TenantConfig}
    (hunmanaged : Text.isBlank mapping.serverId = true ∨ mapping.mode ≠ .external)
    (s : Resolver) :
    ∃ warning, projectServer around tenancy mapping s =
      ⟨.ok none, s, [.warning warning]⟩ := by
  rw [projectServer]
  by_cases hname : Text.isBlank mapping.serverId = true
  · simp only [hname, if_true]
    exact ⟨_, rfl⟩
  · simp only [hname, Bool.false_eq_true, if_false, if_pos (hunmanaged.resolve_left hname)]
    exact ⟨_, rfl⟩

/-- The server that a tenant manages is asked for, and may be missing. -/
theorem projectServer_of_managed (around : Surroundings) (tenancy : Tenancy)
    {mapping : TenantConfig} (hname : Text.isBlank mapping.serverId = false)
    (hmode : mapping.mode = .external) (s : Resolver) :
    ∃ warnings, Unshared warnings ∧ projectServer around tenancy mapping s =
      ⟨around.sources.server mapping.serverId, s,
        .asked (.server mapping.serverId) :: warnings⟩ := by
  rw [projectServer]
  simp only [hname, Bool.false_eq_true, if_false, if_neg (not_not_intro hmode)]
  rw [Sources.askServer]
  cases around.sources.server mapping.serverId with
  | error e => exact ⟨[], unshared_nil, rfl⟩
  | ok configured =>
    cases configured with
    | none =>
      refine ⟨[.warning _], ?_, rfl⟩
      intro query hquery
      cases List.mem_singleton.mp hquery
    | some server => exact ⟨[], unshared_nil, rfl⟩

/-- A tenant whose mapping is read gets as far as the server that it is mapped to, if nothing
goes wrong before. -/
theorem mappedServer_course (hempty : ∀ key v, ¬ s.cache.Holds key v) {mapping : TenantConfig}
    (htenant : around.sources.tenant tenancy = .ok (some mapping)) :
    ProjectCourse around tenancy s ((projectServer around tenancy mapping >>= fun chosen =>
      match chosen with
      | none => return none
      | some server => constructProject around tenancy mapping server) s) := by
  by_cases hmanaged : Text.isBlank mapping.serverId = false ∧ mapping.mode = .external
  · obtain ⟨hname, hmode⟩ := hmanaged
    obtain ⟨warnings, hwarnings, hserver⟩ :=
      projectServer_of_managed around tenancy hname hmode s
    have hasked : Unshared [.asked (.server mapping.serverId)] :=
      unshared_asked (by simp) (by simp)
    have hunshared : Unshared (.asked (.server mapping.serverId) :: warnings) :=
      hasked.append hwarnings
    cases hconfigured : around.sources.server mapping.serverId with
    | error e =>
      rw [hconfigured] at hserver
      rw [Action.bind_eq_of_error hserver]
      refine .unanswered e _ ?_ hunshared
      rintro ⟨found, hfound, hread⟩
      rw [htenant, Except.ok.injEq] at hfound
      obtain ⟨configured, hanswer, -⟩ := hread mapping hfound.symm hname hmode
      rw [hconfigured] at hanswer
      cases hanswer
    | ok configured =>
      rw [hconfigured] at hserver
      cases configured with
      | none =>
        rw [Action.bind_eq_of_ok hserver]
        refine .lacking _ ⟨some mapping, htenant, ?_⟩ (.server mapping htenant hconfigured)
        rintro _ ⟨⟩ _ _
        refine ⟨none, hconfigured, ?_⟩
        intro server hnone
        cases hnone
      | some server =>
        exact ProjectCourse.bind hserver hunshared
          (constructProject_course hempty ⟨htenant, hname, hmode, hconfigured⟩)
  · have hgap : Gap around tenancy := by
      by_cases hname : Text.isBlank mapping.serverId = true
      · exact .name mapping htenant hname
      · exact .mode mapping htenant fun hmode =>
          hmanaged ⟨Bool.eq_false_iff.mpr hname, hmode⟩
    have hunmanaged : Text.isBlank mapping.serverId = true ∨ mapping.mode ≠ .external := by
      rw [not_and_or, Bool.not_eq_false] at hmanaged
      exact hmanaged
    obtain ⟨warning, hserver⟩ := projectServer_of_unmanaged around tenancy hunmanaged s
    rw [Action.bind_eq_of_ok hserver]
    refine .lacking _ ⟨some mapping, htenant, ?_⟩ hgap
    rintro _ ⟨⟩ hname hmode
    exact absurd ⟨hname, hmode⟩ hmanaged

/-- How the resolution of a tenant's own server may end, if nothing is kept. -/
theorem resolveProject_course (around : Surroundings) (tenancy : Tenancy)
    (hempty : ∀ key v, ¬ s.cache.Holds key v) :
    ProjectCourse around tenancy s (resolveProject around tenancy s) := by
  rw [resolveProject]
  refine ProjectCourse.bind (lookupKind_of_absent .project (hempty _)) unshared_nil ?_
  dsimp only
  rw [Sources.askTenant]
  have hasked := Sources.ask_apply (.tenant tenancy.tenant tenancy.region)
    (around.sources.tenant tenancy) s
  have hunshared : Unshared [.asked (.tenant tenancy.tenant tenancy.region)] :=
    unshared_asked (by simp) (by simp)
  cases htenant : around.sources.tenant tenancy with
  | error e =>
    rw [htenant] at hasked
    rw [Action.bind_eq_of_error hasked]
    refine .unanswered e _ ?_ hunshared
    rintro ⟨found, hfound, -⟩
    rw [htenant] at hfound
    cases hfound
  | ok found =>
    rw [htenant] at hasked
    refine ProjectCourse.bind hasked hunshared ?_
    cases found with
    | none =>
      refine .lacking _ ⟨none, htenant, ?_⟩ (.mapping htenant)
      intro mapping hmapping
      cases hmapping
    | some mapping => exact mappedServer_course hempty htenant

/-! ## Tenants in regions -/

/-- The same surroundings with other mappings of tenants. -/
def Surroundings.withTenants (around : Surroundings)
    (tenant : Tenancy → Except Error (Option TenantConfig)) : Surroundings :=
  { around with sources := { around.sources with tenant } }

/-- A tenant in a region gets the context of its own server. -/
structure GivesOwn (around : Surroundings) (tenancy : Tenancy) (s : Resolver) (v : Issued) :
    Prop where
  own : (resolveProject around tenancy s).result = .ok (some v)
  given : (resolveFor around tenancy s).result = .ok v
  kind : v.context.kind = .project

/-- A tenant in a region gets the failure that its own server leads to, and neither the server
of the region nor a secret is asked for. -/
structure Fails (around : Surroundings) (tenancy : Tenancy) (s : Resolver) (e : Error) :
    Prop where
  own : (resolveProject around tenancy s).result = .error e
  failed : (resolveFor around tenancy s).result = .error e
  unshared : Unshared (resolveFor around tenancy s).events

/-- A tenant in a region gets what every tenant without a mapping gets there: the server of the
region is asked for, and the context or the failure is the same. -/
structure FallsBack (around : Surroundings) (tenancy : Tenancy) (s : Resolver) : Prop where
  own : (resolveProject around tenancy s).result = .ok none
  shared : .asked (.regionServer tenancy.region) ∈ (resolveFor around tenancy s).events
  unmapped : ∀ tenant other, other.region = tenancy.region → tenant other = .ok none →
    (resolveFor around tenancy s).result =
      (resolveFor (around.withTenants tenant) other s).result

/-- A tenant with nothing of its own gets what the server of the region supplies. -/
theorem resolveFor_of_none {events : List Event}
    (habsent : ∀ v, ¬ s.cache.Holds (tenancyKey tenancy) v)
    (hown : resolveProject around tenancy s = ⟨.ok none, s, events⟩) :
    (resolveFor around tenancy s).result = (resolveRegion around tenancy.region s).result ∧
      .asked (.regionServer tenancy.region) ∈ (resolveFor around tenancy s).events := by
  have hasked : .asked (.regionServer tenancy.region) ∈
      (resolveRegion around tenancy.region s).events := by
    have hask := Sources.ask_apply (.regionServer tenancy.region)
      (around.sources.regionServer tenancy.region) s
    rw [resolveRegion, Sources.askRegionServer]
    cases hanswer : around.sources.regionServer tenancy.region with
    | error e =>
      rw [hanswer] at hask
      rw [Action.bind_eq_of_error hask]
      exact List.mem_singleton_self _
    | ok found =>
      rw [hanswer] at hask
      rw [Action.bind_eq_of_ok hask]
      exact List.mem_cons_self
  rw [resolveFor, Action.bind_eq_of_ok (lookup_of_absent habsent)]
  dsimp only
  rw [Action.bind_eq_of_ok hown]
  dsimp only
  rcases hregion : resolveRegion around tenancy.region s with ⟨result, t, later⟩
  rw [hregion] at hasked
  cases result with
  | error e =>
    rw [Action.bind_eq_of_error hregion]
    exact ⟨rfl, List.mem_append_right _ (List.mem_append_right _ hasked)⟩
  | ok v =>
    rw [Action.bind_eq_of_ok hregion]
    exact ⟨rfl, List.mem_append_right _
      (List.mem_append_right _ (List.mem_append_left _ hasked))⟩

/-- A tenant whose own server leads to a failure gets that failure, and so does a tenant that
gets its own context. -/
theorem resolveFor_of_own {result : Except Error (Option Issued)} {t : Resolver}
    {events : List Event} (habsent : ∀ v, ¬ s.cache.Holds (tenancyKey tenancy) v)
    (hown : resolveProject around tenancy s = ⟨result, t, events⟩) :
    (∀ e, result = .error e → resolveFor around tenancy s = ⟨.error e, t, events⟩) ∧
      ∀ v, result = .ok (some v) → (resolveFor around tenancy s).result = .ok v := by
  rw [resolveFor, Action.bind_eq_of_ok (lookup_of_absent habsent)]
  dsimp only
  constructor
  · rintro e rfl
    rw [Action.bind_eq_of_error hown]
    rfl
  · rintro v rfl
    rw [Action.bind_eq_of_ok hown]
    rfl

/-- A tenant that lacks something gets what every tenant without a mapping gets. -/
theorem fallsBack_of_gap (hempty : ∀ key v, ¬ s.cache.Holds key v)
    (hreads : ReadsAnswered around tenancy) (hgap : Gap around tenancy) :
    FallsBack around tenancy s := by
  have hnothing : ∀ (around : Surroundings) (tenancy : Tenancy),
      ReadsAnswered around tenancy → Gap around tenancy →
      ∃ events, resolveProject around tenancy s = ⟨.ok none, s, events⟩ := by
    intro around tenancy hreads hgap
    have hcourse := resolveProject_course (s := s) around tenancy hempty
    generalize resolveProject around tenancy s = outcome at hcourse ⊢
    cases hcourse with
    | unanswered e events hunanswered => exact absurd hreads hunanswered
    | lacking events => exact ⟨events, rfl⟩
    | flawed mapping server text e events hready => exact absurd hgap hready.not_gap
    | issued mapping server text context t events hready => exact absurd hgap hready.not_gap
  obtain ⟨events, hown⟩ := hnothing around tenancy hreads hgap
  obtain ⟨hresult, hshared⟩ := resolveFor_of_none (hempty _) hown
  refine ⟨by rw [hown], hshared, ?_⟩
  intro tenant other hregion hother
  obtain ⟨later, hbare⟩ := hnothing (around.withTenants tenant) other
    ⟨none, hother, fun mapping hmapping => nomatch hmapping⟩ (.mapping hother)
  have hsame := (resolveFor_of_none (hempty _) hbare).1
  -- The server of a region is found without the mappings of tenants.
  have hregions : resolveRegion (around.withTenants tenant) other.region =
      resolveRegion around other.region := rfl
  rw [hresult, hsame, hregions, hregion]

/-- A tenant for whom a question is not answered gets a failure. -/
theorem fails_of_unanswered (hempty : ∀ key v, ¬ s.cache.Holds key v)
    (hreads : ¬ ReadsAnswered around tenancy) : ∃ e, Fails around tenancy s e := by
  have hcourse := resolveProject_course (s := s) around tenancy hempty
  rcases hown : resolveProject around tenancy s with ⟨result, t, events⟩
  rw [hown] at hcourse
  cases hcourse with
  | unanswered e _ _ hunshared =>
    have hfor := (resolveFor_of_own (hempty _) hown).1 e rfl
    exact ⟨e, by rw [hown], by rw [hfor], by rw [hfor]; exact hunshared⟩
  | lacking _ hanswered => exact absurd hanswered hreads
  | flawed mapping server text e _ hready => exact absurd hready.readsAnswered hreads
  | issued mapping server text context _ _ hready => exact absurd hready.readsAnswered hreads

/-- A tenant that is ready gets its own context, or the failure to assemble it. -/
theorem given_or_fails_of_ready (hempty : ∀ key v, ¬ s.cache.Holds key v)
    {mapping : TenantConfig} {server : ServerConfig} {text : String}
    (hready : Ready around tenancy mapping server text) :
    (∃ v, assemble s.insecure server text (clientName mapping server) .project = .ok v.context ∧
        GivesOwn around tenancy s v) ∨
      ∃ e, assemble s.insecure server text (clientName mapping server) .project = .error e ∧
        Fails around tenancy s e := by
  have hcourse := resolveProject_course (s := s) around tenancy hempty
  rcases hown : resolveProject around tenancy s with ⟨result, t, events⟩
  rw [hown] at hcourse
  cases hcourse with
  | unanswered e _ hunanswered => exact absurd hready.readsAnswered hunanswered
  | lacking _ _ hgap => exact absurd hgap hready.not_gap
  | flawed mapping' server' text' e _ hready' hassemble hunshared =>
    obtain ⟨rfl, rfl, rfl⟩ := hready.unique hready'
    have hfor := (resolveFor_of_own (hempty _) hown).1 e rfl
    exact Or.inr ⟨e, hassemble, by rw [hown], by rw [hfor], by rw [hfor]; exact hunshared⟩
  | issued mapping' server' text' context _ _ hready' hassemble =>
    obtain ⟨rfl, rfl, rfl⟩ := hready.unique hready'
    have hfor := (resolveFor_of_own (hempty _) hown).2 _ rfl
    obtain ⟨-, -, -, -, hkind⟩ := eq_of_assemble_ok hassemble
    exact Or.inl ⟨⟨s.issued, context⟩, hassemble, by rw [hown], hfor, hkind⟩

/-- How a tenant in a region is served, if no context is kept.  It gets the context of its own
server, or the failure that its own server leads to, or what every tenant without a mapping
gets in the region.  The last is the case exactly if all questions about its own server are
answered and something is lacking.  So a question that is not answered is a failure, and so is
a context that cannot be assembled. -/
theorem fallback_law (around : Surroundings) (tenancy : Tenancy) {s : Resolver}
    (hempty : s.cache.entries = []) :
    ((∃ v, GivesOwn around tenancy s v) ∨ (∃ e, Fails around tenancy s e) ∨
      FallsBack around tenancy s) ∧
    (FallsBack around tenancy s ↔ ReadsAnswered around tenancy ∧ Gap around tenancy) ∧
    (¬ ReadsAnswered around tenancy → ∃ e, Fails around tenancy s e) ∧
    ∀ mapping server text, Ready around tenancy mapping server text → Flaw server text →
      ∃ e, Fails around tenancy s e := by
  have habsent : ∀ key v, ¬ s.cache.Holds key v := by
    rintro key v ⟨entry, hentry, -⟩
    rw [hempty] at hentry
    cases hentry
  have hcourse := resolveProject_course (s := s) around tenancy habsent
  have hserved : ∀ {mapping server text}, Ready around tenancy mapping server text →
      (∃ v, GivesOwn around tenancy s v) ∨ (∃ e, Fails around tenancy s e) ∨
        FallsBack around tenancy s := by
    intro mapping server text hready
    rcases given_or_fails_of_ready habsent hready with ⟨v, -, hgives⟩ | ⟨e, -, hfails⟩
    · exact Or.inl ⟨v, hgives⟩
    · exact Or.inr (Or.inl ⟨e, hfails⟩)
  refine ⟨?_, ⟨?_, ?_⟩, fails_of_unanswered habsent, ?_⟩
  · generalize resolveProject around tenancy s = outcome at hcourse
    cases hcourse with
    | unanswered e events hreads => exact Or.inr (Or.inl (fails_of_unanswered habsent hreads))
    | lacking events hreads hgap =>
      exact Or.inr (Or.inr (fallsBack_of_gap habsent hreads hgap))
    | flawed mapping server text e events hready => exact hserved hready
    | issued mapping server text context t events hready => exact hserved hready
  · intro hfalls
    have hnone := hfalls.own
    generalize resolveProject around tenancy s = outcome at hcourse hnone
    cases hcourse with
    | unanswered => cases hnone
    | lacking events hreads hgap => exact ⟨hreads, hgap⟩
    | flawed => cases hnone
    | issued => cases hnone
  · rintro ⟨hreads, hgap⟩
    exact fallsBack_of_gap habsent hreads hgap
  · intro mapping server text hready hflaw
    rcases given_or_fails_of_ready habsent hready with ⟨v, hassemble, -⟩ | ⟨e, -, hfails⟩
    · obtain ⟨e, herror⟩ := hflaw.exists_error s.insecure (clientName mapping server) .project
      rw [herror] at hassemble
      cases hassemble
    · exact ⟨e, hfails⟩

/-- In the small world, a tenant without a mapping falls back on the server of its region. -/
theorem fallback_law_small :
    (ofSettings .default).cache.entries = [] ∧
      FallsBack (smallWorld "chef-1" ⟨"acme", "eu"⟩ "alice") ⟨"globex", "eu"⟩
        (ofSettings .default) := by
  have htenant : (smallWorld "chef-1" ⟨"acme", "eu"⟩ "alice").sources.tenant
      ⟨"globex", "eu"⟩ = .ok none := by
    rw [smallWorld_tenant, if_neg (by decide)]
  refine ⟨rfl, (fallback_law _ _ rfl).2.1.mpr ⟨⟨none, htenant, ?_⟩, .mapping htenant⟩⟩
  intro mapping hmapping
  cases hmapping

end Resolver
end ChefAccess
