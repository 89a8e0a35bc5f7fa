import ChefAccess.Proofs.Resolver.InStep
import ChefAccess.Proofs.Resolver.Shared
import ChefAccess.Proofs.Text.Escape
import ChefAccess.Proofs.Text.Utf8

/-!
# Key material in secrets and in files

A shared server signs with a secret, and the server of a tenant with a key file.  The escapes of
a secret are undone when it is asked for, and those of a file are not; from there on the same
construction takes the text, and undoes escapes in either case.  So a secret may be spelled in
any way, and a shared server ends as the server of a tenant does whose file holds the text of
the secret without its escapes.

Main definitions:

- {lit}`Resolver.Ending`: what a resolution comes to, as far as the key goes.
- {lit}`Resolver.ZoneHolds` and {lit}`Resolver.ProjectHolds`: the key material of a server is a
  given text, and nothing else is wrong with it.

Main results:

- Theorem {lit}`Resolver.spelled_secret_law`: spellings of a secret make no difference.
- Theorem {lit}`Resolver.ending_construct`: what a construction comes to depends on the text.
- Theorem {lit}`Resolver.material_law`: when secrets and files with one text lead to one end.
-/

namespace ChefAccess

/-- The key that a text holds, if it holds one. -/
def Key.Rsa.ofMaterial? (text : String) : Option Key.Rsa :=
  (Key.Rsa.ofMaterial text).toOption

namespace Resolver

variable {around : Surroundings} {s : Resolver} {config : ServerConfig} {text : String}

/-! ## Spellings of a secret -/

/-- The same surroundings with another text for a secret. -/
def Surroundings.withSecret (around : Surroundings) (key text : String) : Surroundings :=
  { around with
    sources := { around.sources with
      secret := around.sources.secret.map fun answer name =>
        if name = key then .ok (some text) else answer name } }

/-- Spellings of one text are one secret to the resolution of a shared server. -/
theorem resolve_withSecret {written : String} (hsame : Text.unescape written = Text.unescape text)
    (around : Surroundings) (config : ServerConfig) :
    resolve (around.withSecret config.clientKey written) config =
      resolve (around.withSecret config.clientKey text) config := by
  have hanswer : ((around.withSecret config.clientKey written).sources.askSecret
        config.clientKey : Action Resolver (Option String)) =
      (around.withSecret config.clientKey text).sources.askSecret config.clientKey := by
    funext s
    simp only [Sources.askSecret, Sources.askRawSecret, Surroundings.withSecret]
    cases around.sources.secret with
    | none => rfl
    | some answer =>
      simp only [Option.map_some, if_pos]
      rw [Action.bind_eq_of_ok (Sources.ask_apply _ _ s),
        Action.bind_eq_of_ok (Sources.ask_apply _ _ s), Option.map_some, Option.map_some, hsame]
  have hmaterial : secretMaterial (around.withSecret config.clientKey written) config =
      secretMaterial (around.withSecret config.clientKey text) config := by
    rw [secretMaterial, secretMaterial, hanswer]
  unfold resolve
  rw [hmaterial]
  rfl

/-- However a secret is spelled, the text is recovered when its escapes are undone.  Where there
is no backslash in the text, its escapes may be undone again, before and after it is trimmed, so
that the key is read from the same block and the resolution of a shared server is the same. -/
theorem spelled_secret_law {written : String}
    (hspelling : Text.Spelling written.toList text.toList) :
    Text.unescape written = text ∧
      ('\\' ∉ text.toList →
        Text.unescape (Text.unescape written) = text ∧
        Text.unescape (Text.trim (Text.unescape written)) = Text.trim text ∧
        Key.Rsa.ofMaterial (Text.unescape written) = Key.Rsa.ofBlock (Text.trim text) ∧
        ∀ (around : Surroundings) (config : ServerConfig),
          resolve (around.withSecret config.clientKey written) config =
            resolve (around.withSecret config.clientKey text) config) := by
  have hrecovered : Text.unescape written = text := by
    rw [Text.unescape_eq, hspelling.unescapeChars_eq, String.ofList_toList]
  refine ⟨hrecovered, fun hplain => ?_⟩
  have htrimmed : Text.unescape (Text.trim text) = Text.trim text :=
    Text.unescape_eq_self fun hmem => hplain (Text.mem_of_mem_trim hmem)
  refine ⟨?_, ?_, ?_, fun around config => resolve_withSecret ?_ around config⟩
  · rw [hrecovered, Text.unescape_eq_self hplain]
  · rw [hrecovered, htrimmed]
  · rw [hrecovered, Key.Rsa.ofMaterial, htrimmed]
  · rw [hrecovered, Text.unescape_eq_self hplain]

/-- A secret with a short escape, a numeric escape and a line break as it is. -/
theorem spelled_secret_law_mixed :
    Text.Spelling "a\\nb\\u000A\n".toList "a\nb\n\n".toList ∧
      Text.unescape "a\\nb\\u000A\n" = "a\nb\n\n" ∧
      Key.Rsa.ofMaterial (Text.unescape "a\\nb\\u000A\n") = Key.Rsa.ofBlock "a\nb" := by
  have hspelling : Text.Spelling "a\\nb\\u000A\n".toList "a\nb\n\n".toList :=
    .plain (by decide) <| .escape (.short 'n' '\n' (by decide)) <| .plain (by decide) <|
      .escape (.numeric ['0', '0', '0', 'A'] '\n'
        (.plain rfl (Text.hexValue_eq_some_iff.mp (by decide)))) <| .plain (by decide) .nil
  obtain ⟨hrecovered, hplain⟩ := spelled_secret_law hspelling
  obtain ⟨-, -, hkey, -⟩ := hplain (by decide)
  have htrim : Text.trim "a\nb\n\n" = "a\nb" := by decide +kernel
  rw [htrim] at hkey
  exact ⟨hspelling, hrecovered, hkey⟩

/-! ## What a resolution comes to -/

/-- What a resolution comes to: a context with a key, no context, or a failure of a kind. -/
inductive Ending
  | context (key : Key.Rsa)
  | nothing
  | failure (kind : ErrorKind)
  deriving DecidableEq

/-- What the result of a resolution comes to. -/
def ending : Except Error (Option Issued) → Ending
  | .ok (some v) => .context v.context.key
  | .ok none => .nothing
  | .error e => .failure e.kind

/-- What the construction of a context comes to, if nothing but its key can be wrong. -/
def Ending.ofMaterial (text : String) : Ending :=
  if Text.isBlank text then .nothing
  else
    match Key.Rsa.ofMaterial? text with
    | some key => .context key
    | none => .failure .keyInvalid

/-- A blank text holds no key. -/
theorem ofMaterial?_of_isBlank (hblank : Text.isBlank text = true) :
    Key.Rsa.ofMaterial? text = none := by
  cases hkey : Key.Rsa.ofMaterial text with
  | error e => rw [Key.Rsa.ofMaterial?, hkey]; rfl
  | ok key => simp [Key.Rsa.not_isBlank_of_ofMaterial hkey] at hblank

/-- Two texts come to the same exactly if both or neither are blank and they hold the same key,
if they hold one. -/
theorem Ending.ofMaterial_eq_iff {other : String} :
    Ending.ofMaterial text = Ending.ofMaterial other ↔
      Text.isBlank text = Text.isBlank other ∧
        Key.Rsa.ofMaterial? text = Key.Rsa.ofMaterial? other := by
  constructor
  · intro hending
    unfold Ending.ofMaterial at hending
    cases hblank : Text.isBlank text <;> cases hblank' : Text.isBlank other
    · refine ⟨rfl, ?_⟩
      rw [if_neg (by simp [hblank]), if_neg (by simp [hblank'])] at hending
      revert hending
      cases Key.Rsa.ofMaterial? text <;> cases Key.Rsa.ofMaterial? other <;> simp
    · rw [if_neg (by simp [hblank]), if_pos hblank'] at hending
      split at hending <;> cases hending
    · rw [if_pos hblank, if_neg (by simp [hblank'])] at hending
      split at hending <;> cases hending
    · exact ⟨rfl, by rw [ofMaterial?_of_isBlank hblank, ofMaterial?_of_isBlank hblank']⟩
  · rintro ⟨hblank, hkey⟩
    rw [Ending.ofMaterial, Ending.ofMaterial, hblank, hkey]

/-- A context is assembled for every client whose key can be read, if the configuration is fit
for one. -/
theorem exists_assemble_of_fit {username : String} {key : Key.Rsa} (insecure : Bool)
    (kind : Server.ContextKind) (hkey : Key.Rsa.ofMaterial text = .ok key)
    (husername : Text.isBlank username = false) (hfit : ¬ Unfit config) :
    ∃ context, assemble insecure config text username kind = .ok context ∧
      context.key = key := by
  cases hversion : Server.Version.ofTagOrDefault config.version with
  | error e =>
    refine absurd (.version fun version hnamed => ?_) hfit
    rw [Server.Version.ofTagOrDefault_eq_ok_iff.mpr hnamed] at hversion
    cases hversion
  | ok version =>
    have hserver : Text.isBlank config.serverId = false :=
      Bool.eq_false_iff.mpr fun hblank => hfit (.serverId hblank)
    have horganization : version.hasOrganizations = true →
        Text.isBlank config.organization = false := by
      intro hneeds
      refine Bool.eq_false_iff.mpr fun hblank => hfit ?_
      exact .organization version (Server.Version.ofTagOrDefault_eq_ok_iff.mp hversion)
        ((Server.Version.hasOrganizations_iff version).mp hneeds) hblank
    obtain ⟨context, hassemble⟩ :=
      exists_assemble_ok insecure kind hkey hversion hserver husername horganization
    obtain ⟨hread, -⟩ := eq_of_assemble_ok hassemble
    rw [hkey, Except.ok.injEq] at hread
    exact ⟨context, hassemble, hread.symm⟩

/-- What the construction of a context comes to depends on its key material alone, if nothing
else can be wrong. -/
theorem ending_construct {username : String} (around : Surroundings) (kind : Server.ContextKind)
    (habsent : ∀ v, ¬ s.cache.Holds config.serverId v)
    (hhost : Text.isBlank config.host = false) (husername : Text.isBlank username = false)
    (hfit : ¬ Unfit config) (text : String) :
    ending (construct around config (some text) username kind s).result =
      .ofMaterial text := by
  unfold Ending.ofMaterial
  split
  case isTrue hblank =>
    obtain ⟨warning, hconstruct⟩ := construct_of_unusable around username kind habsent
      (Or.inr (Or.inr fun other hother => by rwa [← Option.some.inj hother]))
    rw [hconstruct]
    rfl
  case isFalse hfilled =>
    rw [Bool.not_eq_true] at hfilled
    cases hkey : Key.Rsa.ofMaterial text with
    | error e =>
      rw [construct_of_flawed habsent hhost husername hfilled
        (assemble_of_unreadable s.insecure username kind hkey)]
      rw [Key.Rsa.ofMaterial?, hkey, ← Key.Rsa.kind_of_ofMaterial_error hkey]
      rfl
    | ok key =>
      obtain ⟨context, hassemble, hown⟩ :=
        exists_assemble_of_fit s.insecure kind hkey husername hfit
      rw [construct_of_absent habsent hhost husername hfilled hassemble, Key.Rsa.ofMaterial?, hkey,
        ← hown]
      rfl

/-! ## Secrets and files -/

/-- The secret of a shared server is a given text, and nothing else is wrong with the server. -/
structure ZoneHolds (around : Surroundings) (config : ServerConfig) (text : String) : Prop where
  host : Text.isBlank config.host = false
  username : Text.isBlank config.username = false
  clientKey : Text.isBlank config.clientKey = false
  fit : ¬ Unfit config
  secret : ∃ answer, around.sources.secret = some answer ∧
    answer config.clientKey = .ok (some text)

/-- The key file of a tenant's server holds a given text, and nothing else is wrong with the
mapping of the tenant and with the server. -/
structure ProjectHolds (around : Surroundings) (tenancy : Tenancy) (mapping : TenantConfig)
    (server : ServerConfig) (text : String) : Prop where
  maps : Maps around tenancy mapping server
  host : Text.isBlank server.host = false
  client : Text.isBlank (clientName mapping server) = false
  fit : ¬ Unfit server
  file : ∃ token read, Blobs.token? mapping.apiKeyUrl = some token ∧
    around.sources.file = some read ∧ read token = .ok (Text.Utf8.encode text)

/-- A shared server comes to what its secret without its escapes does. -/
theorem ending_resolve (hempty : ∀ key v, ¬ s.cache.Holds key v)
    (hzone : ZoneHolds around config text) :
    ending (resolve around config s).result = .ofMaterial (Text.unescape text) := by
  obtain ⟨answer, hservice, hanswer⟩ := hzone.secret
  have hmaterial : secretMaterial around config s =
      ⟨.ok (some (Text.unescape text)), s, [.asked (.secret config.clientKey)]⟩ := by
    rw [secretMaterial, hzone.clientKey, Sources.askSecret, Sources.askRawSecret, hservice]
    simp only [hanswer, Bool.false_eq_true, if_false]
    rfl
  rw [resolve, Action.bind_eq_of_ok (lookupKind_of_absent .zone (hempty _))]
  dsimp only
  rw [Action.bind_eq_of_ok hmaterial]
  exact ending_construct around .zone (hempty _) hzone.host hzone.username hzone.fit _

/-- The server of a tenant comes to what the text of its key file does. -/
theorem ending_resolveProject {tenancy : Tenancy} {mapping : TenantConfig}
    {server : ServerConfig} (hempty : ∀ key v, ¬ s.cache.Holds key v)
    (hproject : ProjectHolds around tenancy mapping server text) :
    ending (resolveProject around tenancy s).result = .ofMaterial text := by
  obtain ⟨token, read, htoken, hservice, hread⟩ := hproject.file
  have hfile : around.sources.HasText token text :=
    ⟨read, _, hservice, hread, (Text.Utf8.lossy_encode text).symm⟩
  have hending := ending_construct around .project (hempty server.serverId) hproject.host
    hproject.client hproject.fit text
  obtain ⟨events, hresolve⟩ := resolveProject_of_maps hproject.maps (hempty _)
  rw [hresolve, constructProject, Action.bind_eq_of_ok (fileMaterial_of_text htoken hfile s)]
  rcases hconstruct : construct around server (some text) (clientName mapping server) .project s
    with ⟨result, t, later⟩
  rw [hconstruct] at hending
  rw [← hending]
  cases result with
  | error e => rw [Action.bind_eq_of_error hconstruct]
  | ok found =>
    rw [Action.bind_eq_of_ok hconstruct]
    cases found <;> rfl

/-- A text is empty if nothing is left when its escapes are undone. -/
theorem eq_empty_of_unescape_eq_empty (hempty : Text.unescape text = "") : text = "" := by
  obtain ⟨tokens, hreading⟩ := Text.exists_reading true text.toList
  rw [Text.unescape_eq, hreading.unescapeChars_eq, ← String.ofList_nil, String.ofList_inj,
    List.map_eq_nil_iff] at hempty
  rw [hempty] at hreading
  have htext : text.toList = [] := by
    generalize text.toList = chars at hreading
    cases hreading
    rfl
  rw [← String.ofList_toList (s := text), htext]

/-- Undoing the escapes of a text once more changes nothing, if they yield neither backslashes nor
outer white space. -/
theorem ofMaterial_unescape (hplain : '\\' ∉ (Text.unescape text).toList)
    (htrim : Text.trim (Text.unescape text) = Text.unescape (Text.trim text)) :
    Ending.ofMaterial (Text.unescape text) = .ofMaterial text := by
  rw [Ending.ofMaterial_eq_iff]
  constructor
  · rw [Bool.eq_iff_iff, Text.isBlank_iff_trim_eq, Text.isBlank_iff_trim_eq, htrim]
    constructor
    · exact eq_empty_of_unescape_eq_empty
    · intro hblank
      rw [hblank]
      rfl
  · have htwice : Text.unescape (Text.trim (Text.unescape text)) =
        Text.trim (Text.unescape text) :=
      Text.unescape_eq_self fun hmem => hplain (Text.mem_of_mem_trim hmem)
    rw [Key.Rsa.ofMaterial?, Key.Rsa.ofMaterial?, Key.Rsa.ofMaterial, Key.Rsa.ofMaterial, htwice,
      htrim]

/-- When one text as a secret and as a key file leads to one end.  If nothing is kept and nothing
else is wrong, a shared server whose secret is a text comes to the same as the server of a tenant
whose file holds that text without its escapes.  It comes to the same as the server of a tenant
whose file holds the text itself exactly if undoing the escapes once more leaves a text blank or
not, and leaves the key that it holds.  That is so if the escapes yield no backslash and no
outer white space. -/
theorem material_law (hempty : s.cache.entries = []) (hzone : ZoneHolds around config text)
    {around' : Surroundings} {tenancy : Tenancy} {mapping : TenantConfig} {server : ServerConfig}
    {text' : String} {s' : Resolver} (hempty' : s'.cache.entries = [])
    (hproject : ProjectHolds around' tenancy mapping server text') :
    (text' = Text.unescape text → ending (resolve around config s).result =
        ending (resolveProject around' tenancy s').result) ∧
      (text' = text →
        (ending (resolve around config s).result =
            ending (resolveProject around' tenancy s').result ↔
          Text.isBlank (Text.unescape text) = Text.isBlank text ∧
            Key.Rsa.ofMaterial? (Text.unescape text) = Key.Rsa.ofMaterial? text) ∧
        ('\\' ∉ (Text.unescape text).toList →
          Text.trim (Text.unescape text) = Text.unescape (Text.trim text) →
          ending (resolve around config s).result =
            ending (resolveProject around' tenancy s').result)) := by
  have habsent : ∀ {s : Resolver}, s.cache.entries = [] → ∀ key v, ¬ s.cache.Holds key v := by
    rintro s hempty key v ⟨entry, hentry, -⟩
    rw [hempty] at hentry
    cases hentry
  rw [ending_resolve (habsent hempty) hzone, ending_resolveProject (habsent hempty') hproject]
  refine ⟨?_, ?_⟩
  · rintro rfl
    rfl
  · rintro rfl
    exact ⟨Ending.ofMaterial_eq_iff, ofMaterial_unescape⟩

/-! ## One text in both places -/

/-- A world in which every secret and every file holds one text, and every tenant is mapped to
the one server. -/
def materialWorld (text : String) : Surroundings where
  sources := {
    server := fun _ => .ok (some (smallServer "chef-1"))
    tenant := fun tenancy => .ok (some (smallMapping "chef-1" tenancy "alice"))
    regionServer := fun _ => .ok none
    secret := some fun _ => .ok (some text)
    file := some fun _ => .ok (Text.Utf8.encode text) }
  now := ⟨0⟩

/-- Nothing is wrong with the small server. -/
theorem not_unfit_small : ¬ Unfit (smallServer "chef-1") := by
  have hnamed : Text.isBlank "chef-1" = false :=
    Text.isBlank_of_mem (c := 'c') (by decide) (by decide)
  have hroot : Text.isBlank "root" = false :=
    Text.isBlank_of_mem (c := 'r') (by decide) (by decide)
  obtain ⟨context, hassemble⟩ := exists_assemble_small .zone hnamed hroot
  exact not_unfit_of_assemble_ok hassemble

/-- The secret of the server is the text. -/
theorem zoneHolds_material (text : String) :
    ZoneHolds (materialWorld text) (smallServer "chef-1") text where
  host := isBlank_host_small
  username := Text.isBlank_of_mem (c := 'r') (by decide) (by decide)
  clientKey := isBlank_clientKey_small
  fit := not_unfit_small
  secret := ⟨_, rfl, rfl⟩

/-- The key file of every tenant holds the text. -/
theorem projectHolds_material (text : String) (tenancy : Tenancy) :
    ProjectHolds (materialWorld text) tenancy (smallMapping "chef-1" tenancy "alice")
      (smallServer "chef-1") text where
  maps := by
    have hnamed : Text.isBlank "chef-1" = false :=
      Text.isBlank_of_mem (c := 'c') (by decide) (by decide)
    exact ⟨rfl, hnamed, rfl, rfl⟩
  host := isBlank_host_small
  client := by
    rw [clientName_small isBlank_alice]
    exact isBlank_alice
  fit := not_unfit_small
  file := ⟨"key", _, (hasText_small "chef-1" "alice" tenancy).1, rfl, rfl⟩

/-- The key file with escapes in place of its line breaks. -/
def escapedKeyFile : String :=
  String.ofList (Text.escapeBreaks smallKeyFile.toList)

/-- The escapes of the key file are undone. -/
theorem unescape_escapedKeyFile : Text.unescape escapedKeyFile = smallKeyFile := by
  have hplain : '\\' ∉ smallKeyFile.toList := by decide
  rw [Text.unescape_eq, escapedKeyFile, String.toList_ofList,
    (Text.spelling_escapeBreaks hplain).unescapeChars_eq, String.ofList_toList]

/-- The key file begins with a dash. -/
theorem head?_escapedKeyFile : escapedKeyFile.toList.head? = some '-' := by
  rw [escapedKeyFile, String.toList_ofList, Text.head?_escapeBreaks]
  rfl

/-- The key file with escapes holds the same key. -/
theorem ofMaterial_escapedKeyFile : Key.Rsa.ofMaterial escapedKeyFile = .ok ⟨55, 3, 7⟩ := by
  have htrim : Text.trim escapedKeyFile = escapedKeyFile := by
    refine Text.trim_eq_self (fun c hc => ?_) fun c hc => ?_
    · rw [head?_escapedKeyFile] at hc
      cases hc
      decide
    · have hlast : smallKeyFile.toList.getLast? = some '\n' := by decide
      rw [escapedKeyFile, String.toList_ofList, Text.getLast?_escapeBreaks, hlast] at hc
      cases hc
      decide
  rw [Key.Rsa.ofMaterial, htrim, unescape_escapedKeyFile]
  decide +kernel

/-- A key file with escapes in place of its line breaks holds the same key as a secret and as a
file. -/
theorem material_law_escapedKeyFile :
    (ofSettings .default).cache.entries = [] ∧
      ZoneHolds (materialWorld escapedKeyFile) (smallServer "chef-1") escapedKeyFile ∧
      ProjectHolds (materialWorld escapedKeyFile) ⟨"acme", "eu"⟩
        (smallMapping "chef-1" ⟨"acme", "eu"⟩ "alice") (smallServer "chef-1") escapedKeyFile ∧
      ending (resolve (materialWorld escapedKeyFile) (smallServer "chef-1")
          (ofSettings .default)).result =
        ending (resolveProject (materialWorld escapedKeyFile) ⟨"acme", "eu"⟩
          (ofSettings .default)).result := by
  have hzone := zoneHolds_material escapedKeyFile
  have hproject := projectHolds_material escapedKeyFile ⟨"acme", "eu"⟩
  refine ⟨rfl, hzone, hproject, ?_⟩
  have hnothing : (ofSettings .default).cache.entries = [] := rfl
  obtain ⟨-, hsame⟩ := material_law hnothing hzone hnothing hproject
  have hblank : Text.isBlank escapedKeyFile = false :=
    Text.isBlank_of_mem (List.mem_of_head? head?_escapedKeyFile) (by decide)
  refine (hsame rfl).1.mpr ⟨?_, ?_⟩
  · rw [unescape_escapedKeyFile, isBlank_smallKeyFile, hblank]
  · rw [unescape_escapedKeyFile, Key.Rsa.ofMaterial?, Key.Rsa.ofMaterial?,
      ofMaterial_smallKeyFile, ofMaterial_escapedKeyFile]

/-- An escaped line break is blank as a secret, and a key that cannot be read as a file. -/
theorem ending_ne_escapedBreak :
    ending (resolve (materialWorld "\\n") (smallServer "chef-1") (ofSettings .default)).result =
        .nothing ∧
      ending (resolveProject (materialWorld "\\n") ⟨"acme", "eu"⟩ (ofSettings .default)).result =
        .failure .keyInvalid := by
  have hempty : ∀ key v, ¬ (ofSettings .default).cache.Holds key v :=
    Cache.not_holds_empty 1024 (.ofSecs 7200)
  rw [ending_resolve hempty (zoneHolds_material _),
    ending_resolveProject hempty (projectHolds_material _ _)]
  decide +kernel

end Resolver
end ChefAccess
