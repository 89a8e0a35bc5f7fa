import ChefAccess.Client.Basic
import ChefAccess.Proofs.Server.Context
import ChefAccess.Proofs.Text.Trim

/-!
# Drafts that are filled in

A draft is made by filling in entries in any order, some of them more than once; of the entries
for one field the last one counts.  Whether the draft becomes a context, and what it is otherwise
reported for, is read off the entries.  The contexts that are built in this way are well formed,
and slashes ahead of a resource lead nowhere else.

Main definitions:

- {lit}`Server.Context.Draft.Given`: the last entry of some form.
- {lit}`Server.Context.Draft.Need.MetBy`: the needs that some entries meet.
- {lit}`Server.Context.Draft.Built`: what a context has that is built from some entries.
- {lit}`Server.Context.IgnoresSlashes`: slashes ahead of a resource do not matter.

Main results:

- Theorem {lit}`Server.Context.Draft.meets_ofEntries_iff`: what a draft has from its entries.
- Theorem {lit}`Server.Context.Draft.built_of_build_ok`: the contexts that are built are well
  formed.
- Theorem {lit}`Server.Context.ignoresSlashes`: slashes ahead of a resource lead nowhere else.
- Theorem {lit}`Server.Context.Draft.build_law`: what becomes of some entries.
-/

namespace ChefAccess
namespace Server
namespace Context
namespace Draft

variable {entries : List Entry}

/-! ## Entries -/

/-- The last entry of some form. -/
def Given {α : Type} (make : α → Entry) (entries : List Entry) (a : α) : Prop :=
  ∃ front back, entries = front ++ make a :: back ∧ ∀ b, make b ∉ back

/-- A field is filled in by the entries of one form, and by no others. -/
structure FilledBy {α β : Type} (field : Draft → β) (make : α → Entry) (put : α → β) : Prop where
  filled : ∀ (draft : Draft) (a : α), field (draft.fill (make a)) = put a
  skipped : ∀ (draft : Draft) (entry : Entry), (∀ a, make a ≠ entry) →
    field (draft.fill entry) = field draft

section FilledBy

variable {α β : Type} {field : Draft → β} {make : α → Entry} {put : α → β}

/-- There is a last entry of some form, or there is none. -/
theorem exists_given (make : α → Entry) (entries : List Entry) :
    (∃ a, Given make entries a) ∨ ∀ a, make a ∉ entries := by
  induction entries with
  | nil => exact Or.inr fun a ha => by cases ha
  | cons entry entries ih =>
    -- the first entry is the last one of the form only if the others are of other forms
    rcases ih with ⟨a, front, back, rfl, hback⟩ | hnone
    · exact Or.inl ⟨a, entry :: front, back, rfl, hback⟩
    · by_cases hentry : ∃ a, make a = entry
      · obtain ⟨a, rfl⟩ := hentry
        exact Or.inl ⟨a, [], entries, rfl, hnone⟩
      · refine Or.inr fun a ha => ?_
        rcases List.mem_cons.mp ha with rfl | ha
        · exact hentry ⟨a, rfl⟩
        · exact hnone a ha

/-- Entries of other forms leave a field alone. -/
theorem FilledBy.foldl_of_none (hfilled : FilledBy field make put) (draft : Draft)
    (hnone : ∀ a, make a ∉ entries) : field (entries.foldl fill draft) = field draft := by
  induction entries generalizing draft with
  | nil => rfl
  | cons entry entries ih =>
    have hother : ∀ a, make a ≠ entry := fun a ha => hnone a (ha ▸ List.mem_cons_self)
    rw [List.foldl_cons, ih _ fun a ha => hnone a (List.mem_cons_of_mem _ ha),
      hfilled.skipped draft entry hother]

/-- A field has what the last entry for it says. -/
theorem FilledBy.of_given (hfilled : FilledBy field make put) {a : α}
    (hgiven : Given make entries a) : field (ofEntries entries) = put a := by
  obtain ⟨front, back, rfl, hback⟩ := hgiven
  rw [ofEntries, List.foldl_append, List.foldl_cons, hfilled.foldl_of_none _ hback, hfilled.filled]

/-- A field without an entry for it is as it is in the empty draft. -/
theorem FilledBy.of_none (hfilled : FilledBy field make put) (hnone : ∀ a, make a ∉ entries) :
    field (ofEntries entries) = field empty :=
  hfilled.foldl_of_none empty hnone

/-- What a field has that is not filled in the empty draft. -/
theorem FilledBy.eq_some_iff {field : Draft → Option α} (hfilled : FilledBy field make some)
    (hempty : field empty = none) {a : α} :
    field (ofEntries entries) = some a ↔ Given make entries a := by
  refine ⟨fun hfield => ?_, hfilled.of_given⟩
  rcases exists_given make entries with ⟨b, hgiven⟩ | hnone
  · rw [hfilled.of_given hgiven, Option.some.injEq] at hfield
    rwa [← hfield]
  · rw [hfilled.of_none hnone, hempty] at hfield
    cases hfield

end FilledBy

section Texts

variable {field : Draft → Option String} {make : String → Entry}

/-- A text that is not blank is that of the last entry for it. -/
theorem FilledBy.exists_given_eq (hfilled : FilledBy field make some) (hempty : field empty = none)
    (hblank : Text.isBlank ((field (ofEntries entries)).getD "") = false) :
    ∃ text, Given make entries text ∧ (field (ofEntries entries)).getD "" = text := by
  cases hfield : field (ofEntries entries) with
  | none =>
    rw [hfield] at hblank
    exact absurd hblank (by decide)
  | some text => exact ⟨text, (hfilled.eq_some_iff hempty).mp hfield, rfl⟩

/-- A text is not blank exactly if the last entry for it is not. -/
theorem FilledBy.not_isBlank_iff (hfilled : FilledBy field make some)
    (hempty : field empty = none) :
    Text.isBlank ((field (ofEntries entries)).getD "") = false ↔
      ∃ text, Given make entries text ∧ Text.isBlank text = false := by
  constructor
  · intro hblank
    obtain ⟨text, hgiven, htext⟩ := hfilled.exists_given_eq hempty hblank
    exact ⟨text, hgiven, htext ▸ hblank⟩
  · rintro ⟨text, hgiven, hblank⟩
    rw [hfilled.of_given hgiven]
    exact hblank

end Texts

/-! ## Fields -/

/-- The fields that hold a text. -/
inductive TextField where
  | serverId
  | baseUri
  | organization
  | username

/-- The entry of a text for a field. -/
def TextField.entry : TextField → String → Entry
  | serverId => .serverId
  | baseUri => .baseUri
  | organization => .organization
  | username => .username

/-- The text that a draft has in a field. -/
def TextField.text? : TextField → Draft → Option String
  | serverId => Draft.serverId
  | baseUri => Draft.baseUri
  | organization => Draft.organization
  | username => Draft.username

/-- A field that holds a text is filled in by its entries. -/
theorem TextField.filledBy (field : TextField) : FilledBy field.text? field.entry some where
  filled _ _ := by cases field <;> rfl
  skipped draft entry hother := by
    -- an entry of the form is ruled out, and each other one fills in another field
    cases field <;> cases entry <;> simp_all [text?, TextField.entry, fill]

/-- The name of the server is filled in by its entries. -/
theorem serverId_filledBy : FilledBy Draft.serverId .serverId some :=
  TextField.filledBy .serverId

/-- The address is filled in by its entries. -/
theorem baseUri_filledBy : FilledBy Draft.baseUri .baseUri some :=
  TextField.filledBy .baseUri

/-- The organization is filled in by its entries. -/
theorem organization_filledBy : FilledBy Draft.organization .organization some :=
  TextField.filledBy .organization

/-- The name of the client is filled in by its entries. -/
theorem username_filledBy : FilledBy Draft.username .username some :=
  TextField.filledBy .username

/-- The key is filled in by its entries. -/
theorem key_filledBy : FilledBy Draft.key .key some where
  filled _ _ := rfl
  skipped draft entry hother := by
    cases entry with
    | key key => exact absurd rfl (hother key)
    | _ => rfl

/-- The version is filled in by its entries. -/
theorem version_filledBy : FilledBy Draft.version .version id where
  filled _ _ := rfl
  skipped draft entry hother := by
    cases entry with
    | version version => exact absurd rfl (hother version)
    | _ => rfl

/-! ## Needs and entries -/

/-- A form has a last entry exactly if it has an entry at all. -/
theorem exists_given_iff {α : Type} {make : α → Entry} :
    (∃ a, Given make entries a) ↔ ∃ a, make a ∈ entries := by
  constructor
  · rintro ⟨a, front, back, rfl, -⟩
    exact ⟨a, List.mem_append_right front List.mem_cons_self⟩
  · rintro ⟨a, ha⟩
    rcases exists_given make entries with hgiven | hnone
    · exact hgiven
    · exact absurd ha (hnone a)

/-- A draft has the version that is given last, or the one that is taken where none is given. -/
theorem version_ofEntries (entries : List Entry) :
    Given .version entries (ofEntries entries).version ∨
      (∀ version, .version version ∉ entries) ∧ (ofEntries entries).version = .default := by
  rcases exists_given Entry.version entries with ⟨version, hgiven⟩ | hnone
  · rw [version_filledBy.of_given hgiven]
    exact Or.inl hgiven
  · exact Or.inr ⟨hnone, version_filledBy.of_none hnone⟩

/-- A draft has the oldest version only if that is given last. -/
theorem version_ofEntries_eq_v11_iff :
    (ofEntries entries).version = .v11 ↔ Given .version entries .v11 := by
  constructor
  · intro hversion
    rcases version_ofEntries entries with hgiven | ⟨-, hdefault⟩
    · rwa [hversion] at hgiven
    · rw [hdefault] at hversion
      cases hversion
  · exact version_filledBy.of_given

/-- Whether a need is met by the entries that are filled in. -/
def Need.MetBy (entries : List Entry) : Need → Prop
  | .serverId => ∃ text, Given .serverId entries text ∧ Text.isBlank text = false
  | .baseUri => ∃ text, Given .baseUri entries text ∧ Text.isBlank text = false
  | .username => ∃ text, Given .username entries text ∧ Text.isBlank text = false
  | .key => ∃ key, .key key ∈ entries
  | .organization => Given .version entries .v11 ∨
      ∃ text, Given .organization entries text ∧ Text.isBlank text = false

/-- A draft meets the needs that its entries meet. -/
theorem meets_ofEntries_iff (need : Need) :
    (ofEntries entries).Meets need ↔ need.MetBy entries := by
  cases need with
  | serverId => exact serverId_filledBy.not_isBlank_iff rfl
  | baseUri => exact baseUri_filledBy.not_isBlank_iff rfl
  | username => exact username_filledBy.not_isBlank_iff rfl
  | key =>
    have hkey : ∀ key, (ofEntries entries).key = some key ↔ Given .key entries key := fun key =>
      key_filledBy.eq_some_iff rfl
    simp only [Meets, Need.MetBy, hkey, exists_given_iff]
  | organization =>
    rw [Meets, Version.hasOrganizations_iff, ne_eq, version_ofEntries_eq_v11_iff,
      organization_filledBy.not_isBlank_iff rfl, Need.MetBy, Classical.or_iff_not_imp_left]

/-! ## Contexts -/

/-- A context that is built from some entries. -/
structure Built (entries : List Entry) (context : Context) : Prop where
  serverId : ∃ text, Given .serverId entries text ∧ context.serverId = Text.trim text
  baseUri : ∃ text, Given .baseUri entries text ∧ context.baseUri = withSlash (Text.trim text)
  username : ∃ text, Given .username entries text ∧ context.username = Text.trim text
  key : Given .key entries context.key
  version : Given .version entries context.version ∨
    (∀ version, .version version ∉ entries) ∧ context.version = .default
  trimmed_serverId : Text.Trimmed context.serverId.toList
  trimmed_username : Text.Trimmed context.username.toList
  slash_baseUri : context.baseUri.toList.getLast? = some '/'
  organizationPath_eq_empty_iff : context.organizationPath = "" ↔ context.version = .v11
  organizationPath : context.version ≠ .v11 → ∃ text, Given .organization entries text ∧
    context.organizationPath = "organizations/" ++ Text.trim text ++ "/"

/-- An address with a slash at its end has one. -/
theorem getLast?_withSlash (uri : String) : (withSlash uri).toList.getLast? = some '/' := by
  unfold withSlash
  split
  case isTrue hslash => exact hslash
  case isFalse => rw [String.toList_append, List.getLast?_append]; rfl

end Draft

/-- Only the oldest servers have no organizations in their paths. -/
theorem organizationPath_eq_empty_iff (context : Context) :
    context.organizationPath = "" ↔ context.version = .v11 := by
  unfold organizationPath
  split
  case isTrue hneeds =>
    have hnot := (Version.hasOrganizations_iff _).mp hneeds
    simp [hnot]
  case isFalse hneeds =>
    rw [Version.hasOrganizations_iff, ne_eq, Classical.not_not] at hneeds
    simp [hneeds]

/-- The contexts that are built from entries are well formed. -/
theorem Draft.built_of_build_ok {entries : List Draft.Entry} {context : Context}
    (hbuild : (Draft.ofEntries entries).build = .ok context) : Draft.Built entries context := by
  obtain ⟨key, hcomplete, rfl⟩ := eq_context_of_build_ok hbuild
  obtain ⟨serverId, hserver, hserverId⟩ := serverId_filledBy.exists_given_eq rfl hcomplete.serverId
  obtain ⟨baseUri, huri, hbaseUri⟩ := baseUri_filledBy.exists_given_eq rfl hcomplete.baseUri
  obtain ⟨username, hname, husername⟩ := username_filledBy.exists_given_eq rfl hcomplete.username
  have haddress : ((ofEntries entries).context key).baseUri = withSlash (Text.trim baseUri) := by
    rw [Draft.context, hbaseUri]
  constructor
  case serverId => exact ⟨serverId, hserver, hserverId ▸ rfl⟩
  case baseUri => exact ⟨baseUri, huri, haddress⟩
  case username => exact ⟨username, hname, husername ▸ rfl⟩
  case key => exact (key_filledBy.eq_some_iff rfl).mp hcomplete.key
  case version => exact version_ofEntries entries
  case trimmed_serverId => exact Text.trimmed_trim ((ofEntries entries).serverId.getD "")
  case trimmed_username => exact Text.trimmed_trim ((ofEntries entries).username.getD "")
  case slash_baseUri =>
    rw [haddress]
    exact getLast?_withSlash _
  case organizationPath_eq_empty_iff => exact Context.organizationPath_eq_empty_iff _
  case organizationPath =>
    intro hversion
    have hneeds := (Version.hasOrganizations_iff _).mpr hversion
    obtain ⟨organization, hgiven, horganization⟩ :=
      organization_filledBy.exists_given_eq rfl (hcomplete.organization hneeds)
    refine ⟨organization, hgiven, ?_⟩
    rw [Context.organizationPath, if_pos hneeds, Draft.context, horganization]

/-! ## Resources -/

/-- A resource with some more slashes ahead of it. -/
def behindSlashes (count : Nat) (resource : String) : String :=
  String.ofList (List.replicate count '/') ++ resource

/-- Slashes ahead of a resource make no difference to where the requests of a context go, and to
what is signed. -/
structure IgnoresSlashes (context : Context) : Prop where
  resourcePath : ∀ resource, ∃ count rest, resource = behindSlashes count rest ∧
    rest.toList.head? ≠ some '/' ∧
    ∀ extra, context.resourcePath (behindSlashes extra resource) = context.organizationPath ++ rest
  uri : ∀ (client : Client) (command : Command) (extra : Nat), client.context = context →
    client.uri { command with resource := behindSlashes extra command.resource } =
      client.uri command
  canonical : ∀ method resource time body extra,
    Signing.canonical context method (behindSlashes extra resource) time body =
      Signing.canonical context method resource time body
  sign : ∀ method resource time body extra,
    Signing.sign context method (behindSlashes extra resource) time body =
      Signing.sign context method resource time body

/-- Slashes ahead of a resource do not matter to its path. -/
theorem resourcePath_behindSlashes (context : Context) (count : Nat) (resource : String) :
    context.resourcePath (behindSlashes count resource) = context.resourcePath resource := by
  rw [resourcePath, behindSlashes, Text.trimStartOf_copies, resourcePath]

/-- Slashes ahead of a resource do not matter to what is signed. -/
theorem canonical_behindSlashes (context : Context) (method resource : String)
    (time : Time.Instant) (body : List UInt8) (count : Nat) :
    Signing.canonical context method (behindSlashes count resource) time body =
      Signing.canonical context method resource time body := by
  rw [Signing.canonical, Signing.canonical, resourcePath_behindSlashes]

/-- Slashes ahead of a resource lead nowhere else. -/
theorem ignoresSlashes (context : Context) : context.IgnoresSlashes where
  resourcePath resource := by
    obtain ⟨count, hresource, hfirst⟩ := Text.exists_copies '/' resource
    refine ⟨count, Text.trimStartOf '/' resource, ?_, hfirst, fun extra => ?_⟩
    · rw [behindSlashes, ← String.toList_inj, String.toList_append, String.toList_ofList]
      exact hresource
    · rw [resourcePath_behindSlashes, Context.resourcePath]
  uri client command extra _ := by
    rw [Client.uri, Client.uri, resourcePath_behindSlashes]
  canonical := context.canonical_behindSlashes
  sign method resource time body extra := by
    rw [Signing.sign, canonical_behindSlashes, Signing.sign]

/-- What becomes of a draft is read off its entries, of which the last one for each field counts:
it becomes a context if they meet all needs, and is otherwise reported for the first need that
they miss.  The context is well formed, and slashes ahead of a resource lead nowhere else. -/
theorem Draft.build_law (entries : List Draft.Entry) :
    ((∃ context, (ofEntries entries).build = .ok context) ↔
      ∀ need : Need, need.MetBy entries) ∧
    (∀ e, (ofEntries entries).build = .error e ↔
      ∃ need, Need.First (Need.MetBy entries) need ∧
        e = Error.configInvalid (need.message (ofEntries entries))) ∧
    ∀ context, (ofEntries entries).build = .ok context →
      Built entries context ∧ context.IgnoresSlashes := by
  have hmeets : (ofEntries entries).Meets = Need.MetBy entries :=
    funext fun need => propext (meets_ofEntries_iff need)
  rw [← hmeets]
  exact ⟨exists_build_ok_iff, fun e => build_eq_error_iff, fun context hbuild =>
    ⟨built_of_build_ok hbuild, context.ignoresSlashes⟩⟩

/-- Entries in which a name and a version are given twice, with a small key. -/
def Draft.sampleEntries : List Draft.Entry :=
  [.username " ", .version .v11, .key ⟨3233, 17, 2753⟩, .baseUri " https://chef.example ",
    .serverId "east", .organization " acme ", .username "alice", .version .v12]

/-- Of a name and a version that are given twice the last ones count. -/
theorem Draft.build_law_sample :
    (∃ context, (ofEntries sampleEntries).build = .ok context ∧
      context.baseUri = "https://chef.example/" ∧ context.username = "alice" ∧
      context.version = .v12 ∧ context.organizationPath = "organizations/acme/") ∧
    ∀ context, (ofEntries sampleEntries).build = .ok context →
      Built sampleEntries context ∧ context.IgnoresSlashes := by
  constructor
  · exact ⟨_, rfl, by decide, by decide, rfl, by decide⟩
  · exact (build_law sampleEntries).2.2

end Context
end Server
end ChefAccess
