import ChefAccess.Server.Context
import Mathlib.Order.WellFounded

/-!
# Complete drafts

A draft is complete when its required fields are not blank, and then the context takes its
fields over, without the white space around them.  A draft has five needs: it is complete if all
of them are met, and otherwise the first one that is missed is reported.

Main definitions:

- {lit}`Server.Context.Draft.Complete`: a draft with all that a context takes.
- {lit}`Server.Context.Draft.Need`: what a draft needs, in the order in which it is asked for.

Main results:

- Theorem {lit}`Server.Context.required_eq_ok_iff`: when a required field is there.
- Theorem {lit}`Server.Context.Draft.Complete.build_eq`: the context of a complete draft.
- Theorem {lit}`Server.Context.Draft.build_of_first`: the first need that is missed is reported.
- Theorem {lit}`Server.Context.Draft.exists_build_ok_iff`: when a draft becomes a context.
- Theorem {lit}`Server.Context.Draft.build_eq_error_iff`: what is wrong with any other draft.
- Theorem {lit}`Server.Context.Draft.eq_of_build_ok`: where the fields of a context come from.
- Theorem {lit}`Server.Context.Draft.organization_of_build_ok`: when an organization is needed.
-/

namespace ChefAccess
namespace Server

/-- All versions but the oldest have organizations. -/
theorem Version.hasOrganizations_iff (version : Version) :
    version.hasOrganizations = true ↔ version ≠ .v11 := by
  cases version <;> decide

namespace Context

/-- Trimming leaves nothing of a blank text. -/
theorem isEmpty_trim (s : String) : (Text.trim s).isEmpty = Text.isBlank s := by
  rw [Bool.eq_iff_iff, Text.isBlank_iff_trim_eq, String.isEmpty_iff]

/-- A required field is there when it is not blank, and loses its outer white space. -/
theorem required_eq_ok_iff (field : String) (value : Option String) (text : String) :
    required field value = .ok text ↔
      Text.isBlank (value.getD "") = false ∧ text = Text.trim (value.getD "") := by
  unfold required
  dsimp only
  rw [isEmpty_trim]
  cases Text.isBlank (value.getD "") with
  | true => simp
  | false => simp [eq_comm]

/-- A required field that is blank is missed. -/
theorem required_of_isBlank {field : String} {value : Option String}
    (hblank : ¬ Text.isBlank (value.getD "") = false) :
    required field value = .error (Error.configInvalid (field ++ " is required")) := by
  have hempty : (Text.trim (value.getD "")).isEmpty = true := by
    rw [isEmpty_trim]
    exact Bool.not_eq_false _ ▸ hblank
  unfold required
  dsimp only
  rw [if_pos hempty]

namespace Draft

/-! ## Complete drafts -/

variable {draft : Draft}

/-- A draft is complete with a key: its required fields are not blank, and it has an
organization or its server needs none. -/
structure Complete (draft : Draft) (key : Key.Rsa) : Prop where
  serverId : Text.isBlank (draft.serverId.getD "") = false
  baseUri : Text.isBlank (draft.baseUri.getD "") = false
  username : Text.isBlank (draft.username.getD "") = false
  key : draft.key = some key
  organization : draft.version.hasOrganizations = true →
    Text.isBlank (draft.organization.getD "") = false

/-- The context that a draft stands for, with a key. -/
def context (draft : Draft) (key : Key.Rsa) : Context where
  serverId := Text.trim (draft.serverId.getD "")
  baseUri := withSlash (Text.trim (draft.baseUri.getD ""))
  organization := Text.trim (draft.organization.getD "")
  username := Text.trim (draft.username.getD "")
  key
  version := draft.version
  kind := draft.kind
  roles := draft.roles
  regions := draft.regions
  dataBagNames := draft.dataBagNames

/-- A draft that is complete becomes its context. -/
theorem Complete.build_eq {key : Key.Rsa} (hcomplete : draft.Complete key) :
    draft.build = .ok (draft.context key) := by
  have hneeded : (draft.version.hasOrganizations &&
      (Text.trim (draft.organization.getD "")).isEmpty) = false := by
    rw [isEmpty_trim]
    cases hneeds : draft.version.hasOrganizations with
    | true => rw [hcomplete.organization hneeds, Bool.and_false]
    | false => rw [Bool.false_and]
  rw [build, (required_eq_ok_iff _ _ _).mpr ⟨hcomplete.serverId, rfl⟩,
    (required_eq_ok_iff _ _ _).mpr ⟨hcomplete.baseUri, rfl⟩,
    (required_eq_ok_iff _ _ _).mpr ⟨hcomplete.username, rfl⟩, hcomplete.key]
  simp only [bind, Except.bind, hneeded, Bool.false_eq_true, if_false]
  rfl

/-- A draft is complete when its required fields are not blank, it has a key, and it has an
organization or its server needs none. -/
theorem exists_build_ok {key : Key.Rsa}
    (hserver : Text.isBlank (draft.serverId.getD "") = false)
    (huri : Text.isBlank (draft.baseUri.getD "") = false)
    (hname : Text.isBlank (draft.username.getD "") = false) (hkey : draft.key = some key)
    (horganization : draft.version.hasOrganizations = true →
      Text.isBlank (draft.organization.getD "") = false) :
    ∃ context, draft.build = .ok context :=
  ⟨_, Complete.build_eq ⟨hserver, huri, hname, hkey, horganization⟩⟩

/-! ## Needs -/

/-- What a draft needs. -/
inductive Need where
  | serverId
  | baseUri
  | username
  | key
  | organization
  deriving DecidableEq, Repr

namespace Need

/-- The order in which needs are asked for. -/
def rank : Need → Nat
  | serverId => 0
  | baseUri => 1
  | username => 2
  | key => 3
  | organization => 4

/-- What is reported of a draft if a need is missed. -/
def message (draft : Draft) : Need → String
  | serverId => "server id is required"
  | baseUri => "base uri is required"
  | username => "username is required"
  | key => "authentication key is required for chef server " ++
      Text.trim (draft.serverId.getD "")
  | organization => "chef server " ++ Text.trim (draft.serverId.getD "") ++ " runs version " ++
      draft.version.tag ++ " and requires an organization"

/-- The first of the needs that are not met. -/
structure First (met : Need → Prop) (need : Need) : Prop where
  missed : ¬ met need
  earlier : ∀ other : Need, other.rank < need.rank → met other

/-- If not all needs are met, there is a first one that is not. -/
theorem exists_first {met : Need → Prop} (hmissed : ¬ ∀ need, met need) :
    ∃ need, First met need := by
  obtain ⟨need, hneed, hleast⟩ :=
    (measure rank).wf.has_min {need | ¬ met need} (Classical.not_forall.mp hmissed)
  exact ⟨need, hneed, fun other hearlier => Classical.not_not.mp fun hother =>
    hleast other hother hearlier⟩

end Need

variable {context : Context} {need : Need}

/-- Whether a draft meets a need. -/
def Meets (draft : Draft) : Need → Prop
  | .serverId => Text.isBlank (draft.serverId.getD "") = false
  | .baseUri => Text.isBlank (draft.baseUri.getD "") = false
  | .username => Text.isBlank (draft.username.getD "") = false
  | .key => ∃ key, draft.key = some key
  | .organization => draft.version.hasOrganizations = true →
      Text.isBlank (draft.organization.getD "") = false

/-- A draft is complete if all its needs are met. -/
theorem exists_complete (hmeets : ∀ need, draft.Meets need) : ∃ key, draft.Complete key := by
  obtain ⟨key, hkey⟩ := hmeets .key
  exact ⟨key, hmeets .serverId, hmeets .baseUri, hmeets .username, hkey, hmeets .organization⟩

/-- The first need that is missed is reported. -/
theorem build_of_first (hfirst : Need.First draft.Meets need) :
    draft.build = .error (Error.configInvalid (need.message draft)) := by
  have hfilled : ∀ {field : String} {value : Option String},
      Text.isBlank (value.getD "") = false →
      required field value = .ok (Text.trim (value.getD "")) := fun hvalue =>
    (required_eq_ok_iff _ _ _).mpr ⟨hvalue, rfl⟩
  obtain ⟨hmissed, hearlier⟩ := hfirst
  -- the needs before the one that is missed are met, so their fields are passed
  cases need with
  | serverId =>
    rw [build, required_of_isBlank hmissed]
    rfl
  | baseUri =>
    rw [build, hfilled (hearlier .serverId (by decide)), required_of_isBlank hmissed]
    rfl
  | username =>
    rw [build, hfilled (hearlier .serverId (by decide)), hfilled (hearlier .baseUri (by decide)),
      required_of_isBlank hmissed]
    rfl
  | key =>
    have hnone : draft.key = none := Option.eq_none_iff_forall_ne_some.mpr fun key hkey =>
      hmissed ⟨key, hkey⟩
    rw [build, hfilled (hearlier .serverId (by decide)), hfilled (hearlier .baseUri (by decide)),
      hfilled (hearlier .username (by decide)), hnone]
    rfl
  | organization =>
    obtain ⟨key, hkey⟩ := hearlier .key (by decide)
    obtain ⟨hneeds, hblank⟩ := Classical.not_imp.mp hmissed
    rw [build, hfilled (hearlier .serverId (by decide)), hfilled (hearlier .baseUri (by decide)),
      hfilled (hearlier .username (by decide)), hkey]
    simp only [bind, Except.bind, isEmpty_trim, hneeds, Bool.not_eq_false _ ▸ hblank,
      Bool.and_self, if_true]
    rfl

/-- A draft becomes a context exactly if its needs are met. -/
theorem exists_build_ok_iff :
    (∃ context, draft.build = .ok context) ↔ ∀ need, draft.Meets need := by
  constructor
  · rintro ⟨context, hbuild⟩
    refine Classical.not_not.mp fun hmissed => ?_
    obtain ⟨need, hfirst⟩ := Need.exists_first hmissed
    rw [build_of_first hfirst] at hbuild
    cases hbuild
  · intro hmeets
    obtain ⟨key, hcomplete⟩ := exists_complete hmeets
    exact ⟨_, hcomplete.build_eq⟩

/-- A draft that does not become a context is reported for the first need that is missed. -/
theorem build_eq_error_iff {e : Error} :
    draft.build = .error e ↔ ∃ need, Need.First draft.Meets need ∧
      e = Error.configInvalid (need.message draft) := by
  constructor
  · intro herror
    have hmissed : ¬ ∀ need, draft.Meets need := by
      rw [← exists_build_ok_iff, herror]
      rintro ⟨context, hbuild⟩
      cases hbuild
    obtain ⟨need, hfirst⟩ := Need.exists_first hmissed
    rw [build_of_first hfirst, Except.error.injEq] at herror
    exact ⟨need, hfirst, herror.symm⟩
  · rintro ⟨need, hfirst, rfl⟩
    exact build_of_first hfirst

/-- The context that a draft becomes is the one that it stands for. -/
theorem eq_context_of_build_ok (hbuild : draft.build = .ok context) :
    ∃ key, draft.Complete key ∧ context = draft.context key := by
  obtain ⟨key, hcomplete⟩ := exists_complete (exists_build_ok_iff.mp ⟨context, hbuild⟩)
  rw [hcomplete.build_eq, Except.ok.injEq] at hbuild
  exact ⟨key, hcomplete, hbuild.symm⟩

/-- Where the fields of a context come from. -/
theorem eq_of_build_ok (hbuild : draft.build = .ok context) :
    Text.isBlank (draft.serverId.getD "") = false ∧
      context.serverId = Text.trim (draft.serverId.getD "") ∧
      context.username = Text.trim (draft.username.getD "") ∧
      draft.key = some context.key ∧ context.kind = draft.kind := by
  obtain ⟨key, hcomplete, rfl⟩ := eq_context_of_build_ok hbuild
  exact ⟨hcomplete.serverId, rfl, rfl, hcomplete.key, rfl⟩

/-- A draft is complete only with an organization, if its server needs one. -/
theorem organization_of_build_ok (hbuild : draft.build = .ok context)
    (hneeds : draft.version.hasOrganizations = true) :
    Text.isBlank (draft.organization.getD "") = false := by
  obtain ⟨key, hcomplete, -⟩ := eq_context_of_build_ok hbuild
  exact hcomplete.organization hneeds

/-- A draft that is not complete is a fault of the configuration. -/
theorem kind_of_build_error {e : Error} (herror : draft.build = .error e) :
    e.kind = .configInvalid := by
  obtain ⟨need, -, rfl⟩ := build_eq_error_iff.mp herror
  rfl

end Draft
end Context
end Server
end ChefAccess
