import ChefAccess.Proofs.Service.Run
import ChefAccess.Proofs.Service.Stage

/-!
# Transports side by side

Two registries build transports in workshops of their own.  The shared transports for zone
servers correspond, and those for tenants' servers do as soon as both are built.  A registry that
is older than the run may have built the latter before, and then it is spared that build.

Main definitions:

- {lit}`Plant`: the part of a registry that has to do with transports.
- {lit}`Plant.Alike`: the transports of two registries correspond at a stage.
- {lit}`RefusalsAlike`: builds fail on both sides or on neither.

Main results:

- Theorems {lit}`Registry.build_of_refused` and {lit}`Registry.build_of_not_refused`: a build.
- Theorems {lit}`Plant.Alike.refused` and {lit}`Plant.Alike.afterBuild`: one more build.
- Theorem {lit}`Plant.Alike.afterProject`: both sides build a transport for tenants' servers.
- Theorem {lit}`Plant.Alike.afterSpare`: the second side builds one that the first side has.
-/

namespace ChefAccess

/-! ## Transports of one registry -/

/-- The part of a registry that has to do with transports. -/
structure Plant where
  workshop : Workshop
  zone : Transport
  project : Option Transport

/-- The transports of a registry. -/
def Registry.plant (registry : Registry) : Plant :=
  ⟨registry.workshop, registry.zoneTransport, registry.projectTransport⟩

/-- A registry with other transports. -/
def Registry.withPlant (registry : Registry) (plant : Plant) : Registry :=
  { registry with
    workshop := plant.workshop
    zoneTransport := plant.zone
    projectTransport := plant.project }

namespace Plant

/-- The plant after a build that failed. -/
def refused (plant : Plant) : Plant :=
  { plant with workshop := { plant.workshop with tried := plant.workshop.tried + 1 } }

/-- The transport that is built next. -/
def next (plant : Plant) : Transport :=
  ⟨plant.workshop.built⟩

/-- The plant after a build that succeeded. -/
def afterBuild (plant : Plant) : Plant :=
  { plant with workshop := ⟨plant.workshop.tried + 1, plant.workshop.built + 1⟩ }

end Plant

namespace Registry

variable {around : Surroundings} {r : Registry} {e : Error}

/-- A build that fails. -/
theorem build_of_refused (hrefused : around.refusal r.workshop.tried = some e)
    (timeouts : Timeouts) :
    build around timeouts r = ⟨.error e, r.withPlant r.plant.refused, [.built timeouts]⟩ := by
  rw [build, Action.onPart, Workshop.build_of_refused hrefused]
  rfl

/-- A build that succeeds. -/
theorem build_of_not_refused (hnot : around.refusal r.workshop.tried = none)
    (timeouts : Timeouts) :
    build around timeouts r =
      ⟨.ok r.plant.next, r.withPlant r.plant.afterBuild, [.built timeouts]⟩ := by
  rw [build, Action.onPart, Workshop.build_of_not_refused hnot]
  rfl

theorem sharedTransport_zone (around : Surroundings) (r : Registry) :
    sharedTransport around .zone r = ⟨.ok r.zoneTransport, r, []⟩ :=
  rfl

/-- The transport for tenants' servers was built before. -/
theorem sharedTransport_of_some {t : Transport} (hsome : r.projectTransport = some t) :
    sharedTransport around .project r = ⟨.ok t, r, []⟩ := by
  rw [sharedTransport, Action.read_bind, hsome]
  rfl

/-- The transport for tenants' servers cannot be built. -/
theorem sharedTransport_of_refused (hnone : r.projectTransport = none)
    (hrefused : around.refusal r.workshop.tried = some e) :
    sharedTransport around .project r =
      ⟨.error e, r.withPlant r.plant.refused, [.built r.timeouts]⟩ := by
  rw [sharedTransport, Action.read_bind, hnone]
  exact Action.bind_eq_of_error (build_of_refused hrefused r.timeouts)

/-- The transport for tenants' servers is built. -/
theorem sharedTransport_of_not_refused (hnone : r.projectTransport = none)
    (hnot : around.refusal r.workshop.tried = none) :
    sharedTransport around .project r =
      ⟨.ok r.plant.next, r.withPlant { r.plant.afterBuild with project := some r.plant.next },
        [.built r.timeouts]⟩ := by
  rw [sharedTransport, Action.read_bind, hnone]
  exact Action.bind_eq_of_ok (build_of_not_refused hnot r.timeouts)

end Registry

namespace Plant

variable {Shared : Prop} {spare : Nat} {stage : Stage Shared} {first second : Plant}

/-! ## Transports of two registries -/

/-- The transports for tenants' servers correspond: neither was built, or both were, or the
first one was built before the runs began, and its counterpart is still to come. -/
inductive ProjectAlike (spare : Nat) (stage : Stage Shared) (built : Nat) (zone : Transport) :
    Option Transport → Option Transport → Prop
  | unbuilt : ProjectAlike spare stage built zone none none
  | built {t u : Transport} (hlinks : stage.links t u) (hne : t ≠ zone) :
      ProjectAlike spare stage built zone (some t) (some u)
  | ahead {t : Transport} (hlt : t.number < built) (hnew : ∀ u, ¬ stage.links t u)
      (hspared : stage.spared < spare) : ProjectAlike spare stage built zone (some t) none

/-- The transports of two registries correspond at a stage. -/
structure Alike (spare : Nat) (stage : Stage Shared) (first second : Plant) : Prop where
  workshop : Shared → first.workshop = second.workshop
  /-- Only transports that were built correspond. -/
  bounds : ∀ {t u}, stage.links t u →
    t.number < first.workshop.built ∧ u.number < second.workshop.built
  zone : stage.links first.zone second.zone
  project : ProjectAlike spare stage first.workshop.built first.zone first.project second.project
  spared : stage.spared ≤ spare

namespace Alike

/-- Builds fail on both sides. -/
theorem refused (halike : Alike spare stage first second) :
    Alike spare stage first.refused second.refused := by
  refine ⟨?_, halike.bounds, halike.zone, halike.project, halike.spared⟩
  intro hshared
  simp only [Plant.refused, halike.workshop hshared]

/-- A transport that is not built yet has no counterpart. -/
theorem not_links_next (halike : Alike spare stage first second) (u : Transport) :
    ¬ stage.links first.next u :=
  fun hlinks => Nat.lt_irrefl _ (halike.bounds hlinks).1

theorem not_links_next' (halike : Alike spare stage first second) (t : Transport) :
    ¬ stage.links t second.next :=
  fun hlinks => Nat.lt_irrefl _ (halike.bounds hlinks).2

/-- The stage at which the transports that are built next correspond. -/
def linkNext (halike : Alike spare stage first second) : Stage Shared :=
  stage.link first.next second.next halike.not_links_next halike.not_links_next'
    fun hshared => by rw [next, next, halike.workshop hshared]

theorem leadsTo_linkNext (halike : Alike spare stage first second) :
    stage.LeadsTo halike.linkNext :=
  Or.inl

theorem linkNext_links (halike : Alike spare stage first second) :
    halike.linkNext.links first.next second.next :=
  Or.inr ⟨rfl, rfl⟩

/-- Only transports that were built correspond after a build, too. -/
theorem linkNext_bounds (halike : Alike spare stage first second) {t u : Transport}
    (hlinks : halike.linkNext.links t u) :
    t.number < first.workshop.built + 1 ∧ u.number < second.workshop.built + 1 := by
  rcases hlinks with hold | ⟨rfl, rfl⟩
  · have hbounds := halike.bounds hold
    omega
  · exact ⟨Nat.lt_succ_self _, Nat.lt_succ_self _⟩

theorem afterBuild_workshop (halike : Alike spare stage first second) (hshared : Shared) :
    first.afterBuild.workshop = second.afterBuild.workshop := by
  simp only [Plant.afterBuild, halike.workshop hshared]

/-- Builds succeed on both sides. -/
theorem afterBuild (halike : Alike spare stage first second) :
    Alike spare halike.linkNext first.afterBuild second.afterBuild := by
  refine ⟨halike.afterBuild_workshop, halike.linkNext_bounds, Or.inl halike.zone, ?_,
    halike.spared⟩
  have hproject := halike.project
  dsimp only [Plant.afterBuild]
  generalize first.project = project at hproject ⊢
  generalize second.project = project' at hproject ⊢
  cases hproject with
  | unbuilt => exact .unbuilt
  | built hlinks hne => exact .built (Or.inl hlinks) hne
  | ahead hlt hnew hspared =>
    refine .ahead (Nat.lt_succ_of_lt hlt) ?_ hspared
    rintro u (hold | ⟨rfl, -⟩)
    · exact hnew u hold
    · exact Nat.lt_irrefl _ hlt

/-- Both sides build a transport for tenants' servers. -/
theorem afterProject (halike : Alike spare stage first second) :
    Alike spare halike.linkNext { first.afterBuild with project := some first.next }
      { second.afterBuild with project := some second.next } := by
  refine ⟨halike.afterBuild_workshop, halike.linkNext_bounds, Or.inl halike.zone, ?_,
    halike.spared⟩
  refine .built halike.linkNext_links ?_
  intro heq
  exact halike.not_links_next second.zone (heq ▸ halike.zone)

/-- The stage at which the second side has built the counterpart of a transport that the first
side has already. -/
def spareNext (halike : Alike spare stage first second) {t : Transport}
    (hnew : ∀ u, ¬ stage.links t u) (hshared : ¬ Shared) : Stage Shared :=
  (stage.link t second.next hnew halike.not_links_next' fun h => absurd h hshared).spare

/-- The second side builds the counterpart of a transport that the first side has already. -/
theorem afterSpare (halike : Alike spare stage first second) {t : Transport}
    (hproject : first.project = some t) (hlt : t.number < first.workshop.built)
    (hnew : ∀ u, ¬ stage.links t u) (hspared : stage.spared < spare) (hshared : ¬ Shared) :
    Alike spare (halike.spareNext hnew hshared) first
      { second.afterBuild with project := some second.next } := by
  refine ⟨fun h => absurd h hshared, ?_, Or.inl halike.zone, ?_, hspared⟩
  · rintro u v (hold | ⟨rfl, rfl⟩)
    · have hbounds := halike.bounds hold
      exact ⟨hbounds.1, Nat.lt_succ_of_lt hbounds.2⟩
    · exact ⟨hlt, Nat.lt_succ_self _⟩
  · rw [hproject]
    refine .built (Or.inr ⟨rfl, rfl⟩) ?_
    rintro rfl
    exact hnew second.zone halike.zone

end Alike
end Plant

/-- The builds that fail are the same, or none fail. -/
inductive RefusalsAlike (Shared : Prop) : (Nat → Option Error) → (Nat → Option Error) → Prop
  | same (hshared : Shared) (refusal : Nat → Option Error) : RefusalsAlike Shared refusal refusal
  | never {refusal refusal' : Nat → Option Error} (hnever : ∀ count, refusal count = none)
      (hnever' : ∀ count, refusal' count = none) : RefusalsAlike Shared refusal refusal'

/-- Builds fail on both sides, or on neither. -/
theorem RefusalsAlike.eq {Shared : Prop} {refusal refusal' : Nat → Option Error}
    {workshop workshop' : Workshop} (halike : RefusalsAlike Shared refusal refusal')
    (hworkshop : Shared → workshop = workshop') :
    refusal workshop.tried = refusal' workshop'.tried := by
  cases halike with
  | same hshared => rw [hworkshop hshared]
  | never hnever hnever' => rw [hnever, hnever']

/-- Builds do not fail unless they fail in the same way. -/
theorem RefusalsAlike.eq_none {Shared : Prop} {refusal refusal' : Nat → Option Error}
    (halike : RefusalsAlike Shared refusal refusal') (hshared : ¬ Shared) (count : Nat) :
    refusal' count = none := by
  cases halike with
  | same h => exact absurd h hshared
  | never _ hnever => exact hnever count

end ChefAccess
