import ChefAccess.Proofs.InStep

/-!
# Runs with transports of their own

Two runs may number their transports differently, and one of them may have a transport
already that the other one still has to build.  As the runs go on, more transports correspond
to each other, and a transport that corresponds to another one does so for good.  So what the
runs have in common is told for each stage of the runs, and it stays true at later stages.

Main definitions:

- {lit}`Stage`: which transports correspond, and how many builds the first run was spared.
- {lit}`Journals`: two journals tell the same, except for spared builds.
- {lit}`Action.Coupled`: two actions lead from a stage to a later one.

Main results:

- Theorem {lit}`Action.Coupled.bind`: compositions of coupled actions are coupled.
- Theorem {lit}`Action.Coupled.of_inStep`: actions in step stay at their stage.
-/

namespace ChefAccess

/-! ## Stages -/

/-- A relation between transports is one-to-one. -/
def OneToOne (links : Transport → Transport → Prop) : Prop :=
  ∀ {t u t' u'}, links t u → links t' u' → (t = t' ↔ u = u')

/-- How far two runs have come: which transports correspond, and how many builds the first run
was spared.  Runs with the same transports are a special case. -/
structure Stage (Shared : Prop) where
  links : Transport → Transport → Prop
  spared : Nat
  oneToOne : OneToOne links
  eq_of_links : Shared → ∀ {t u}, links t u → t = u

namespace Stage

variable {Shared : Prop} {stage now later : Stage Shared} {t u : Transport}

/-- The stage at which two transports correspond, and no others. -/
def start (t u : Transport) (hshared : Shared → t = u) : Stage Shared where
  links t' u' := t' = t ∧ u' = u
  spared := 0
  oneToOne := by
    rintro t₁ u₁ t₂ u₂ ⟨rfl, rfl⟩ ⟨rfl, rfl⟩
    exact ⟨fun _ => rfl, fun _ => rfl⟩
  eq_of_links hsame := by
    rintro t' u' ⟨rfl, rfl⟩
    exact hshared hsame

/-- A stage leads to a later one, at which everything that corresponds still does. -/
def LeadsTo (stage later : Stage Shared) : Prop :=
  ∀ {t u}, stage.links t u → later.links t u

theorem LeadsTo.refl (stage : Stage Shared) : stage.LeadsTo stage :=
  id

theorem LeadsTo.trans (hfirst : stage.LeadsTo now) (hsecond : now.LeadsTo later) :
    stage.LeadsTo later :=
  fun hlinks => hsecond (hfirst hlinks)

/-- The stage at which two new transports correspond, too. -/
def link (stage : Stage Shared) (t u : Transport) (hnew : ∀ u, ¬ stage.links t u)
    (hnew' : ∀ t, ¬ stage.links t u) (hshared : Shared → t = u) : Stage Shared where
  links t' u' := stage.links t' u' ∨ t' = t ∧ u' = u
  spared := stage.spared
  oneToOne := by
    rintro t₁ u₁ t₂ u₂ (hold | ⟨rfl, rfl⟩) (hold' | ⟨rfl, rfl⟩)
    · exact stage.oneToOne hold hold'
    · exact ⟨fun heq => absurd (heq ▸ hold) (hnew _), fun heq => absurd (heq ▸ hold) (hnew' _)⟩
    · exact ⟨fun heq => absurd (heq ▸ hold') (hnew _), fun heq => absurd (heq ▸ hold') (hnew' _)⟩
    · exact ⟨fun _ => rfl, fun _ => rfl⟩
  eq_of_links hsame := by
    rintro t' u' (hold | ⟨rfl, rfl⟩)
    · exact stage.eq_of_links hsame hold
    · exact hshared hsame

/-- The stage at which the first run was spared one more build. -/
def spare (stage : Stage Shared) : Stage Shared :=
  { stage with spared := stage.spared + 1 }

end Stage

/-! ## Journals -/

/-- Two events are alike: they differ at most in transports and requests that correspond. -/
inductive Event.Alike (Requests : Http.Request → Http.Request → Prop)
    (links : Transport → Transport → Prop) : Event → Event → Prop
  | asked (query : Query) : Alike Requests links (.asked query) (.asked query)
  | built (timeouts : Timeouts) : Alike Requests links (.built timeouts) (.built timeouts)
  | sent {t u : Transport} {request request' : Http.Request} (hlinks : links t u)
      (hrequests : Requests request request') :
      Alike Requests links (.sent t request) (.sent u request')
  | warning (text : String) : Alike Requests links (.warning text) (.warning text)
  | notice (text : String) : Alike Requests links (.notice text) (.notice text)

theorem Event.Alike.imp {Requests : Http.Request → Http.Request → Prop}
    {links links' : Transport → Transport → Prop} {event event' : Event}
    (halike : Event.Alike Requests links event event') (himp : ∀ {t u}, links t u → links' t u) :
    Event.Alike Requests links' event event' := by
  cases halike with
  | asked query => exact .asked query
  | built timeouts => exact .built timeouts
  | sent hlinks hrequests => exact .sent (himp hlinks) hrequests
  | warning text => exact .warning text
  | notice text => exact .notice text

/-- Two journals tell the same, event by event, except for builds with given timeouts of which
the first run was spared some.  The builds that it was spared are counted. -/
inductive Journals (Same : Event → Event → Prop) (timeouts : Timeouts) :
    Nat → Nat → List Event → List Event → Prop
  /-- Nothing is written. -/
  | nil (count : Nat) : Journals Same timeouts count count [] []
  /-- Both runs write. -/
  | cons {count final : Nat} {event event' : Event} {rest rest' : List Event}
      (hsame : Same event event') (hrest : Journals Same timeouts count final rest rest') :
      Journals Same timeouts count final (event :: rest) (event' :: rest')
  /-- The first run is spared a build. -/
  | spared {count final : Nat} {rest rest' : List Event}
      (hrest : Journals Same timeouts (count + 1) final rest rest') :
      Journals Same timeouts count final rest (.built timeouts :: rest')

namespace Journals

variable {Same Other : Event → Event → Prop} {timeouts : Timeouts} {count middle final : Nat}
  {events events' rest rest' : List Event}

theorem of_forall₂ (hevents : List.Forall₂ Same events events') :
    Journals Same timeouts count count events events' := by
  induction hevents with
  | nil => exact .nil count
  | cons hsame _ ih => exact .cons hsame ih

theorem imp (hevents : Journals Same timeouts count final events events')
    (himp : ∀ event event', Same event event' → Other event event') :
    Journals Other timeouts count final events events' := by
  induction hevents with
  | nil count => exact .nil count
  | cons hsame _ ih => exact .cons (himp _ _ hsame) ih
  | spared _ ih => exact .spared ih

theorem append (hevents : Journals Same timeouts count middle events events')
    (hrest : Journals Same timeouts middle final rest rest') :
    Journals Same timeouts count final (events ++ rest) (events' ++ rest') := by
  induction hevents with
  | nil count => exact hrest
  | cons hsame _ ih => exact .cons hsame (ih hrest)
  | spared _ ih => exact .spared (ih hrest)

/-- The count of spared builds never goes down. -/
theorem le (hevents : Journals Same timeouts count final events events') : count ≤ final := by
  induction hevents with
  | nil count => exact Nat.le_refl count
  | cons _ _ ih => exact ih
  | spared _ ih => exact Nat.le_of_succ_le ih

/-- If no build is spared, the journals tell the same. -/
theorem forall₂ (hevents : Journals Same timeouts count final events events')
    (hnone : final = count) : List.Forall₂ Same events events' := by
  induction hevents with
  | nil => exact .nil
  | cons hsame _ ih => exact .cons hsame (ih hnone)
  | spared hrest _ =>
    have hle := hrest.le
    omega

end Journals

/-! ## Coupled actions -/

section Coupled

variable {Shared : Prop} {σ τ ρ π α β γ δ : Type}

/-- Two outcomes lead from a stage to a later one: at the later stage their results agree,
their states correspond, and their journals tell the same but for the builds that were spared
in between. -/
structure Outcome.Coupled (Requests : Http.Request → Http.Request → Prop) (timeouts : Timeouts)
    (State : Stage Shared → σ → τ → Prop) (Value : Stage Shared → α → β → Prop)
    (now later : Stage Shared) (first : Outcome σ α) (second : Outcome τ β) : Prop where
  leadsTo : now.LeadsTo later
  result : Agree (Value later) first.result second.result
  state : State later first.state second.state
  events : Journals (Event.Alike Requests later.links) timeouts now.spared later.spared
    first.events second.events

/-- Two actions are coupled from a stage on: whenever they start at a later stage, they lead
to a stage that is later still. -/
def Action.Coupled (Requests : Http.Request → Http.Request → Prop) (timeouts : Timeouts)
    (State : Stage Shared → σ → τ → Prop) (Value : Stage Shared → α → β → Prop)
    (stage : Stage Shared) (first : Action σ α) (second : Action τ β) : Prop :=
  ∀ now, stage.LeadsTo now → ∀ s t, State now s t →
    ∃ later, Outcome.Coupled Requests timeouts State Value now later (first s) (second t)

namespace Action.Coupled

variable {Requests : Http.Request → Http.Request → Prop} {timeouts : Timeouts}
  {State : Stage Shared → σ → τ → Prop} {Part : Stage Shared → ρ → π → Prop}
  {Value : Stage Shared → α → β → Prop} {Last : Stage Shared → γ → δ → Prop}
  {stage : Stage Shared}

/-- Actions in step stay at their stage. -/
theorem of_inStep {first : Action σ α} {second : Action τ β}
    (hstep : ∀ now, stage.LeadsTo now →
      InStep (Event.Alike Requests now.links) (State now) (Value now) first second) :
    Coupled Requests timeouts State Value stage first second := by
  intro now hnow s t hstate
  obtain ⟨hresult, hafter, hevents⟩ := hstep now hnow s t hstate
  exact ⟨now, Stage.LeadsTo.refl now, hresult, hafter, .of_forall₂ hevents⟩

/-- Values that correspond are given at every stage. -/
theorem pure {a : α} {b : β} (hvalue : ∀ now, stage.LeadsTo now → Value now a b) :
    Coupled Requests timeouts State Value stage (Pure.pure a) (Pure.pure b) :=
  of_inStep fun now hnow => .pure (hvalue now hnow)

/-- Compositions of coupled actions are coupled. -/
theorem bind {V : Stage Shared → α → β → Prop} {first : Action σ α} {second : Action τ β}
    {next : α → Action σ γ} {next' : β → Action τ δ}
    (hfirst : Coupled Requests timeouts State V stage first second)
    (hnext : ∀ now, stage.LeadsTo now → ∀ a b, V now a b →
      Coupled Requests timeouts State Last now (next a) (next' b)) :
    Coupled Requests timeouts State Last stage (first >>= next) (second >>= next') := by
  intro now hnow s t hstate
  obtain ⟨middle, hmiddle, hresult, hafter, hevents⟩ := hfirst now hnow s t hstate
  rcases houtcome : first s with ⟨result, u, events⟩
  rcases houtcome' : second t with ⟨result', v, events'⟩
  rw [houtcome, houtcome'] at hresult hafter hevents
  cases hresult with
  | error e =>
    rw [bind_eq_of_error houtcome, bind_eq_of_error houtcome']
    exact ⟨middle, hmiddle, .error e, hafter, hevents⟩
  | ok hvalue =>
    obtain ⟨later, hlater, hresult, hstate, hrest⟩ :=
      hnext middle (hnow.trans hmiddle) _ _ hvalue middle (Stage.LeadsTo.refl middle) u v hafter
    rw [bind_eq_of_ok houtcome, bind_eq_of_ok houtcome']
    refine ⟨later, hmiddle.trans hlater, hresult, hstate, ?_⟩
    exact (hevents.imp fun _ _ hsame => hsame.imp hlater).append hrest

/-- Coupled actions on parts are coupled, if the rest of the states goes with every later
stage. -/
theorem onPart {get : σ → ρ} {set : σ → ρ → σ} {get' : τ → π} {set' : τ → π → τ}
    {first : Action ρ α} {second : Action π β}
    (hpart : ∀ now s t, State now s t → Part now (get s) (get' t))
    (hwhole : ∀ now later s t r p, State now s t → now.LeadsTo later → Part later r p →
      State later (set s r) (set' t p))
    (hcoupled : Coupled Requests timeouts Part Value stage first second) :
    Coupled Requests timeouts State Value stage (Action.onPart get set first)
      (Action.onPart get' set' second) := by
  intro now hnow s t hstate
  obtain ⟨later, hlater, hresult, hafter, hevents⟩ :=
    hcoupled now hnow (get s) (get' t) (hpart now s t hstate)
  exact ⟨later, hlater, hresult, hwhole now later s t _ _ hstate hlater hafter, hevents⟩

end Action.Coupled
end Coupled
end ChefAccess
