import ChefAccess.Proofs.Action
import Mathlib.Data.List.Forall2

/-!
# Actions in step

Two runs of an action can be compared step by step: if they start in states that correspond,
they end in states that correspond, with results that correspond and journals that
correspond event by event.  What it means to correspond is given by relations, and the rules
below follow the way in which actions are composed.

Main definitions:

- {lit}`Agree`: two results are values that correspond, or the same failure.
- {lit}`Action.InStep`: two actions take states that correspond to outcomes that correspond.

Main results:

- Theorem {lit}`Action.InStep.bind`: compositions of actions in step are in step.
- Theorem {lit}`Action.InStep.onPart`: so are actions on a part of the state.
-/

namespace ChefAccess

/-! ## Results -/

/-- Two results agree: they are values that correspond, or the same failure. -/
inductive Agree {α β : Type} (Value : α → β → Prop) : Except Error α → Except Error β → Prop
  /-- Both are values. -/
  | ok {a : α} {b : β} (hvalue : Value a b) : Agree Value (.ok a) (.ok b)
  /-- Both are failures. -/
  | error (e : Error) : Agree Value (.error e) (.error e)

namespace Agree

variable {α β γ δ : Type} {Value Other : α → β → Prop} {Last : γ → δ → Prop}
  {first : Except Error α} {second : Except Error β}

/-- Equal results agree if equal values correspond. -/
theorem refl {Same : α → α → Prop} (hsame : ∀ a, Same a a) (result : Except Error α) :
    Agree Same result result := by
  cases result with
  | error e => exact .error e
  | ok a => exact .ok (hsame a)

theorem imp (hagree : Agree Value first second) (himp : ∀ a b, Value a b → Other a b) :
    Agree Other first second := by
  cases hagree with
  | ok hvalue => exact .ok (himp _ _ hvalue)
  | error e => exact .error e

/-- What is computed from results that agree agrees. -/
theorem bind {next : α → Except Error γ} {next' : β → Except Error δ}
    (hagree : Agree Value first second)
    (hnext : ∀ a b, Value a b → Agree Last (next a) (next' b)) :
    Agree Last (first >>= next) (second >>= next') := by
  cases hagree with
  | ok hvalue => exact hnext _ _ hvalue
  | error e => exact .error e

end Agree

/-! ## Outcomes -/

/-- Two outcomes are alike: their results agree, their states correspond, and so do their
journals, event by event. -/
structure Outcome.Alike {σ τ α β : Type} (Same : Event → Event → Prop) (State : σ → τ → Prop)
    (Value : α → β → Prop) (first : Outcome σ α) (second : Outcome τ β) : Prop where
  result : Agree Value first.result second.result
  state : State first.state second.state
  events : List.Forall₂ Same first.events second.events

namespace Action

variable {σ τ ρ π α β γ δ : Type}

/-- Two actions are in step: they take states that correspond to outcomes that are alike. -/
def InStep (Same : Event → Event → Prop) (State : σ → τ → Prop) (Value : α → β → Prop)
    (first : Action σ α) (second : Action τ β) : Prop :=
  ∀ s t, State s t → Outcome.Alike Same State Value (first s) (second t)

namespace InStep

variable {Same : Event → Event → Prop} {State : σ → τ → Prop} {Part : ρ → π → Prop}
  {Value : α → β → Prop} {Last : γ → δ → Prop}

/-! ## Single actions -/

theorem pure {a : α} {b : β} (hvalue : Value a b) :
    InStep Same State Value (Pure.pure a) (Pure.pure b) :=
  fun _ _ hstate => ⟨.ok hvalue, hstate, .nil⟩

theorem fail (e : Error) :
    InStep Same State Value (Action.fail e) (Action.fail e) :=
  fun _ _ hstate => ⟨.error e, hstate, .nil⟩

theorem ofExcept {first : Except Error α} {second : Except Error β}
    (hagree : Agree Value first second) :
    InStep Same State Value (Action.ofExcept first) (Action.ofExcept second) :=
  fun _ _ hstate => ⟨hagree, hstate, .nil⟩

theorem read : InStep Same State State Action.read Action.read :=
  fun _ _ hstate => ⟨.ok hstate, hstate, .nil⟩

theorem update {change : σ → α × σ} {change' : τ → β × τ}
    (hchange : ∀ s t, State s t →
      Value (change s).1 (change' t).1 ∧ State (change s).2 (change' t).2) :
    InStep Same State Value (Action.update change) (Action.update change') :=
  fun s t hstate => ⟨.ok (hchange s t hstate).1, (hchange s t hstate).2, .nil⟩

theorem modify {change : σ → σ} {change' : τ → τ}
    (hchange : ∀ s t, State s t → State (change s) (change' t)) :
    InStep Same State Eq (Action.modify change) (Action.modify change') :=
  fun s t hstate => ⟨.ok rfl, hchange s t hstate, .nil⟩

theorem record {event event' : Event} (hsame : Same event event') :
    InStep Same State Eq (Action.record event) (Action.record event') :=
  fun _ _ hstate => ⟨.ok rfl, hstate, .cons hsame .nil⟩

/-! ## Composed actions -/

/-- Compositions of actions in step are in step. -/
theorem bind {V : α → β → Prop} {first : Action σ α} {second : Action τ β}
    {next : α → Action σ γ} {next' : β → Action τ δ} (hfirst : InStep Same State V first second)
    (hnext : ∀ a b, V a b → InStep Same State Last (next a) (next' b)) :
    InStep Same State Last (first >>= next) (second >>= next') := by
  intro s t hstate
  obtain ⟨hresult, hafter, hevents⟩ := hfirst s t hstate
  rcases houtcome : first s with ⟨result, u, events⟩
  rcases houtcome' : second t with ⟨result', v, events'⟩
  rw [houtcome, houtcome'] at hresult hafter hevents
  cases hresult with
  | error e =>
    rw [bind_eq_of_error houtcome, bind_eq_of_error houtcome']
    exact ⟨.error e, hafter, hevents⟩
  | ok hvalue =>
    obtain ⟨hresult, hstate, hlater⟩ := hnext _ _ hvalue u v hafter
    rw [bind_eq_of_ok houtcome, bind_eq_of_ok houtcome']
    exact ⟨hresult, hstate, List.rel_append hevents hlater⟩

/-- Actions on parts that correspond are in step, if the states correspond whenever their
parts do. -/
theorem onPart {get : σ → ρ} {set : σ → ρ → σ} {get' : τ → π} {set' : τ → π → τ}
    {first : Action ρ α} {second : Action π β}
    (hpart : ∀ s t, State s t → Part (get s) (get' t))
    (hwhole : ∀ s t r p, State s t → Part r p → State (set s r) (set' t p))
    (hstep : InStep Same Part Value first second) :
    InStep Same State Value (Action.onPart get set first) (Action.onPart get' set' second) := by
  intro s t hstate
  obtain ⟨hresult, hafter, hevents⟩ := hstep (get s) (get' t) (hpart s t hstate)
  exact ⟨hresult, hwhole s t _ _ hstate hafter, hevents⟩

end InStep
end Action
end ChefAccess
