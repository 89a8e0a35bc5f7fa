import ChefAccess.Journal

/-!
# Actions

An operation works on a state, may fail, and keeps a journal.  A failure ends the
operation, but undoes nothing: the state stays as it was left, and so does the journal.

Main definitions:

- {lit}`Outcome`: what became of an operation.
- {lit}`Action`: an operation on a state.
- {lit}`Action.onPart`: an operation on a part of a larger state.

Main results:

- Theorem {lit}`Action.bind_ok`: after a success the operation goes on.
- Theorem {lit}`Action.bind_error`: after a failure it does not.
-/

namespace ChefAccess

/-- What became of an operation: its result, the state it left, and its journal. -/
structure Outcome (σ α : Type) where
  result : Except Error α
  state : σ
  events : List Event

/-- An operation on a state that may fail and keeps a journal.  A failure undoes
nothing. -/
def Action (σ α : Type) :=
  σ → Outcome σ α

namespace Action

variable {σ τ α β : Type}

/-- Run an operation. -/
def run (action : Action σ α) (s : σ) : Outcome σ α :=
  action s

/-- The operation that gives a value and does nothing else. -/
protected def pure (a : α) : Action σ α := fun s =>
  ⟨.ok a, s, []⟩

/-- Two operations in turn, the second of which runs after a success of the first. -/
protected def bind (action : Action σ α) (next : α → Action σ β) : Action σ β := fun s =>
  let first := action s
  match first.result with
  | .error e => ⟨.error e, first.state, first.events⟩
  | .ok a =>
    let second := next a first.state
    ⟨second.result, second.state, first.events ++ second.events⟩

instance : Monad (Action σ) where
  pure := Action.pure
  bind := Action.bind

/-- The operation that fails. -/
def fail (e : Error) : Action σ α := fun s =>
  ⟨.error e, s, []⟩

/-- The operation with a known result. -/
def ofExcept (result : Except Error α) : Action σ α := fun s =>
  ⟨result, s, []⟩

/-- The state. -/
def read : Action σ σ := fun s =>
  ⟨.ok s, s, []⟩

/-- Take a value from the state and change it. -/
def update (change : σ → α × σ) : Action σ α := fun s =>
  ⟨.ok (change s).1, (change s).2, []⟩

/-- Change the state. -/
def modify (change : σ → σ) : Action σ Unit := fun s =>
  ⟨.ok (), change s, []⟩

/-- Write an event to the journal. -/
def record (event : Event) : Action σ Unit := fun s =>
  ⟨.ok (), s, [event]⟩

/-- Run an operation on a part of the state. -/
def onPart (get : σ → τ) (set : σ → τ → σ) (action : Action τ α) : Action σ α := fun s =>
  let outcome := action (get s)
  ⟨outcome.result, set s outcome.state, outcome.events⟩

/-- After a success the operation goes on. -/
theorem bind_ok {action : Action σ α} {next : α → Action σ β} {s : σ} {a : α}
    (hok : (action s).result = .ok a) :
    (action >>= next) s =
      ⟨(next a (action s).state).result, (next a (action s).state).state,
        (action s).events ++ (next a (action s).state).events⟩ := by
  simp only [bind, Action.bind, hok]

/-- After a failure the operation does not go on. -/
theorem bind_error {action : Action σ α} {next : α → Action σ β} {s : σ} {e : Error}
    (herror : (action s).result = .error e) :
    (action >>= next) s = ⟨.error e, (action s).state, (action s).events⟩ := by
  simp only [bind, Action.bind, herror]

end Action
end ChefAccess
