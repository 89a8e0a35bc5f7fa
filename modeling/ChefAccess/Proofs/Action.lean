import ChefAccess.Action

/-!
# Outcomes of composed actions

An action is a function of the state, so the outcome of a composed action can be computed
from the outcomes of its parts.  A first part with a known outcome is left behind, and a first
part that only asks is replaced by its answer.

Main definitions:

- {lit}`Action.Asks`: an action leaves the state alone, and gives answers of a given kind.
- {lit}`Action.Ensures`: an action that succeeds leaves a state of a given kind.

Main results:

- Theorems {lit}`Action.bind_eq_of_ok` and {lit}`Action.bind_eq_of_error`: a first part with a
  known outcome is left behind.
- Theorem {lit}`Action.exists_parts_of_ok`: the parts of a composition that succeeds.
- Theorem {lit}`Action.bind_assoc`: compositions can be grouped either way.
- Theorems {lit}`Action.Asks.bind` and {lit}`Action.Ensures.bind`: two actions in turn.
-/

namespace ChefAccess

/-- A composition that succeeds has a first part that succeeds. -/
theorem exists_of_bind_ok {ε α β : Type} {first : Except ε α} {next : α → Except ε β} {b : β}
    (hok : (first >>= next) = .ok b) : ∃ a, first = .ok a ∧ next a = .ok b := by
  cases first with
  | error e => cases hok
  | ok a => exact ⟨a, rfl, hok⟩

/-- A composition that fails has a first part that fails, or a second one that does. -/
theorem exists_of_bind_error {ε α β : Type} {first : Except ε α} {next : α → Except ε β} {e : ε}
    (herror : (first >>= next) = .error e) :
    first = .error e ∨ ∃ a, first = .ok a ∧ next a = .error e := by
  cases first with
  | error e' =>
    cases herror
    exact Or.inl rfl
  | ok a => exact Or.inr ⟨a, rfl, herror⟩

namespace Action

variable {σ τ α β : Type}

/-! ## Single actions -/

@[simp]
theorem pure_apply (a : α) (s : σ) : (pure a : Action σ α) s = ⟨.ok a, s, []⟩ :=
  rfl

@[simp]
theorem update_apply (change : σ → α × σ) (s : σ) :
    update change s = ⟨.ok (change s).1, (change s).2, []⟩ :=
  rfl

/-! ## Compositions -/

@[simp]
theorem read_bind (next : σ → Action σ β) (s : σ) : (read >>= next) s = next s s :=
  rfl

@[simp]
theorem ofExcept_ok_bind (a : α) (next : α → Action σ β) (s : σ) :
    (ofExcept (.ok a) >>= next) s = next a s :=
  rfl

@[simp]
theorem ofExcept_error_bind (e : Error) (next : α → Action σ β) (s : σ) :
    ((ofExcept (.error e) : Action σ α) >>= next) s = ⟨.error e, s, []⟩ :=
  rfl

/-- A first part with a known successful outcome is left behind. -/
theorem bind_eq_of_ok {action : Action σ α} {next : α → Action σ β} {s t : σ} {a : α}
    {events : List Event} (houtcome : action s = ⟨.ok a, t, events⟩) :
    (action >>= next) s =
      ⟨(next a t).result, (next a t).state, events ++ (next a t).events⟩ := by
  rw [bind_ok (a := a) (by rw [houtcome]), houtcome]

/-- A first part with a known failure ends the composition. -/
theorem bind_eq_of_error {action : Action σ α} {next : α → Action σ β} {s t : σ} {e : Error}
    {events : List Event} (houtcome : action s = ⟨.error e, t, events⟩) :
    (action >>= next) s = ⟨.error e, t, events⟩ := by
  rw [bind_error (e := e) (by rw [houtcome]), houtcome]

/-- A composition that succeeds has a first part that succeeds, and ends as its second part
does. -/
theorem exists_parts_of_ok {action : Action σ α} {next : α → Action σ β} {s : σ} {b : β}
    (hok : ((action >>= next) s).result = .ok b) :
    ∃ a t events, action s = ⟨.ok a, t, events⟩ ∧ (next a t).result = .ok b ∧
      ((action >>= next) s).state = (next a t).state := by
  rcases hfirst : action s with ⟨result, t, events⟩
  cases result with
  | error e =>
    rw [bind_eq_of_error hfirst] at hok
    cases hok
  | ok a =>
    rw [bind_eq_of_ok hfirst] at hok ⊢
    exact ⟨a, t, events, rfl, hok, rfl⟩

/-- Compositions can be grouped either way. -/
theorem bind_assoc {γ : Type} (action : Action σ α) (next : α → Action σ β)
    (last : β → Action σ γ) (s : σ) :
    ((action >>= next) >>= last) s = (action >>= fun a => next a >>= last) s := by
  rcases hfirst : action s with ⟨result, t, events⟩
  cases result with
  | error e =>
    rw [bind_eq_of_error hfirst, bind_eq_of_error (bind_eq_of_error hfirst)]
  | ok a =>
    rw [bind_eq_of_ok hfirst]
    rcases hsecond : next a t with ⟨result, u, later⟩
    have hboth : (action >>= next) s = ⟨result, u, events ++ later⟩ := by
      rw [bind_eq_of_ok hfirst, hsecond]
    cases result with
    | error e => rw [bind_eq_of_error hboth, bind_eq_of_error hsecond]
    | ok b => rw [bind_eq_of_ok hboth, bind_eq_of_ok hsecond, List.append_assoc]

/-- What a composition writes to the journal is written by one of its parts. -/
theorem mem_events_of_bind {action : Action σ α} {next : α → Action σ β} {s : σ} {event : Event}
    (hmem : event ∈ ((action >>= next) s).events) :
    event ∈ (action s).events ∨ ∃ a, (action s).result = .ok a ∧
      event ∈ (next a (action s).state).events := by
  rcases houtcome : action s with ⟨result, t, events⟩
  cases result with
  | error e =>
    rw [bind_eq_of_error houtcome] at hmem
    exact Or.inl hmem
  | ok a =>
    rw [bind_eq_of_ok houtcome] at hmem
    rcases List.mem_append.mp hmem with hfirst | hsecond
    · exact Or.inl hfirst
    · exact Or.inr ⟨a, rfl, hsecond⟩

/-! ## Questions -/

/-- An action only asks: it leaves the state alone, and what it gives is an answer of a given
kind. -/
def Asks (action : Action σ α) (Answer : α → Prop) : Prop :=
  ∀ s, ∃ result events, action s = ⟨result, s, events⟩ ∧ ∀ a, result = .ok a → Answer a

namespace Asks

variable {Answer Other : α → Prop}

theorem pure {a : α} (ha : Answer a) : (Pure.pure a : Action σ α).Asks Answer := by
  intro s
  refine ⟨.ok a, [], rfl, ?_⟩
  intro b hb
  rw [← Except.ok.inj hb]
  exact ha

theorem fail (e : Error) : (Action.fail e : Action σ α).Asks Answer :=
  fun _ => ⟨.error e, [], rfl, fun _ hanswer => nomatch hanswer⟩

/-- The state may be read. -/
theorem read : (Action.read : Action σ σ).Asks fun _ => True :=
  fun s => ⟨.ok s, [], rfl, fun _ _ => trivial⟩

/-- A known result is the answer. -/
theorem ofExcept (result : Except Error α) :
    (Action.ofExcept result : Action σ α).Asks fun a => result = .ok a :=
  fun _ => ⟨result, [], rfl, fun _ hanswer => hanswer⟩

/-- A warning is not an answer. -/
theorem record (event : Event) : (Action.record event : Action σ Unit).Asks fun _ => True :=
  fun _ => ⟨.ok (), [event], rfl, fun _ _ => trivial⟩

theorem imp {action : Action σ α} (hasks : action.Asks Answer)
    (himp : ∀ a, Answer a → Other a) : action.Asks Other := by
  intro s
  obtain ⟨result, events, houtcome, hanswer⟩ := hasks s
  exact ⟨result, events, houtcome, fun a ha => himp a (hanswer a ha)⟩

/-- Two questions in turn are one. -/
theorem bind {action : Action σ α} {next : α → Action σ β} {Last : β → Prop}
    (hasks : action.Asks Answer) (hnext : ∀ a, Answer a → (next a).Asks Last) :
    (action >>= next).Asks Last := by
  intro s
  obtain ⟨result, events, houtcome, hanswer⟩ := hasks s
  cases result with
  | error e => exact ⟨.error e, events, bind_eq_of_error houtcome, fun _ h => nomatch h⟩
  | ok a =>
    obtain ⟨result, later, hlater, hlast⟩ := hnext a (hanswer a rfl) s
    refine ⟨result, events ++ later, ?_, hlast⟩
    rw [bind_eq_of_ok houtcome, hlater]

end Asks

/-! ## Successes -/

/-- An action that starts in a state of a given kind and succeeds leaves a state that fits the
value that it gives. -/
def Ensures (Before : σ → Prop) (action : Action σ α) (After : α → σ → Prop) : Prop :=
  ∀ s, Before s → ∀ a, (action s).result = .ok a → After a (action s).state

namespace Ensures

variable {Before : σ → Prop} {After : α → σ → Prop} {action : Action σ α}

theorem pure {a : α} (hafter : ∀ s, Before s → After a s) :
    Ensures Before (Pure.pure a) After := by
  intro s hs b hb
  rw [← Except.ok.inj hb]
  exact hafter s hs

theorem fail (e : Error) : Ensures Before (Action.fail e) After :=
  fun _ _ _ hok => nomatch hok

/-- A question leaves the state alone. -/
theorem of_asks {Answer : α → Prop} (hasks : action.Asks Answer)
    (hafter : ∀ a s, Answer a → Before s → After a s) : Ensures Before action After := by
  intro s hs a ha
  obtain ⟨result, events, houtcome, hanswer⟩ := hasks s
  rw [houtcome] at ha ⊢
  exact hafter a s (hanswer a ha) hs

/-- An action may start in states of a narrower kind. -/
theorem restrict {Narrow : σ → Prop} (hensures : Ensures Before action After)
    (hnarrow : ∀ s, Narrow s → Before s) : Ensures Narrow action After :=
  fun s hs => hensures s (hnarrow s hs)

/-- What two actions in turn ensure. -/
theorem bind {next : α → Action σ β} {Last : β → σ → Prop}
    (hfirst : Ensures Before action After) (hnext : ∀ a, Ensures (After a) (next a) Last) :
    Ensures Before (action >>= next) Last := by
  intro s hs b hb
  obtain ⟨a, t, events, houtcome, hresult, hstate⟩ := exists_parts_of_ok hb
  have hmiddle := hfirst s hs a (by rw [houtcome])
  rw [houtcome] at hmiddle
  rw [hstate]
  exact hnext a t hmiddle b hresult

/-- What is known of the value of the first action may be used for the second one. -/
theorem bind_of_known {next : α → Action σ β} {Last : β → σ → Prop} {Known : α → Prop}
    (hfirst : Ensures Before action fun a s => Known a ∧ After a s)
    (hnext : ∀ a, Known a → Ensures (After a) (next a) Last) :
    Ensures Before (action >>= next) Last :=
  hfirst.bind fun a s hs => hnext a hs.1 s hs.2

/-- What is ensured after a question. -/
theorem bind_of_asks {next : α → Action σ β} {Last : β → σ → Prop} {Answer : α → Prop}
    (hasks : action.Asks Answer) (hnext : ∀ a, Answer a → Ensures Before (next a) Last) :
    Ensures Before (action >>= next) Last := by
  have hfirst : Ensures Before action fun a s => Answer a ∧ Before s :=
    of_asks hasks fun _ _ hanswer hs => ⟨hanswer, hs⟩
  exact hfirst.bind_of_known hnext

end Ensures
end Action
end ChefAccess
