import ChefAccess.Proofs.Registry.Course
import ChefAccess.Proofs.Resolver.Ledger
import ChefAccess.Proofs.Service.Run

/-!
# The ledger of a service

The resolver and the registry of a service keep contexts for times of their own, and hand them to
each other by number.  One ledger serves both: whatever either of them keeps is in the ledger
under its number, so the client that the registry keeps under a number is the client of the very
context that the resolver gives under it.

Callers of a service get contexts from it and may pass them to its registry later on.  Nobody
else makes contexts.

Main definitions:

- {lit}`Service.Audited`: what a service keeps is in the ledger, and its transports come from an
  earlier plant.
- {lit}`Service.Used`: how a service may be used, and which contexts that puts into the hands of
  its callers.

Main results:

- Theorem {lit}`Service.Turn.action_books`: every call of a service books.
- Theorem {lit}`Service.Audited.used`: a ledger can be kept of every service that is used.
-/

namespace ChefAccess
namespace Service

variable {plant : Plant} {ledger : List Server.Context} {v : Issued}

/-- What a service keeps is in the ledger, and its transports come from an earlier plant. -/
structure Audited (plant : Plant) (ledger : List Server.Context) (s : Service) : Prop where
  resolver : s.resolver.Audited ledger
  registry : s.registry.Keeping (Issued.BookedIn ledger)
  plant : plant.LeadsTo s.registry.plant

/-- A new service keeps nothing. -/
theorem audited_initial (settings : Settings) (instances : Instances) (workshop : Workshop) :
    Audited (initial settings instances workshop).registry.plant []
      (initial settings instances workshop) := by
  have hnew : (initial settings instances workshop).registry.New settings := by
    refine ⟨rfl, Nat.lt_succ_self _, rfl, ?_⟩
    intro kind key client
    cases kind with
    | zone => exact Cache.not_holds_empty _ _ key client
    | project => exact Cache.not_holds_empty _ _ key client
  exact ⟨⟨rfl, fun hholds => absurd hholds (Cache.not_holds_empty _ _ _ _)⟩, .of_new hnew,
    .refl _⟩

/-! ## The parts -/

theorem onResolver_books {α : Type} {action : Action Resolver α}
    {Given : List Server.Context → α → Prop}
    (hbooks : Action.Books Resolver.Audited ledger action Given) :
    Action.Books (Audited plant) ledger (onResolver action) Given := by
  intro s haudited
  obtain ⟨later, hextends, hafter, hgiven⟩ := hbooks s.resolver haudited.resolver
  have hregistry := haudited.registry.imp fun v hbooked => hbooked.extend hextends
  exact ⟨later, hextends, ⟨hafter, hregistry, haudited.plant⟩, hgiven⟩

/-- The client of a booked context is bound to that context. -/
theorem onRegistry_client_books (around : Registry.Surroundings) (hbooked : v.BookedIn ledger) :
    Action.Books (Audited plant) ledger (onRegistry (Registry.client around v))
      fun _ client => client.issued = v := by
  intro s haudited
  have hkeeping := haudited.registry
  refine ⟨ledger, List.prefix_rfl, ⟨haudited.resolver, hkeeping.client around hbooked,
    haudited.plant.trans (Registry.leadsTo_client around v s.registry)⟩, ?_⟩
  intro client hok
  rcases (hkeeping.of_client_ok hok).1 with hsame | ⟨hserial, hkept⟩
  · exact hsame
  · exact hkept.eq hbooked hserial

theorem onRegistry_adminClient_books (around : Registry.Surroundings) (v : Issued)
    (timeouts : Timeouts) (ledger : List Server.Context) :
    Action.Books (Audited plant) ledger (onRegistry (Registry.adminClient around v timeouts))
      fun _ client => client.issued = v := by
  intro s haudited
  refine ⟨ledger, List.prefix_rfl, ⟨haudited.resolver,
    haudited.registry.adminClient around v timeouts,
    haudited.plant.trans (Registry.leadsTo_adminClient around v timeouts s.registry)⟩, ?_⟩
  intro client hok
  have hresult : (Registry.adminClient around v timeouts s.registry).result = .ok client := hok
  rcases Registry.adminClient_cases around v timeouts s.registry with
    ⟨-, houtcome⟩ | ⟨e, -, houtcome⟩
  · rw [houtcome] at hresult
    rw [← Except.ok.inj hresult]
  · rw [houtcome] at hresult
    cases hresult

theorem forgetClients_books (ledger : List Server.Context) :
    Action.Books (Audited plant) ledger forgetClients fun _ _ => True := by
  intro s haudited
  exact ⟨ledger, List.prefix_rfl, ⟨haudited.resolver, haudited.registry.forget, haudited.plant⟩,
    fun _ _ => trivial⟩

/-- What does not concern the resolver and the registry is booked as it stands. -/
theorem books_of_parts {α : Type} {action : Action Service α}
    (hresolver : ∀ s, (action s).state.resolver = s.resolver)
    (hregistry : ∀ s, (action s).state.registry = s.registry) :
    Action.Books (Audited plant) ledger action fun _ _ => True := by
  intro s haudited
  refine ⟨ledger, List.prefix_rfl, ?_, fun _ _ => trivial⟩
  constructor
  case resolver => rw [hresolver]; exact haudited.resolver
  case registry => rw [hregistry]; exact haudited.registry
  case plant => rw [hregistry]; exact haudited.plant

/-! ## Calls -/

theorem client_books (around : Surroundings) (tenancy : Tenancy)
    (ledger : List Server.Context) :
    Action.Books (Audited plant) ledger (client around tenancy)
      fun later client => client.issued.BookedIn later := by
  refine (onResolver_books
    (Resolver.resolveFor_books around.resolver tenancy ledger)).bind ?_
  intro ledger v _ hbooked s haudited
  obtain ⟨later, hextends, hafter, hbound⟩ :=
    onRegistry_client_books around.registry hbooked s haudited
  refine ⟨later, hextends, hafter, ?_⟩
  intro client hok
  rw [hbound client hok]
  exact hbooked.extend hextends

theorem perform_books {α : Type} (around : Surroundings) (client : Client)
    (decoder : Json.Decoder α) (command : Command) (ledger : List Server.Context) :
    Action.Books (Audited plant) ledger (perform around client decoder command)
      fun _ _ => True := by
  have hsend : Action.Books (Audited plant) ledger
      (onRequests (client.execute around.outside decoder command)) fun _ _ => True :=
    books_of_parts (fun _ => rfl) fun _ => rfl
  refine hsend.bind ?_
  intro ledger response _ _
  dsimp only
  split
  · exact .bind_of_asks (.record _) fun _ _ => .pure trivial
  · exact .pure trivial

theorem execute_books {α : Type} (around : Surroundings) (tenancy : Tenancy)
    (decoder : Json.Decoder α) (command : Command) (ledger : List Server.Context) :
    Action.Books (Audited plant) ledger (execute around tenancy decoder command)
      fun _ _ => True := by
  refine (client_books around tenancy ledger).bind ?_
  intro ledger client _ _
  exact perform_books around client decoder command ledger

theorem executeOnServer_books {α : Type} (around : Surroundings) (serverId : String)
    (decoder : Json.Decoder α) (command : Command) (ledger : List Server.Context) :
    Action.Books (Audited plant) ledger (executeOnServer around serverId decoder command)
      fun _ _ => True := by
  refine (onResolver_books (Resolver.lookup_books around.resolver serverId ledger)).bind ?_
  intro ledger found _ hfound
  cases found with
  | none => exact .fail _
  | some v =>
    refine (onRegistry_client_books around.registry (hfound v rfl)).bind ?_
    intro ledger client _ _
    exact perform_books around client decoder command ledger

theorem executeForInstance_books {α : Type} (around : Surroundings) (instanceId : String)
    (decoder : Json.Decoder α) (command : Command) (ledger : List Server.Context) :
    Action.Books (Audited plant) ledger (executeForInstance around instanceId decoder command)
      fun _ _ => True := by
  refine .bind_of_asks .read ?_
  intro service _
  cases service.instances.record? instanceId with
  | none => exact .fail _
  | some record => exact execute_books around _ decoder command ledger

theorem adminExecute_books {α : Type} (around : Surroundings) (tenancy : Tenancy)
    (timeouts : Timeouts) (decoder : Json.Decoder α) (command : Command)
    (ledger : List Server.Context) :
    Action.Books (Audited plant) ledger (adminExecute around tenancy timeouts decoder command)
      fun _ _ => True := by
  refine (onResolver_books
    (Resolver.resolveFor_books around.resolver tenancy ledger)).bind ?_
  intro ledger v _ _
  refine (onRegistry_adminClient_books around.registry v timeouts ledger).bind ?_
  intro ledger client _ _
  exact perform_books around client decoder command ledger

theorem setInstanceState_books (instanceId : String) (state : SetupState)
    (ledger : List Server.Context) :
    Action.Books (Audited plant) ledger (setInstanceState instanceId state)
      fun _ _ => True := by
  refine Action.Books.bind (books_of_parts (fun _ => rfl) fun _ => rfl) ?_
  intro ledger updated _ _
  dsimp only
  split
  · exact .bind_of_asks (.record _) fun _ _ => .pure trivial
  · exact .bind_of_asks (.record _) fun _ _ => .pure trivial

theorem refresh_books (ledger : List Server.Context) :
    Action.Books (Audited plant) ledger refresh fun _ _ => True := by
  refine (onResolver_books (Resolver.forget_books ledger)).bind ?_
  intro ledger _ _ _
  exact forgetClients_books ledger

/-- The context that an answer puts into the hands of the caller. -/
def Answer.Hands {α : Type} (answer : Answer α) (v : Issued) : Prop :=
  ∃ client, answer = .client client ∧ client.issued = v

/-- What an answer hands out is booked. -/
def Answer.BookedIn {α : Type} (ledger : List Server.Context) (answer : Answer α) : Prop :=
  ∀ v, answer.Hands v → v.BookedIn ledger

/-- An answer without a client hands out nothing. -/
theorem books_of_no_client {α β : Type} {action : Action Service β} {make : β → Answer α}
    (hbooks : Action.Books (Audited plant) ledger action fun _ _ => True)
    (hmake : ∀ b client, make b ≠ .client client) :
    Action.Books (Audited plant) ledger (action >>= fun b => pure (make b)) Answer.BookedIn := by
  refine hbooks.bind ?_
  intro ledger b _ _
  apply Action.Books.pure
  rintro v ⟨client, hclient, -⟩
  exact absurd hclient (hmake b client)

/-- Every call of a service books. -/
theorem Turn.action_books {α : Type} (turn : Turn α) (ledger : List Server.Context) :
    Action.Books (Audited plant) ledger turn.action Answer.BookedIn := by
  rcases turn with ⟨around, call⟩
  cases call with
  | client tenancy =>
    refine (client_books around tenancy ledger).bind ?_
    intro ledger client _ hbooked
    apply Action.Books.pure
    rintro v ⟨other, hother, rfl⟩
    rwa [← Answer.client.inj hother]
  | execute tenancy decoder command =>
    exact books_of_no_client (execute_books around tenancy decoder command ledger)
      fun _ _ hsame => nomatch hsame
  | executeOnServer serverId decoder command =>
    exact books_of_no_client (executeOnServer_books around serverId decoder command ledger)
      fun _ _ hsame => nomatch hsame
  | executeForInstance instanceId decoder command =>
    exact books_of_no_client (executeForInstance_books around instanceId decoder command ledger)
      fun _ _ hsame => nomatch hsame
  | adminExecute tenancy timeouts decoder command =>
    exact books_of_no_client (adminExecute_books around tenancy timeouts decoder command ledger)
      fun _ _ hsame => nomatch hsame
  | setInstanceState instanceId state =>
    exact books_of_no_client (setInstanceState_books instanceId state ledger)
      fun _ _ hsame => nomatch hsame
  | editInstances change =>
    have hbooks : Action.Books (Audited plant) ledger (Action.modify fun (service : Service) =>
        { service with instances := change service.instances }) fun _ _ => True :=
      books_of_parts (fun _ => rfl) fun _ => rfl
    exact books_of_no_client hbooks fun _ _ hsame => nomatch hsame
  | refresh => exact books_of_no_client (refresh_books ledger) fun _ _ hsame => nomatch hsame

/-! ## Services that are used -/

/-- How a service may be used from some state on, in any surroundings: as a whole, or by its
resolver and its registry alone.  The registry is asked for clients of contexts that are in the
hands of the callers: they were given to them, by the service or by whoever issued them. -/
inductive Used (start : Service) (had : Issued → Prop) : Service → (Issued → Prop) → Prop
  /-- Nothing was asked. -/
  | here : Used start had start had
  /-- The service was called. -/
  | turn {s : Service} {hand : Issued → Prop} {α : Type} (turn : Turn α)
      (hused : Used start had s hand) :
      Used start had (turn.action s).state fun v =>
        hand v ∨ ∃ answer, (turn.action s).result = .ok answer ∧ answer.Hands v
  /-- The resolver was called. -/
  | resolver {s : Service} {hand : Issued → Prop} (turn : Resolver.Turn)
      (hused : Used start had s hand) :
      Used start had (onResolver turn.action s).state fun v =>
        hand v ∨ (onResolver turn.action s).result = .ok (some v)
  /-- A context was issued that the resolver did not make. -/
  | issued {s : Service} {hand : Issued → Prop} (context : Server.Context)
      (hused : Used start had s hand) :
      Used start had (onResolver (Resolver.issue context) s).state fun v =>
        hand v ∨ (onResolver (Resolver.issue context) s).result = .ok v
  /-- The registry was asked for a client of a context. -/
  | registry {s : Service} {hand : Issued → Prop} (around : Registry.Surroundings) {v : Issued}
      (hhand : hand v) (hused : Used start had s hand) :
      Used start had (onRegistry (Registry.client around v) s).state hand
  /-- The registry was asked for a client on a transport of its own. -/
  | adminRegistry {s : Service} {hand : Issued → Prop} (around : Registry.Surroundings)
      {v : Issued} (hhand : hand v) (timeouts : Timeouts) (hused : Used start had s hand) :
      Used start had (onRegistry (Registry.adminClient around v timeouts) s).state hand
  /-- The registry forgot its clients. -/
  | forgotten {s : Service} {hand : Issued → Prop} (hused : Used start had s hand) :
      Used start had (forgetClients s).state hand

/-- A service that is used can be reached. -/
theorem Used.reachable {settings : Settings} {start s : Service} {had hand : Issued → Prop}
    (hused : Used start had s hand) (hreachable : Reachable settings start) :
    Reachable settings s := by
  induction hused with
  | here => exact hreachable
  | turn turn _ ih => exact .turn turn ih
  | resolver turn _ ih => exact .resolver turn ih
  | issued context _ ih => exact .issued context ih
  | registry around _ _ ih => exact .registry around _ ih
  | adminRegistry around _ timeouts _ ih => exact .adminRegistry around _ timeouts ih
  | forgotten _ ih => exact .forgotten ih

/-- A ledger can be kept of every service that is used, and of all contexts in the hands of its
callers. -/
theorem Audited.used {start s : Service} {had hand : Issued → Prop}
    (haudited : Audited plant ledger start) (hhad : ∀ v, had v → v.BookedIn ledger)
    (hused : Used start had s hand) :
    ∃ later, Audited plant later s ∧ ∀ v, hand v → v.BookedIn later := by
  -- each step extends the ledger, and adds to the hands what it has booked
  have hstep : ∀ {β : Type} {action : Action Service β} {s : Service} {hand : Issued → Prop}
      {Given : List Server.Context → β → Prop} {now : List Server.Context},
      Audited plant now s → (∀ v, hand v → v.BookedIn now) →
      Action.Books (Audited plant) now action Given →
      ∃ later, Audited plant later (action s).state ∧ (∀ v, hand v → v.BookedIn later) ∧
        ∀ b, (action s).result = .ok b → Given later b := by
    intro β action s hand Given now hnow hhand hbooks
    obtain ⟨later, hextends, hafter, hgiven⟩ := hbooks s hnow
    exact ⟨later, hafter, fun v hv => (hhand v hv).extend hextends, hgiven⟩
  induction hused with
  | here => exact ⟨ledger, haudited, hhad⟩
  | turn turn _ ih =>
    obtain ⟨now, hnow, hhand⟩ := ih
    obtain ⟨later, hafter, hold, hgiven⟩ := hstep hnow hhand (turn.action_books now)
    refine ⟨later, hafter, ?_⟩
    rintro v (hv | ⟨answer, hok, hv⟩)
    · exact hold v hv
    · exact hgiven answer hok v hv
  | resolver turn _ ih =>
    obtain ⟨now, hnow, hhand⟩ := ih
    obtain ⟨later, hafter, hold, hgiven⟩ :=
      hstep hnow hhand (onResolver_books (turn.action_books now))
    refine ⟨later, hafter, ?_⟩
    rintro v (hv | hok)
    · exact hold v hv
    · exact hgiven _ hok v rfl
  | issued context _ ih =>
    obtain ⟨now, hnow, hhand⟩ := ih
    obtain ⟨later, hafter, hold, hgiven⟩ :=
      hstep hnow hhand (onResolver_books (Resolver.issue_books context now))
    refine ⟨later, hafter, ?_⟩
    rintro v (hv | hok)
    · exact hold v hv
    · exact hgiven v hok
  | registry around hv _ ih =>
    obtain ⟨now, hnow, hhand⟩ := ih
    obtain ⟨later, hafter, hold, -⟩ :=
      hstep hnow hhand (onRegistry_client_books around (hhand _ hv))
    exact ⟨later, hafter, hold⟩
  | adminRegistry around _ timeouts _ ih =>
    obtain ⟨now, hnow, hhand⟩ := ih
    obtain ⟨later, hafter, hold, -⟩ :=
      hstep hnow hhand (onRegistry_adminClient_books around _ timeouts now)
    exact ⟨later, hafter, hold⟩
  | forgotten _ ih =>
    obtain ⟨now, hnow, hhand⟩ := ih
    obtain ⟨later, hafter, hold, -⟩ := hstep hnow hhand (forgetClients_books now)
    exact ⟨later, hafter, hold⟩

end Service
end ChefAccess
