import ChefAccess.Proofs.Registry.Course

/-!
# Runs of a registry

A registry is asked for clients again and again, in surroundings that change from turn to turn:
time passes, and each build may fail or succeed.  Over the whole run one transport is built for
all tenants' servers, by the first request that needs it and whose build succeeds.  A client on a
transport of its own leaves no trace but the build.

Main definitions:

- {lit}`Registry.Turn`: what a registry is asked for, and in which surroundings.
- {lit}`Registry.trace`: the turns of a run, each with the registry that it was taken on.
- {lit}`Registry.Supplied`: in a run, the transport for tenants' servers was built.
- {lit}`Registry.Provides` and {lit}`Registry.ProvidesApart`: a run gave a client, on a shared
  transport or on one of its own.

Main results:

- Theorem {lit}`Registry.project_after_eq_none_iff`: the transport for tenants' servers is missing
  exactly if the run has not built it.
- Theorem {lit}`Registry.Accounts.after`: the transports of the clients that a run has given.
- Theorem {lit}`Registry.transport_law`: when a registry builds a transport, with which timeouts,
  and what becomes of it.
-/

namespace ChefAccess
namespace Registry

/-! ## Turns -/

/-- What a registry is asked for. -/
inductive Call where
  | client (issued : Issued)
  | adminClient (issued : Issued) (timeouts : Timeouts)
  | forget

/-- A call with the surroundings that it is made in. -/
structure Turn where
  around : Surroundings
  call : Call

/-- The registry after a turn. -/
def Turn.apply (turn : Turn) (r : Registry) : Registry :=
  match turn.call with
  | .client issued => (Registry.client turn.around issued r).state
  | .adminClient issued timeouts => (Registry.adminClient turn.around issued timeouts r).state
  | .forget => r.forget

/-- The registry after some turns. -/
def after (start : Registry) (turns : List Turn) : Registry :=
  turns.foldl (fun r turn => turn.apply r) start

/-- The turns of a run, each with the registry that it was taken on. -/
def trace (start : Registry) : List Turn → List (Registry × Turn)
  | [] => []
  | turn :: turns => (start, turn) :: trace (turn.apply start) turns

variable {start r : Registry} {turns : List Turn} {settings : Settings}

@[simp]
theorem after_concat (start : Registry) (turns : List Turn) (turn : Turn) :
    start.after (turns ++ [turn]) = turn.apply (start.after turns) := by
  simp [after]

@[simp]
theorem trace_concat (start : Registry) (turns : List Turn) (turn : Turn) :
    start.trace (turns ++ [turn]) = start.trace turns ++ [(start.after turns, turn)] := by
  induction turns generalizing start with
  | nil => rfl
  | cons first turns ih =>
    rw [List.cons_append, trace, ih]
    rfl

/-- A request for a client builds the transport for tenants' servers. -/
def Supplies (around : Surroundings) (issued : Issued) (r : Registry) : Prop :=
  ∃ client timeouts, (Registry.client around issued r).result = .ok client ∧
    .built timeouts ∈ (Registry.client around issued r).events

/-- In a run, the transport for tenants' servers was built. -/
def Supplied (start : Registry) (turns : List Turn) : Prop :=
  ∃ before around issued, (before, ⟨around, .client issued⟩) ∈ start.trace turns ∧
    before.Supplies around issued

/-- A run gave a client of a shared transport. -/
def Provides (start : Registry) (turns : List Turn) (client : Client) : Prop :=
  ∃ before around issued, (before, ⟨around, .client issued⟩) ∈ start.trace turns ∧
    (Registry.client around issued before).result = .ok client

/-- A run gave a client on a transport of its own. -/
def ProvidesApart (start : Registry) (turns : List Turn) (client : Client) : Prop :=
  ∃ before around issued timeouts,
    (before, ⟨around, .adminClient issued timeouts⟩) ∈ start.trace turns ∧
      (Registry.adminClient around issued timeouts before).result = .ok client

/-! ## What a turn does -/

/-- A turn keeps the shared transports. -/
theorem leadsTo_apply (turn : Turn) (r : Registry) : r.plant.LeadsTo (turn.apply r).plant := by
  rcases turn with ⟨around, call⟩
  cases call with
  | client issued => exact leadsTo_client around issued r
  | adminClient issued timeouts => exact leadsTo_adminClient around issued timeouts r
  | forget => exact .refl _

/-- A turn keeps what is known of the clients. -/
theorem Keeping.apply (hkeeping : Keeping (fun _ => True) r) (turn : Turn) :
    Keeping (fun _ => True) (turn.apply r) := by
  rcases turn with ⟨around, call⟩
  cases call with
  | client issued => exact hkeeping.client around trivial
  | adminClient issued timeouts => exact hkeeping.adminClient around issued timeouts
  | forget => exact hkeeping.forget

/-- A turn keeps the timeouts. -/
theorem timeouts_apply (turn : Turn) (r : Registry) : (turn.apply r).timeouts = r.timeouts := by
  rcases turn with ⟨around, call⟩
  cases call with
  | client issued =>
    have hcourse := client_course around issued r
    simp only [Turn.apply]
    generalize Registry.client around issued r = outcome at hcourse ⊢
    cases hcourse with
    | kept _ => exact timeouts_looked around issued r
    | shared _ _ => simp
    | built _ _ _ _ => simp
    | refused _ _ _ _ => simp
  | adminClient issued timeouts =>
    rcases adminClient_cases around issued timeouts r with ⟨-, houtcome⟩ | ⟨e, -, houtcome⟩
    · simp [Turn.apply, houtcome]
    · simp [Turn.apply, houtcome]
  | forget => rfl

/-- A request for a client leaves the transport for tenants' servers unbuilt exactly if it does
not build it, and nobody has before. -/
theorem project_client_eq_none_iff (around : Surroundings) (issued : Issued) (r : Registry) :
    (Registry.client around issued r).state.plant.project = none ↔
      r.plant.project = none ∧ ¬ r.Supplies around issued := by
  unfold Supplies
  have hcourse := client_course around issued r
  generalize Registry.client around issued r = outcome at hcourse ⊢
  cases hcourse with
  | kept _ => simp
  | shared _ _ => simp
  | built _ _ _ _ => simp [Plant.afterProject]
  | refused _ _ hnone _ =>
    have hproject : r.plant.project = none := hnone
    simp [Plant.refused, hproject]

/-- A request for a client on a transport of its own does not touch the shared ones. -/
theorem project_adminClient (around : Surroundings) (issued : Issued) (timeouts : Timeouts)
    (r : Registry) :
    (Registry.adminClient around issued timeouts r).state.plant.project = r.plant.project := by
  rcases adminClient_cases around issued timeouts r with ⟨-, houtcome⟩ | ⟨e, -, houtcome⟩
  · rw [houtcome]
    rfl
  · rw [houtcome]
    rfl

/-! ## What a run does -/

/-- A run keeps the timeouts. -/
theorem timeouts_after (start : Registry) (turns : List Turn) :
    (start.after turns).timeouts = start.timeouts := by
  induction turns using List.reverseRecOn with
  | nil => rfl
  | append_singleton turns turn ih => rw [after_concat, timeouts_apply, ih]

/-- The transport for tenants' servers was built in the run so far, or by its last turn. -/
theorem supplied_concat_iff (turn : Turn) :
    start.Supplied (turns ++ [turn]) ↔ start.Supplied turns ∨
      ∃ issued, turn.call = .client issued ∧
        (start.after turns).Supplies turn.around issued := by
  unfold Supplied
  rw [trace_concat]
  constructor
  · rintro ⟨before, around, issued, hmem, hsupplies⟩
    rcases List.mem_append.mp hmem with hold | hlast
    · exact Or.inl ⟨before, around, issued, hold, hsupplies⟩
    · cases List.mem_singleton.mp hlast
      exact Or.inr ⟨issued, rfl, hsupplies⟩
  · rintro (⟨before, around, issued, hold, hsupplies⟩ | ⟨issued, hcall, hsupplies⟩)
    · exact ⟨before, around, issued, List.mem_append_left _ hold, hsupplies⟩
    · rcases turn with ⟨around, call⟩
      obtain rfl : call = .client issued := hcall
      exact ⟨_, around, issued, List.mem_append_right _ List.mem_cons_self, hsupplies⟩

/-- The transport for tenants' servers is missing exactly if the run has not built it. -/
theorem project_after_eq_none_iff (hnew : start.New settings) (turns : List Turn) :
    (start.after turns).plant.project = none ↔ ¬ start.Supplied turns := by
  induction turns using List.reverseRecOn with
  | nil =>
    have hnone : start.plant.project = none := hnew.project
    simp [after, hnone, Supplied, trace]
  | append_singleton turns turn ih =>
    rw [supplied_concat_iff, not_or, ← ih, after_concat]
    rcases turn with ⟨around, call⟩
    cases call with
    | client issued =>
      rw [Turn.apply, project_client_eq_none_iff]
      simp
    | adminClient issued timeouts =>
      rw [Turn.apply, project_adminClient]
      simp
    | forget => simp [Turn.apply, forget, plant]

/-! ## The transports of clients -/

/-- A transport was built, but no clients share it. -/
structure Unshared (transport : Transport) (plant : Plant) : Prop where
  built : transport.number < plant.workshop.built
  apart : ∀ kind, plant.shared kind ≠ some transport

/-- What is known of the transports of the clients that a run has given: some clients use the
ones that are shared now, and the others use transports that nobody shares. -/
structure Accounts (start : Registry) (turns : List Turn) : Prop where
  keeping : Keeping (fun _ => True) (start.after turns)
  shared : ∀ client, start.Provides turns client →
    ∃ kind, (start.after turns).plant.shared kind = some client.transport
  apart : ∀ client, start.ProvidesApart turns client →
    Unshared client.transport (start.after turns).plant

namespace Unshared

variable {transport : Transport} {plant : Plant}

theorem refused (hunshared : Unshared transport plant) : Unshared transport plant.refused := by
  refine ⟨hunshared.built, fun kind => ?_⟩
  cases kind with
  | zone => exact hunshared.apart .zone
  | project => exact hunshared.apart .project

theorem afterBuild (hunshared : Unshared transport plant) :
    Unshared transport plant.afterBuild := by
  refine ⟨Nat.lt_succ_of_lt hunshared.built, fun kind => ?_⟩
  cases kind with
  | zone => exact hunshared.apart .zone
  | project => exact hunshared.apart .project

/-- The transport that is built for tenants' servers is a new one. -/
theorem afterProject (hunshared : Unshared transport plant) :
    Unshared transport plant.afterProject := by
  refine ⟨Nat.lt_succ_of_lt hunshared.built, fun kind => ?_⟩
  cases kind with
  | zone => exact hunshared.apart .zone
  | project =>
    intro hsome
    have hnext : plant.next = transport := Option.some.inj hsome
    have hbuilt := hunshared.built
    rw [← hnext] at hbuilt
    exact Nat.lt_irrefl _ hbuilt

/-- The transport of a client that does not share it. -/
theorem next (hsound : plant.Sound) : Unshared plant.next plant.afterBuild := by
  refine ⟨Nat.lt_succ_self _, fun kind => ?_⟩
  intro hsome
  have hlt : plant.next.number < plant.workshop.built := by
    cases kind with
    | zone => exact hsound .zone _ hsome
    | project => exact hsound .project _ hsome
  exact Nat.lt_irrefl _ hlt

/-- A turn does not make clients share a transport that was built before. -/
theorem apply (hunshared : Unshared transport r.plant) (turn : Turn) :
    Unshared transport (turn.apply r).plant := by
  rcases turn with ⟨around, call⟩
  cases call with
  | client issued =>
    have hcourse := client_course around issued r
    simp only [Turn.apply]
    generalize Registry.client around issued r = outcome at hcourse ⊢
    cases hcourse with
    | kept _ =>
      rw [plant_looked]
      exact hunshared
    | shared _ _ =>
      rw [plant_withClient, plant_looked]
      exact hunshared
    | built _ _ _ _ =>
      rw [plant_withClient, plant_withPlant]
      exact hunshared.afterProject
    | refused _ _ _ _ => exact hunshared.refused
  | adminClient issued timeouts =>
    rcases adminClient_cases around issued timeouts r with ⟨-, houtcome⟩ | ⟨e, -, houtcome⟩
    · simp only [Turn.apply, houtcome]
      exact hunshared.afterBuild
    · simp only [Turn.apply, houtcome]
      exact hunshared.refused
  | forget => exact hunshared

end Unshared

/-- A run has given a client before, or its last turn has. -/
theorem provides_of_concat {turn : Turn} {client : Client}
    (hprovides : start.Provides (turns ++ [turn]) client) :
    start.Provides turns client ∨ ∃ issued, turn.call = .client issued ∧
      (Registry.client turn.around issued (start.after turns)).result = .ok client := by
  obtain ⟨before, around, issued, hmem, hok⟩ := hprovides
  rw [trace_concat] at hmem
  rcases List.mem_append.mp hmem with hold | hlast
  · exact Or.inl ⟨before, around, issued, hold, hok⟩
  · cases List.mem_singleton.mp hlast
    exact Or.inr ⟨issued, rfl, hok⟩

/-- A run has given a client on a transport of its own before, or its last turn has. -/
theorem providesApart_of_concat {turn : Turn} {client : Client}
    (hprovides : start.ProvidesApart (turns ++ [turn]) client) :
    start.ProvidesApart turns client ∨ ∃ issued timeouts,
      turn.call = .adminClient issued timeouts ∧
        (Registry.adminClient turn.around issued timeouts (start.after turns)).result =
          .ok client := by
  obtain ⟨before, around, issued, timeouts, hmem, hok⟩ := hprovides
  rw [trace_concat] at hmem
  rcases List.mem_append.mp hmem with hold | hlast
  · exact Or.inl ⟨before, around, issued, timeouts, hold, hok⟩
  · cases List.mem_singleton.mp hlast
    exact Or.inr ⟨issued, timeouts, rfl, hok⟩

/-- The transports of the clients that a run has given. -/
theorem Accounts.after (hnew : start.New settings) (turns : List Turn) :
    start.Accounts turns := by
  induction turns using List.reverseRecOn with
  | nil =>
    refine ⟨.of_new hnew, ?_, ?_⟩
    · rintro client ⟨before, around, issued, hmem, -⟩
      cases hmem
    · rintro client ⟨before, around, issued, timeouts, hmem, -⟩
      cases hmem
  | append_singleton turns turn ih =>
    have hleads := leadsTo_apply turn (start.after turns)
    refine ⟨?_, ?_, ?_⟩
    · rw [after_concat]
      exact ih.keeping.apply turn
    · intro client hprovides
      rw [after_concat]
      rcases provides_of_concat hprovides with hold | ⟨issued, hcall, hok⟩
      · obtain ⟨kind, hshared⟩ := ih.shared client hold
        exact ⟨kind, hleads.shared_eq hshared⟩
      · simp only [Turn.apply, hcall]
        exact ⟨_, (ih.keeping.of_client_ok hok).2⟩
    · intro client hprovides
      rw [after_concat]
      rcases providesApart_of_concat hprovides with hold | ⟨issued, timeouts, hcall, hok⟩
      · exact (ih.apart client hold).apply turn
      · simp only [Turn.apply, hcall]
        rcases adminClient_cases turn.around issued timeouts (start.after turns) with
          ⟨-, houtcome⟩ | ⟨e, -, houtcome⟩
        · rw [houtcome] at hok ⊢
          obtain rfl := Except.ok.inj hok
          exact .next ih.keeping.sound
        · rw [houtcome] at hok
          cases hok

/-! ## The law of transports -/

/-- A request for a client builds nothing and succeeds, if the client is kept or the transport
for it is there. -/
theorem client_of_served {around : Surroundings} {issued : Issued}
    (hserved : ¬ (r.found around issued = none ∧ r.plant.shared issued.context.kind = none)) :
    ∃ client, (Registry.client around issued r).result = .ok client ∧
      (Registry.client around issued r).events = [] ∧
      (Registry.client around issued r).state.plant = r.plant := by
  have hcourse := client_course around issued r
  generalize Registry.client around issued r = outcome at hcourse ⊢
  cases hcourse with
  | @kept client _ => exact ⟨client, rfl, rfl, plant_looked around issued r⟩
  | @shared transport _ _ => exact ⟨⟨issued, transport, none⟩, rfl, rfl, by simp⟩
  | built hmiss hkind hnone _ => exact absurd ⟨hmiss, by rw [hkind]; exact hnone⟩ hserved
  | refused hmiss hkind hnone _ => exact absurd ⟨hmiss, by rw [hkind]; exact hnone⟩ hserved

/-- A request for a client that is not kept makes one build, if the transport for tenants'
servers is missing.  A failure leaves it missing, and adds no client. -/
theorem client_of_unserved {around : Surroundings} {issued : Issued}
    (hmiss : r.found around issued = none) (hkind : issued.context.kind = .project)
    (hnone : r.projectTransport = none) :
    (Registry.client around issued r).events = [.built r.timeouts] ∧
      match around.refusal r.workshop.tried with
      | none => ∃ client, (Registry.client around issued r).result = .ok client ∧
          (Registry.client around issued r).state.projectTransport = some client.transport
      | some e => (Registry.client around issued r).result = .error e ∧
          (Registry.client around issued r).state.projectTransport = none ∧
          r.Thins (Registry.client around issued r).state := by
  have hcourse := client_course around issued r
  generalize Registry.client around issued r = outcome at hcourse ⊢
  cases hcourse with
  | kept hfound => exact nomatch hmiss.symm.trans hfound
  | shared _ hshared =>
    rw [hkind] at hshared
    exact nomatch hnone.symm.trans hshared
  | built _ _ _ hnot =>
    rw [hnot]
    exact ⟨rfl, ⟨issued, r.plant.next, none⟩, rfl,
      congrArg Plant.project (plant_withClient around _ _)⟩
  | refused _ _ _ hrefused =>
    rw [hrefused]
    exact ⟨rfl, rfl, hnone, (r.thins_looked around issued).trans (thins_withPlant _ _)⟩

/-- A request for a client on a transport of its own is one build with the given timeouts, and
changes neither the clients nor the shared transports. -/
theorem adminClient_effect (around : Surroundings) (issued : Issued) (timeouts : Timeouts)
    (r : Registry) :
    (Registry.adminClient around issued timeouts r).events = [.built timeouts] ∧
      (∀ kind, (Registry.adminClient around issued timeouts r).state.clients kind =
        r.clients kind) ∧
      (Registry.adminClient around issued timeouts r).state.projectTransport =
        r.projectTransport ∧
      (Registry.adminClient around issued timeouts r).state.zoneTransport = r.zoneTransport ∧
      match around.refusal r.workshop.tried with
      | none => ∃ client, (Registry.adminClient around issued timeouts r).result = .ok client ∧
          client.issued = issued
      | some e => (Registry.adminClient around issued timeouts r).result = .error e := by
  rcases adminClient_cases around issued timeouts r with
    ⟨hnot, houtcome⟩ | ⟨e, hrefused, houtcome⟩
  · rw [houtcome, hnot]
    exact ⟨rfl, clients_withPlant r _, rfl, rfl, _, rfl, rfl⟩
  · rw [houtcome, hrefused]
    exact ⟨rfl, clients_withPlant r _, rfl, rfl, rfl⟩

/-- When a registry that was created builds transports, over every run and whichever builds fail.
The transport for tenants' servers is missing exactly if the run has not built it.  A request for
a client of a zone server builds nothing and succeeds.  So does one for a client of a tenant's
server, unless no live client is kept for the context and the transport is missing: then there is
one build, with the timeouts of the settings, and if it fails the request fails with that error,
the transport is still missing, and no client is kept that was not kept before.  Nothing is built
by such requests once one of them has succeeded with a build.  A request for a client on a
transport of its own is one build with the given timeouts, changes no client and no shared
transport, and no other request of the run gives a client on that transport. -/
theorem transport_law {refusal : Nat → Option Error} {workshop : Workshop}
    (hcreate : (create refusal settings workshop).result = .ok start) (turns : List Turn) :
    let r := start.after turns
    (r.projectTransport = none ↔ ¬ start.Supplied turns) ∧
    (∀ around issued, issued.context.kind = .zone →
      ∃ client, (Registry.client around issued r).result = .ok client ∧
        (Registry.client around issued r).events = [] ∧
        (Registry.client around issued r).state.workshop = r.workshop) ∧
    (∀ around issued, issued.context.kind = .project →
      let outcome := Registry.client around issued r
      if r.found around issued = none ∧ r.projectTransport = none then
        outcome.events = [.built settings.timeouts] ∧
        match around.refusal r.workshop.tried with
        | none => ∃ client, outcome.result = .ok client ∧
            outcome.state.projectTransport = some client.transport
        | some e => outcome.result = .error e ∧ outcome.state.projectTransport = none ∧
            r.Thins outcome.state
      else
        ∃ client, outcome.result = .ok client ∧ outcome.events = [] ∧
          outcome.state.workshop = r.workshop) ∧
    (start.Supplied turns → ∀ around issued timeouts,
      .built timeouts ∉ (Registry.client around issued r).events) ∧
    (∀ around issued timeouts,
      let outcome := Registry.adminClient around issued timeouts r
      outcome.events = [.built timeouts] ∧
        (∀ kind, outcome.state.clients kind = r.clients kind) ∧
        outcome.state.projectTransport = r.projectTransport ∧
        outcome.state.zoneTransport = r.zoneTransport ∧
        match around.refusal r.workshop.tried with
        | none => ∃ client, outcome.result = .ok client ∧ client.issued = issued
        | some e => outcome.result = .error e) ∧
    ∀ admin client, start.ProvidesApart turns admin → start.Provides turns client →
      admin.transport ≠ client.transport := by
  intro r
  have hnew := new_of_create_ok hcreate
  have hmissing := project_after_eq_none_iff hnew turns
  have haccounts := Accounts.after hnew turns
  have htimeouts : r.timeouts = settings.timeouts :=
    (timeouts_after start turns).trans hnew.timeouts
  refine ⟨hmissing, ?_, ?_, ?_, ?_, ?_⟩
  · intro around issued hkind
    have hserved : ¬ (r.found around issued = none ∧
        r.plant.shared issued.context.kind = none) := by
      rw [hkind]
      rintro ⟨-, hshared⟩
      cases hshared
    obtain ⟨client, hok, hevents, hplant⟩ := client_of_served hserved
    exact ⟨client, hok, hevents, congrArg Plant.workshop hplant⟩
  · intro around issued hkind
    split_ifs with hneeds
    · have heffect := client_of_unserved hneeds.1 hkind hneeds.2
      rwa [htimeouts] at heffect
    · have hserved : ¬ (r.found around issued = none ∧
          r.plant.shared issued.context.kind = none) := by
        rw [hkind]
        exact hneeds
      obtain ⟨client, hok, hevents, hplant⟩ := client_of_served hserved
      exact ⟨client, hok, hevents, congrArg Plant.workshop hplant⟩
  · intro hsupplied around issued timeouts hmem
    have hserved : ¬ (r.found around issued = none ∧
        r.plant.shared issued.context.kind = none) := by
      rintro ⟨-, hshared⟩
      cases hkind : issued.context.kind with
      | zone =>
        rw [hkind] at hshared
        cases hshared
      | project =>
        rw [hkind] at hshared
        exact hmissing.mp hshared hsupplied
    obtain ⟨client, -, hevents, -⟩ := client_of_served hserved
    rw [hevents] at hmem
    cases hmem
  · intro around issued timeouts
    exact adminClient_effect around issued timeouts r
  · intro admin client hadmin hclient heq
    obtain ⟨kind, hshared⟩ := haccounts.shared client hclient
    exact (haccounts.apart admin hadmin).apart kind (heq ▸ hshared)

/-- A registry with the default settings. -/
def sampleRegistry : Registry :=
  (Service.initial .default .empty .idle).registry

/-- A context of a server of some kind, for some user. -/
def sampleContext (kind : Server.ContextKind) (username : String) : Server.Context where
  serverId := "chef-1"
  baseUri := "https://chef.example/"
  organization := ""
  username
  key := ⟨55, 3, 7⟩
  version := .v11
  kind
  roles := []
  regions := []
  dataBagNames := Dict.empty

/-- The first build for tenants' servers fails, and the second one succeeds. -/
def retryTurns : List Turn :=
  let around : Surroundings :=
    ⟨fun count => if count = 1 then some (Error.transport "refused") else none, ⟨0⟩⟩
  let issued : Issued := ⟨0, sampleContext .project "alice"⟩
  [⟨around, .client issued⟩, ⟨around, .client issued⟩]

/-- Nothing is built any more after the second try. -/
theorem transport_law_retry :
    (create (fun _ => none) .default .idle).result = .ok sampleRegistry ∧
      sampleRegistry.Supplied retryTurns ∧
      (sampleRegistry.after retryTurns).projectTransport ≠ none ∧
      ∀ around issued timeouts, .built timeouts ∉
        (Registry.client around issued (sampleRegistry.after retryTurns)).events := by
  have hcreate : (create (fun _ => none) .default .idle).result = .ok sampleRegistry := rfl
  obtain ⟨hmissing, -, -, hnever, -⟩ := transport_law hcreate retryTurns
  have hthere : (sampleRegistry.after retryTurns).projectTransport ≠ none := by
    decide +kernel
  have hsupplied : sampleRegistry.Supplied retryTurns := by
    by_contra hnot
    exact hthere (hmissing.mpr hnot)
  exact ⟨hcreate, hsupplied, hthere, hnever hsupplied⟩

end Registry
end ChefAccess
