import ChefAccess.Proofs.Service.Comparison

/-!
# Services in lockstep

Each function of a service is made of functions of its parts, so two services whose parts
correspond stay in lockstep, turn by turn.

Main definitions:

- {lit}`Service.Surroundings.Alike`: surroundings that differ as a comparison allows.
- {lit}`Service.Alike`: two services correspond at a stage.
- {lit}`Service.Lockstep`: what is seen of two runs agrees, turn by turn.

Main results:

- Theorem {lit}`Client.execute_inStep`: clients that are alike get the same response.
- Theorem {lit}`Service.Turn.action_coupled`: what one turn does.
- Theorem {lit}`Service.exists_lockstep`: what a whole run does.
-/

namespace ChefAccess

/-! ## Surroundings -/

/-- Two worlds outside are alike: it is the same time of day, and requests that correspond get
the same reply. -/
structure Outside.Alike (C : Comparison) (first second : Outside) : Prop where
  timeOfDay : first.timeOfDay = second.timeOfDay
  reply : ∀ count {t u : Transport} {request request' : Http.Request}, (C.Shared → t = u) →
    C.Requests request request' →
      first.reply (C.sent + count) t request = second.reply count u request'

/-- Two surroundings differ as a comparison allows. -/
structure Service.Surroundings.Alike (C : Comparison) (first second : Service.Surroundings) :
    Prop where
  sources : first.sources.Alike C.Keys second.sources
  refusal : RefusalsAlike C.Shared first.refusal second.refusal
  outside : first.outside.Alike C second.outside
  now : first.now = second.now

/-! ## Requests -/

/-- Clients that are alike get the same response to a command. -/
theorem Client.execute_inStep {C : Comparison} {now : Stage C.Shared} {outside outside' : Outside}
    {α : Type} (houtside : outside.Alike C outside') {first second : Client}
    (hclients : C.Clients now first second) (decoder : Json.Decoder α) (command : Command) :
    Action.InStep (Event.Alike C.Requests now.links) (fun m n => m = C.sent + n) Eq
      (first.execute outside decoder command) (second.execute outside' decoder command) := by
  unfold Client.execute
  have hcontext := hclients.issued.context
  rw [Client.uri_eq hcontext, houtside.timeOfDay]
  refine (Action.InStep.ofExcept
    (C.prepare_agree hcontext hclients.signedAt outside'.timeOfDay command)).bind ?_
  intro request request' hrequests
  refine Action.InStep.bind (V := Eq) ?_ ?_
  · refine (Action.InStep.record (.sent hclients.transport hrequests)).bind ?_
    intro _ _ _
    refine Action.InStep.update ?_
    rintro m n rfl
    refine ⟨houtside.reply n (fun hshared => now.eq_of_links hshared hclients.transport)
      hrequests, ?_⟩
    exact Nat.add_assoc C.sent n 1
  · rintro reply _ rfl
    cases reply with
    | error e => exact .fail _
    | ok reply => exact .ofExcept (Agree.refl Eq.refl _)

namespace Service

/-! ## Services -/

/-- Two services correspond at a stage. -/
structure Alike (C : Comparison) (now : Stage C.Shared) (first second : Service) : Prop where
  resolver : first.resolver.Alike C.settings C.Keys C.issued second.resolver
  registry : first.registry.Alike C now second.registry
  instances : first.instances = second.instances
  requests : first.requests = C.sent + second.requests

/-- A service that was just created is like itself, if nothing was done before. -/
theorem alike_initial {C : Comparison} (hissued : C.issued = 0) (hsent : C.sent = 0)
    (instances : Instances) (workshop : Workshop) :
    Alike C (.start ⟨workshop.built⟩ ⟨workshop.built⟩ fun _ => rfl)
      (initial C.settings instances workshop) (initial C.settings instances workshop) where
  resolver := ⟨rfl, rfl, .empty _ _ _, by rw [hissued]; rfl⟩
  registry := by
    refine ⟨rfl, rfl, ⟨fun _ => rfl, ?_, ⟨rfl, rfl⟩, .unbuilt, Nat.zero_le _⟩, .empty _ _ _,
      .empty _ _ _⟩
    rintro t u ⟨rfl, rfl⟩
    exact ⟨Nat.lt_succ_self _, Nat.lt_succ_self _⟩
  instances := rfl
  requests := by
    rw [hsent]
    rfl

variable {C : Comparison} {stage now : Stage C.Shared} {around around' : Surroundings}

namespace Surroundings.Alike

theorem resolver (haround : around.Alike C around') :
    around.resolver.Alike C.Keys around'.resolver :=
  ⟨haround.sources, haround.now⟩

theorem registry (haround : around.Alike C around') :
    around.registry.Alike C.Shared around'.registry :=
  ⟨haround.refusal, haround.now⟩

end Surroundings.Alike

/-- Questions and warnings are like themselves. -/
theorem plain_alike (Requests : Http.Request → Http.Request → Prop)
    (links : Transport → Transport → Prop) : Event.Plain (Event.Alike Requests links) :=
  ⟨.asked, .warning⟩

/-! ## The parts -/

/-- What the resolvers do in step, the services do in step. -/
theorem onResolver_inStep {α β : Type} {Same : Event → Event → Prop} {Value : α → β → Prop}
    {first : Action Resolver α} {second : Action Resolver β}
    (hstep : Action.InStep Same (Resolver.Alike C.settings C.Keys C.issued) Value first second) :
    Action.InStep Same (Alike C now) Value (onResolver first) (onResolver second) :=
  hstep.onPart (fun _ _ hstate => hstate.resolver)
    fun _ _ _ _ hstate hpart => ⟨hpart, hstate.registry, hstate.instances, hstate.requests⟩

/-- What the registries do in step, the services do in step. -/
theorem onRegistry_inStep {α β : Type} {Same : Event → Event → Prop} {Value : α → β → Prop}
    {first : Action Registry α} {second : Action Registry β}
    (hstep : Action.InStep Same (Registry.Alike C now) Value first second) :
    Action.InStep Same (Alike C now) Value (onRegistry first) (onRegistry second) :=
  hstep.onPart (fun _ _ hstate => hstate.registry)
    fun _ _ _ _ hstate hpart => ⟨hstate.resolver, hpart, hstate.instances, hstate.requests⟩

/-- What is coupled for the registries is coupled for the services. -/
theorem onRegistry_coupled {α β : Type} {Value : Stage C.Shared → α → β → Prop}
    {first : Action Registry α} {second : Action Registry β}
    (hcoupled : C.Coupled (Registry.Alike C) Value stage first second) :
    C.Coupled (Alike C) Value stage (onRegistry first) (onRegistry second) :=
  Action.Coupled.onPart (fun _ _ _ hstate => hstate.registry)
    (fun _ _ _ _ _ _ hstate _ hpart =>
      ⟨hstate.resolver, hpart, hstate.instances, hstate.requests⟩) hcoupled

/-! ## Commands -/

/-- The clients of a tenant are coupled. -/
theorem client_coupled (haround : around.Alike C around') (tenancy : Tenancy) :
    C.Coupled (Alike C) C.Clients stage (client around tenancy) (client around' tenancy) := by
  refine Action.Coupled.bind (V := fun _ => Issued.Alike C.Keys C.issued) ?_ ?_
  · exact .of_inStep fun now _ => onResolver_inStep
      (Resolver.resolveFor_inStep (plain_alike _ _) C.keys_refl haround.resolver tenancy)
  · intro now _ v w hissued
    exact onRegistry_coupled (Registry.client_coupled haround.registry hissued)

/-- Clients that are alike get the same response, and leave the same warning. -/
theorem perform_inStep {α : Type} (haround : around.Alike C around') {first second : Client}
    (hclients : C.Clients now first second) (decoder : Json.Decoder α) (command : Command) :
    Action.InStep (Event.Alike C.Requests now.links) (Alike C now) Eq
      (perform around first decoder command) (perform around' second decoder command) := by
  unfold perform
  have hserver : first.context.serverId = second.context.serverId :=
    hclients.issued.context.serverId
  rw [hserver]
  refine Action.InStep.bind (V := Eq) ?_ ?_
  · refine (Client.execute_inStep haround.outside hclients decoder command).onPart
      (fun _ _ hstate => hstate.requests) ?_
    intro _ _ _ _ hstate hcount
    exact ⟨hstate.resolver, hstate.registry, hstate.instances, hcount⟩
  · rintro response _ rfl
    dsimp only
    split
    · refine (Action.InStep.record (.warning _)).bind ?_
      intro _ _ _
      exact .pure rfl
    · exact .pure rfl

/-- Commands for a tenant are coupled. -/
theorem execute_coupled {α : Type} (haround : around.Alike C around') (tenancy : Tenancy)
    (decoder : Json.Decoder α) (command : Command) :
    C.Coupled (Alike C) (fun _ => Eq) stage (execute around tenancy decoder command)
      (execute around' tenancy decoder command) := by
  refine (client_coupled haround tenancy).bind ?_
  intro now _ first second hclients
  exact .of_inStep fun later hleads =>
    perform_inStep haround (Registry.Alike.clients_later hleads hclients) decoder command

/-- Commands for a server that was resolved before are coupled. -/
theorem executeOnServer_coupled {α : Type} (haround : around.Alike C around')
    (serverId : String) (decoder : Json.Decoder α) (command : Command) :
    C.Coupled (Alike C) (fun _ => Eq) stage (executeOnServer around serverId decoder command)
      (executeOnServer around' serverId decoder command) := by
  refine Action.Coupled.bind (V := fun _ => Option.Rel (Issued.Alike C.Keys C.issued)) ?_ ?_
  · exact .of_inStep fun now _ => onResolver_inStep
      (Resolver.lookup_inStep haround.resolver.now serverId)
  · intro now _ found found' hfound
    cases hfound with
    | none => exact .of_inStep fun later _ => .fail _
    | some hissued =>
      refine (onRegistry_coupled (Registry.client_coupled haround.registry hissued)).bind ?_
      intro now _ first second hclients
      exact .of_inStep fun later hleads =>
        perform_inStep haround (Registry.Alike.clients_later hleads hclients) decoder command

/-- Commands for a machine are coupled. -/
theorem executeForInstance_coupled {α : Type} (haround : around.Alike C around')
    (instanceId : String) (decoder : Json.Decoder α) (command : Command) :
    C.Coupled (Alike C) (fun _ => Eq) stage
      (executeForInstance around instanceId decoder command)
      (executeForInstance around' instanceId decoder command) := by
  refine Action.Coupled.bind (V := Alike C) ?_ ?_
  · exact .of_inStep fun now _ => .read
  · intro now _ s t hstate
    rw [hstate.instances]
    split
    · exact .of_inStep fun later _ => .fail _
    · rename_i record hrecord
      exact execute_coupled haround ⟨record.tenant, record.region⟩ decoder command

/-- Commands over transports of their own are coupled. -/
theorem adminExecute_coupled {α : Type} (haround : around.Alike C around') (tenancy : Tenancy)
    (timeouts : Timeouts) (decoder : Json.Decoder α) (command : Command) :
    C.Coupled (Alike C) (fun _ => Eq) stage
      (adminExecute around tenancy timeouts decoder command)
      (adminExecute around' tenancy timeouts decoder command) := by
  refine Action.Coupled.bind (V := fun _ => Issued.Alike C.Keys C.issued) ?_ ?_
  · exact .of_inStep fun now _ => onResolver_inStep
      (Resolver.resolveFor_inStep (plain_alike _ _) C.keys_refl haround.resolver tenancy)
  · intro now _ v w hissued
    refine (onRegistry_coupled
      (Registry.adminClient_coupled haround.registry hissued timeouts)).bind ?_
    intro now _ first second hclients
    exact .of_inStep fun later hleads =>
      perform_inStep haround (Registry.Alike.clients_later hleads hclients) decoder command

/-! ## Machines and caches -/

/-- The states of machines are noted in step. -/
theorem setInstanceState_inStep (instanceId : String) (state : SetupState) :
    Action.InStep (Event.Alike C.Requests now.links) (Alike C now) Eq
      (setInstanceState instanceId state) (setInstanceState instanceId state) := by
  refine Action.InStep.bind (V := Eq) ?_ ?_
  · refine Action.InStep.update ?_
    intro s t hstate
    rw [hstate.instances]
    exact ⟨rfl, hstate.resolver, hstate.registry, rfl, hstate.requests⟩
  · rintro updated _ rfl
    dsimp only
    split
    · refine (Action.InStep.record (.notice _)).bind ?_
      intro _ _ _
      exact .pure rfl
    · refine (Action.InStep.record (.warning _)).bind ?_
      intro _ _ _
      exact .pure rfl

/-- Both services can forget their contexts and their clients. -/
theorem refresh_inStep {Same : Event → Event → Prop} :
    Action.InStep Same (Alike C now) Eq refresh refresh := by
  refine (onResolver_inStep Resolver.forget_inStep).bind ?_
  intro _ _ _
  exact onRegistry_inStep Registry.forget_inStep

/-! ## Turns -/

/-- Two answers are alike: they differ at most in clients that correspond. -/
inductive Answer.Alike {α : Type} (Clients : Client → Client → Prop) :
    Answer α → Answer α → Prop
  | client {first second : Client} (hclients : Clients first second) :
      Alike Clients (.client first) (.client second)
  | response (response : Response α) : Alike Clients (.response response) (.response response)
  | flag (known : Bool) : Alike Clients (.flag known) (.flag known)
  | done : Alike Clients .done .done

theorem Answer.Alike.imp {α : Type} {Clients Others : Client → Client → Prop}
    {answer answer' : Answer α} (halike : Answer.Alike Clients answer answer')
    (himp : ∀ first second, Clients first second → Others first second) :
    Answer.Alike Others answer answer' := by
  cases halike with
  | client hclients => exact .client (himp _ _ hclients)
  | response response => exact .response response
  | flag known => exact .flag known
  | done => exact .done

/-- Two turns are alike: the same call is made in surroundings that are alike. -/
structure Turn.Alike (C : Comparison) {α : Type} (first second : Turn α) : Prop where
  around : first.around.Alike C second.around
  call : first.call = second.call

/-- A call that gives a value at last is coupled if what it does before is. -/
theorem coupled_map {α β : Type} {V : Stage C.Shared → β → β → Prop}
    {first second : Action Service β} {answer : β → Answer α}
    (hcoupled : C.Coupled (Alike C) V stage first second)
    (hanswer : ∀ now later b b', now.LeadsTo later → V now b b' →
      Answer.Alike (C.Clients later) (answer b) (answer b')) :
    C.Coupled (Alike C) (fun now => Answer.Alike (C.Clients now)) stage
      (first >>= fun b => pure (answer b)) (second >>= fun b => pure (answer b)) := by
  refine hcoupled.bind ?_
  intro now _ b b' hvalue
  exact .pure fun later hleads => hanswer now later b b' hleads hvalue

/-- Turns that are alike are coupled. -/
theorem Turn.action_coupled {α : Type} {turn turn' : Turn α} (hturn : turn.Alike C turn') :
    C.Coupled (Service.Alike C) (fun now => Answer.Alike (C.Clients now)) stage turn.action
      turn'.action := by
  obtain ⟨haround, hcall⟩ := hturn
  unfold Turn.action
  rw [hcall]
  cases turn'.call with
  | client tenancy =>
    exact coupled_map (client_coupled haround tenancy) fun _ _ _ _ hleads hclients =>
      .client (Registry.Alike.clients_later hleads hclients)
  | execute tenancy decoder command =>
    refine coupled_map (execute_coupled haround tenancy decoder command) ?_
    rintro _ _ response _ _ rfl
    exact .response response
  | executeOnServer serverId decoder command =>
    refine coupled_map (executeOnServer_coupled haround serverId decoder command) ?_
    rintro _ _ response _ _ rfl
    exact .response response
  | executeForInstance instanceId decoder command =>
    refine coupled_map (executeForInstance_coupled haround instanceId decoder command) ?_
    rintro _ _ response _ _ rfl
    exact .response response
  | adminExecute tenancy timeouts decoder command =>
    refine coupled_map (adminExecute_coupled haround tenancy timeouts decoder command) ?_
    rintro _ _ response _ _ rfl
    exact .response response
  | setInstanceState instanceId state =>
    refine coupled_map (V := fun _ => Eq)
      (.of_inStep fun now _ => setInstanceState_inStep instanceId state) ?_
    rintro _ _ known _ _ rfl
    exact .flag known
  | editInstances change =>
    refine coupled_map (V := fun _ => Eq) (.of_inStep fun now _ => .modify ?_)
      fun _ _ _ _ _ _ => .done
    intro s t hstate
    rw [hstate.instances]
    exact ⟨hstate.resolver, hstate.registry, rfl, hstate.requests⟩
  | refresh =>
    exact coupled_map (V := fun _ => Eq) (.of_inStep fun now _ => refresh_inStep)
      fun _ _ _ _ _ _ => .done

/-! ## Runs -/

/-- What is seen of two runs agrees, turn by turn: the answers differ at most in clients that
correspond, and the journals tell the same except for spared builds, which are counted. -/
inductive Lockstep {α : Type} (Clients : Client → Client → Prop) (Same : Event → Event → Prop)
    (timeouts : Timeouts) : Nat → Nat → List (Observation α) → List (Observation α) → Prop
  | nil (count : Nat) : Lockstep Clients Same timeouts count count [] []
  | cons {count middle final : Nat} {first second : Observation α}
      {rest rest' : List (Observation α)}
      (hanswer : Agree (Answer.Alike Clients) first.answer second.answer)
      (hevents : Journals Same timeouts count middle first.events second.events)
      (hrest : Lockstep Clients Same timeouts middle final rest rest') :
      Lockstep Clients Same timeouts count final (first :: rest) (second :: rest')

namespace Lockstep

variable {α : Type} {Clients : Client → Client → Prop} {Same : Event → Event → Prop}
  {timeouts : Timeouts} {count final : Nat} {first second : List (Observation α)}

/-- The count of spared builds never goes down. -/
theorem le (hlockstep : Lockstep Clients Same timeouts count final first second) :
    count ≤ final := by
  induction hlockstep with
  | nil count => exact Nat.le_refl count
  | cons _ hevents _ ih => exact Nat.le_trans hevents.le ih

/-- Runs in which no build is spared are the same, turn by turn. -/
theorem forall₂ (hlockstep : Lockstep Clients Same timeouts count final first second)
    (hnone : final ≤ count) :
    List.Forall₂ (fun seen seen' => Agree (Answer.Alike Clients) seen.answer seen'.answer ∧
      List.Forall₂ Same seen.events seen'.events) first second := by
  induction hlockstep with
  | nil => exact .nil
  | cons hanswer hevents hrest ih =>
    have hle := hevents.le
    have hle' := hrest.le
    exact .cons ⟨hanswer, hevents.forall₂ (by omega)⟩ (ih (by omega))

end Lockstep

/-- Two services that correspond at a stage are in lockstep from there on, for turns that are
alike. -/
theorem exists_lockstep {α : Type} {turns turns' : List (Turn α)}
    (hturns : List.Forall₂ (Turn.Alike C) turns turns') {s t : Service}
    (hstate : Service.Alike C now s t) :
    ∃ later, now.LeadsTo later ∧ later.spared ≤ C.spare ∧
      Lockstep (C.Clients later) (Event.Alike C.Requests later.links) C.settings.timeouts
        now.spared later.spared (observations s turns) (observations t turns') := by
  induction hturns generalizing now s t with
  | nil =>
    exact ⟨now, Stage.LeadsTo.refl now, hstate.registry.plant.spared, .nil _⟩
  | cons hturn _ ih =>
    obtain ⟨middle, hmiddle, hanswer, hafter, hevents⟩ :=
      Turn.action_coupled hturn now (Stage.LeadsTo.refl now) s t hstate
    obtain ⟨later, hlater, hspared, hrest⟩ := ih hafter
    refine ⟨later, hmiddle.trans hlater, hspared, .cons ?_ ?_ hrest⟩
    · exact hanswer.imp fun _ _ halike =>
        halike.imp fun _ _ hclients => Registry.Alike.clients_later hlater hclients
    · exact hevents.imp fun _ _ hsame => hsame.imp hlater

end Service
end ChefAccess
