import ChefAccess.Proofs.Cache
import ChefAccess.Proofs.Service.Transports

/-!
# The course of a request for a client

A registry looks for the client that it keeps for a context, and only if there is none does it
need a transport: the one that the clients of servers of a kind share.  The one for zone servers
has been there from the start.  The one for tenants' servers is built by the first such request
whose build succeeds, and stays from then on.

Main definitions:

- {lit}`Plant.shared`: the transport that the clients of servers of a kind share, once it is
  built.
- {lit}`Plant.LeadsTo`: how the transports of a registry may change.
- {lit}`Registry.found`: the client that is kept for a context, if it is alive.
- {lit}`Registry.Course`: the ways that a request for a client can go.
- {lit}`Registry.Keeping`: what is known of the clients that are kept, and of their transports.

Main results:

- Theorem {lit}`Registry.client_course`: every request for a client goes one of these ways.
- Theorem {lit}`Registry.leadsTo_client`: what a request does to the transports.
- Theorem {lit}`Registry.Keeping.client`: what a request leaves behind.
- Theorem {lit}`Registry.Keeping.of_client_ok`: what is known of the client that is given.
-/

namespace ChefAccess

/-! ## Transports -/

namespace Plant

variable {plant later last : Plant} {kind : Server.ContextKind} {transport : Transport}

/-- The transport that the clients of servers of a kind share, once it is built. -/
def shared (plant : Plant) : Server.ContextKind → Option Transport
  | .zone => some plant.zone
  | .project => plant.project

/-- The plant after the transport for tenants' servers was built. -/
def afterProject (plant : Plant) : Plant :=
  { plant.afterBuild with project := some plant.next }

/-- The shared transports were built. -/
def Sound (plant : Plant) : Prop :=
  ∀ kind transport, plant.shared kind = some transport →
    transport.number < plant.workshop.built

/-- How the transports of a registry may change: more are built, and the shared ones stay. -/
structure LeadsTo (plant later : Plant) : Prop where
  built_le : plant.workshop.built ≤ later.workshop.built
  zone : later.zone = plant.zone
  project : ∀ transport, plant.project = some transport → later.project = some transport

theorem LeadsTo.refl (plant : Plant) : plant.LeadsTo plant :=
  ⟨Nat.le_refl _, rfl, fun _ hsome => hsome⟩

theorem LeadsTo.trans (hfirst : plant.LeadsTo later) (hsecond : later.LeadsTo last) :
    plant.LeadsTo last :=
  ⟨hfirst.built_le.trans hsecond.built_le, hsecond.zone.trans hfirst.zone,
    fun transport hsome => hsecond.project transport (hfirst.project transport hsome)⟩

theorem leadsTo_refused (plant : Plant) : plant.LeadsTo plant.refused :=
  ⟨Nat.le_refl _, rfl, fun _ hsome => hsome⟩

theorem leadsTo_afterBuild (plant : Plant) : plant.LeadsTo plant.afterBuild :=
  ⟨Nat.le_succ _, rfl, fun _ hsome => hsome⟩

theorem leadsTo_afterProject (hnone : plant.project = none) :
    plant.LeadsTo plant.afterProject :=
  ⟨Nat.le_succ _, rfl, fun _ hsome => nomatch hnone.symm.trans hsome⟩

/-- A transport that is shared stays the shared one. -/
theorem LeadsTo.shared_eq (hleads : plant.LeadsTo later)
    (hshared : plant.shared kind = some transport) : later.shared kind = some transport := by
  cases kind with
  | zone =>
    rw [← hshared]
    exact congrArg some hleads.zone
  | project => exact hleads.project transport hshared

theorem Sound.refused (hsound : plant.Sound) : plant.refused.Sound := by
  intro kind transport hshared
  cases kind with
  | zone => exact hsound .zone transport hshared
  | project => exact hsound .project transport hshared

theorem Sound.afterBuild (hsound : plant.Sound) : plant.afterBuild.Sound := by
  intro kind transport hshared
  cases kind with
  | zone => exact Nat.lt_succ_of_lt (hsound .zone transport hshared)
  | project => exact Nat.lt_succ_of_lt (hsound .project transport hshared)

theorem Sound.afterProject (hsound : plant.Sound) : plant.afterProject.Sound := by
  intro kind transport hshared
  cases kind with
  | zone => exact Nat.lt_succ_of_lt (hsound .zone transport hshared)
  | project =>
    obtain rfl : plant.next = transport := Option.some.inj hshared
    exact Nat.lt_succ_self _

end Plant

namespace Registry

variable {around : Surroundings} {issued : Issued} {timeouts : Timeouts} {r : Registry}
  {kind other : Server.ContextKind} {key : String} {transport : Transport} {e : Error}

/-! ## Parts of a registry -/

@[simp]
theorem clients_withClients_self (r : Registry) (kind : Server.ContextKind)
    (cache : Cache Client) : (r.withClients kind cache).clients kind = cache := by
  cases kind with
  | zone => rfl
  | project => rfl

@[simp]
theorem clients_withClients_of_ne (r : Registry) (cache : Cache Client) (hne : other ≠ kind) :
    (r.withClients kind cache).clients other = r.clients other := by
  cases kind with
  | zone =>
    cases other with
    | zone => exact absurd rfl hne
    | project => rfl
  | project =>
    cases other with
    | zone => rfl
    | project => exact absurd rfl hne

@[simp]
theorem plant_withClients (r : Registry) (kind : Server.ContextKind) (cache : Cache Client) :
    (r.withClients kind cache).plant = r.plant := by
  cases kind with
  | zone => rfl
  | project => rfl

@[simp]
theorem timeouts_withClients (r : Registry) (kind : Server.ContextKind) (cache : Cache Client) :
    (r.withClients kind cache).timeouts = r.timeouts := by
  cases kind with
  | zone => rfl
  | project => rfl

@[simp]
theorem clients_withPlant (r : Registry) (plant : Plant) (kind : Server.ContextKind) :
    (r.withPlant plant).clients kind = r.clients kind := by
  cases kind with
  | zone => rfl
  | project => rfl

@[simp]
theorem plant_withPlant (r : Registry) (plant : Plant) : (r.withPlant plant).plant = plant :=
  rfl

@[simp]
theorem timeouts_withPlant (r : Registry) (plant : Plant) :
    (r.withPlant plant).timeouts = r.timeouts :=
  rfl

/-- A registry that was just created: it has its zone transport, and keeps no client. -/
structure New (settings : Settings) (r : Registry) : Prop where
  timeouts : r.timeouts = settings.timeouts
  zone_lt : r.zoneTransport.number < r.workshop.built
  project : r.projectTransport = none
  empty : ∀ kind key client, ¬ (r.clients kind).Holds key client

/-- What creating a registry gives, if it succeeds. -/
theorem new_of_create_ok {refusal : Nat → Option Error} {settings : Settings}
    {workshop : Workshop} (hcreate : (create refusal settings workshop).result = .ok r) :
    r.New settings := by
  unfold create at hcreate
  cases hrefusal : refusal workshop.tried with
  | some e =>
    rw [Action.bind_eq_of_error (Workshop.build_of_refused hrefusal settings.timeouts)] at hcreate
    cases hcreate
  | none =>
    rw [Action.bind_eq_of_ok (Workshop.build_of_not_refused hrefusal settings.timeouts)]
      at hcreate
    obtain rfl := Except.ok.inj hcreate
    refine ⟨rfl, Nat.lt_succ_self _, rfl, ?_⟩
    intro kind key client
    cases kind with
    | zone => exact Cache.not_holds_empty _ _ key client
    | project => exact Cache.not_holds_empty _ _ key client

/-! ## Requests for clients -/

/-- The client that is kept for a context, if it is alive.  A client of another context of the
same server does not count. -/
def found (around : Surroundings) (issued : Issued) (r : Registry) : Option Client :=
  ((r.clients issued.context.kind).get around.now issued.context.serverId).1.filter
    fun client => decide (client.issued.serial = issued.serial)

/-- The registry after it was looked for the client of a context. -/
def looked (around : Surroundings) (issued : Issued) (r : Registry) : Registry :=
  r.withClients issued.context.kind
    ((r.clients issued.context.kind).get around.now issued.context.serverId).2

/-- The registry that keeps a new client. -/
def withClient (around : Surroundings) (client : Client) (r : Registry) : Registry :=
  r.withClients client.context.kind
    ((r.clients client.context.kind).insert around.now client.context.serverId client)

theorem kept_apply (around : Surroundings) (issued : Issued) (r : Registry) :
    kept around issued r = ⟨.ok (r.found around issued), r.looked around issued, []⟩ :=
  rfl

@[simp]
theorem plant_looked (around : Surroundings) (issued : Issued) (r : Registry) :
    (r.looked around issued).plant = r.plant :=
  plant_withClients r _ _

@[simp]
theorem plant_withClient (around : Surroundings) (client : Client) (r : Registry) :
    (r.withClient around client).plant = r.plant :=
  plant_withClients r _ _

@[simp]
theorem timeouts_looked (around : Surroundings) (issued : Issued) (r : Registry) :
    (r.looked around issued).timeouts = r.timeouts :=
  timeouts_withClients r _ _

@[simp]
theorem timeouts_withClient (around : Surroundings) (client : Client) (r : Registry) :
    (r.withClient around client).timeouts = r.timeouts :=
  timeouts_withClients r _ _

/-- The ways that a request for the client of a context can go: the client is kept, or there is
a transport for it, or one is built, or that fails. -/
inductive Course (around : Surroundings) (issued : Issued) (r : Registry) :
    Outcome Registry Client → Prop
  | kept {client : Client} (hfound : r.found around issued = some client) :
      Course around issued r ⟨.ok client, r.looked around issued, []⟩
  | shared {transport : Transport} (hmiss : r.found around issued = none)
      (hshared : r.plant.shared issued.context.kind = some transport) :
      Course around issued r ⟨.ok ⟨issued, transport, none⟩,
        (r.looked around issued).withClient around ⟨issued, transport, none⟩, []⟩
  | built (hmiss : r.found around issued = none) (hkind : issued.context.kind = .project)
      (hnone : r.projectTransport = none)
      (hnot : around.refusal r.workshop.tried = none) :
      Course around issued r ⟨.ok ⟨issued, r.plant.next, none⟩,
        ((r.looked around issued).withPlant r.plant.afterProject).withClient around
          ⟨issued, r.plant.next, none⟩, [.built r.timeouts]⟩
  | refused {e : Error} (hmiss : r.found around issued = none)
      (hkind : issued.context.kind = .project) (hnone : r.projectTransport = none)
      (hrefused : around.refusal r.workshop.tried = some e) :
      Course around issued r ⟨.error e, (r.looked around issued).withPlant r.plant.refused,
        [.built r.timeouts]⟩

/-- A client that is kept is given at once. -/
theorem client_of_found {client : Client} (hfound : r.found around issued = some client) :
    Registry.client around issued r = ⟨.ok client, r.looked around issued, []⟩ := by
  rw [Registry.client, Action.bind_eq_of_ok (kept_apply around issued r), hfound]
  rfl

/-- Without a kept client, a new one is made for the shared transport. -/
theorem client_of_shared {after : Registry} {events : List Event}
    (hmiss : r.found around issued = none)
    (hshared : sharedTransport around issued.context.kind (r.looked around issued) =
      ⟨.ok transport, after, events⟩) :
    Registry.client around issued r =
      ⟨.ok ⟨issued, transport, none⟩, after.withClient around ⟨issued, transport, none⟩,
        events⟩ := by
  rw [Registry.client, Action.bind_eq_of_ok (kept_apply around issued r), hmiss]
  dsimp only
  rw [Action.bind_eq_of_ok hshared, List.nil_append]
  exact congrArg (Outcome.mk _ _) (List.append_nil events)

/-- Without a kept client, there is none if the shared transport cannot be built. -/
theorem client_of_not_shared {after : Registry} {events : List Event}
    (hmiss : r.found around issued = none)
    (hshared : sharedTransport around issued.context.kind (r.looked around issued) =
      ⟨.error e, after, events⟩) :
    Registry.client around issued r = ⟨.error e, after, events⟩ := by
  rw [Registry.client, Action.bind_eq_of_ok (kept_apply around issued r), hmiss]
  dsimp only
  rw [Action.bind_eq_of_error hshared, List.nil_append]

/-- Every request for a client goes one of these ways. -/
theorem client_course (around : Surroundings) (issued : Issued) (r : Registry) :
    Course around issued r (Registry.client around issued r) := by
  have hplant := r.plant_looked around issued
  have hproject : (r.looked around issued).projectTransport = r.projectTransport :=
    congrArg Plant.project hplant
  have hworkshop : (r.looked around issued).workshop = r.workshop :=
    congrArg Plant.workshop hplant
  cases hfound : r.found around issued with
  | some client =>
    rw [client_of_found hfound]
    exact .kept hfound
  | none =>
    cases hkind : issued.context.kind with
    | zone =>
      have hzone : (r.looked around issued).zoneTransport = r.zoneTransport :=
        congrArg Plant.zone hplant
      have hshared := sharedTransport_zone around (r.looked around issued)
      rw [hzone] at hshared
      rw [client_of_shared hfound (by rw [hkind]; exact hshared)]
      exact .shared hfound (by rw [hkind]; rfl)
    | project =>
      cases hsome : r.projectTransport with
      | some transport =>
        have hshared : sharedTransport around .project (r.looked around issued) =
            ⟨.ok transport, r.looked around issued, []⟩ :=
          sharedTransport_of_some (hproject.trans hsome)
        rw [client_of_shared hfound (by rw [hkind]; exact hshared)]
        exact .shared hfound (by rw [hkind]; exact hsome)
      | none =>
        cases hrefusal : around.refusal r.workshop.tried with
        | none =>
          have hshared := sharedTransport_of_not_refused (hproject.trans hsome)
            (by rw [hworkshop]; exact hrefusal)
          rw [hplant, timeouts_looked] at hshared
          rw [client_of_shared hfound (by rw [hkind]; exact hshared)]
          exact .built hfound hkind hsome hrefusal
        | some e =>
          have hshared := sharedTransport_of_refused (hproject.trans hsome)
            (by rw [hworkshop]; exact hrefusal)
          rw [hplant, timeouts_looked] at hshared
          rw [client_of_not_shared hfound (by rw [hkind]; exact hshared)]
          exact .refused hfound hkind hsome hrefusal

/-- What a request for a client on a transport of its own does. -/
theorem adminClient_cases (around : Surroundings) (issued : Issued) (timeouts : Timeouts)
    (r : Registry) :
    (around.refusal r.workshop.tried = none ∧
        Registry.adminClient around issued timeouts r =
          ⟨.ok ⟨issued, r.plant.next, none⟩, r.withPlant r.plant.afterBuild,
            [.built timeouts]⟩) ∨
      ∃ e, around.refusal r.workshop.tried = some e ∧
        Registry.adminClient around issued timeouts r =
          ⟨.error e, r.withPlant r.plant.refused, [.built timeouts]⟩ := by
  cases hrefusal : around.refusal r.workshop.tried with
  | none =>
    refine Or.inl ⟨rfl, ?_⟩
    rw [adminClient, Action.bind_eq_of_ok (build_of_not_refused hrefusal timeouts)]
    rfl
  | some e =>
    refine Or.inr ⟨e, rfl, ?_⟩
    rw [adminClient, Action.bind_eq_of_error (build_of_refused hrefusal timeouts)]

/-! ## What stays -/

/-- A request for a client keeps the shared transports, and adds one at most. -/
theorem leadsTo_client (around : Surroundings) (issued : Issued) (r : Registry) :
    r.plant.LeadsTo (Registry.client around issued r).state.plant := by
  have hcourse := client_course around issued r
  generalize Registry.client around issued r = outcome at hcourse ⊢
  cases hcourse with
  | kept _ =>
    rw [plant_looked]
    exact .refl _
  | shared _ _ =>
    rw [plant_withClient, plant_looked]
    exact .refl _
  | built _ _ hnone _ =>
    rw [plant_withClient, plant_withPlant]
    exact Plant.leadsTo_afterProject hnone
  | refused _ _ _ _ => exact r.plant.leadsTo_refused

/-- A request for a client on a transport of its own keeps the shared transports. -/
theorem leadsTo_adminClient (around : Surroundings) (issued : Issued) (timeouts : Timeouts)
    (r : Registry) :
    r.plant.LeadsTo (Registry.adminClient around issued timeouts r).state.plant := by
  rcases adminClient_cases around issued timeouts r with ⟨-, houtcome⟩ | ⟨e, -, houtcome⟩
  · rw [houtcome]
    exact r.plant.leadsTo_afterBuild
  · rw [houtcome]
    exact r.plant.leadsTo_refused

/-- What is known of a registry: its shared transports were built, the clients that it keeps
are for good contexts, and they use the transport that is shared. -/
structure Keeping (Good : Issued → Prop) (r : Registry) : Prop where
  sound : r.plant.Sound
  good : ∀ {kind key client}, (r.clients kind).Holds key client → Good client.issued
  shared : ∀ {kind key client}, (r.clients kind).Holds key client →
    r.plant.shared kind = some client.transport

/-- The clients of the second registry were among those of the first one. -/
def Thins (r after : Registry) : Prop :=
  ∀ kind key client, (after.clients kind).Holds key client → (r.clients kind).Holds key client

theorem thins_looked (around : Surroundings) (issued : Issued) (r : Registry) :
    r.Thins (r.looked around issued) := by
  intro kind key client hholds
  by_cases hkind : kind = issued.context.kind
  · subst hkind
    rw [looked, clients_withClients_self] at hholds
    exact Cache.holds_of_holds_get hholds
  · rwa [looked, clients_withClients_of_ne _ _ hkind] at hholds

theorem thins_forget (r : Registry) : r.Thins r.forget := by
  intro kind key client hholds
  cases kind with
  | zone => exact absurd hholds (r.zoneClients.not_holds_clear key client)
  | project => exact absurd hholds (r.projectClients.not_holds_clear key client)

theorem thins_withPlant (r : Registry) (plant : Plant) : r.Thins (r.withPlant plant) := by
  intro kind key client hholds
  rwa [clients_withPlant] at hholds

theorem Thins.trans {after last : Registry} (hfirst : r.Thins after)
    (hsecond : after.Thins last) : r.Thins last :=
  fun kind key client hholds => hfirst kind key client (hsecond kind key client hholds)

/-- What is held after a client was kept was held before, or is that client. -/
theorem held_or_eq_of_withClient {client held : Client}
    (hholds : ((r.withClient around client).clients kind).Holds key held) :
    (r.clients kind).Holds key held ∨ kind = client.context.kind ∧ held = client := by
  by_cases hkind : kind = client.context.kind
  · subst hkind
    rw [withClient, clients_withClients_self] at hholds
    rcases Cache.holds_of_holds_insert hholds with hbefore | ⟨-, rfl⟩
    · exact Or.inl hbefore
    · exact Or.inr ⟨rfl, rfl⟩
  · rw [withClient, clients_withClients_of_ne _ _ hkind] at hholds
    exact Or.inl hholds

namespace Keeping

variable {Good Other : Issued → Prop} {after : Registry}

/-- A new registry keeps nothing. -/
theorem of_new {settings : Settings} (hnew : r.New settings) : Keeping Good r := by
  refine ⟨?_, fun hholds => absurd hholds (hnew.empty _ _ _),
    fun hholds => absurd hholds (hnew.empty _ _ _)⟩
  intro kind transport hshared
  cases kind with
  | zone =>
    obtain rfl := Option.some.inj hshared
    exact hnew.zone_lt
  | project => exact nomatch hnew.project.symm.trans hshared

theorem imp (hkeeping : Keeping Good r) (himp : ∀ v, Good v → Other v) : Keeping Other r :=
  ⟨hkeeping.sound, fun hholds => himp _ (hkeeping.good hholds), hkeeping.shared⟩

/-- Clients may be forgotten, and transports may be added. -/
theorem thin (hkeeping : Keeping Good r) (hthins : r.Thins after) (hsound : after.plant.Sound)
    (hleads : r.plant.LeadsTo after.plant) : Keeping Good after :=
  ⟨hsound, fun hholds => hkeeping.good (hthins _ _ _ hholds),
    fun hholds => hleads.shared_eq (hkeeping.shared (hthins _ _ _ hholds))⟩

/-- A new client for a good context is kept. -/
theorem withClient {client : Client} (hkeeping : Keeping Good r) (hgood : Good client.issued)
    (hshared : r.plant.shared client.context.kind = some client.transport) :
    Keeping Good (r.withClient around client) := by
  refine ⟨by rw [plant_withClient]; exact hkeeping.sound, ?_, ?_⟩
  · intro kind key kept hholds
    rcases held_or_eq_of_withClient hholds with hbefore | ⟨-, rfl⟩
    · exact hkeeping.good hbefore
    · exact hgood
  · intro kind key kept hholds
    rw [plant_withClient]
    rcases held_or_eq_of_withClient hholds with hbefore | ⟨rfl, rfl⟩
    · exact hkeeping.shared hbefore
    · exact hshared

theorem looked (hkeeping : Keeping Good r) (around : Surroundings) (issued : Issued) :
    Keeping Good (r.looked around issued) := by
  refine hkeeping.thin (r.thins_looked around issued) ?_ ?_
  · rw [plant_looked]
    exact hkeeping.sound
  · rw [plant_looked]
    exact .refl _

theorem forget (hkeeping : Keeping Good r) : Keeping Good r.forget :=
  hkeeping.thin r.thins_forget hkeeping.sound (.refl _)

/-- What is known stays known after a request for the client of a good context. -/
theorem client (hkeeping : Keeping Good r) (around : Surroundings) (hgood : Good issued) :
    Keeping Good (Registry.client around issued r).state := by
  have hlooked := hkeeping.looked around issued
  have hcourse := client_course around issued r
  generalize Registry.client around issued r = outcome at hcourse ⊢
  cases hcourse with
  | kept _ => exact hlooked
  | shared _ hshared => exact hlooked.withClient hgood (by rw [plant_looked]; exact hshared)
  | built _ hkind hnone _ =>
    refine Keeping.withClient ?_ hgood (by rw [plant_withPlant, Client.context, hkind]; rfl)
    refine hlooked.thin (thins_withPlant _ _) hkeeping.sound.afterProject ?_
    rw [plant_looked, plant_withPlant]
    exact Plant.leadsTo_afterProject hnone
  | refused _ _ _ _ =>
    refine hlooked.thin (thins_withPlant _ _) hkeeping.sound.refused ?_
    rw [plant_looked, plant_withPlant]
    exact r.plant.leadsTo_refused

/-- What is known stays known after a request for a client on a transport of its own. -/
theorem adminClient (hkeeping : Keeping Good r) (around : Surroundings) (issued : Issued)
    (timeouts : Timeouts) :
    Keeping Good (Registry.adminClient around issued timeouts r).state := by
  have hleads := leadsTo_adminClient around issued timeouts r
  rcases adminClient_cases around issued timeouts r with ⟨-, houtcome⟩ | ⟨e, -, houtcome⟩
  · rw [houtcome] at hleads ⊢
    exact hkeeping.thin (thins_withPlant _ _) hkeeping.sound.afterBuild hleads
  · rw [houtcome] at hleads ⊢
    exact hkeeping.thin (thins_withPlant _ _) hkeeping.sound.refused hleads

/-- The client that is given is for the context that was asked about, or for a good one of the
same number, and it uses the transport that is shared from then on. -/
theorem of_client_ok {client : Client} (hkeeping : Keeping Good r)
    (hok : (Registry.client around issued r).result = .ok client) :
    (client.issued = issued ∨ client.issued.serial = issued.serial ∧ Good client.issued) ∧
      (Registry.client around issued r).state.plant.shared issued.context.kind =
        some client.transport := by
  have hcourse := client_course around issued r
  generalize Registry.client around issued r = outcome at hcourse hok ⊢
  cases hcourse with
  | @kept found hfound =>
    obtain rfl : found = client := Except.ok.inj hok
    obtain ⟨hget, hserial⟩ := Option.filter_eq_some_iff.mp hfound
    have hholds := Cache.holds_of_get hget
    rw [plant_looked]
    exact ⟨Or.inr ⟨of_decide_eq_true hserial, hkeeping.good hholds⟩, hkeeping.shared hholds⟩
  | shared _ hshared =>
    obtain rfl := Except.ok.inj hok
    rw [plant_withClient, plant_looked]
    exact ⟨Or.inl rfl, hshared⟩
  | built _ hkind _ _ =>
    obtain rfl := Except.ok.inj hok
    rw [plant_withClient, plant_withPlant, hkind]
    exact ⟨Or.inl rfl, rfl⟩
  | refused _ _ _ _ => cases hok

end Keeping

end Registry
end ChefAccess
