import ChefAccess.Configuration.Store
import ChefAccess.Proofs.Dict
import Mathlib.Data.List.Induction

/-!
# The history of the configuration store

Every change of the configuration store concerns one place in it: a server, a tenant in a region,
or the binding of a region.  What stands at a place is what the last change there left, whatever
happened elsewhere before or since.  So a region shares the server that it was bound to last, as
that server stands now, even if the server was saved, replaced or deleted after the binding.

The servers are listed by their names.  The table that holds them may be gone through in any
order.

Main definitions:

- {lit}`Configurations.Place` and {lit}`Configurations.content?`: the places of a store, and what
  stands there.
- {lit}`Configurations.Call` and {lit}`Configurations.after`: the changes of a store, and what they
  lead to.
- {lit}`Configurations.LastAt`: the last change of a history at a place.

Main results:

- Theorem {lit}`Configurations.content?_apply`: a change has its effect at its place alone.
- Theorem {lit}`Configurations.apply_comm`: changes at different places commute.
- Theorem {lit}`Configurations.content?_after`: a place depends on the changes there alone.
- Theorem {lit}`Configurations.content?_after_eq_some_iff`: what stands at a place after a history.
- Theorem {lit}`Configurations.tables_law`: what a store answers after a history.
-/

namespace ChefAccess
namespace Configurations

/-! ## Places -/

/-- A place in the store: a server by its name, a tenant in a region, or the binding of a region. -/
inductive Place where
  | server (id : String)
  | tenancy (tenancy : Tenancy)
  | region (name : String)
  deriving DecidableEq

/-- What can stand at a place. -/
inductive Content where
  | server (config : ServerConfig)
  | tenant (config : TenantConfig)
  | binding (id : String)

/-- What stands at a place of a store. -/
def content? (store : Configurations) : Place → Option Content
  | .server id => (store.servers.get? id).map .server
  | .tenancy tenancy => (store.tenants.get? tenancy).map .tenant
  | .region name => (store.regions.get? name).map .binding

variable {store store' : Configurations} {id region : String}

/-- Nothing stands anywhere in the store without entries. -/
@[simp]
theorem content?_empty (place : Place) : empty.content? place = none := by
  cases place <;> rfl

/-- A server is known as it stands at its place. -/
theorem server?_eq_some_iff {config : ServerConfig} :
    store.server? id = some config ↔ store.content? (.server id) = some (.server config) := by
  simp [server?, content?]

/-- A tenant is known as it stands at its place. -/
theorem tenant?_eq_some_iff {tenancy : Tenancy} {config : TenantConfig} :
    store.tenant? tenancy = some config ↔
      store.content? (.tenancy tenancy) = some (.tenant config) := by
  simp [tenant?, content?]

/-- A region shares the server that it is bound to, as that server stands. -/
theorem regionServer?_eq_some_iff {config : ServerConfig} :
    store.regionServer? region = some config ↔
      ∃ id, store.content? (.region region) = some (.binding id) ∧
        store.content? (.server id) = some (.server config) := by
  simp [regionServer?, server?, content?, Option.bind_eq_some_iff]

/-- Stores that agree at every place are equal. -/
theorem ext_content? (hagree : ∀ place, store.content? place = store'.content? place) :
    store = store' := by
  have hservers : store.servers = store'.servers := Dict.ext_get? fun id =>
    Option.map_injective (fun _ _ => Content.server.inj) (hagree (.server id))
  have htenants : store.tenants = store'.tenants := Dict.ext_get? fun tenancy =>
    Option.map_injective (fun _ _ => Content.tenant.inj) (hagree (.tenancy tenancy))
  have hregions : store.regions = store'.regions := Dict.ext_get? fun name =>
    Option.map_injective (fun _ _ => Content.binding.inj) (hagree (.region name))
  cases store
  cases store'
  simp_all

/-! ## Changes -/

/-- What changes a store. -/
inductive Call where
  | saveServer (config : ServerConfig)
  | deleteServer (id : String)
  | saveTenant (config : TenantConfig)
  | deleteTenant (tenancy : Tenancy)
  | bindRegion (region id : String)
  | unbindRegion (region : String)

namespace Call

/-- The store after a change. -/
def apply (call : Call) (store : Configurations) : Configurations :=
  match call with
  | saveServer config => store.saveServer config
  | deleteServer id => store.deleteServer id
  | saveTenant config => store.saveTenant config
  | deleteTenant tenancy => store.deleteTenant tenancy
  | bindRegion region id => store.bindRegion region id
  | unbindRegion region => store.unbindRegion region

/-- The place that a change is about. -/
def place : Call → Place
  | saveServer config => .server config.serverId
  | deleteServer id => .server id
  | saveTenant config => .tenancy ⟨config.tenant, config.region⟩
  | deleteTenant tenancy => .tenancy tenancy
  | bindRegion region _ => .region region
  | unbindRegion region => .region region

/-- What a change leaves at its place. -/
def leaves? : Call → Option Content
  | saveServer config => some (.server config)
  | saveTenant config => some (.tenant config)
  | bindRegion _ id => some (.binding id)
  | deleteServer _ | deleteTenant _ | unbindRegion _ => none

/-- Only saving a server leaves a server. -/
theorem leaves?_eq_server_iff {call : Call} {config : ServerConfig} :
    call.leaves? = some (.server config) ↔ call = saveServer config := by
  cases call <;> simp [leaves?]

/-- Only saving a tenant leaves a tenant. -/
theorem leaves?_eq_tenant_iff {call : Call} {config : TenantConfig} :
    call.leaves? = some (.tenant config) ↔ call = saveTenant config := by
  cases call <;> simp [leaves?]

/-- Only binding a region leaves a binding. -/
theorem leaves?_eq_binding_iff {call : Call} {id : String} :
    call.leaves? = some (.binding id) ↔ ∃ region, call = bindRegion region id := by
  cases call <;> simp [leaves?]

end Call

/-- A change leaves what it says at its place, and everything else as it was. -/
theorem content?_apply (store : Configurations) (call : Call) (place : Place) :
    (call.apply store).content? place =
      if place = call.place then call.leaves? else store.content? place := by
  -- A change writes to one table; there the laws of dictionaries tell its key from the others.
  cases call <;> cases place <;>
    simp [Call.apply, Call.place, Call.leaves?, content?, saveServer, deleteServer, saveTenant,
      deleteTenant, bindRegion, unbindRegion, Dict.get?_insert, Dict.get?_erase,
      apply_ite (Option.map _)]

/-- Changes at different places commute. -/
theorem apply_comm {first second : Call} (hplaces : first.place ≠ second.place)
    (store : Configurations) :
    second.apply (first.apply store) = first.apply (second.apply store) := by
  refine ext_content? fun place => ?_
  rw [content?_apply, content?_apply, content?_apply, content?_apply]
  by_cases hfirst : place = first.place
  · rw [if_pos hfirst, if_pos hfirst, if_neg (hfirst ▸ hplaces)]
  · rw [if_neg hfirst, if_neg hfirst]

/-! ## Histories -/

/-- The store after some changes. -/
def after (start : Configurations) (calls : List Call) : Configurations :=
  calls.foldl (fun store call => call.apply store) start

@[simp]
theorem after_nil (start : Configurations) : after start [] = start :=
  rfl

@[simp]
theorem after_cons (start : Configurations) (call : Call) (calls : List Call) :
    after start (call :: calls) = after (call.apply start) calls :=
  rfl

@[simp]
theorem after_append (start : Configurations) (calls more : List Call) :
    after start (calls ++ more) = after (after start calls) more :=
  List.foldl_append

/-- The changes of a history at a place. -/
def changesAt (place : Place) (history : List Call) : List Call :=
  history.filter (·.place = place)

/-- The last change of a history at a place: all later ones are elsewhere. -/
structure LastAt (place : Place) (call : Call) (history : List Call) : Prop where
  place_eq : call.place = place
  split : ∃ before rest, history = before ++ call :: rest ∧ ∀ later ∈ rest, later.place ≠ place

/-- The last change at a place is the last of the changes there. -/
theorem getLast?_changesAt_eq_some_iff {place : Place} {call : Call} {history : List Call} :
    (changesAt place history).getLast? = some call ↔ LastAt place call history := by
  constructor
  · intro hlast
    obtain ⟨earlier, hchanges⟩ := List.getLast?_eq_some_iff.mp hlast
    obtain ⟨front, back, rfl, -, hback⟩ := List.filter_eq_append_iff.mp hchanges
    obtain ⟨between, rest, rfl, -, hplace, hrest⟩ := List.filter_eq_cons_iff.mp hback
    refine ⟨by simpa using hplace, front ++ between, rest, by rw [List.append_assoc], ?_⟩
    simpa using List.filter_eq_nil_iff.mp hrest
  · rintro ⟨hplace, before, rest, rfl, hrest⟩
    have hnone : changesAt place rest = [] := List.filter_eq_nil_iff.mpr (by simpa using hrest)
    rw [changesAt] at hnone ⊢
    simp [List.filter_append, hplace, hnone]

/-- What stands at a place after a history is what the last of the changes there left, or what
stood there before. -/
theorem content?_after (start : Configurations) (calls : List Call) (place : Place) :
    (after start calls).content? place =
      (changesAt place calls).getLast?.elim (start.content? place) Call.leaves? := by
  -- From the end: the last change is at the place, or what stands there is older.
  induction calls using List.reverseRecOn with
  | nil => rfl
  | append_singleton calls call ih =>
    rw [after_append, after_cons, after_nil, content?_apply, changesAt, List.filter_append]
    by_cases hplace : call.place = place
    · simp [hplace]
    · simpa [hplace, Ne.symm hplace, changesAt] using ih

/-- Histories with the same changes at a place lead to the same there. -/
theorem content?_after_congr {place : Place} {calls others : List Call}
    (hchanges : changesAt place others = changesAt place calls) (start : Configurations) :
    (after start others).content? place = (after start calls).content? place := by
  rw [content?_after, content?_after, hchanges]

/-- Something stands at a place exactly if the last change there left it. -/
theorem content?_after_eq_some_iff {place : Place} {content : Content} {calls : List Call} :
    (after empty calls).content? place = some content ↔
      ∃ call, LastAt place call calls ∧ call.leaves? = some content := by
  rw [content?_after, content?_empty]
  simp only [← getLast?_changesAt_eq_some_iff]
  cases (changesAt place calls).getLast? <;> simp

/-- Neighbouring changes of a history at different places may be exchanged. -/
theorem after_swap {first second : Call} (hplaces : first.place ≠ second.place)
    (start : Configurations) (before rest : List Call) :
    after start (before ++ second :: first :: rest) =
      after start (before ++ first :: second :: rest) := by
  simp only [after_append, after_cons]
  rw [apply_comm hplaces]

/-! ## Answers -/

variable {calls : List Call}

/-- A server has the configuration that was saved last, if it was not deleted since. -/
theorem server?_after_eq_some_iff {config : ServerConfig} :
    (after empty calls).server? id = some config ↔
      LastAt (.server id) (.saveServer config) calls := by
  simp [server?_eq_some_iff, content?_after_eq_some_iff, Call.leaves?_eq_server_iff]

/-- A tenant has the configuration that was saved last, if it was not deleted since. -/
theorem tenant?_after_eq_some_iff {tenancy : Tenancy} {config : TenantConfig} :
    (after empty calls).tenant? tenancy = some config ↔
      LastAt (.tenancy tenancy) (.saveTenant config) calls := by
  simp [tenant?_eq_some_iff, content?_after_eq_some_iff, Call.leaves?_eq_tenant_iff]

/-- A region shares the server that it was bound to last, if it was not unbound since, as that
server stands. -/
theorem regionServer?_after_eq_some_iff {config : ServerConfig} :
    (after empty calls).regionServer? region = some config ↔
      ∃ id, LastAt (.region region) (.bindRegion region id) calls ∧
        LastAt (.server id) (.saveServer config) calls := by
  rw [regionServer?_eq_some_iff]
  refine exists_congr fun id => and_congr ?_ ?_
  · rw [content?_after_eq_some_iff]
    constructor
    · rintro ⟨call, hlast, hleaves⟩
      obtain ⟨bound, rfl⟩ := Call.leaves?_eq_binding_iff.mp hleaves
      obtain rfl : bound = region := Place.region.inj hlast.place_eq
      exact hlast
    · exact fun hlast => ⟨_, hlast, rfl⟩
  · rw [← server?_eq_some_iff, server?_after_eq_some_iff]

/-! ## The list of servers -/

/-- Every server is kept under its name. -/
theorem serverId_of_server?_after {config : ServerConfig}
    (hserver : (after empty calls).server? id = some config) : config.serverId = id :=
  Place.server.inj (server?_after_eq_some_iff.mp hserver).place_eq

/-- The servers are listed in strictly increasing order of their names. -/
theorem pairwise_listServers (calls : List Call) :
    (after empty calls).listServers.Pairwise fun a b => a.serverId < b.serverId :=
  Dict.pairwise_values serverId_of_server?_after

/-- The servers that are listed are those that are known. -/
theorem mem_listServers_iff {config : ServerConfig} :
    config ∈ (after empty calls).listServers ↔
      (after empty calls).server? config.serverId = some config := by
  refine Dict.mem_values_iff.trans ⟨?_, fun hserver => ⟨_, hserver⟩⟩
  rintro ⟨id, hserver⟩
  rwa [serverId_of_server?_after hserver]

/-- Each server that is known is listed once, and no other. -/
theorem count_listServers (calls : List Call) (config : ServerConfig) :
    (after empty calls).listServers.count config =
      if (after empty calls).server? config.serverId = some config then 1 else 0 := by
  have hdistinct : (after empty calls).listServers.Nodup := by
    refine (pairwise_listServers calls).imp fun {a b} hlt heq => ?_
    rw [heq] at hlt
    exact String.lt_irrefl _ hlt
  simp only [hdistinct.count, mem_listServers_iff]

/-! ## The law of the store -/

/-- A server or a tenant has the configuration that was saved last under its name and not deleted
since; the changes at a tenant in a region alone decide about that tenant there.  A region shares
the server that it was bound to last and not unbound from since, as that server stands after the
whole history.  Each server that is known is listed once, in strictly increasing order of names, in
whichever order the table is gone through.  Two changes in a row at different places may be
exchanged without a trace. -/
theorem tables_law (calls : List Call) :
    let store := after empty calls
    (∀ id config, store.server? id = some config ↔
      LastAt (.server id) (.saveServer config) calls) ∧
    (∀ region config, store.regionServer? region = some config ↔
      ∃ id, LastAt (.region region) (.bindRegion region id) calls ∧
        LastAt (.server id) (.saveServer config) calls) ∧
    ((∀ tenancy config, store.tenant? tenancy = some config ↔
        LastAt (.tenancy tenancy) (.saveTenant config) calls) ∧
      ∀ tenancy others, changesAt (.tenancy tenancy) others = changesAt (.tenancy tenancy) calls →
        (after empty others).tenant? tenancy = store.tenant? tenancy) ∧
    ((∀ config, store.listServers.count config =
        if store.server? config.serverId = some config then 1 else 0) ∧
      (store.listServers.Pairwise fun a b => a.serverId < b.serverId) ∧
      ∀ listing : List ServerConfig, listing.Perm store.servers.values →
        listing.mergeSort (fun a b => decide (a.serverId ≤ b.serverId)) = store.listServers) ∧
    ∀ before first second rest, calls = before ++ first :: second :: rest →
      first.place ≠ second.place → after empty (before ++ second :: first :: rest) = store := by
  intro store
  refine ⟨fun _ _ => server?_after_eq_some_iff, fun _ _ => regionServer?_after_eq_some_iff,
    ⟨fun _ _ => tenant?_after_eq_some_iff, fun tenancy others hchanges => ?_⟩,
    ⟨count_listServers calls, pairwise_listServers calls,
      fun listing => mergeSort_eq_of_perm (pairwise_listServers calls)⟩, ?_⟩
  · refine Option.ext fun config => ?_
    rw [tenant?_eq_some_iff, tenant?_eq_some_iff, content?_after_congr hchanges]
  · rintro before first second rest rfl hplaces
    exact after_swap hplaces empty before rest

/-- A server is deleted and saved anew after a region was bound to it, among changes for tenants of
which one has a slash in its name: the region shares the new configuration, and the other places
stand as if the rest had not happened. -/
theorem tables_law_savedAnew :
    let zone := { ServerConfig.empty with serverId := "zone-eu", host := "chef.example.com" }
    let moved := { zone with host := "eu.example.com" }
    let own := { ServerConfig.empty with serverId := "acme-chef" }
    let tenant := { TenantConfig.empty with tenant := "acme/eu", region := "1" }
    let store := after empty [.bindRegion "eu-1" "zone-eu", .saveServer zone,
      .deleteServer "zone-eu", .saveServer own, .saveTenant tenant, .deleteTenant ⟨"acme", "eu/1"⟩,
      .saveServer moved]
    store.regionServer? "eu-1" = some moved ∧ store.listServers = [own, moved] ∧
      (after empty [.saveTenant tenant]).tenant? ⟨"acme/eu", "1"⟩ =
        store.tenant? ⟨"acme/eu", "1"⟩ ∧
      [moved, own].mergeSort (fun a b => decide (a.serverId ≤ b.serverId)) = store.listServers ∧
      after empty [.bindRegion "eu-1" "zone-eu", .saveServer zone, .saveServer own,
        .deleteServer "zone-eu", .saveTenant tenant, .deleteTenant ⟨"acme", "eu/1"⟩,
        .saveServer moved] = store := by
  intro zone moved own tenant store
  have hlaw := tables_law [.bindRegion "eu-1" "zone-eu", .saveServer zone,
    .deleteServer "zone-eu", .saveServer own, .saveTenant tenant, .deleteTenant ⟨"acme", "eu/1"⟩,
    .saveServer moved]
  have hvalues : store.servers.values = [own, moved] := by decide
  have hlisting : [moved, own].Perm store.servers.values := by
    rw [hvalues]
    exact List.Perm.swap _ _ _
  refine ⟨by decide, hvalues, hlaw.2.2.1.2 _ [.saveTenant tenant] rfl,
    hlaw.2.2.2.1.2.2 _ hlisting, ?_⟩
  exact hlaw.2.2.2.2 [.bindRegion "eu-1" "zone-eu", .saveServer zone] (.deleteServer "zone-eu")
    (.saveServer own) [.saveTenant tenant, .deleteTenant ⟨"acme", "eu/1"⟩, .saveServer moved] rfl
    (by decide)

end Configurations
end ChefAccess
