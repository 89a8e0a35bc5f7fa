import ChefAccess.Configuration.Server
import ChefAccess.Configuration.Tenant

/-!
# The configuration store

Three tables hold the configurations: the servers by their name, the tenants by their
name and region, and the server that each region shares.

Main definitions:

- {lit}`Tenancy`: a tenant in a region.
- {lit}`Configurations`: the three tables.
- {lit}`Configurations.regionServer?`: the server that a region shares.

Main results:

- Theorem {lit}`Configurations.server?_saveServer`: what was saved is found.
-/

namespace ChefAccess

/-- A tenant in a region. -/
structure Tenancy where
  tenant : String
  region : String
  deriving DecidableEq, Repr

namespace Tenancy

/-- Tenancies are ordered by tenant first. -/
def Before (a b : Tenancy) : Prop :=
  a.tenant < b.tenant ∨ (a.tenant = b.tenant ∧ a.region < b.region)

instance : OrderedKey Tenancy where
  lt := Before
  decideLt := fun a b =>
    inferInstanceAs (Decidable (a.tenant < b.tenant ∨ (a.tenant = b.tenant ∧ a.region < b.region)))
  lt_irrefl := by
    rintro a (htenant | ⟨_, hregion⟩)
    · exact OrderedKey.lt_irrefl _ htenant
    · exact OrderedKey.lt_irrefl _ hregion
  lt_trans := by
    rintro a b c (hab | ⟨hab, hab'⟩) (hbc | ⟨hbc, hbc'⟩)
    · exact Or.inl (OrderedKey.lt_trans hab hbc)
    · exact Or.inl (hbc ▸ hab)
    · exact Or.inl (hab ▸ hbc)
    · exact Or.inr ⟨hab.trans hbc, OrderedKey.lt_trans hab' hbc'⟩
  eq_of_not_lt := by
    intro a b hab hba
    have htenant : a.tenant = b.tenant :=
      OrderedKey.eq_of_not_lt (fun h => hab (Or.inl h)) (fun h => hba (Or.inl h))
    have hregion : a.region = b.region :=
      OrderedKey.eq_of_not_lt (fun h => hab (Or.inr ⟨htenant, h⟩))
        (fun h => hba (Or.inr ⟨htenant.symm, h⟩))
    cases a
    cases b
    simp_all

end Tenancy

/-- The tables of the configurations. -/
structure Configurations where
  servers : Dict String ServerConfig
  tenants : Dict Tenancy TenantConfig
  regions : Dict String String
  deriving DecidableEq, Repr

namespace Configurations

/-- The tables without entries. -/
def empty : Configurations :=
  ⟨Dict.empty, Dict.empty, Dict.empty⟩

/-! ## Servers -/

/-- The configuration of a server. -/
def server? (store : Configurations) (id : String) : Option ServerConfig :=
  store.servers.get? id

/-- Save the configuration of a server under its name. -/
def saveServer (store : Configurations) (config : ServerConfig) : Configurations :=
  { store with servers := store.servers.insert config.serverId config }

/-- Delete the configuration of a server. -/
def deleteServer (store : Configurations) (id : String) : Configurations :=
  { store with servers := store.servers.erase id }

/-- The configurations of all servers, in the order of their names. -/
def listServers (store : Configurations) : List ServerConfig :=
  store.servers.values

/-! ## Tenants -/

/-- The configuration of a tenant in a region. -/
def tenant? (store : Configurations) (tenancy : Tenancy) : Option TenantConfig :=
  store.tenants.get? tenancy

/-- Save the configuration of a tenant under its name and region. -/
def saveTenant (store : Configurations) (config : TenantConfig) : Configurations :=
  { store with tenants := store.tenants.insert ⟨config.tenant, config.region⟩ config }

/-- Delete the configuration of a tenant in a region. -/
def deleteTenant (store : Configurations) (tenancy : Tenancy) : Configurations :=
  { store with tenants := store.tenants.erase tenancy }

/-! ## Regions -/

/-- The configuration of the server that a region shares, if there is one by that name. -/
def regionServer? (store : Configurations) (region : String) : Option ServerConfig :=
  (store.regions.get? region).bind store.server?

/-- Make a server the one that a region shares. -/
def bindRegion (store : Configurations) (region id : String) : Configurations :=
  { store with regions := store.regions.insert region id }

/-- Leave a region without a shared server. -/
def unbindRegion (store : Configurations) (region : String) : Configurations :=
  { store with regions := store.regions.erase region }

/-- What was saved is found. -/
@[simp]
theorem server?_saveServer (store : Configurations) (config : ServerConfig) :
    (store.saveServer config).server? config.serverId = some config := by
  simp [server?, saveServer]

end Configurations
end ChefAccess
