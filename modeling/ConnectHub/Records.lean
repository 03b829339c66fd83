import ConnectHub.Schema
import Mathlib.Tactic.Simps.Basic

/-!
# Reading and writing records

The row operations the transactions are made of, each with the checks the database makes: a
unique index refuses a second row, deleting an instance clears the references to it, and a lock
fails when its row does not exist. The locks of a transaction are held until it commits, so a
transaction is one atomic step here.
-/

namespace ConnectHub

open Store

/-- The states in which a creation still holds its name and its slot. -/
def openProvisioningStates : List ProvisioningState :=
  [.reserved, .creating, .uncertain, .cleanupPending]

/-- A creation that still holds its name and its slot. -/
def InstanceProvisioning.isOpen (row : InstanceProvisioning) : Bool :=
  openProvisioningStates.contains row.state

/-- A creation that has ended. -/
def InstanceProvisioning.isTerminal (row : InstanceProvisioning) : Bool :=
  [ProvisioningState.committed, .released, .failed].contains row.state

/-- A creation has ended exactly when it is not open any more. -/
theorem isTerminal_eq_not_isOpen (row : InstanceProvisioning) : row.isTerminal = !row.isOpen := by
  unfold InstanceProvisioning.isTerminal InstanceProvisioning.isOpen
  cases row.state <;> rfl

/-- The product row, locked. -/
def lockProduct (id : Uuid) : Tx Product := do
  let db ← get
  orThrow (.notFound "Produto não encontrado") (db.products.find? id)

/-- The provider row, locked. -/
def lockProvider (id : Uuid) : Tx VpsProvider := do
  let db ← get
  orThrow (.notFound "VpsProvider não encontrado") (db.providers.find? id)

section Locks

variable {β : Type} {id : Uuid} {db : Database} {r : β × Database}

/-- A body that locks a product first went on with its row. -/
theorem lockProduct_bind_ok {f : Product → Tx β} : (lockProduct id >>= f).run db = .ok r ↔
    ∃ product, db.products.find? id = some product ∧ (f product).run db = .ok r := by
  rw [lockProduct, bind_assoc, get_bind_ok, orThrow_bind_ok]

/-- A body that locks a provider first went on with its row. -/
theorem lockProvider_bind_ok {f : VpsProvider → Tx β} : (lockProvider id >>= f).run db = .ok r ↔
    ∃ provider, db.providers.find? id = some provider ∧ (f provider).run db = .ok r := by
  rw [lockProvider, bind_assoc, get_bind_ok, orThrow_bind_ok]

/-- A body that needs the request active first went on in an active request. -/
theorem assertActive_bind_ok {execution : QrRequestContext} {f : Unit → Tx β} :
    (execution.assertActive >>= f).run db = .ok r ↔
      (execution.reason = none ∧ execution.remainingMs ≠ 0) ∧ (f ()).run db = .ok r := by
  unfold QrRequestContext.assertActive
  cases execution.reason with
  | none => simp only [throwWhen_bind_ok, ne_eq, true_and]
  | some reason => simp only [bind_ok, throw_ok, false_and, exists_false, reduceCtorEq]

end Locks

/-- Whether the server of a provider is active. -/
def Database.vpsActive (db : Database) (provider : VpsProvider) : Bool :=
  (db.vpsServers.find? provider.vpsId).any (·.isActive)

/-- Change the provider with the given id. -/
@[simps]
def Database.updateProvider (db : Database) (id : Uuid) (f : VpsProvider → VpsProvider)
    (hf : ∀ p, (f p).id = p.id := by exact fun _ => Eq.symm rfl) : Database :=
  { db with providers := db.providers.modify (fun p => p.id = id) f hf }

/-- The providers after one is changed. -/
theorem mem_updateProvider {db : Database} {id : Uuid} {f : VpsProvider → VpsProvider}
    {hf : ∀ p, (f p).id = p.id} {p' : VpsProvider} : p' ∈ (db.updateProvider id f hf).providers ↔
      ∃ p ∈ db.providers, (if p.id = id then f p else p) = p' := by
  simp only [Database.updateProvider_providers, Table.mem_modify, decide_eq_true_eq]

/-- Count one more change of what occupies the provider. -/
def Database.advanceOccupancy (db : Database) (providerId : Uuid) : Database :=
  db.updateProvider providerId fun p => { p with occupancyRevision := p.occupancyRevision + 1 }

@[simp] theorem advanceOccupancy_provisionings (db : Database) (providerId : Uuid) :
    (db.advanceOccupancy providerId).provisionings = db.provisionings := rfl

@[simp] theorem advanceOccupancy_instances (db : Database) (providerId : Uuid) :
    (db.advanceOccupancy providerId).instances = db.instances := rfl

/-- Count one more change of what occupies the provider, which must exist. -/
def advanceOccupancy (providerId : Uuid) : Tx Unit := do
  let db ← get
  throwWhen (db.providers.find? providerId = none) .recordNotFound
  set (db.advanceOccupancy providerId)

/-- A body that counts a change of occupancy first went on with the change counted. -/
theorem advanceOccupancy_bind_ok {β : Type} {providerId : Uuid} {db : Database} {f : PUnit → Tx β}
    {r : β × Database} : (advanceOccupancy providerId >>= f).run db = .ok r ↔
      db.providers.find? providerId ≠ none ∧ (f ⟨⟩).run (db.advanceOccupancy providerId) = .ok r := by
  rw [advanceOccupancy, bind_assoc, get_bind_ok, bind_assoc, throwWhen_bind_ok, set_bind_ok]

/-- Change the product with the given id. -/
@[simps]
def Database.updateProduct (db : Database) (id : Uuid) (f : Product → Product)
    (hf : ∀ p, (f p).id = p.id := by exact fun _ => Eq.symm rfl) : Database :=
  { db with products := db.products.modify (fun p => p.id = id) f hf }

/-- The products after one is changed. -/
theorem mem_updateProduct {db : Database} {id : Uuid} {f : Product → Product} {hf : ∀ p, (f p).id = p.id}
    {p' : Product} : p' ∈ (db.updateProduct id f hf).products ↔
      ∃ p ∈ db.products, (if p.id = id then f p else p) = p' := by
  simp only [Database.updateProduct_products, Table.mem_modify, decide_eq_true_eq]

/-- Change the creation with the given id. -/
@[simps]
def Database.updateProvisioning (db : Database) (id : Uuid)
    (f : InstanceProvisioning → InstanceProvisioning)
    (hf : ∀ r, (f r).id = r.id := by exact fun _ => Eq.symm rfl) : Database :=
  { db with provisionings := db.provisionings.modify (fun r => r.id = id) f hf }

/-- The creations after one is changed. -/
theorem mem_updateProvisioning {db : Database} {id : Uuid} {f : InstanceProvisioning → InstanceProvisioning}
    {hf : ∀ r, (f r).id = r.id} {r' : InstanceProvisioning} :
    r' ∈ (db.updateProvisioning id f hf).provisionings ↔
      ∃ r ∈ db.provisionings, (if r.id = id then f r else r) = r' := by
  simp only [Database.updateProvisioning_provisionings, Table.mem_modify, decide_eq_true_eq]

/-- Looking a creation up after one is changed. -/
theorem find?_updateProvisioning {db : Database} {id k : Uuid}
    {f : InstanceProvisioning → InstanceProvisioning} {hf : ∀ r, (f r).id = r.id} :
    (db.updateProvisioning id f hf).provisionings.find? k =
      (db.provisionings.find? k).map fun r => if r.id = id then f r else r := by
  simp only [Database.updateProvisioning_provisionings, Table.find?_modify, decide_eq_true_eq]

/-- Two open creations that the partial unique indexes forbid side by side. -/
def InstanceProvisioning.collides (row other : InstanceProvisioning) : Bool :=
  row.isOpen && other.isOpen && row.instanceName = other.instanceName &&
    (row.productId = other.productId || row.vpsProviderId = other.vpsProviderId)

/-- Insert a creation. -/
def createProvisioning (row : InstanceProvisioning) : Tx InstanceProvisioning := do
  let db ← get
  throwWhen (db.provisionings.rows.any row.collides = true) .uniqueViolation
  let provisionings ← orThrow .uniqueViolation (db.provisionings.insert? row)
  set { db with provisionings := provisionings }
  pure row

/-- A body that inserts a creation first went on with the row added. -/
theorem createProvisioning_bind_ok {β : Type} {row : InstanceProvisioning} {db : Database}
    {f : InstanceProvisioning → Tx β} {r : β × Database} :
    (createProvisioning row >>= f).run db = .ok r ↔
      db.provisionings.rows.any row.collides = false ∧
        ∃ provisionings, db.provisionings.insert? row = some provisionings ∧
          (f row).run { db with provisionings := provisionings } = .ok r := by
  simp only [createProvisioning, bind_assoc, get_bind_ok, throwWhen_bind_ok, orThrow_bind_ok,
    set_bind_ok, pure_bind, Bool.not_eq_true]

/-- Two instances that a unique index forbids side by side; the index on remote ids exists only
once the base is consolidated. -/
def Instance.collides (consolidated : Bool) (row other : Instance) : Bool :=
  (row.vpsProviderId = other.vpsProviderId && row.instanceName = other.instanceName) ||
  (row.productId = other.productId && row.instanceName = other.instanceName) ||
  row.hubToken = other.hubToken ||
  (consolidated && row.providerInstanceId.isSome && row.vpsProviderId = other.vpsProviderId &&
    row.providerInstanceId = other.providerInstanceId)

/-- Insert an instance. -/
def createInstance (row : Instance) : Tx Instance := do
  let db ← get
  throwWhen (db.instances.rows.any (row.collides db.baseConsolidated) = true) .uniqueViolation
  let instances ← orThrow .uniqueViolation (db.instances.insert? row)
  set { db with instances := instances }
  pure row

/-- A body that inserts an instance first went on with the row added. -/
theorem createInstance_bind_ok {β : Type} {row : Instance} {db : Database} {f : Instance → Tx β}
    {r : β × Database} : (createInstance row >>= f).run db = .ok r ↔
      db.instances.rows.any (row.collides db.baseConsolidated) = false ∧
        ∃ instances, db.instances.insert? row = some instances ∧
          (f row).run { db with instances := instances } = .ok r := by
  simp only [createInstance, bind_assoc, get_bind_ok, throwWhen_bind_ok, orThrow_bind_ok,
    set_bind_ok, pure_bind, Bool.not_eq_true]

/-- The row of a creation whose instance was deleted. -/
def InstanceProvisioning.detached (row : InstanceProvisioning) : InstanceProvisioning :=
  { row with instanceId := none }

/-- Delete an instance; the rows that name it keep existing without it. -/
@[simps]
def Database.deleteInstance (db : Database) (id : Uuid) : Database :=
  { db with
    instances := db.instances.remove fun i => i.id = id
    provisionings := db.provisionings.modify (fun r => r.instanceId = some id) (·.detached)
    relayEvents := db.relayEvents.modify (fun e => e.instanceId = some id) fun e =>
      { e with instanceId := none }
    batchJobs := db.batchJobs.modify (fun b => b.instanceId = some id) fun b =>
      { b with instanceId := none } }

/-- Forget the inventory entries of a provider under one name. -/
@[simps]
def Database.deleteInventoryNamed (db : Database) (providerId : Uuid) (name : String) : Database :=
  { db with inventory := db.inventory.remove fun e =>
      e.vpsProviderId = providerId && e.instanceName = name }

end ConnectHub
