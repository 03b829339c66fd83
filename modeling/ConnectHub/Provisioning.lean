import ConnectHub.Controls
import ConnectHub.Links
import Mathlib.Data.List.Sort

/-!
# Provisioning

The transactions of a creation. `prepare` reserves a name and a slot, `markCreating` authorises
the remote create, `recordCreated`, `markWebhookApplied` and `finish` follow its success,
`markCleanup` and `removeConfirmed` its compensation, `abandon` gives the row back, and the
recovery `claim` takes over a row whose lease ran out. Values drawn at random and the clock are
inputs of the transactions.
-/

namespace ConnectHub

open Store

/-- The part of a creation that its executor carries along. -/
structure ProvisioningTicket where
  id : Uuid
  productId : Uuid
  vpsProviderId : Uuid
  leaseOwner : Option Uuid
deriving DecidableEq, Repr

/-- The ticket of a creation. -/
def InstanceProvisioning.ticket (row : InstanceProvisioning) : ProvisioningTicket :=
  ⟨row.id, row.productId, row.vpsProviderId, row.leaseOwner⟩

/-- The refusal of a provider that cannot take a new instance. -/
def unavailable : HubError := .serviceUnavailable "Nenhuma Evolution disponível para nova instância"

/-- Open the sealed request of a creation. -/
def decodePayload : Option (Sealed ProvisioningPayload) → Tx ProvisioningPayload
  | none => throw (.internal "Missing provisioning evidence")
  | some ⟨none⟩ => throw (.internal "Unreadable provisioning evidence")
  | some ⟨some payload⟩ => do
    throwWhen (payload.token = "" ∨ payload.request.instanceName = "")
      (.internal "Invalid provisioning evidence")
    pure payload

/-- Seal the request of a creation. -/
def encodePayload (payload : ProvisioningPayload) : Sealed ProvisioningPayload := ⟨some payload⟩

/-- Refuse a provider whose identity is not verified or is registered twice. -/
def assertControlledIdentity (env : Env) (provider : VpsProvider) : Tx Unit := do
  let db ← get
  let canonical ← orThrow unavailable (canonicalEvolutionEndpoint env provider.providerUrl)
  throwWhen (provider.canonicalEndpoint ≠ some canonical ∨ provider.identityStatus ≠ .verified) unavailable
  throwWhen (db.providers.rows.any (fun item => item.id ≠ provider.id &&
    canonicalEvolutionEndpoint env item.providerUrl = some canonical) = true) unavailable

/-- The conditions on a provider with a limit, or under the capacity policy. -/
def admitControlled (env : Env) (now : Instant) (product : Product) (provider : VpsProvider)
    (ownReservation : Bool) : Tx Unit := do
  assertControlledIdentity env provider
  let db ← get
  throwWhen (db.vpsActive provider = false ∨ isFresh env now provider = false) unavailable
  throwWhen (product.allocationMode = .capacity ∧ product.hubRelay = true ∧
    provider.callbackReadiness ≠ .ready) unavailable
  let used ← readEvolutionOccupancy provider.id
  throwWhen (used.ambiguous = true ∨ provider.maxInstances.any (fun maxInstances =>
    decide (used.effective + (if ownReservation then 0 else 1) > maxInstances)) = true) unavailable

/-- Lock a product and a provider and refuse the pair unless the provider admits a creation. -/
def admission (env : Env) (now : Instant) (productId providerId : Uuid) (ownReservation : Bool) :
    Tx (Product × VpsProvider) := do
  let product ← lockProduct productId
  let provider ← lockProvider providerId
  throwWhen (product.isActive = false) (.badRequest "Produto inativo")
  throwWhen (product.allocationMode ≠ .capacity ∧ product.vpsProviderId = none)
    (.badRequest "Produto sem VpsProvider associado")
  throwWhen (product.allocationMode ≠ .capacity ∧ product.vpsProviderId ≠ some provider.id) unavailable
  throwWhen (product.allocationMode = .capacity ∧ env.config.evolutionAllocationEnabled = false) unavailable
  throwWhen (provider.isActive = false ∧ product.allocationMode ≠ .capacity)
    (.notFound "VpsProvider nao encontrado ou inativo")
  throwWhen (provider.isActive = false) unavailable
  throwWhen (provider.adapterType ≠ product.adapterType)
    (.badRequest "Incompatibilidade de adapter entre produto e provider")
  doWhen (product.allocationMode ≠ .capacity) (ensureEvolutionLink productId providerId true)
  let db ← get
  throwWhen (provider.acceptingNewInstances = false ∨
    (db.links.find? (productId, providerId)).any (·.acceptingNewInstances) = false) unavailable
  doWhen (product.allocationMode = .capacity ∨ provider.maxInstances ≠ none)
    (admitControlled env now product provider ownReservation)
  pure (product, provider)

/-- The order in which allocation tries the links of a product. -/
def allocationOrder (a b : ProductEvolution) : Bool :=
  decide (a.allocationPriority < b.allocationPriority) ||
    (a.allocationPriority = b.allocationPriority && decide (a.vpsProviderId.value ≤ b.vpsProviderId.value))

/-- The providers allocation tries for a product, in order. -/
def Database.allocationCandidates (db : Database) (productId : Uuid) : List Uuid :=
  ((db.links.rows.filter fun l => l.productId = productId && l.acceptingNewInstances).insertionSort
    fun a b => allocationOrder a b = true).map (·.vpsProviderId)

/-- What `prepare` saw before it opened its transaction. -/
structure Preflight where
  product : Product
  provider : VpsProvider
  candidates : List Uuid
deriving DecidableEq, Repr

/-- The row that reserves a name and a slot for a creation. -/
def reservation (now : Instant) (execution : QrRequestContext) (productId providerId : Uuid)
    (payload : ProvisioningPayload) (instanceName : String) (ticketId leaseOwner : Uuid) :
    InstanceProvisioning where
  id := ticketId
  productId := productId
  vpsProviderId := providerId
  linkProductId := some productId
  linkVpsProviderId := some providerId
  instanceName := instanceName
  encryptedRequest := some (encodePayload payload)
  leaseOwner := some leaseOwner
  leaseExpiresAt := some (now + execution.remainingMs + 5000)

/-- The transaction of `prepare`: admit the creation and reserve its name, unless anything the
preflight relied on has changed or the name is taken. -/
def prepareReservation (env : Env) (now : Instant) (execution : QrRequestContext)
    (productId providerId : Uuid) (seen : Preflight) (payload : ProvisioningPayload)
    (instanceName : String) (ticketId leaseOwner : Uuid) : Tx (ProvisioningTicket × VpsProvider) := do
  let current ← admission env now productId providerId false
  throwWhen (current.1.allocationRevision ≠ seen.product.allocationRevision ∨
      current.1.allocationMode ≠ seen.product.allocationMode ∨
      current.1.vpsProviderId ≠ seen.product.vpsProviderId ∨
      current.2.configurationRevision ≠ seen.provider.configurationRevision ∨
      current.2.providerUrl ≠ seen.provider.providerUrl ∨
      current.2.adapterType ≠ seen.provider.adapterType) unavailable
  let db ← get
  throwWhen (seen.product.allocationMode = .capacity ∧ db.allocationCandidates productId ≠ seen.candidates)
    unavailable
  execution.assertActive
  throwWhen (db.instances.rows.any (fun i => i.instanceName = instanceName &&
        (i.productId = productId || i.vpsProviderId = providerId)) = true ∨
      (db.openNamed productId providerId instanceName).isSome = true ∨
      db.inventory.rows.any (fun e => e.vpsProviderId = providerId && e.instanceName = instanceName) = true)
    (.conflict "Nome de instância já utilizado ou em resolução")
  let row ← createProvisioning
    (reservation now execution productId providerId payload instanceName ticketId leaseOwner)
  advanceOccupancy providerId
  pure (row.ticket, current.2)

/-- The open row of a ticket, if the ticket still owns it. -/
def owned (ticket : ProvisioningTicket) : Tx InstanceProvisioning := do
  let db ← get
  let row ← orThrow .recordNotFound (db.provisionings.find? ticket.id)
  throwWhen (row.leaseOwner ≠ ticket.leaseOwner ∨ row.isOpen = false)
    (.conflict "Provisionamento já assumido por outro executor")
  pure row

/-- Whether a lease is still running. -/
def leaseRunning (now : Instant) (leaseExpiresAt : Option Instant) : Bool :=
  leaseExpiresAt.any fun at_ => decide (at_ > now)

/-- Confirm that a ticket owns its row under a running lease. -/
def assertOwned (now : Instant) (ticket : ProvisioningTicket) : Tx InstanceProvisioning := do
  let _ ← lockProvider ticket.vpsProviderId
  let row ← owned ticket
  throwWhen (leaseRunning now row.leaseExpiresAt = false) (.conflict "Lease de provisionamento vencida")
  pure row

/-- The row once its remote create is authorised. -/
def InstanceProvisioning.sent (row : InstanceProvisioning) : InstanceProvisioning :=
  { row with state := .creating, revision := row.revision + 1 }

/-- Authorise the remote create of a reserved row. -/
def markCreating (env : Env) (now : Instant) (execution : QrRequestContext)
    (ticket : ProvisioningTicket) : Tx VpsProvider := do
  let admitted ← admission env now ticket.productId ticket.vpsProviderId true
  let row ← owned ticket
  execution.assertActive
  throwWhen (row.state ≠ .reserved ∨ leaseRunning now row.leaseExpiresAt = false)
    (.conflict "Reserva não está disponível para envio")
  let db ← get
  set (db.updateProvisioning row.id (·.sent))
  pure admitted.2

/-- What the provider answered to a create. -/
structure InstanceCreatedDto where
  instanceName : String
  instanceId : Option String := none
  status : String := "disconnected"
deriving DecidableEq, Repr

/-- The instance a confirmed remote create is recorded as. -/
def InstanceProvisioning.created (row : InstanceProvisioning) (now : Instant)
    (payload : ProvisioningPayload) (result : InstanceCreatedDto) (instanceId : Uuid) : Instance where
  id := instanceId
  productId := row.productId
  vpsProviderId := row.vpsProviderId
  instanceName := row.instanceName
  providerInstanceId := result.instanceId
  instanceToken := payload.clientToken
  hubToken := "hub_" ++ row.productId.value ++ "_" ++ row.instanceName
  updatedAt := now

/-- The row once its instance is recorded. -/
def InstanceProvisioning.recorded (instanceId : Uuid) (providerInstanceId : Option String)
    (row : InstanceProvisioning) : InstanceProvisioning :=
  { row with instanceId := some instanceId, providerInstanceId := providerInstanceId,
             revision := row.revision + 1 }

/-- Record the instance of a confirmed remote create, once. -/
def recordCreated (now : Instant) (ticket : ProvisioningTicket) (result : InstanceCreatedDto)
    (instanceId : Uuid) : Tx Instance := do
  let _ ← lockProduct ticket.productId
  let _ ← lockProvider ticket.vpsProviderId
  let row ← owned ticket
  let payload ← decodePayload row.encryptedRequest
  throwWhen (row.state ≠ .creating ∧ row.state ≠ .uncertain)
    (.conflict "Estado incompatível com criação confirmada")
  match row.instanceId with
  | some recorded => do
    let db ← get
    orThrow .recordNotFound (db.instances.find? recorded)
  | none => do
    let item ← createInstance (row.created now payload result instanceId)
    let db ← get
    set (db.updateProvisioning row.id (·.recorded item.id result.instanceId))
    advanceOccupancy row.vpsProviderId
    pure item

/-- The row once its required webhook is applied. -/
def InstanceProvisioning.webhookMarked (payload : ProvisioningPayload) (row : InstanceProvisioning) :
    InstanceProvisioning :=
  { row with encryptedRequest := some (encodePayload { payload with webhookApplied := true }),
             revision := row.revision + 1 }

/-- Remember that the required webhook was applied. -/
def markWebhookApplied (ticket : ProvisioningTicket) : Tx Unit := do
  let _ ← lockProvider ticket.vpsProviderId
  let row ← owned ticket
  let payload ← decodePayload row.encryptedRequest
  let db ← get
  set (db.updateProvisioning row.id (·.webhookMarked payload))

/-- The product after one of its creations ended well: the first one under the capacity policy
leaves its time. -/
def Product.firstAllocated (now : Instant) (product : Product) : Product :=
  if product.allocationMode = .capacity ∧ product.capacityFirstAllocationAt = none then
    { product with capacityFirstAllocationAt := some now }
  else product

/-- Remembering the first allocation keeps the product's identity. -/
theorem Product.firstAllocated_id (now : Instant) (product : Product) :
    (product.firstAllocated now).id = product.id := by
  unfold Product.firstAllocated
  split <;> rfl

/-- The row of a creation that ended well. -/
def InstanceProvisioning.finished (row : InstanceProvisioning) : InstanceProvisioning :=
  { row with state := .committed, linkProductId := none, linkVpsProviderId := none, leaseOwner := none,
             leaseExpiresAt := none, encryptedRequest := none, errorCode := none,
             revision := row.revision + 1 }

/-- Close a creation whose instance is recorded and whose webhook is applied. -/
def finish (now : Instant) (ticket : ProvisioningTicket) : Tx Unit := do
  let _ ← lockProduct ticket.productId
  let _ ← lockProvider ticket.vpsProviderId
  let row ← owned ticket
  throwWhen ((row.state ≠ .creating ∧ row.state ≠ .uncertain) ∨ row.instanceId = none)
    (.conflict "Criação ainda não confirmada")
  let payload ← decodePayload row.encryptedRequest
  throwWhen (payload.webhookApplied = false) (.conflict "Criação ainda não confirmada")
  let db ← get
  set ((db.updateProvisioning row.id (·.finished)).updateProduct row.productId (·.firstAllocated now)
    (Product.firstAllocated_id now))
  advanceOccupancy row.vpsProviderId

/-- The row of a creation being compensated. -/
def InstanceProvisioning.cleaning (row : InstanceProvisioning) : InstanceProvisioning :=
  { row with state := .cleanupPending, errorCode := some .requiredDefaultsFailed,
             revision := row.revision + 1 }

/-- Start the compensation of a creation. -/
def markCleanup (ticket : ProvisioningTicket) : Tx Unit := do
  let _ ← lockProvider ticket.vpsProviderId
  let row ← owned ticket
  throwWhen (row.state ≠ .creating ∧ row.state ≠ .uncertain ∧ row.state ≠ .cleanupPending)
    (.conflict "Estado incompatível com compensação")
  let db ← get
  set (db.updateProvisioning row.id (·.cleaning))

/-- The row after its executor gave it up: a row never sent is released, any other stays open
for recovery once the interval has passed. -/
def InstanceProvisioning.abandoned (env : Env) (now : Instant) (row : InstanceProvisioning) :
    InstanceProvisioning :=
  if row.state = .reserved then
    { row with state := .released, linkProductId := none, linkVpsProviderId := none,
               encryptedRequest := none, errorCode := some .notSent, leaseOwner := none,
               leaseExpiresAt := some (now + env.config.evolutionRecoveryIntervalMs),
               revision := row.revision + 1 }
  else
    { row with state := if row.state = .cleanupPending then .cleanupPending else .uncertain,
               errorCode := some .resultNotConfirmed, leaseOwner := none,
               leaseExpiresAt := some (now + env.config.evolutionRecoveryIntervalMs),
               revision := row.revision + 1 }

/-- Abandoning keeps the row's identity. -/
theorem InstanceProvisioning.abandoned_id (env : Env) (now : Instant) (row : InstanceProvisioning) :
    (row.abandoned env now).id = row.id := by
  unfold InstanceProvisioning.abandoned
  split <;> rfl

/-- Give up a row, if the ticket still owns it. -/
def abandon (env : Env) (now : Instant) (ticket : ProvisioningTicket) : Tx Unit := do
  let _ ← lockProvider ticket.vpsProviderId
  let db ← get
  match db.provisionings.find? ticket.id with
  | none => pure ()
  | some row =>
    if row.leaseOwner ≠ ticket.leaseOwner ∨ row.isOpen = false then pure ()
    else do
      set (db.updateProvisioning row.id (·.abandoned env now)
        (InstanceProvisioning.abandoned_id env now))
      advanceOccupancy row.vpsProviderId

/-- The row of a creation whose instance was removed. -/
def InstanceProvisioning.cleaned (row : InstanceProvisioning) : InstanceProvisioning :=
  { row with state := .failed, linkProductId := none, linkVpsProviderId := none, leaseOwner := none,
             leaseExpiresAt := none, encryptedRequest := none, errorCode := some .cleanupConfirmed,
             revision := row.revision + 1 }

/-- It stays the row of the same creation. -/
theorem InstanceProvisioning.cleaned_id (row : InstanceProvisioning) : row.cleaned.id = row.id := rfl

/-- Delete an instance and what the last inventory listed under its name. -/
def Database.dropInstance (db : Database) (item : Instance) : Database :=
  (db.deleteInventoryNamed item.vpsProviderId item.instanceName).deleteInstance item.id

/-- The creations after an instance is dropped: those that named it name none. -/
theorem mem_dropInstance_provisionings {db : Database} {item : Instance} {r' : InstanceProvisioning} :
    r' ∈ (db.dropInstance item).provisionings ↔
      ∃ r ∈ db.provisionings, (if r.instanceId = some item.id then r.detached else r) = r' := by
  simp only [Database.dropInstance, Database.deleteInstance_provisionings,
    Database.deleteInventoryNamed_provisionings, Table.mem_modify, decide_eq_true_eq]

/-- The instances after one is dropped are the others. -/
theorem mem_dropInstance_instances {db : Database} {item i : Instance} :
    i ∈ (db.dropInstance item).instances ↔ i ∈ db.instances ∧ i.id ≠ item.id := by
  simp only [Database.dropInstance, Database.deleteInstance_instances,
    Database.deleteInventoryNamed_instances, Table.mem_remove, decide_eq_false_iff_not, ne_eq]

/-- Remove an instance whose remote session is confirmed gone; a ticket also closes its row. -/
def removeConfirmed (instanceId productId providerId : Uuid) (ticket : Option ProvisioningTicket) :
    Tx (Option Instance) := do
  let _ ← lockProduct productId
  let _ ← lockProvider providerId
  match ticket with
  | some ticket => do
    let _ ← owned ticket
  | none => do
    let db ← get
    throwWhen (db.provisionings.rows.any (fun r => r.instanceId = some instanceId && r.isOpen) = true)
      (.conflict "Instância ainda em provisionamento")
  let db ← get
  match (db.instances.find? instanceId).filter fun i =>
      i.productId = productId && i.vpsProviderId = providerId with
  | none => pure none
  | some item => do
    match ticket with
    | some ticket => set ((db.dropInstance item).updateProvisioning ticket.id (·.cleaned))
    | none => set (db.dropInstance item)
    advanceOccupancy providerId
    pure (some item)

/-- The row of a creation that expired before it was sent. -/
def InstanceProvisioning.expired (row : InstanceProvisioning) : InstanceProvisioning :=
  { row with state := .released, linkProductId := none, linkVpsProviderId := none, leaseOwner := none,
             leaseExpiresAt := none, encryptedRequest := none, errorCode := some .expiredBeforeSend,
             revision := row.revision + 1 }

/-- The row once recovery took it over. -/
def InstanceProvisioning.taken (now : Instant) (execution : QrRequestContext) (leaseOwner : Uuid)
    (row : InstanceProvisioning) : InstanceProvisioning :=
  { row with leaseOwner := some leaseOwner, leaseExpiresAt := some (now + execution.remainingMs + 5000),
             revision := row.revision + 1 }

/-- Take over a row whose lease ran out; a row that was never sent is released instead. -/
def claim (now : Instant) (execution : QrRequestContext) (id leaseOwner : Uuid) :
    Tx (Option InstanceProvisioning) := do
  let before ← get
  match before.provisionings.find? id with
  | none => pure none
  | some row => do
    let _ ← lockProvider row.vpsProviderId
    if row.isOpen = false ∨ leaseRunning now row.leaseExpiresAt = true then pure none
    else do
      execution.assertActive
      let db ← get
      if row.state = .reserved then do
        set (db.updateProvisioning id (·.expired))
        advanceOccupancy row.vpsProviderId
        pure none
      else do
        set (db.updateProvisioning id (·.taken now execution leaseOwner))
        pure (some (row.taken now execution leaseOwner))

end ConnectHub
