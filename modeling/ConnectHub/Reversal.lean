import ConnectHub.Controls

/-!
# Reversal

What stands in the way of returning a product to the legacy policy, of detaching a link and of
retiring a provider. A creation counts as pending while its state is open, and also while any lease
column is left on its row: an unknown lease is not evidence that a remote effect has ended.
-/

namespace ConnectHub

open Store

/-- Whether a creation counts as pending: it has not ended, or a lease column is left. -/
def InstanceProvisioning.isPending (row : InstanceProvisioning) : Bool :=
  !row.isTerminal || row.leaseOwner.isSome || row.leaseExpiresAt.isSome

/-- The number of pending creations of a product, on a provider, or of both. -/
def Database.pendingProvisionings (db : Database) (productId vpsProviderId : Option Uuid) : Nat :=
  db.provisionings.rows.countP fun row =>
    productId.all (· = row.productId) && vpsProviderId.all (· = row.vpsProviderId) && row.isPending

/-- The providers an event may have come from, if any is known. -/
def PendingRelayEvent.origins (event : PendingRelayEvent) : Option (List Uuid) :=
  match event.vpsProviderId with
  | some providerId => some [providerId]
  | none => event.originEvidence.bind (·.providerIds)

/-- The instances an event may be about, among those of the given providers. -/
def Database.instancesOfEvent (db : Database) (event : PendingRelayEvent) (providerIds : List Uuid) :
    List Instance :=
  db.instances.rows.filter fun item => providerIds.contains item.vpsProviderId &&
    ((truthy event.instanceName && event.instanceName = some item.instanceName) ||
      (truthy event.providerInstanceId && event.providerInstanceId = item.providerInstanceId))

/-- Whether an event nothing else decides may belong to a product: its origins overlap the providers
and its identity is not that of other products' instances alone. -/
def Database.eventUndecided (db : Database) (productId : Uuid) (providerIds : List Uuid)
    (event : PendingRelayEvent) : Bool :=
  let origins := event.origins.getD []
  if !origins.isEmpty && !origins.any providerIds.contains then false
  else
    let matches_ := db.instancesOfEvent event (if origins.isEmpty then providerIds else origins)
    matches_.isEmpty || !matches_.all fun item => item.productId ≠ productId

/-- Whether an undelivered event may belong to a product. -/
def Database.eventPending (db : Database) (productId : Uuid) (providerIds : List Uuid)
    (event : PendingRelayEvent) : Bool :=
  match event.instanceId.bind db.instances.find? with
  | some item => item.productId = productId
  | none =>
    match (event.originEvidence.bind (·.provisioningId)).bind db.provisionings.find? with
    | some ticket => ticket.productId = productId
    | none => db.eventUndecided productId providerIds event

/-- Whether a batch still has messages to send through one of the providers. -/
def Database.batchPending (db : Database) (productId : Uuid) (providerIds : List Uuid) (job : BatchJob) :
    Bool :=
  job.productId = productId && !([BatchStatus.completed, .failed, .cancelled].contains job.status) &&
    match job.instanceId.bind db.instances.find? with
    | none => true
    | some item => providerIds.contains item.vpsProviderId

/-- Whether a delivery that could belong to a product is unresolved on the providers. -/
def Database.pendingDeliveries (db : Database) (productId : Uuid) (providerIds : List Uuid) : Bool :=
  (db.relayEvents.rows.any fun event => event.state ≠ .delivered &&
    event.vpsProviderId.all providerIds.contains && db.eventPending productId providerIds event) ||
  db.batchJobs.rows.any (db.batchPending productId providerIds)

/-- What prevents a product from returning to the legacy policy with a provider as its destination. -/
def Database.legacyBlockers (db : Database) (product : Product) (targetId : Uuid) : List BlockerCode :=
  let links := db.links.rows.filter fun link => link.productId = product.id
  (if (db.providers.find? targetId).any (fun provider => provider.isActive && db.vpsActive provider &&
      provider.adapterType = product.adapterType) && links.any (fun link => link.vpsProviderId = targetId)
    then [] else [BlockerCode.targetUnavailable]) ++
  (if db.instances.rows.countP (fun item => item.productId = product.id && item.vpsProviderId ≠ targetId) ≠ 0
    then [BlockerCode.instancesOutsideTarget] else []) ++
  (if db.pendingProvisionings (some product.id) none ≠ 0 then [BlockerCode.provisioningPending] else []) ++
  (if db.pendingDeliveries product.id ((links.map (·.vpsProviderId)).filter (· ≠ targetId))
    then [BlockerCode.deliveryPending] else [])

/-- What prevents a product from giving up its link to a provider. -/
def Database.detachBlockers (db : Database) (product : Product) (providerId : Uuid) : List BlockerCode :=
  (if product.vpsProviderId = some providerId then [BlockerCode.defaultProvider] else []) ++
  (if db.instances.rows.countP
        (fun item => item.productId = product.id && item.vpsProviderId = providerId) ≠ 0
    then [BlockerCode.instancesPresent] else []) ++
  (if db.pendingProvisionings (some product.id) (some providerId) ≠ 0 then [BlockerCode.provisioningPending] else []) ++
  (if db.pendingDeliveries product.id [providerId] then [BlockerCode.deliveryPending] else [])

/-- Refuse an operation that is not safe yet. -/
def assertNoBlockers (blockers : List BlockerCode) : Tx Unit :=
  throwWhen (blockers ≠ []) (.blocked "Operação ainda não segura; consulte as pendências" blockers)

/-- The row of an ended creation without its link. -/
def InstanceProvisioning.unlinked (row : InstanceProvisioning) : InstanceProvisioning :=
  { row with linkProductId := none, linkVpsProviderId := none }

/-- The database without a link, whose ended creations no longer refer to it. -/
def Database.deleteLink (db : Database) (productId providerId : Uuid) : Database :=
  { db with
    provisionings := db.provisionings.modify (fun row => row.productId = productId &&
      row.vpsProviderId = providerId && row.isTerminal && row.leaseOwner.isNone &&
      row.leaseExpiresAt.isNone && row.linkProductId = some productId &&
      row.linkVpsProviderId = some providerId) (·.unlinked)
    links := db.links.remove fun link => link.productId = productId && link.vpsProviderId = providerId }

/-- The creations once a link is given up, some of them without it. -/
theorem mem_deleteLink {db : Database} {productId providerId : Uuid} {r : InstanceProvisioning}
    (h : r ∈ (db.deleteLink productId providerId).provisionings) :
    ∃ r₀ ∈ db.provisionings, r = r₀ ∨ r = r₀.unlinked := by
  simp only [Database.deleteLink, Table.mem_modify] at h
  obtain ⟨r₀, hr₀, rfl⟩ := h
  refine ⟨r₀, hr₀, ?_⟩
  split
  · exact Or.inr rfl
  · exact Or.inl rfl

/-- Give up the empty link of a product to a provider. -/
def detachEmptyLink (product : Product) (providerId : Uuid) : Tx Unit := do
  let db ← get
  assertNoBlockers (db.detachBlockers product providerId)
  throwWhen (db.links.find? (product.id, providerId) = none) .recordNotFound
  set (db.deleteLink product.id providerId)

/-- Whether an event without a chosen origin may have come from a provider. -/
def Database.ambiguousFrom (db : Database) (providerId : Uuid) (event : PendingRelayEvent) : Bool :=
  event.vpsProviderId.isNone && event.state ≠ .delivered &&
    match event.instanceId.bind db.instances.find? with
    | some item => item.vpsProviderId = providerId
    | none =>
      let providerIds := (event.originEvidence.bind (·.providerIds)).getD []
      providerIds.isEmpty || providerIds.contains providerId

/-- Whether a refresh of a provider is under way or left a lease column behind. -/
def EvolutionReconciliation.isPresent (providerId : Uuid) (row : EvolutionReconciliation) : Bool :=
  row.vpsProviderId = providerId && ([ReconciliationStatus.pending, .running].contains row.status ||
    row.leaseOwner.isSome || row.leaseExpiresAt.isSome)

/-- What the removal check of a provider reports. -/
structure RemovalReadiness where
  providerId : Uuid
  isActive : Bool
  revision : Nat
  inventoryRevision : Nat
  inventoryObservedAt : Option Instant
  usage : EvolutionUsage
  reconciliation : Nat
  instancesByProduct : List (Uuid × Nat)
  blockers : List BlockerCode
  removable : Bool
deriving DecidableEq, Repr

/-- The use of a provider that prevents its removal: ambiguous events and pending creations count. -/
def Database.removalUsage (db : Database) (providerId : Uuid) : EvolutionUsage :=
  let usage := db.evolutionUsage providerId
  { usage with
    callbacks := usage.callbacks + db.relayEvents.rows.countP (db.ambiguousFrom providerId)
    pending := db.pendingProvisionings none (some providerId) }

/-- The code of a kind of use, where there is any. -/
def presentWhen (count : Nat) (code : BlockerCode) : List BlockerCode :=
  if count > 0 then [code] else []

/-- What prevents the removal of a provider. -/
def Database.removalBlockers (db : Database) (env : Env) (now : Instant) (provider : VpsProvider) :
    List BlockerCode :=
  let usage := db.removalUsage provider.id
  let fresh := provider.inventoryStatus = .ready &&
    inventoryFresh provider env.config.evolutionInventoryMaxAgeMs now
  presentWhen usage.instances .instancesPresent ++ presentWhen usage.pending .pendingPresent ++
  presentWhen usage.defaults .defaultsPresent ++ presentWhen usage.links .linksPresent ++
  presentWhen usage.inventory .inventoryPresent ++ presentWhen usage.callbacks .callbacksPresent ++
  presentWhen (db.reconciliations.rows.countP (·.isPresent provider.id)) .reconciliationPresent ++
  (if fresh then [] else [.inventoryUnconfirmed])

/-- Whether a provider can be removed, and why not. -/
def removal (env : Env) (now : Instant) (providerId : Uuid) : Tx RemovalReadiness := do
  let db ← get
  let provider ← orThrow (.notFound "Evolution não encontrada") (db.providers.find? providerId)
  let blockers := db.removalBlockers env now provider
  pure {
    providerId
    isActive := provider.isActive
    revision := provider.configurationRevision
    inventoryRevision := provider.inventoryRevision
    inventoryObservedAt := provider.inventoryObservedAt
    usage := db.removalUsage providerId
    reconciliation := db.reconciliations.rows.countP (·.isPresent providerId)
    instancesByProduct := (db.instancesOf providerId).foldl
      (fun counts item => countProduct counts item.productId) []
    blockers
    removable := blockers.isEmpty }

/-- Retire a provider that nothing refers to; one already retired is only reported. -/
def retire (env : Env) (now : Instant) (providerId : Uuid)
    (expectedRevision expectedInventoryRevision : Nat) :
    Tx RemovalReadiness := do
  let provider ← lockProvider providerId
  if provider.isActive = false then removal env now providerId
  else do
    assertRevision provider.configurationRevision expectedRevision
    assertRevision provider.inventoryRevision expectedInventoryRevision
    let readiness ← removal env now providerId
    throwWhen (readiness.removable = false)
      (.blocked "Evolution ainda em uso ou sem inventário vazio recente" readiness.blockers)
    modify fun db => db.updateProvider providerId fun p =>
      { p with isActive := false, configurationRevision := p.configurationRevision + 1 }
    removal env now providerId

section Pending

variable {db : Database}

/-- Once ended creations keep no lease, the pending ones are the open ones. -/
theorem pendingProvisionings_eq (h : ∀ r ∈ db.provisionings, r.isTerminal = true →
      r.leaseOwner = none ∧ r.leaseExpiresAt = none) (productId vpsProviderId : Option Uuid) :
    db.pendingProvisionings productId vpsProviderId = db.provisionings.rows.countP fun row =>
      productId.all (· = row.productId) && vpsProviderId.all (· = row.vpsProviderId) && row.isOpen := by
  refine List.countP_congr fun row hrow => ?_
  have hpending : row.isPending = row.isOpen := by
    unfold InstanceProvisioning.isPending
    cases hterminal : row.isTerminal with
    | false =>
      rw [isTerminal_eq_not_isOpen, Bool.not_eq_false'] at hterminal
      simp [hterminal]
    | true =>
      obtain ⟨howner, hexpires⟩ := h row hrow hterminal
      rw [isTerminal_eq_not_isOpen, Bool.not_eq_true'] at hterminal
      simp [howner, hexpires, hterminal]
  rw [hpending]

/-- Returning to the legacy policy reports a pending creation exactly when the product has one. -/
theorem provisioningPending_mem_legacyBlockers {product : Product} {targetId : Uuid} :
    BlockerCode.provisioningPending ∈ db.legacyBlockers product targetId ↔
      db.pendingProvisionings (some product.id) none ≠ 0 := by
  simp [Database.legacyBlockers]

/-- Detaching reports a pending creation exactly when the pair has one. -/
theorem provisioningPending_mem_detachBlockers {product : Product} {providerId : Uuid} :
    BlockerCode.provisioningPending ∈ db.detachBlockers product providerId ↔
      db.pendingProvisionings (some product.id) (some providerId) ≠ 0 := by
  simp [Database.detachBlockers]

/-- The removal check reports a pending creation exactly when the provider has one. -/
theorem pendingPresent_mem_removalBlockers {env : Env} {now : Instant} {provider : VpsProvider} :
    BlockerCode.pendingPresent ∈ db.removalBlockers env now provider ↔
      db.pendingProvisionings none (some provider.id) ≠ 0 := by
  simp [Database.removalBlockers, presentWhen, Database.removalUsage, Nat.pos_iff_ne_zero]

end Pending

end ConnectHub
