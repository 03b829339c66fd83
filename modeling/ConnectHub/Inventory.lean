import ConnectHub.Provisioning

/-!
# Inventory of a provider

A refresh takes a lease on the provider's reconciliation, collects the remote sessions outside any
transaction, and publishes them under the provider lock, provided that the lease is still its own and
nothing that occupies the provider has changed meanwhile. What it publishes says which remote
sessions are accounted for and which instances the provider does not have.
-/

namespace ConnectHub

open Store

/-- A row of a remote inventory: the members of an object nobody has checked yet. -/
abbrev InstanceDto := List (String × Json)

/-- A member that is neither missing nor null. -/
def InstanceDto.defined? (row : InstanceDto) (name : String) : Option Json :=
  match row.lookup name with
  | none | some .null => none
  | some value => some value

/-- The session a row stands for, unless its name or its id is unusable or was seen before. -/
def normalizeRow (names ids : List String) (row : InstanceDto) : Option RemoteSession :=
  match (InstanceDto.defined? row "instanceName").bind Json.str? with
  | none => none
  | some name =>
    if name = "" ∨ name ∈ names then none
    else
      let status := (InstanceDto.defined? row "status").bind Json.str?
      match InstanceDto.defined? row "id" <|> InstanceDto.defined? row "instanceId" with
      | none => some ⟨name, none, status⟩
      | some (.str id) => if id = "" ∨ id ∈ ids then none else some ⟨name, some id, status⟩
      | some _ => none

/-- The sessions of the rows, with the names and ids seen so far. -/
def normalizeRows : List String → List String → List InstanceDto → Option (List RemoteSession)
  | _, _, [] => some []
  | names, ids, row :: rows =>
    (normalizeRow names ids row).bind fun session =>
      (normalizeRows (session.instanceName :: names) (session.providerInstanceId.toList ++ ids) rows).map
        (session :: ·)

/-- The sessions of a remote inventory, which must name each of them once. -/
def normalizeInventory (rows : List InstanceDto) : Tx (List RemoteSession) :=
  orThrow (.badGateway "Inventário incompleto ou ambíguo") (normalizeRows [] [] rows)

/-- The token a provider reports for a session. -/
def remoteToken (row : InstanceDto) : Option String :=
  match InstanceDto.defined? row "token" with
  | some token => token.str?
  | none => (((row.lookup "instance").bind (Json.member? "token")).bind Json.str?)

/-- A refresh that is waiting or under way. -/
def EvolutionReconciliation.isActive (row : EvolutionReconciliation) : Bool :=
  [ReconciliationStatus.pending, .running].contains row.status

/-- The refresh of a provider that is waiting or under way. -/
def Database.activeReconciliation (db : Database) (providerId : Uuid) : Option EvolutionReconciliation :=
  db.reconciliations.rows.find? fun r => r.vpsProviderId = providerId && r.isActive

/-- Insert a refresh; a provider has at most one that is active. -/
def createReconciliation (row : EvolutionReconciliation) : Tx EvolutionReconciliation := do
  let db ← get
  throwWhen (row.isActive = true ∧ (db.activeReconciliation row.vpsProviderId).isSome = true) .uniqueViolation
  let reconciliations ← orThrow .uniqueViolation (db.reconciliations.insert? row)
  set { db with reconciliations := reconciliations }
  pure row

/-- Change the refresh with the given id. -/
@[simps]
def Database.updateReconciliation (db : Database) (id : Uuid)
    (f : EvolutionReconciliation → EvolutionReconciliation)
    (hf : ∀ r, (f r).id = r.id := by exact fun _ => Eq.symm rfl) : Database :=
  { db with reconciliations := db.reconciliations.modify (fun r => r.id = id) f hf }

/-- Ask for a refresh, unless one is waiting or under way. -/
def request (providerId : Uuid) (expectedRevision : Option Nat) (id : Uuid) : Tx EvolutionReconciliation := do
  let provider ← lockProvider providerId
  throwWhen (expectedRevision.any (· ≠ provider.configurationRevision) = true)
    (.conflict "Configuração alterada; consulte novamente")
  let db ← get
  match db.activeReconciliation providerId with
  | some active => pure active
  | none => createReconciliation { id, vpsProviderId := providerId }

/-- What an executor of a refresh carries from its lease to its publication. -/
structure RefreshLease where
  provider : VpsProvider
  operation : EvolutionReconciliation
  owner : Uuid
deriving DecidableEq, Repr

/-- A refresh once an executor took it. -/
def EvolutionReconciliation.leased (now : Instant) (execution : QrRequestContext) (owner : Uuid)
    (occupancyRevision : Nat) (row : EvolutionReconciliation) : EvolutionReconciliation :=
  { row with status := .running, leaseOwner := some owner,
             leaseExpiresAt := some (now + execution.remainingMs + 5000),
             observedOccupancyRevision := occupancyRevision, collectionStartedAt := some now,
             collectionFinishedAt := none, errorCode := none }

/-- Count one more change of a refresh. -/
def EvolutionReconciliation.counted (row : EvolutionReconciliation) : EvolutionReconciliation :=
  { row with revision := row.revision + 1 }

/-- The first transaction of `refresh`: take the provider's active refresh, or a new one, unless
another executor holds it under a running lease. -/
def refreshLease (now : Instant) (execution : QrRequestContext) (providerId owner id : Uuid) :
    Tx RefreshLease := do
  let provider ← lockProvider providerId
  let db ← get
  let active := db.activeReconciliation providerId
  throwWhen (active.any (fun r => leaseRunning now r.leaseExpiresAt) = true)
    (.serviceUnavailable "Reconciliação em andamento")
  match active with
  | some active => do
    let take := fun r : EvolutionReconciliation =>
      (r.leased now execution owner provider.occupancyRevision).counted
    set (db.updateReconciliation active.id take)
    pure ⟨provider, take active, owner⟩
  | none => do
    let operation ← createReconciliation
      (EvolutionReconciliation.leased now execution owner provider.occupancyRevision
        { id, vpsProviderId := providerId })
    pure ⟨provider, operation, owner⟩

/-- How a remote session stands to what the Hub knows. -/
inductive SessionStanding
  | known
  | conflict
  | proven
  | unknown
deriving DecidableEq, Repr

/-- Whether an open creation is proved to be the origin of a session: by its remote id, or by a token
that the Hub generated for it. -/
def provenOrigin (pending : InstanceProvisioning) (row : InstanceDto) (session : RemoteSession) : Bool :=
  (truthy pending.providerInstanceId && pending.providerInstanceId = session.providerInstanceId) ||
    match pending.encryptedRequest with
    | some ⟨some evidence⟩ =>
      evidence.token ≠ "" && evidence.request.instanceName ≠ "" && !truthy evidence.clientToken &&
        some evidence.token = remoteToken row
    | _ => false

/-- How a remote session stands to the instances and open creations of its provider. -/
def sessionStanding (instances : List Instance) (reservations : List InstanceProvisioning)
    (row : InstanceDto) (session : RemoteSession) : SessionStanding :=
  match instances.find? fun item => item.instanceName = session.instanceName with
  | some item =>
    if sameSession item.instanceName item.providerInstanceId session.instanceName session.providerInstanceId
    then .known else .conflict
  | none =>
    match reservations.find? fun item => item.instanceName = session.instanceName with
    | some pending => if provenOrigin pending row session then .proven else .unknown
    | none => .unknown

/-- The inventory entry of a remote session. -/
def RemoteSession.entry (vpsProviderId : Uuid) (inventoryRevision : Nat) (observedAt : Instant)
    (session : RemoteSession) : EvolutionInventoryEntry where
  vpsProviderId := vpsProviderId
  identityKey :=
    match session.providerInstanceId with
    | some id => if id ≠ "" then "id:" ++ id else "name:" ++ session.instanceName
    | none => "name:" ++ session.instanceName
  instanceName := session.instanceName
  providerInstanceId := session.providerInstanceId
  status := session.status
  inventoryRevision := inventoryRevision
  observedAt := observedAt

/-- The instances that no remote session can be. -/
def absentInstanceIds (instances : List Instance) (remote : List RemoteSession) : List Uuid :=
  (instances.filter fun item => !remote.any fun session =>
    sameSession item.instanceName item.providerInstanceId session.instanceName
      session.providerInstanceId).map (·.id)

/-- What a publication reports. -/
def Database.refreshResult (db : Database) (current : VpsProvider) (rows : List InstanceDto)
    (remote : List RemoteSession) : ReconciliationResult :=
  let standings := (rows.zip remote).map fun pair =>
    sessionStanding (db.instancesOf current.id) (db.reservationsOf current.id) pair.1 pair.2
  { inventoryRevision := current.inventoryRevision + 1
    unknownCount := standings.countP (· = .unknown)
    conflictCount := standings.countP (· = .conflict)
    absentInstanceIds := absentInstanceIds (db.instancesOf current.id) remote }

/-- The provider once an inventory is published. -/
def VpsProvider.observed (observedAt : Instant) (result : ReconciliationResult) (provider : VpsProvider) :
    VpsProvider :=
  { provider with
    inventoryRevision := result.inventoryRevision
    inventoryObservedAt := some observedAt
    inventoryStatus := if result.unknownCount ≠ 0 ∨ result.conflictCount ≠ 0 then .unresolved else .ready
    isHealthy := true
    lastHealthAt := some observedAt }

/-- The refresh once its inventory is published. -/
def EvolutionReconciliation.published (observedAt : Instant) (result : ReconciliationResult)
    (row : EvolutionReconciliation) : EvolutionReconciliation :=
  { row with status := .completed, collectionFinishedAt := some observedAt, leaseOwner := none,
             leaseExpiresAt := none, revision := row.revision + 1, result := some result }

/-- The second transaction of `refresh`: publish what was collected, if the lease is still held and
what it was taken against is still current. -/
def refreshPublish (now : Instant) (execution : QrRequestContext) (lease : RefreshLease)
    (rows : List InstanceDto) : Tx VpsProvider := do
  let remote ← normalizeInventory rows
  let current ← lockProvider lease.provider.id
  let db ← get
  let operation ← orThrow .recordNotFound (db.reconciliations.find? lease.operation.id)
  throwWhen (operation.leaseOwner ≠ some lease.owner ∨ operation.status ≠ .running)
    (.serviceUnavailable "Reconciliação substituída")
  throwWhen (current.occupancyRevision ≠ lease.operation.observedOccupancyRevision ∨
      current.configurationRevision ≠ lease.provider.configurationRevision ∨
      current.providerUrl ≠ lease.provider.providerUrl ∨
      current.providerApiKey ≠ lease.provider.providerApiKey)
    (.serviceUnavailable "Inventário mudou durante a coleta")
  execution.assertActive
  let result := db.refreshResult current rows remote
  let inventory ← orThrow .uniqueViolation (Table.insertAll?
    (remote.map (·.entry current.id result.inventoryRevision now))
    (db.inventory.remove fun e => e.vpsProviderId = current.id))
  set (({ db with inventory := inventory }.updateProvider current.id
    (·.observed now result)).updateReconciliation
    operation.id (·.published now result))
  pure (current.observed now result)

/-- The refresh once its executor failed. -/
def EvolutionReconciliation.stopped (now : Instant) (execution : QrRequestContext)
    (row : EvolutionReconciliation) : EvolutionReconciliation :=
  { row with status := .failed, collectionFinishedAt := some now, leaseOwner := none, leaseExpiresAt := none,
             revision := row.revision + 1,
             errorCode := some (match execution.reason with
               | some reason => .stopped reason
               | none => .inventoryNotConfirmed) }

/-- The last statement of a `refresh` that failed: note the failure, if the lease is still held. -/
def refreshFail (now : Instant) (execution : QrRequestContext) (lease : RefreshLease) : Tx Unit :=
  modify fun db => { db with
    reconciliations := db.reconciliations.modify
      (fun r => r.id = lease.operation.id && r.leaseOwner = some lease.owner && r.status = .running)
      (·.stopped now execution) }

section Records

variable {β : Type} {db : Database} {r : β × Database}

/-- A body that inserts a refresh first went on with the row added. -/
theorem createReconciliation_bind_ok {row : EvolutionReconciliation} {f : EvolutionReconciliation → Tx β} :
    (createReconciliation row >>= f).run db = .ok r ↔
      ¬(row.isActive = true ∧ (db.activeReconciliation row.vpsProviderId).isSome = true) ∧
        ∃ reconciliations, db.reconciliations.insert? row = some reconciliations ∧
          (f row).run { db with reconciliations := reconciliations } = .ok r := by
  simp only [createReconciliation, bind_assoc, get_bind_ok, throwWhen_bind_ok, orThrow_bind_ok,
    set_bind_ok, pure_bind]

/-- A body that normalises an inventory first went on with its sessions. -/
theorem normalizeInventory_bind_ok {rows : List InstanceDto} {f : List RemoteSession → Tx β} :
    (normalizeInventory rows >>= f).run db = .ok r ↔
      ∃ remote, normalizeRows [] [] rows = some remote ∧ (f remote).run db = .ok r := by
  rw [normalizeInventory, orThrow_bind_ok]

end Records

/-- The refreshes that are completed stay as they are. -/
def CompletedKept (db db' : Database) : Prop :=
  ∀ k row, db.reconciliations.find? k = some row → row.status = .completed →
    db'.reconciliations.find? k = some row

section Refresh

variable {env : Env} {db : Database} {now : Instant} {execution : QrRequestContext} {lease : RefreshLease}

/-- Adding a refresh keeps those that are completed. -/
theorem completedKept_insert {row : EvolutionReconciliation} {reconciliations : Table EvolutionReconciliation}
    (h : db.reconciliations.insert? row = some reconciliations) :
    CompletedKept db { db with reconciliations := reconciliations } := by
  intro k found hfound _
  obtain ⟨hmem, hk⟩ := Table.find?_eq_some.mp hfound
  exact Table.find?_eq_some.mpr ⟨(Table.mem_insert? h).mpr (Or.inl hmem), hk⟩

/-- Changing only refreshes that are not completed keeps those that are. -/
theorem completedKept_modify {db' : Database} {p : EvolutionReconciliation → Bool}
    (f : EvolutionReconciliation → EvolutionReconciliation) (hf : ∀ r, (f r).id = r.id)
    (hp : ∀ r ∈ db.reconciliations, p r = true → r.status ≠ .completed)
    (h : db'.reconciliations = db.reconciliations.modify p f hf) : CompletedKept db db' := by
  intro k row hrow hcompleted
  rw [h, Table.find?_modify, hrow, Option.map_some]
  have hnot : p row = false := by
    by_contra hne
    exact hp row (Table.find?_eq_some.mp hrow).1 (by simpa using hne) hcompleted
  simp [hnot]

/-- The active refresh of a provider is one of its refreshes, and not completed. -/
theorem activeReconciliation_eq_some {providerId : Uuid} {active : EvolutionReconciliation}
    (h : db.activeReconciliation providerId = some active) :
    active ∈ db.reconciliations ∧ active.status ≠ .completed := by
  refine ⟨List.mem_of_find?_eq_some h, fun hcompleted => ?_⟩
  have hactive := List.find?_some h
  simp [EvolutionReconciliation.isActive, hcompleted] at hactive

/-- A request adds at most a refresh that waits. -/
theorem request_ok {providerId id : Uuid} {expectedRevision : Option Nat}
    {row : EvolutionReconciliation} {db' : Database}
    (h : (request providerId expectedRevision id).run db = .ok (row, db')) :
    ∃ reconciliations, db' = { db with reconciliations := reconciliations } ∧ CompletedKept db db' := by
  simp only [request, lockProvider_bind_ok, throwWhen_bind_ok, get_bind_ok] at h
  obtain ⟨_, _, -, h⟩ := h
  split at h
  · rw [pure_ok] at h
    cases h
    exact ⟨db.reconciliations, rfl, fun _ _ hfound _ => hfound⟩
  · rw [← bind_pure (createReconciliation _), createReconciliation_bind_ok] at h
    obtain ⟨-, reconciliations, hinserted, h⟩ := h
    rw [pure_ok] at h
    cases h
    exact ⟨reconciliations, rfl, completedKept_insert hinserted⟩

/-- A lease was taken on a provider that exists, and remembers what occupied it. -/
theorem refreshLease_ok {providerId owner id : Uuid} {db' : Database}
    (h : (refreshLease now execution providerId owner id).run db = .ok (lease, db')) :
    db.providers.find? lease.provider.id = some lease.provider ∧
      lease.operation.observedOccupancyRevision = lease.provider.occupancyRevision ∧
      ∃ reconciliations, db' = { db with reconciliations := reconciliations } ∧ CompletedKept db db' := by
  simp only [refreshLease, lockProvider_bind_ok, throwWhen_bind_ok, get_bind_ok] at h
  obtain ⟨provider, hprovider, -, h⟩ := h
  have hfound : db.providers.find? provider.id = some provider :=
    Table.find?_key (Table.find?_eq_some.mp hprovider).1
  split at h
  · next active hactive =>
    rw [set_bind_ok, pure_ok] at h
    cases h
    refine ⟨hfound, rfl, _, rfl, completedKept_modify (fun r =>
      (r.leased now execution owner provider.occupancyRevision).counted) (fun _ => rfl)
      (fun r hr hid => ?_) rfl⟩
    obtain ⟨hmem, hstatus⟩ := activeReconciliation_eq_some hactive
    obtain rfl : r = active := Table.eq_of_key_eq hr hmem (of_decide_eq_true hid)
    exact hstatus
  · rw [createReconciliation_bind_ok] at h
    obtain ⟨-, reconciliations, hinserted, h⟩ := h
    rw [pure_ok] at h
    cases h
    exact ⟨hfound, rfl, reconciliations, rfl, completedKept_insert hinserted⟩

/-- What a publication did, and under which conditions. -/
structure Published (db : Database) (now : Instant) (lease : RefreshLease) (rows : List InstanceDto)
    (current : VpsProvider) (result : ReconciliationResult) (db' : Database) : Prop where
  provider_found : db.providers.find? lease.provider.id = some current
  held : ∃ operation, db.reconciliations.find? lease.operation.id = some operation ∧
    operation.leaseOwner = some lease.owner ∧ operation.status = .running ∧
    db'.reconciliations.find? lease.operation.id = some (operation.published now result)
  occupancyRevision : current.occupancyRevision = lease.operation.observedOccupancyRevision
  configurationRevision : current.configurationRevision = lease.provider.configurationRevision
  providerUrl : current.providerUrl = lease.provider.providerUrl
  providerApiKey : current.providerApiKey = lease.provider.providerApiKey
  result_eq : ∃ remote, normalizeRows [] [] rows = some remote ∧ result = db.refreshResult current rows remote
  providers : db'.providers = (db.updateProvider current.id (·.observed now result)).providers
  instances : db'.instances = db.instances
  provisionings : db'.provisionings = db.provisionings
  completed : CompletedKept db db'

/-- A publication that succeeded met its conditions. -/
theorem refreshPublish_ok {rows : List InstanceDto} {updated : VpsProvider} {db' : Database}
    (h : (refreshPublish now execution lease rows).run db = .ok (updated, db')) :
    ∃ current result, updated = current.observed now result ∧
      Published db now lease rows current result db' := by
  simp only [refreshPublish, normalizeInventory_bind_ok, lockProvider_bind_ok, get_bind_ok, orThrow_bind_ok,
    throwWhen_bind_ok, assertActive_bind_ok, set_bind_ok, pure_ok, not_or, ne_eq, not_not] at h
  obtain ⟨remote, hremote, current, hcurrent, operation, hoperation, hheld, hseen, -, inventory, -, h⟩ := h
  cases h
  have hid : operation.id = lease.operation.id := (Table.find?_eq_some.mp hoperation).2
  refine ⟨current, _, rfl, hcurrent, ⟨operation, hoperation, hheld.1, hheld.2, ?_⟩, hseen.1, hseen.2.1,
    hseen.2.2.1, hseen.2.2.2, ⟨remote, hremote, rfl⟩, rfl, rfl, rfl, ?_⟩
  · simp only [Database.updateReconciliation_reconciliations, Database.updateProvider_reconciliations,
      Table.find?_modify, hoperation, Option.map_some, hid, decide_true, if_true]
  · refine completedKept_modify (·.published now _) (fun _ => rfl) (fun r hr hr' => ?_) rfl
    obtain rfl : r = operation :=
      Table.eq_of_key_eq hr (Table.find?_eq_some.mp hoperation).1 (of_decide_eq_true hr')
    rw [hheld.2]
    decide

/-- Noting a failure changes no refresh but one under way. -/
theorem refreshFail_ok {db' : Database} (h : (refreshFail now execution lease).run db = .ok ((), db')) :
    ∃ reconciliations, db' = { db with reconciliations := reconciliations } ∧ CompletedKept db db' := by
  rw [refreshFail, modify_ok] at h
  cases h
  refine ⟨_, rfl, completedKept_modify (·.stopped now execution) (fun _ => rfl) (fun r _ hr => ?_) rfl⟩
  simp only [Bool.and_eq_true, decide_eq_true_eq] at hr
  rw [hr.2]
  decide

end Refresh

end ConnectHub
