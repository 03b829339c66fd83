import ConnectHub.Inventory
import ConnectHub.ProvisioningSteps
import ConnectHub.Store.Pool

/-!
# The executors of a creation

`createInstance`, `recover` and `deleteInstance`, statement by statement: each statement is one call to a
provider or one transaction, and says which statement follows. What a provider answers, the clock, the state of
the request and the values drawn at random decide each statement from outside, so that executors of the same
creation may overlap, be interrupted, and stop anywhere.
-/

namespace ConnectHub

open Store

/-- A failure, as far as the executors tell failures apart: an HTTP failure with its detail in lower case, or
any other, which may be a call that timed out. -/
inductive Failure
  | http (status : Nat) (detail : String)
  | other (timedOut : Bool)
deriving DecidableEq, Repr

/-- The failure a transaction ends in. -/
def HubError.failure : HubError → Failure
  | .badRequest message => .http 400 message
  | .forbidden message => .http 403 message
  | .notFound message => .http 404 message
  | .conflict message => .http 409 message
  | .blocked message _ => .http 409 message
  | .unprocessable message => .http 422 message
  | .badGateway message => .http 502 message
  | .serviceUnavailable message => .http 503 message
  | .requestTimeout _ => .http 408 "request timeout"
  | .uniqueViolation | .recordNotFound | .internal _ => .other false

/-- Whether a failure leaves open what the provider did. -/
def Failure.isProviderTimeoutError : Failure → Bool
  | .http status _ => status = 408 || status = 504
  | .other timedOut => timedOut

/-- What a provider says when it does not have an instance. -/
def notFoundPhrases : List String := ["not found", "does not exist", "não encontrad", "nao encontrad"]

/-- Whether a failure says that the provider does not have the instance. -/
def Failure.isProviderNotFoundError : Failure → Bool
  | .http status detail => status = 404 || (decide (400 ≤ status ∧ status < 500) &&
      notFoundPhrases.any fun phrase => decide (phrase.toList <:+: detail.toList))
  | .other _ => false

/-- Whether a failure is an answer of the provider that recovery takes for final. -/
def Failure.isFunctional : Failure → Bool
  | .http status _ => !([408, 504].contains status)
  | .other _ => false

/-- Whether a request was neither stopped nor ran out of time. -/
def QrRequestContext.isActive (execution : QrRequestContext) : Bool :=
  execution.reason.isNone && decide (execution.remainingMs ≠ 0)

/-- What the preflight of a creation came to, on tables that may have changed since: nothing may be reserved,
an instance whose session is gone stands in the way, or a provider was chosen. -/
inductive Preparation
  | refused
  | stale (existing : Instance)
  | chosen (providerId : Uuid) (seen : Preflight) (payload : ProvisioningPayload)
deriving DecidableEq, Repr

/-- What decides a statement from outside. -/
structure CreationInput where
  now : Instant
  execution : QrRequestContext
  id : Uuid
  leaseOwner : Uuid
  preparation : Preparation := .refused
  supportsDefaults : Bool := true
  created : Except Failure InstanceCreatedDto := .error (.other false)
  listed : Except Failure (List InstanceDto) := .error (.other false)
  answered : Except Failure Unit := .error (.other false)

/-- The outcome of a call that is only made while the request is active. -/
def CreationInput.call {α : Type} (input : CreationInput) (answer : Except Failure α) : Except Failure α :=
  if input.execution.isActive = true then answer else .error (.http 408 "request timeout")

/-- Where an executor stands, with what it holds: the statement it runs next. -/
inductive CreationTask
  -- `createInstance`
  | prepare (productId : Uuid) (instanceName : String)
  | markCreating (ticket : ProvisioningTicket) (payload : ProvisioningPayload)
  | create (ticket : ProvisioningTicket) (payload : ProvisioningPayload)
  | recordCreated (ticket : ProvisioningTicket) (payload : ProvisioningPayload) (result : InstanceCreatedDto)
  | settle (ticket : ProvisioningTicket) (payload : ProvisioningPayload) (instanceId : Uuid)
  | applyDefaults (ticket : ProvisioningTicket) (instanceId : Uuid)
  | markWebhookApplied (ticket : ProvisioningTicket) (instanceId : Uuid)
  | markCleanup (ticket : ProvisioningTicket) (instanceId : Uuid)
  | revert (ticket : ProvisioningTicket) (instanceId : Uuid)
  -- shared by `createInstance` and `recover`
  | removeConfirmed (ticket : ProvisioningTicket) (instanceId : Uuid)
  | finish (ticket : ProvisioningTicket)
  | abandon (ticket : ProvisioningTicket)
  -- `recover`
  | claim (id : Uuid)
  | fetch (row : InstanceProvisioning)
  | ownBeforeDelete (row : InstanceProvisioning)
  | deleteRecovered (row : InstanceProvisioning)
  | recordRecovered (row : InstanceProvisioning) (payload : ProvisioningPayload) (result : InstanceCreatedDto)
  | ownBeforeDefaults (row : InstanceProvisioning)
  | applyRecovered (row : InstanceProvisioning)
  | cleanRecovered (row : InstanceProvisioning)
  | markRecovered (row : InstanceProvisioning)
  -- `deleteInstance`
  | lookup (productId : Uuid) (instanceId : String)
  | assertDeletable (item : Instance)
  | deleteConfirmed (item : Instance)
  | removeDeleted (item : Instance)
deriving DecidableEq, Repr

/-- Run the transaction of a statement: the database it leaves, and what follows its end. -/
def transact {α : Type} (db : Database) (tx : Tx α) (ok : α → Option CreationTask)
    (fail : HubError → Option CreationTask) : Database × Option CreationTask :=
  match tx.run db with
  | .ok (a, db') => (db', ok a)
  | .error e => (db, fail e)

/-- Whether allocation goes on with the next candidate after a refusal. -/
def triesNext (input : CreationInput) (seen : Preflight) : HubError → Bool
  | .serviceUnavailable _ => input.execution.isActive && decide (seen.product.allocationMode = .capacity)
  | _ => false

/-- What follows the record of a confirmed create. An executor whose caller went away still finishes what needs
no webhook. -/
def settle (input : CreationInput) (ticket : ProvisioningTicket) (payload : ProvisioningPayload)
    (instanceId : Uuid) : CreationTask :=
  if input.execution.reason.isSome = true ∧ payload.webhook = none then .finish ticket
  else if input.execution.isActive = false then .abandon ticket
  else
    match payload.webhook with
    | none => .finish ticket
    | some _ => if input.supportsDefaults = true then .applyDefaults ticket instanceId else .abandon ticket

/-- Whether a failure only interrupted an executor. -/
def interrupted (input : CreationInput) (failure : Failure) : Bool :=
  !input.execution.isActive || failure.isProviderTimeoutError

/-- What follows a required default that failed: what was only interrupted is left to recovery, and any other
failure is compensated. -/
def afterDefaults (input : CreationInput) (ticket : ProvisioningTicket) (instanceId : Uuid)
    (failure : Failure) : CreationTask :=
  if interrupted input failure = true then .abandon ticket else .markCleanup ticket instanceId

/-- What follows the remote delete of a compensation. -/
def afterRevert (input : CreationInput) (ticket : ProvisioningTicket) (instanceId : Uuid) :
    Except Failure Unit → CreationTask
  | .ok () => .removeConfirmed ticket instanceId
  | .error failure =>
    if interrupted input failure = true then .abandon ticket
    else if failure.isProviderNotFoundError = true then .removeConfirmed ticket instanceId
    else .abandon ticket

/-- What recovery reads before it decides: the request of the row it claimed, and the sessions its provider
lists, each with the row it was listed in. -/
def fetchSessions (input : CreationInput) (row : InstanceProvisioning) :
    Tx (ProvisioningPayload × List (InstanceDto × RemoteSession)) := do
  let db ← get
  let _ ← orThrow .recordNotFound (db.providers.find? row.vpsProviderId)
  let payload ← decodePayload row.encryptedRequest
  input.execution.assertActive
  match input.listed with
  | .error _ => throw (.internal "event=evolution_provisioning_unconfirmed")
  | .ok rows => do
    let sessions ← normalizeInventory rows
    pure (payload, rows.zip sessions)

/-- Whether a session is the one a creation asked for: it has the id the create answered, or a token that was
drawn for it alone. -/
def InstanceProvisioning.identifies (row : InstanceProvisioning) (payload : ProvisioningPayload)
    (listed : InstanceDto × RemoteSession) : Bool :=
  let sessionId := listed.2.providerInstanceId
  let knownId := truthy row.providerInstanceId && decide (row.providerInstanceId = sessionId)
  let uniqueToken := !truthy payload.clientToken && decide (some payload.token = remoteToken listed.1)
  truthy sessionId && (knownId || uniqueToken) &&
    !(truthy row.providerInstanceId && decide (row.providerInstanceId ≠ sessionId))

/-- Remove the instance that a claimed row names, if it names one. -/
def removeNamed (row : InstanceProvisioning) : CreationTask :=
  match row.instanceId with
  | some instanceId => .removeConfirmed row.ticket instanceId
  | none => .abandon row.ticket

/-- What recovery does with the sessions it read. An empty list proves no create to have failed, but it proves
a compensation done. -/
def afterFetch (input : CreationInput) (row : InstanceProvisioning) (payload : ProvisioningPayload)
    (listed : List (InstanceDto × RemoteSession)) : CreationTask :=
  match listed.find? fun found => found.2.instanceName = row.instanceName with
  | none => if row.state = .cleanupPending then removeNamed row else .abandon row.ticket
  | some found =>
    if row.identifies payload found = false ∨ input.execution.isActive = false then .abandon row.ticket
    else if row.state = .cleanupPending then .ownBeforeDelete row
    else .recordRecovered row payload { instanceName := row.instanceName,
                                        instanceId := found.2.providerInstanceId,
                                        status := found.2.status.getD "disconnected" }

/-- What follows the record of a create that recovery found confirmed. -/
def afterRecovered (input : CreationInput) (row : InstanceProvisioning) (payload : ProvisioningPayload) :
    CreationTask :=
  if payload.webhookApplied = true ∨ payload.webhook = none then .finish row.ticket
  else if input.supportsDefaults = true ∧ input.execution.isActive = true then .ownBeforeDefaults row
  else .abandon row.ticket

/-- What follows a call of recovery that applies the required defaults. -/
def afterApplied (input : CreationInput) (row : InstanceProvisioning) : Except Failure Unit → CreationTask
  | .ok () => .markRecovered row
  | .error failure =>
    if input.execution.reason = none ∧ failure.isFunctional = true then .cleanRecovered row
    else .abandon row.ticket

/-- The instances of a product that an identifier names: by their id, or by the id the provider gave them. -/
def Database.instancesNamed (db : Database) (productId : Uuid) (instanceId : String) : List Instance :=
  db.instances.rows.filter fun i => decide (i.productId = productId) &&
    (decide (i.id.value = instanceId) || decide (i.providerInstanceId = some instanceId))

/-- What follows the remote delete that a user asked for. -/
def afterDelete (item : Instance) : Except Failure Unit → Option CreationTask
  | .ok () => some (.removeDeleted item)
  | .error failure => if failure.isProviderNotFoundError = true then some (.removeDeleted item) else none

/-- One statement of an executor: the database it leaves, and the statement that follows it. -/
def CreationTask.run (env : Env) (input : CreationInput) (db : Database) :
    CreationTask → Database × Option CreationTask
  | .prepare productId instanceName =>
    match input.preparation with
    | .refused => (db, none)
    | .stale existing =>
      transact db (ConnectHub.removeConfirmed existing.id productId existing.vpsProviderId none)
        (fun _ => some (.prepare productId instanceName)) fun _ => none
    | .chosen providerId seen payload =>
      transact db (prepareReservation env input.now input.execution productId providerId seen payload
          instanceName input.id input.leaseOwner)
        (fun result => some (.markCreating result.1 payload))
        fun e => if triesNext input seen e = true then some (.prepare productId instanceName) else none
  | .markCreating ticket payload =>
    transact db (ConnectHub.markCreating env input.now input.execution ticket)
      (fun _ => some (.create ticket payload)) fun _ => some (.abandon ticket)
  | .create ticket payload =>
    match input.call input.created with
    | .ok result => (db, some (.recordCreated ticket payload result))
    | .error _ => (db, some (.abandon ticket))
  | .recordCreated ticket payload result =>
    transact db (ConnectHub.recordCreated input.now ticket result input.id)
      (fun item => some (.settle ticket payload item.id)) fun _ => some (.abandon ticket)
  | .settle ticket payload instanceId => (db, some (ConnectHub.settle input ticket payload instanceId))
  | .applyDefaults ticket instanceId =>
    match input.call input.answered with
    | .ok () => (db, some (.markWebhookApplied ticket instanceId))
    | .error failure => (db, some (afterDefaults input ticket instanceId failure))
  | .markWebhookApplied ticket instanceId =>
    transact db (ConnectHub.markWebhookApplied ticket) (fun _ => some (.finish ticket))
      fun e => some (afterDefaults input ticket instanceId e.failure)
  | .markCleanup ticket instanceId =>
    transact db (ConnectHub.markCleanup ticket) (fun _ => some (.revert ticket instanceId))
      fun _ => some (.abandon ticket)
  | .revert ticket instanceId =>
    (db, some (afterRevert input ticket instanceId (input.call input.answered)))
  | .removeConfirmed ticket instanceId =>
    transact db (ConnectHub.removeConfirmed instanceId ticket.productId ticket.vpsProviderId (some ticket))
      (fun _ => some (.abandon ticket)) fun _ => some (.abandon ticket)
  | .finish ticket =>
    transact db (ConnectHub.finish input.now ticket) (fun _ => some (.abandon ticket))
      fun _ => some (.abandon ticket)
  | .abandon ticket =>
    transact db (ConnectHub.abandon env input.now ticket) (fun _ => none) fun _ => none
  | .claim id =>
    transact db (ConnectHub.claim input.now input.execution id input.leaseOwner)
      (fun row => row.map .fetch) fun _ => none
  | .fetch row =>
    match (fetchSessions input row).run db with
    | .ok ((payload, listed), _) => (db, some (afterFetch input row payload listed))
    | .error _ => (db, some (.abandon row.ticket))
  | .ownBeforeDelete row =>
    transact db (assertOwned input.now row.ticket) (fun _ => some (.deleteRecovered row))
      fun _ => some (.abandon row.ticket)
  | .deleteRecovered row =>
    match input.answered with
    | .ok () => (db, some (removeNamed row))
    | .error _ => (db, some (.abandon row.ticket))
  | .recordRecovered row payload result =>
    transact db (ConnectHub.recordCreated input.now row.ticket result input.id)
      (fun _ => some (afterRecovered input row payload)) fun _ => some (.abandon row.ticket)
  | .ownBeforeDefaults row =>
    transact db (assertOwned input.now row.ticket) (fun _ => some (.applyRecovered row))
      fun _ => some (.abandon row.ticket)
  | .applyRecovered row => (db, some (afterApplied input row input.answered))
  | .cleanRecovered row =>
    transact db (ConnectHub.markCleanup row.ticket) (fun _ => some (.abandon row.ticket))
      fun _ => some (.abandon row.ticket)
  | .markRecovered row =>
    transact db (ConnectHub.markWebhookApplied row.ticket) (fun _ => some (.finish row.ticket))
      fun _ => some (.abandon row.ticket)
  | .lookup productId instanceId =>
    match db.instancesNamed productId instanceId with
    | [item] => (db, some (.assertDeletable item))
    | _ => (db, none)
  | .assertDeletable item =>
    if db.provisionings.rows.any (fun r => r.instanceId = some item.id && r.isOpen) = true then (db, none)
    else (db, some (.deleteConfirmed item))
  | .deleteConfirmed item => (db, afterDelete item input.answered)
  | .removeDeleted item =>
    transact db (ConnectHub.removeConfirmed item.id item.productId item.vpsProviderId none)
      (fun _ => none) fun _ => none

/-- What happens besides the statements of the executors keeps the creations but for what holds them to their
links, the instances, and every product and provider. -/
structure Database.LeavesCreations (db db' : Database) : Prop where
  rows : ∀ k, (db'.provisionings.find? k).map (fun r =>
      (r.productId, r.vpsProviderId, r.instanceName, r.state, r.instanceId)) =
    (db.provisionings.find? k).map fun r =>
      (r.productId, r.vpsProviderId, r.instanceName, r.state, r.instanceId)
  instances : ∀ i, i ∈ db'.instances ↔ i ∈ db.instances
  products : ∀ k, db.products.find? k ≠ none → db'.products.find? k ≠ none
  providers : ∀ k, db.providers.find? k ≠ none → db'.providers.find? k ≠ none

/-- What happens besides: an executor starts, a session is linked or imported, or whatever else keeps the
creations and the instances. -/
inductive CreationMove (env : Env) (db : Database) : Unit → Database → List CreationTask → Prop
  | createInstance (productId : Uuid) (instanceName : String) :
      CreationMove env db () db [.prepare productId instanceName]
  | recover (id : Uuid) : CreationMove env db () db [.claim id]
  | deleteInstance (productId : Uuid) (instanceId : String) :
      CreationMove env db () db [.lookup productId instanceId]
  | linked (data : Instance) : CreationMove env db () (commit (perform env (.createLinked data)) db) []
  | imported (data : Instance) (source : ImportSource) :
      CreationMove env db () (commit (perform env (.importLinked data source)) db) []
  | beside {db' : Database} (h : db.LeavesCreations db') : CreationMove env db () db' []

/-- One statement of an executor, whatever decides it. -/
def CreationStatement (env : Env) (db : Database) (task : CreationTask) (_ : Unit) (db' : Database)
    (next : Option CreationTask) : Prop :=
  ∃ input, task.run env input db = (db', next)

/-- One step of the executors. -/
abbrev CreationStep (env : Env) : Pool Database CreationTask → Unit → Pool Database CreationTask → Prop :=
  PoolStep (CreationStatement env) (CreationMove env) ()

end ConnectHub
