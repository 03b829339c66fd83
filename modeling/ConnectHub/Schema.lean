import ConnectHub.Draft
import ConnectHub.Json
import ConnectHub.Store.Table
import ConnectHub.Store.Transaction

/-!
# The database

The tables the provisioning, allocation, relay and batch code reads and writes, with the columns
that code uses and the defaults the schema gives them. Rows carry their primary key; the other
unique indexes are checked where rows are created. Text sealed with the encryption key is
modelled by what opening it yields, so an unreadable value is one that opens to nothing.
-/

namespace ConnectHub

open Store

/-- Text encrypted under the Hub's key: the value it opens to, or nothing if it does not open. -/
structure Sealed (α : Type) where
  opened : Option α
deriving DecidableEq, Repr

/-- A product: one customer application with its allocation policy. -/
structure Product where
  id : Uuid
  name : String
  slug : String
  apiKeyHash : String
  adapterType : String := "evolution"
  origins : List String := []
  hubRelay : Bool := false
  batchWebhookEnabled : Bool := false
  batchWebhookUrl : Option String := none
  isActive : Bool := true
  allocationMode : AllocationMode := .legacy
  allocationRevision : Nat := 0
  capacityFirstAllocationAt : Option Instant := none
  vpsProviderId : Option Uuid := none
deriving DecidableEq, Repr

instance : Keyed Product Uuid := ⟨Product.id⟩

/-- A server on which providers run. -/
structure VpsServer where
  id : Uuid
  isActive : Bool := true
deriving DecidableEq, Repr

instance : Keyed VpsServer Uuid := ⟨VpsServer.id⟩

/-- How current the stored inventory of a provider is. -/
inductive InventoryStatus
  | unknown
  | ready
  | unresolved
deriving DecidableEq, Repr

/-- Whether an authenticated callback from the provider was received. -/
inductive CallbackReadiness
  | pending
  | ready
deriving DecidableEq, Repr

/-- A registered Evolution installation; its API key is the stored ciphertext. -/
structure VpsProvider where
  id : Uuid
  vpsId : Uuid
  providerUrl : String
  providerApiKey : String
  adapterType : String := "evolution"
  isHealthy : Bool := true
  lastHealthAt : Option Instant := none
  isActive : Bool := true
  maxInstances : Option Nat := none
  acceptingNewInstances : Bool := true
  configurationRevision : Nat := 0
  canonicalEndpoint : Option String := none
  identityStatus : IdentityStatus := .pending
  inventoryStatus : InventoryStatus := .unknown
  inventoryObservedAt : Option Instant := none
  inventoryRevision : Nat := 0
  occupancyRevision : Nat := 0
  callbackTokenEncrypted : Option (Sealed String) := none
  callbackReadiness : CallbackReadiness := .pending
deriving DecidableEq, Repr

instance : Keyed VpsProvider Uuid := ⟨VpsProvider.id⟩

/-- The permission of a product to use a provider. -/
structure ProductEvolution where
  productId : Uuid
  vpsProviderId : Uuid
  allocationPriority : Nat := 0
  acceptingNewInstances : Bool := false
  configurationRevision : Nat := 0
deriving DecidableEq, Repr

instance : Keyed ProductEvolution (Uuid × Uuid) := ⟨fun link => (link.productId, link.vpsProviderId)⟩

/-- A session the Hub knows as a product's own. -/
structure Instance where
  id : Uuid
  productId : Uuid
  vpsProviderId : Uuid
  instanceName : String
  providerInstanceId : Option String := none
  instanceToken : Option String := none
  hubToken : String
  phoneNumber : Option String := none
  status : String := "disconnected"
  isActive : Bool := true
  updatedAt : Instant
deriving DecidableEq, Repr

instance : Keyed Instance Uuid := ⟨Instance.id⟩

/-- The states of a creation. -/
inductive ProvisioningState
  | reserved
  | creating
  | uncertain
  | cleanupPending
  | committed
  | released
  | failed
deriving DecidableEq, Repr

/-- A webhook configuration sent to a provider. -/
structure InstanceDefaultWebhookConfig where
  enabled : Option Bool := none
  url : String
  headers : Option (List (String × String)) := none
  byEvents : Option Bool := none
  base64 : Option Bool := none
  events : Option (List String) := none
deriving DecidableEq, Repr

/-- The body of a creation request; a client may supply its own webhook. -/
structure CreateInstanceDto where
  instanceName : String
  token : Option String := none
  qrcode : Option Bool := none
  integration : Option String := none
  webhook : Option InstanceDefaultWebhookConfig := none
deriving DecidableEq, Repr

/-- What a creation needs to be finished by another executor. -/
structure ProvisioningPayload where
  token : String
  clientToken : Option String := none
  request : CreateInstanceDto
  webhook : Option InstanceDefaultWebhookConfig := none
  webhookApplied : Bool
deriving DecidableEq, Repr

/-- Why a creation ended or stalled. -/
inductive ProvisioningErrorCode
  | requiredDefaultsFailed
  | notSent
  | resultNotConfirmed
  | cleanupConfirmed
  | expiredBeforeSend
deriving DecidableEq, Repr

/-- The durable record of one creation. -/
structure InstanceProvisioning where
  id : Uuid
  productId : Uuid
  vpsProviderId : Uuid
  linkProductId : Option Uuid := none
  linkVpsProviderId : Option Uuid := none
  instanceName : String
  state : ProvisioningState := .reserved
  instanceId : Option Uuid := none
  providerInstanceId : Option String := none
  encryptedRequest : Option (Sealed ProvisioningPayload) := none
  leaseOwner : Option Uuid := none
  leaseExpiresAt : Option Instant := none
  revision : Nat := 0
  errorCode : Option ProvisioningErrorCode := none
deriving DecidableEq, Repr

instance : Keyed InstanceProvisioning Uuid := ⟨InstanceProvisioning.id⟩

/-- The states of an inventory refresh. -/
inductive ReconciliationStatus
  | pending
  | running
  | completed
  | failed
deriving DecidableEq, Repr

/-- What a completed refresh reports. -/
structure ReconciliationResult where
  inventoryRevision : Nat
  unknownCount : Nat
  conflictCount : Nat
  absentInstanceIds : List Uuid
deriving DecidableEq, Repr

/-- Why a refresh failed. -/
inductive ReconciliationErrorCode
  | inventoryNotConfirmed
  | stopped (reason : QrStopReason)
deriving DecidableEq, Repr

/-- One refresh of a provider's inventory. -/
structure EvolutionReconciliation where
  id : Uuid
  vpsProviderId : Uuid
  status : ReconciliationStatus := .pending
  observedOccupancyRevision : Nat := 0
  revision : Nat := 0
  leaseOwner : Option Uuid := none
  leaseExpiresAt : Option Instant := none
  collectionStartedAt : Option Instant := none
  collectionFinishedAt : Option Instant := none
  result : Option ReconciliationResult := none
  errorCode : Option ReconciliationErrorCode := none
deriving DecidableEq, Repr

instance : Keyed EvolutionReconciliation Uuid := ⟨EvolutionReconciliation.id⟩

/-- A remote session as the last published inventory listed it. -/
structure EvolutionInventoryEntry where
  vpsProviderId : Uuid
  identityKey : String
  instanceName : String
  providerInstanceId : Option String := none
  status : Option String := none
  inventoryRevision : Nat
  observedAt : Instant
deriving DecidableEq, Repr

instance : Keyed EvolutionInventoryEntry (Uuid × String) :=
  ⟨fun entry => (entry.vpsProviderId, entry.identityKey)⟩

/-- How the origin of an event was established. -/
inductive OriginMethod
  | token
  | peerIp
  | legacyJob
deriving DecidableEq, Repr

/-- Where an event came from. -/
structure OriginEvidence where
  providerIds : Option (List Uuid) := none
  method : OriginMethod
  provisioningId : Option Uuid := none
deriving DecidableEq, Repr

/-- The states of a received event. -/
inductive RelayEventState
  | pending
  | waiting
  | retained
  | queued
  | delivered
  | failed
deriving DecidableEq, Repr

/-- Why an event is where it is. -/
inductive RelayErrorCode
  | awaitingInstance
  | identityUnproven
  | legacyOriginUnproven
  | identityChanged
  | provisioningEnded
  | relayDisabled
  | destinationMissing
  | eventFiltered
  | deliveryFailed
deriving DecidableEq, Repr

/-- A delivery to a product's webhook; version 2 names the instance the event was attributed to. -/
structure RelayJobPayload where
  version : Option Nat := none
  providerId : Option Uuid := none
  instanceId : Option Uuid := none
  productId : Option Uuid := none
  providerInstanceId : Option String := none
  pendingEventId : Option Uuid := none
  adapterType : String
  instanceName : String
  body : Json
deriving Repr

/-- A received event, kept until it is delivered. -/
structure PendingRelayEvent where
  id : Uuid
  vpsProviderId : Option Uuid := none
  instanceId : Option Uuid := none
  instanceName : Option String := none
  providerInstanceId : Option String := none
  encryptedPayload : Sealed RelayJobPayload
  originEvidence : Option OriginEvidence := none
  state : RelayEventState := .pending
  errorCode : Option RelayErrorCode := none
  resolvedAt : Option Instant := none
deriving Repr

instance : Keyed PendingRelayEvent Uuid := ⟨PendingRelayEvent.id⟩

/-- Where a product wants its events delivered. -/
structure WebhookConfig where
  id : Uuid
  productId : Uuid
  url : String
  secret : String
  events : List String := []
  isActive : Bool := true
deriving DecidableEq, Repr

instance : Keyed WebhookConfig Uuid := ⟨WebhookConfig.id⟩

/-- The states of a batch of messages. -/
inductive BatchStatus
  | processing
  | completed
  | failed
  | cancelled
deriving DecidableEq, Repr

/-- The record of one batch of messages. -/
structure BatchJob where
  id : Uuid
  productId : Uuid
  instanceId : Option Uuid := none
  totalMessages : Nat
  sentCount : Nat := 0
  failedCount : Nat := 0
  status : BatchStatus := .processing
  completedAt : Option Instant := none
deriving DecidableEq, Repr

instance : Keyed BatchJob Uuid := ⟨BatchJob.id⟩

/-- The operator's confirmation that every writer speaks the required protocol. -/
structure EvolutionSetupConfirmation where
  requirementsVersion : String
  databaseIdentity : String
deriving DecidableEq, Repr

instance : Keyed EvolutionSetupConfirmation String := ⟨EvolutionSetupConfirmation.requirementsVersion⟩

/-- The states of an administrative change. -/
inductive ChangeStatus
  | queued
  | running
  | actionRequired
  | ready
  | applied
  | failed
  | expired
  | cancelled
deriving DecidableEq, Repr

/-- The progress of a callback confirmation inside a change. -/
inductive CallbackState
  | queued
  | syncing
  | configured
  | uncertain
deriving DecidableEq, Repr

/-- The callback confirmation an administrator asked for. -/
structure CallbackWork where
  instanceId : Uuid
  providerId : Uuid
  state : CallbackState
  actor : String
deriving DecidableEq, Repr

/-- The stage of a change that the panel shows. -/
inductive ChangeStage
  | queued
  | checking
  | review
  | requiredActions
  | prepareAgain
  | callbackQueued
  | cancelled
  | applied
deriving DecidableEq, Repr

/-- What an applied change recorded. -/
structure ChangeAudit where
  operationId : Uuid
  actor : String
  before : ChangeSnapshot
  after : ChangeSnapshot
  affectedProducts : List Uuid
deriving DecidableEq, Repr

/-- An administrative change from its request to its end. -/
structure EvolutionChange where
  id : Uuid
  productId : Uuid
  draft : EvolutionChangeInput
  snapshot : ChangeSnapshot
  diagnostics : Option ChangeDiagnostics := none
  result : Option ChangeAudit := none
  callback : Option CallbackWork := none
  status : ChangeStatus := .queued
  stage : ChangeStage := .queued
  revision : Nat := 0
  leaseOwner : Option Uuid := none
  leaseExpiresAt : Option Instant := none
  executionDeadline : Instant
  expiresAt : Instant
deriving DecidableEq, Repr

instance : Keyed EvolutionChange Uuid := ⟨EvolutionChange.id⟩

/-- The database: its tables, its own identity, and whether the deferred constraints exist. -/
structure Database where
  products : Table Product := .empty
  vpsServers : Table VpsServer := .empty
  providers : Table VpsProvider := .empty
  links : Table ProductEvolution := .empty
  instances : Table Instance := .empty
  provisionings : Table InstanceProvisioning := .empty
  reconciliations : Table EvolutionReconciliation := .empty
  inventory : Table EvolutionInventoryEntry := .empty
  relayEvents : Table PendingRelayEvent := .empty
  webhookConfigs : Table WebhookConfig := .empty
  batchJobs : Table BatchJob := .empty
  setupConfirmations : Table EvolutionSetupConfirmation := .empty
  changes : Table EvolutionChange := .empty
  databaseIdentity : String := ""
  baseConsolidated : Bool := false

/-- A transaction on the database. -/
abbrev Tx (α : Type) := Transaction Database HubError α

/-- The environment settings the code reads, with their defaults. -/
structure Config where
  evolutionAllocationEnabled : Bool := false
  evolutionHealthMaxAgeMs : Int := 180000
  evolutionInventoryMaxAgeMs : Int := 300000
  evolutionRecoveryIntervalMs : Int := 15000
deriving DecidableEq, Repr

/-- The parts of a parsed URL that identify an endpoint; its origin is never empty. -/
structure Url where
  protocol : String
  username : String
  password : String
  search : String
  hash : String
  origin : String
  pathname : String
  origin_nonempty : origin ≠ ""
deriving Repr

/-- What the code is run in: its settings and the platform's URL parser. -/
structure Env where
  config : Config := {}
  parseUrl : String → Option Url

/-- The budget of a request: whether it was stopped, and how much time it has left. -/
structure QrRequestContext where
  reason : Option QrStopReason := none
  remainingMs : Nat
deriving DecidableEq, Repr

/-- Fail once the request was stopped or has no time left. -/
def QrRequestContext.assertActive (execution : QrRequestContext) : Tx Unit :=
  match execution.reason with
  | some reason => throw (.requestTimeout reason)
  | none => throwWhen (execution.remainingMs = 0) (.requestTimeout .requestTimeout)

/-- The database with one table's rows in another scan order, for the tables scanned whole. -/
structure Database.SameRows (db db' : Database) : Prop where
  inventory : db.inventory.SameRows db'.inventory
  instances : db.instances.SameRows db'.instances
  provisionings : db.provisionings.SameRows db'.provisionings
  rest : { db with inventory := db'.inventory, instances := db'.instances,
                   provisionings := db'.provisionings } = db'

end ConnectHub
