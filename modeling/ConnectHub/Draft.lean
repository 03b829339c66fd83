import Mathlib.Algebra.GroupWithZero.Nat
import Mathlib.Data.Int.Notation

/-!
# Identifiers, failures and administrative drafts

The vocabulary shared by the tables: identifiers, instants, the failures a request can end in,
the codes under which the Hub reports why something is not ready, and the documents an
administrative change carries (its draft, the snapshot it was prepared against and the
diagnostics of the last evaluation).
-/

namespace ConnectHub

/-- A generated identifier; it is never the empty string. -/
structure Uuid where
  value : String
  nonempty : value ≠ ""
deriving DecidableEq, Repr

/-- Milliseconds since the epoch. -/
abbrev Instant := Int

/-- Whether an optional string counts as present in a condition: it is neither missing nor empty. -/
def truthy : Option String → Bool
  | none => false
  | some s => s != ""

/-- Why a request context stopped. -/
inductive QrStopReason
  | requestTimeout
  | providerTimeout
  | clientDisconnected
deriving DecidableEq, Repr

/-- The codes under which the Hub reports what is missing. -/
inductive BlockerCode
  | identityUnverified | endpointAlias | providerInactive | vpsInactive | healthUnconfirmed
  | inventoryUnconfirmed | callbackUnconfirmed | occupancyAmbiguous | provisioningUnresolved
  | linkPaused | providerPaused | adapterMismatch | capacityFull
  | allocationDisabled | databaseNotConsolidated | productInactive | noEligibleEvolution
  | distributionDisabled | writersUnconfirmed | noCapacity | sharedLimitConfirmation | verified
  | configurationChanged | targetUnavailable | instancesOutsideTarget | provisioningPending
  | deliveryPending | defaultProvider | instancesPresent
  | pendingPresent | defaultsPresent | linksPresent | inventoryPresent | callbacksPresent
  | reconciliationPresent
  | executorPending | collectionRunning | inventoryInProgress | inventoryIncomplete
  | preparationRequired | preparationFailed | callbackSyncUncertain | inventoryTimeout
  | credentialInvalid | credentialUnreadable | providerUnavailable
deriving DecidableEq, Repr

/-- The failures a request or a transaction ends in, with the texts the Hub sends. -/
inductive HubError
  | badRequest (message : String)
  | forbidden (message : String)
  | notFound (message : String)
  | conflict (message : String)
  | blocked (message : String) (blockers : List BlockerCode)
  | unprocessable (message : String)
  | badGateway (message : String)
  | serviceUnavailable (message : String)
  | requestTimeout (reason : QrStopReason)
  /-- A unique index refused the row (`P2002`). -/
  | uniqueViolation
  /-- A row that must exist does not (`P2025`). -/
  | recordNotFound
  /-- An exception that is not an HTTP failure. -/
  | internal (message : String)
deriving DecidableEq, Repr

/-- What an administrative change asks for. -/
inductive ChangeAction
  | configureCapacity
  | singleDestination
  | restoreLegacy
  | detach
deriving DecidableEq, Repr

/-- The allocation policy of a product. -/
inductive AllocationMode
  | legacy
  | capacity
deriving DecidableEq, Repr

/-- Whether an administrator confirmed which installation a provider is. -/
inductive IdentityStatus
  | pending
  | verified
deriving DecidableEq, Repr

/-- A link the draft adds or edits; absent fields keep the stored value. -/
structure DraftLink where
  vpsProviderId : Uuid
  expectedRevision : Option Nat := none
  allocationPriority : Option Nat := none
  acceptingNewInstances : Option Bool := none
deriving DecidableEq, Repr

/-- A global limit the draft sets or lifts. -/
structure DraftProviderUpdate where
  vpsProviderId : Uuid
  expectedRevision : Nat
  maxInstances : Option Nat
deriving DecidableEq, Repr

/-- An identity the draft confirms. -/
structure DraftIdentity where
  vpsProviderId : Uuid
  expectedRevision : Nat
deriving DecidableEq, Repr

/-- An accepted impact of a shared limit on other products. -/
structure DraftSharedLimit where
  vpsProviderId : Uuid
  expectedRevision : Nat
  maxInstances : Option Nat
  productIds : List Uuid
deriving DecidableEq, Repr

/-- The draft of an administrative change. -/
structure EvolutionChangeInput where
  requestId : String
  expectedRevision : Nat
  action : ChangeAction
  targetProviderId : Option Uuid := none
  links : List DraftLink := []
  providerUpdates : List DraftProviderUpdate := []
  identities : List DraftIdentity := []
  sharedLimits : List DraftSharedLimit := []
deriving DecidableEq, Repr

/-- The largest integer the revision and limit fields accept. -/
def maxInteger : Nat := 2147483647

/-- The length of a text in UTF-16 code units, which is how the schema counts. -/
def utf16Length (s : String) : Nat :=
  (s.toList.map fun c => if c.toNat < 0x10000 then 1 else 2).sum

/-- An identifier field is between 1 and 128 units long, once it is trimmed. -/
def idAccepted (s : String) : Bool :=
  decide (1 ≤ utf16Length s ∧ utf16Length s ≤ 128)

/-- A limit is absent (no ceiling) or a positive integer. -/
def limitAccepted (limit : Option Nat) : Bool :=
  limit.all fun value => decide (1 ≤ value ∧ value ≤ maxInteger)

/-- The field rules of `evolutionChangeSchema`: lengths of the texts and lists, ranges of the numbers. -/
def EvolutionChangeInput.fieldsAccepted (value : EvolutionChangeInput) : Bool :=
  idAccepted value.requestId && decide (value.expectedRevision ≤ maxInteger) &&
  value.targetProviderId.all (idAccepted ·.value) &&
  decide (value.links.length ≤ 50 ∧ value.providerUpdates.length ≤ 50 ∧
    value.identities.length ≤ 50 ∧ value.sharedLimits.length ≤ 50) &&
  value.links.all (fun item => idAccepted item.vpsProviderId.value &&
    item.expectedRevision.all (fun n => decide (n ≤ maxInteger)) &&
    item.allocationPriority.all fun n => decide (n ≤ maxInteger)) &&
  value.providerUpdates.all (fun item => idAccepted item.vpsProviderId.value &&
    decide (item.expectedRevision ≤ maxInteger) && limitAccepted item.maxInstances) &&
  value.identities.all (fun item => idAccepted item.vpsProviderId.value &&
    decide (item.expectedRevision ≤ maxInteger)) &&
  value.sharedLimits.all fun item => idAccepted item.vpsProviderId.value &&
    decide (item.expectedRevision ≤ maxInteger) && limitAccepted item.maxInstances &&
    decide (item.productIds.length ≤ 200) && item.productIds.all (idAccepted ·.value)

/-- The cross-field rules of `evolutionChangeSchema`: which fields an action may carry, and no
provider or product named twice in one list. -/
def EvolutionChangeInput.refined (value : EvolutionChangeInput) : Bool :=
  (decide (value.action ≠ .configureCapacity) == value.targetProviderId.isSome) &&
  (decide (value.action = .configureCapacity) ||
    (value.links.isEmpty && value.providerUpdates.isEmpty && value.identities.isEmpty &&
      value.sharedLimits.isEmpty)) &&
  decide (value.links.map (·.vpsProviderId)).Nodup &&
  decide (value.providerUpdates.map (·.vpsProviderId)).Nodup &&
  decide (value.identities.map (·.vpsProviderId)).Nodup &&
  decide (value.sharedLimits.map (·.vpsProviderId)).Nodup &&
  value.sharedLimits.all fun item => decide item.productIds.Nodup

/-- The drafts `evolutionChangeSchema` accepts. -/
def EvolutionChangeInput.accepted (value : EvolutionChangeInput) : Bool :=
  value.fieldsAccepted && value.refined

/-- The product columns a snapshot remembers. -/
structure ProductSnapshot where
  revision : Nat
  adapterType : String
  hubRelay : Bool
  isActive : Bool
  defaultProviderId : Option Uuid
  mode : AllocationMode
deriving DecidableEq, Repr

/-- The link columns a snapshot remembers. -/
structure LinkSnapshot where
  vpsProviderId : Uuid
  configurationRevision : Nat
  allocationPriority : Nat
  acceptingNewInstances : Bool
deriving DecidableEq, Repr

/-- The provider columns a snapshot remembers, with the products that share the provider. -/
structure ProviderSnapshot where
  id : Uuid
  revision : Nat
  maxInstances : Option Nat
  identityStatus : IdentityStatus
  productIds : List Uuid
deriving DecidableEq, Repr

/-- The configuration a change was prepared against. -/
structure ChangeSnapshot where
  product : ProductSnapshot
  links : List LinkSnapshot
  providers : List ProviderSnapshot
deriving DecidableEq, Repr

/-- One observation of an evaluation; a blocking one prevents the change. -/
structure ChangeCheck where
  code : BlockerCode
  providerId : Option Uuid := none
  blocking : Bool := true
  observedAt : Instant
deriving DecidableEq, Repr

/-- The product an administrator is told to set up when no instance can confirm a callback. -/
structure SuggestedProduct where
  allocationMode : AllocationMode
  hubRelay : Bool
  vpsProviderId : Uuid
deriving DecidableEq, Repr

/-- The codes of the actions an administrator is asked for. -/
inductive ActionCode
  | confirmInstanceWebhook
  | useDedicatedTestProduct
  | confirmSharedLimit
  | prepareAgain
  | resolve (code : BlockerCode)
deriving DecidableEq, Repr

/-- Where in the administration an action is carried out. -/
inductive ActionDestination
  | callbackCheck
  | testProductSetup
  | draftReview
  | environmentSetup
deriving DecidableEq, Repr

/-- Something an administrator has to do before the change is ready. -/
structure RequiredAction where
  code : ActionCode
  providerId : Option Uuid := none
  destination : ActionDestination
  instanceIds : List Uuid := []
  productIds : List Uuid := []
  suggestedProduct : Option SuggestedProduct := none
deriving DecidableEq, Repr

/-- The outcome of evaluating a draft. -/
structure ChangeDiagnostics where
  checks : List ChangeCheck
  requiredActions : List RequiredAction
  affectedProducts : List Uuid
  ready : Bool
deriving DecidableEq, Repr

end ConnectHub
