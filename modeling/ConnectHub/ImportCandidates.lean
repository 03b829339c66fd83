import ConnectHub.BulkImport
import ConnectHub.Evolutions
import ConnectHub.Store.Sorting

/-!
# What an import is offered

The panel shows which sessions of the last inventory a product may bring in, before any import runs. A session
without a claim on it can be brought in and one of the product itself is shown as its own; everything else is
only counted. The import decides again under its locks, and more strictly: a session of the product whose
remote id was never recorded is shown as its own, but not assigned again.
-/

namespace ConnectHub

open Store

section Model

/-- How current an inventory is shown to be. -/
inductive InventoryViewStatus
  | unknown | ready | unresolved | stale
deriving DecidableEq, Repr

/-- The inventory of a provider as the panel shows it. -/
structure InventoryView where
  status : InventoryViewStatus
  asOf : Option Instant
  ageMs : Option Int
  revision : Nat
  occupancyRevision : Nat
  fresh : Bool
deriving DecidableEq, Repr

/-- How a stored status is shown. -/
def InventoryStatus.shown : InventoryStatus → InventoryViewStatus
  | .unknown => .unknown
  | .ready => .ready
  | .unresolved => .unresolved

/-- The inventory of a provider as the panel shows it; one that is not fresh any more is stale. -/
def inventoryView (env : Env) (now : Instant) (provider : VpsProvider) : InventoryView :=
  let fresh := inventoryFresh provider env.config.evolutionInventoryMaxAgeMs now
  { status :=
      if provider.inventoryObservedAt.isSome && !fresh &&
          [InventoryStatus.ready, .unresolved].contains provider.inventoryStatus then .stale
      else provider.inventoryStatus.shown
    asOf := provider.inventoryObservedAt
    ageMs := provider.inventoryObservedAt.map fun observedAt => max 0 (now - observedAt)
    revision := provider.inventoryRevision
    occupancyRevision := provider.occupancyRevision
    fresh := fresh }

/-- Whose a listed session is. -/
inductive Ownership
  | own | unassigned
deriving DecidableEq, Repr

/-- A session that is listed. -/
structure ImportCandidate where
  providerInstanceId : String
  instanceName : String
  status : Option String
  ownership : Ownership
  hubInstanceId : Option Uuid := none
deriving DecidableEq, Repr

/-- The sessions that are listed, and how many are not. -/
structure ImportCandidates where
  items : List ImportCandidate
  asOf : Option Instant
  inventoryStatus : InventoryViewStatus
  conflictCount : Nat
deriving DecidableEq, Repr

variable (productId providerId : Uuid)

/-- Whether a record of the Hub, with its product, provider, name and remote id, has a claim on a session. -/
def claimsEntry (entry : EvolutionInventoryEntry) (itemProductId itemProviderId : Uuid) (instanceName : String)
    (providerInstanceId : Option String) : Bool :=
  (itemProviderId = providerId && (instanceName = entry.instanceName ||
    (truthy entry.providerInstanceId && providerInstanceId = entry.providerInstanceId))) ||
  (itemProductId = productId && instanceName = entry.instanceName)

/-- The instances that have a claim on a session. -/
def Database.matchesOf (db : Database) (entry : EvolutionInventoryEntry) : List Instance :=
  (db.instances.rows.filter fun i => i.productId = productId || i.vpsProviderId = providerId).filter fun i =>
    claimsEntry productId providerId entry i.productId i.vpsProviderId i.instanceName i.providerInstanceId

/-- Whether an open creation has a claim on a session. -/
def Database.reservedFor (db : Database) (entry : EvolutionInventoryEntry) : Bool :=
  (db.provisionings.rows.filter fun r =>
    (r.productId = productId || r.vpsProviderId = providerId) && r.isOpen).any fun r =>
      claimsEntry productId providerId entry r.productId r.vpsProviderId r.instanceName r.providerInstanceId

/-- Whether an instance is a session of the product on the provider. -/
def Instance.isOwn (entry : EvolutionInventoryEntry) (item : Instance) : Bool :=
  item.productId = productId && item.vpsProviderId = providerId &&
    sameSession item.instanceName item.providerInstanceId entry.instanceName entry.providerInstanceId

/-- Whether the one instance with a claim on a session is a session of the product on the provider. -/
def isOwnMatch (entry : EvolutionInventoryEntry) : List Instance → Bool
  | [item] => item.isOwn productId providerId entry
  | _ => false

/-- How a session is listed, or none if it is only counted. -/
def EvolutionInventoryEntry.candidate (entry : EvolutionInventoryEntry) (found : List Instance)
    (reserved own : Bool) : Option ImportCandidate :=
  if !truthy entry.providerInstanceId || reserved || (!found.isEmpty && !own) then none
  else
    some { providerInstanceId := entry.providerInstanceId.getD ""
           instanceName := entry.instanceName
           status := entry.status
           ownership := if own then .own else .unassigned
           hubInstanceId := if own then found.head?.map (·.id) else none }

/-- What becomes of a session of the inventory. -/
def Database.candidateOf (db : Database) (entry : EvolutionInventoryEntry) : Option ImportCandidate :=
  entry.candidate (db.matchesOf productId providerId entry) (db.reservedFor productId providerId entry)
    (isOwnMatch productId providerId entry (db.matchesOf productId providerId entry))

/-- List the sessions one after another. -/
def Database.listCandidates (db : Database) (entries : List EvolutionInventoryEntry) :
    List ImportCandidate × Nat :=
  entries.foldl (fun listed entry =>
    match db.candidateOf productId providerId entry with
    | some item => (listed.1 ++ [item], listed.2)
    | none => (listed.1, listed.2 + 1)) ([], 0)

/-- The sessions of the last inventory, in the order of their names. -/
def Database.currentEntries (db : Database) (nameLe : String → String → Bool) (provider : VpsProvider) :
    List EvolutionInventoryEntry :=
  sortOn nameLe (·.instanceName) (db.inventory.rows.filter fun entry =>
    entry.vpsProviderId = provider.id && entry.inventoryRevision = provider.inventoryRevision)

/-- What an import may bring into a product from a provider. -/
def candidates (env : Env) (nameLe : String → String → Bool) (now : Instant) : Tx ImportCandidates := do
  let db ← get
  let _ ← orThrow (.notFound "Produto não encontrado") (db.products.find? productId)
  let _ ← findLink productId providerId
  let provider ← orThrow (.notFound "Evolution não encontrada") (db.providers.find? providerId)
  let inventory := inventoryView env now provider
  if inventory.asOf.isNone ||
      !([InventoryViewStatus.ready, .unresolved, .stale].contains inventory.status) then
    pure ⟨[], inventory.asOf, inventory.status, 0⟩
  else
    let listed := db.listCandidates productId providerId (db.currentEntries nameLe provider)
    pure ⟨listed.1, inventory.asOf, inventory.status, listed.2⟩

end Model

section Verdicts

variable {db : Database} {productId providerId : Uuid} {entry : EvolutionInventoryEntry} {data : Instance}

/-- A session as it is listed. -/
def EvolutionInventoryEntry.listed (entry : EvolutionInventoryEntry) (ownership : Ownership)
    (hubInstanceId : Option Uuid) : ImportCandidate where
  providerInstanceId := entry.providerInstanceId.getD ""
  instanceName := entry.instanceName
  status := entry.status
  ownership := ownership
  hubInstanceId := hubInstanceId

variable {product : Product} {provider : VpsProvider}

end Verdicts

section Listing

variable {db : Database} {productId providerId : Uuid} {product : Product} {provider : VpsProvider} {env : Env}
  {nameLe : String → String → Bool} {now : Instant}

end Listing

end ConnectHub
