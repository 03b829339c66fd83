import ConnectHub.Occupancy

/-!
# Controls on providers

The physical identity of an installation, the freshness of what is known about it, the use made
of it, and the readiness report built from these. Allocation, administrative changes and
provider edits all consult the same readiness report; the admission of a creation restates its
conditions on its own.
-/

namespace ConnectHub

open Store

/-- The text without its trailing slashes. -/
def stripTrailingSlashes (s : String) : String :=
  String.ofList (s.toList.reverse.dropWhile (· = '/')).reverse

/-- The endpoint a provider URL stands for, if it is a plain HTTP URL. -/
def canonicalEvolutionEndpoint (env : Env) (value : String) : Option String :=
  match env.parseUrl value with
  | none => none
  | some url =>
    if !(["http:", "https:"].contains url.protocol) || url.username != "" || url.password != "" ||
        url.search != "" || url.hash != "" then none
    else some (url.origin ++ stripTrailingSlashes url.pathname)

/-- The version of the writer protocol that operators confirm. -/
def evolutionRequirementsVersion : String := "capacity-v1"

/-- The confirmation that every writer is compatible, if it was given for this database. -/
def Database.writerConfirmation (db : Database) : Option EvolutionSetupConfirmation :=
  (db.setupConfirmations.find? evolutionRequirementsVersion).filter fun row =>
    row.databaseIdentity = db.databaseIdentity

/-- Fail unless a revision is the one the caller saw. -/
def assertRevision (actual expected : Nat) : Tx Unit :=
  throwWhen (actual ≠ expected) (.conflict "Configuração alterada; consulte novamente")

/-- Whether the allocation policy depends on a provider. -/
def Database.isControlledEvolution (db : Database) (provider : VpsProvider) : Bool :=
  provider.maxInstances.isSome || !provider.acceptingNewInstances ||
    db.links.rows.any fun link => link.vpsProviderId = provider.id &&
      (db.products.find? link.productId).any fun product => product.allocationMode = .capacity

/-- The other providers registered at the same endpoint. -/
def Database.endpointAliases (db : Database) (env : Env) (url : String) (exceptId : Option Uuid) :
    List VpsProvider :=
  match canonicalEvolutionEndpoint env url with
  | none => []
  | some canonical =>
    db.providers.rows.filter fun item => exceptId ≠ some item.id &&
      canonicalEvolutionEndpoint env item.providerUrl = some canonical

/-- Refuse an endpoint that another provider controls, or any other one when strict. -/
def assertEndpointAvailable (env : Env) (url : String) (exceptId : Option Uuid) (strict : Bool) :
    Tx (List VpsProvider) := do
  let db ← get
  let aliases := db.endpointAliases env url exceptId
  throwWhen (aliases.any (fun item => strict || db.isControlledEvolution item) = true)
    (.conflict "Evolution já cadastrada; reutilize o provider existente por vínculo")
  pure aliases

/-- How many rows refer to a provider. -/
structure EvolutionUsage where
  instances : Nat
  pending : Nat
  defaults : Nat
  links : Nat
  inventory : Nat
  callbacks : Nat
deriving DecidableEq, Repr

/-- The use made of a provider. -/
def Database.evolutionUsage (db : Database) (providerId : Uuid) : EvolutionUsage where
  instances := (db.instancesOf providerId).length
  pending := (db.reservationsOf providerId).length
  defaults := db.products.rows.countP fun p => p.vpsProviderId = some providerId
  links := db.links.rows.countP fun l => l.vpsProviderId = providerId
  inventory := (db.inventoryOf providerId).length
  callbacks := db.relayEvents.rows.countP fun e =>
    e.vpsProviderId = some providerId && e.state ≠ .delivered

/-- Refuse to touch a provider in use; changing its identity also counts its links. -/
def assertEvolutionUnused (providerId : Uuid) (identityChange : Bool) : Tx Unit := do
  let db ← get
  let use := db.evolutionUsage providerId
  throwWhen (use.instances ≠ 0 ∨ use.pending ≠ 0 ∨ use.defaults ≠ 0 ∨ use.inventory ≠ 0 ∨
      use.callbacks ≠ 0 ∨ (identityChange = true ∧ use.links ≠ 0))
    (.conflict "Evolution em uso; preserve o destino e pause novas admissões")

/-- Refuse until every writer is confirmed and the base is consolidated. -/
def assertWritersCompatible (confirmed : Bool) : Tx Unit := do
  let db ← get
  throwWhen ((confirmed = false ∧ db.writerConfirmation = none) ∨ db.baseConsolidated = false)
    (.conflict "Confirme a atualização de todos os escritores e a consolidação do banco")

/-- Whether the stored inventory of a provider is recent enough to be shown. -/
def inventoryFresh (provider : VpsProvider) (maxAgeMs : Int) (now : Instant) : Bool :=
  match provider.inventoryObservedAt with
  | none => false
  | some observedAt => decide (now - observedAt ≤ maxAgeMs) &&
      [InventoryStatus.ready, .unresolved].contains provider.inventoryStatus

/-- Whether health and inventory of a provider are recent enough to admit a creation. -/
def isFresh (env : Env) (now : Instant) (provider : VpsProvider) : Bool :=
  provider.isHealthy &&
  (match provider.lastHealthAt with
    | none => false
    | some at_ => decide (now - at_ ≤ env.config.evolutionHealthMaxAgeMs)) &&
  decide (provider.inventoryStatus = .ready) &&
  match provider.inventoryObservedAt with
  | none => false
  | some at_ => decide (now - at_ ≤ env.config.evolutionInventoryMaxAgeMs)

/-- Whether the last health observation is missing, negative or too old. -/
def healthUnconfirmed (env : Env) (now : Instant) (provider : VpsProvider) : Bool :=
  !provider.isHealthy ||
  match provider.lastHealthAt with
  | none => true
  | some at_ => decide (now - at_ > env.config.evolutionHealthMaxAgeMs)

/-- Whether the provider is registered under the verified identity of its own URL. -/
def identityUnverified (env : Env) (provider : VpsProvider) : Bool :=
  match canonicalEvolutionEndpoint env provider.providerUrl with
  | none => true
  | some canonical => provider.canonicalEndpoint ≠ some canonical || provider.identityStatus ≠ .verified

/-- Whether an open creation does not carry its own link. -/
def InstanceProvisioning.linkMismatch (row : InstanceProvisioning) : Bool :=
  row.linkProductId ≠ some row.productId || row.linkVpsProviderId ≠ some row.vpsProviderId

/-- The readiness report of a provider: the codes of what is missing, in the order the panel
lists them, and the occupancy it was judged by. The provider may carry prospective columns. -/
def Database.evolutionReadiness (db : Database) (env : Env) (now : Instant) (provider : VpsProvider)
    (relay : Bool) : List BlockerCode × EvolutionOccupancy :=
  let used := db.readOccupancy provider.id
  ((if identityUnverified env provider then [BlockerCode.identityUnverified] else []) ++
   (if !(db.endpointAliases env provider.providerUrl (some provider.id)).isEmpty then [BlockerCode.endpointAlias]
    else []) ++
   (if !provider.isActive then [BlockerCode.providerInactive] else []) ++
   (if !db.vpsActive provider then [BlockerCode.vpsInactive] else []) ++
   (if healthUnconfirmed env now provider then [BlockerCode.healthUnconfirmed] else []) ++
   (if provider.inventoryStatus ≠ .ready ||
      !inventoryFresh provider env.config.evolutionInventoryMaxAgeMs now then [BlockerCode.inventoryUnconfirmed]
    else []) ++
   (if relay && provider.callbackReadiness ≠ .ready then [BlockerCode.callbackUnconfirmed] else []) ++
   (if used.ambiguous then [BlockerCode.occupancyAmbiguous] else []) ++
   (if used.reservations.any (·.linkMismatch) then [BlockerCode.provisioningUnresolved] else []), used)

/-- The readiness report depends on the servers, on the occupancy of the provider, and on whether its
endpoint is registered twice. -/
theorem evolutionReadiness_congr {db db' : Database} {env : Env} {now : Instant} {provider : VpsProvider}
    (hservers : db'.vpsServers = db.vpsServers)
    (hused : db'.readOccupancy provider.id = db.readOccupancy provider.id)
    (haliases : (db'.endpointAliases env provider.providerUrl (some provider.id)).isEmpty =
      (db.endpointAliases env provider.providerUrl (some provider.id)).isEmpty) (relay : Bool) :
    db'.evolutionReadiness env now provider relay = db.evolutionReadiness env now provider relay := by
  unfold Database.evolutionReadiness Database.vpsActive
  rw [hservers, hused, haliases]

end ConnectHub
