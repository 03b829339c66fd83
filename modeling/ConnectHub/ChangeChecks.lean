import ConnectHub.Allocation
import ConnectHub.Reversal

/-!
# Checks of an administrative change

An evaluation compares the configuration with the one the change was prepared against, and reports
what still stands in the way of its draft. For the capacity policy it judges the links and providers
as the draft would leave them, without writing anything.
-/

namespace ConnectHub

open Store

/-- One observation of an evaluation. -/
def check (now : Instant) (code : BlockerCode) (providerId : Option Uuid) (blocking : Bool) :
    ChangeCheck where
  code := code
  providerId := providerId
  blocking := blocking
  observedAt := now

/-- Identifiers without repetitions, in order. -/
def sortedIds (ids : List Uuid) : List Uuid :=
  ids.dedup.insertionSort fun a b => a.value ≤ b.value

/-- The draft with its lists in a canonical order. -/
def normalizeDraft (dto : EvolutionChangeInput) : EvolutionChangeInput :=
  { dto with
    links := dto.links.insertionSort fun a b => a.vpsProviderId.value ≤ b.vpsProviderId.value
    providerUpdates := dto.providerUpdates.insertionSort fun a b =>
      a.vpsProviderId.value ≤ b.vpsProviderId.value
    identities := dto.identities.insertionSort fun a b => a.vpsProviderId.value ≤ b.vpsProviderId.value
    sharedLimits := (dto.sharedLimits.map fun item =>
      { item with productIds := item.productIds.insertionSort fun a b => a.value ≤ b.value }).insertionSort
        fun a b => a.vpsProviderId.value ≤ b.vpsProviderId.value }

/-- The snapshot of a link. -/
def ProductEvolution.snapshot (link : ProductEvolution) : LinkSnapshot where
  vpsProviderId := link.vpsProviderId
  configurationRevision := link.configurationRevision
  allocationPriority := link.allocationPriority
  acceptingNewInstances := link.acceptingNewInstances

/-- The snapshots of a product's links, by provider. -/
def Database.linkSnapshots (db : Database) (productId : Uuid) : List LinkSnapshot :=
  ((db.links.rows.filter fun l => l.productId = productId).map (·.snapshot)).insertionSort fun a b =>
    a.vpsProviderId.value ≤ b.vpsProviderId.value

/-- The providers a change is about: those linked, and those its draft names. -/
def Database.changedProviders (db : Database) (productId : Uuid) (draft : EvolutionChangeInput) : List Uuid :=
  sortedIds ((db.linkSnapshots productId).map (·.vpsProviderId) ++ draft.links.map (·.vpsProviderId) ++
    draft.providerUpdates.map (·.vpsProviderId) ++ draft.identities.map (·.vpsProviderId) ++
    draft.targetProviderId.toList)

/-- The products that share a provider, with the one whose draft links it. -/
def Database.sharers (db : Database) (productId providerId : Uuid) (draft : EvolutionChangeInput) :
    List Uuid :=
  sortedIds (((db.products.rows.filter fun p => p.vpsProviderId = some providerId ||
      db.links.rows.any fun l => l.productId = p.id && l.vpsProviderId = providerId).map (·.id)) ++
    if draft.links.any (fun l => l.vpsProviderId = providerId) then [productId] else [])

/-- The snapshot of a provider. -/
def Database.providerSnapshot (db : Database) (productId : Uuid) (draft : EvolutionChangeInput)
    (provider : VpsProvider) : ProviderSnapshot where
  id := provider.id
  revision := provider.configurationRevision
  maxInstances := provider.maxInstances
  identityStatus := provider.identityStatus
  productIds := db.sharers productId provider.id draft

/-- The configuration a change is about, as the tables stand. -/
def Database.changeSnapshot (db : Database) (product : Product) (draft : EvolutionChangeInput) :
    ChangeSnapshot where
  product :=
    { revision := product.allocationRevision
      adapterType := product.adapterType
      hubRelay := product.hubRelay
      isActive := product.isActive
      defaultProviderId := product.vpsProviderId
      mode := product.allocationMode }
  links := db.linkSnapshots product.id
  providers := (db.changedProviders product.id draft).filterMap fun id =>
    (db.providers.find? id).map (db.providerSnapshot product.id draft)

/-- The configuration a change is about, whose providers must exist. -/
def changeSnapshot (product : Product) (draft : EvolutionChangeInput) : Tx ChangeSnapshot := do
  let db ← get
  throwWhen ((db.changedProviders product.id draft).any (fun id => (db.providers.find? id).isNone) = true)
    (.conflict "Evolution do rascunho não existe mais")
  pure (db.changeSnapshot product draft)

/-- A link as the draft edits it; fields the draft leaves out keep their value. -/
def LinkSnapshot.edited (item : DraftLink) (link : LinkSnapshot) : LinkSnapshot :=
  { link with
    allocationPriority := item.allocationPriority.getD link.allocationPriority
    acceptingNewInstances := item.acceptingNewInstances.getD link.acceptingNewInstances }

/-- The links once the draft edits or adds one. -/
def mergeLink (links : List LinkSnapshot) (item : DraftLink) : List LinkSnapshot :=
  if links.any (fun link => link.vpsProviderId = item.vpsProviderId) then
    links.map fun link => if link.vpsProviderId = item.vpsProviderId then link.edited item else link
  else links ++ [LinkSnapshot.edited item ⟨item.vpsProviderId, 0, 0, false⟩]

/-- The links as the draft would leave them. -/
def prospectiveLinks (draft : EvolutionChangeInput) (snapshot : ChangeSnapshot) : List LinkSnapshot :=
  let links := draft.links.foldl mergeLink snapshot.links
  if draft.action = .singleDestination then
    links.map fun link =>
      { link with acceptingNewInstances := draft.targetProviderId = some link.vpsProviderId }
  else links

/-- The provider with its identity confirmed. -/
def VpsProvider.confirmed (env : Env) (provider : VpsProvider) : VpsProvider :=
  { provider with
    identityStatus := .verified
    canonicalEndpoint := canonicalEvolutionEndpoint env provider.providerUrl }

/-- Whether the draft confirms the identity of a provider. -/
def EvolutionChangeInput.confirms (draft : EvolutionChangeInput) (providerId : Uuid) : Bool :=
  draft.identities.any fun item => item.vpsProviderId = providerId

/-- The provider with its identity confirmed, if the draft confirms it. -/
def VpsProvider.identified (env : Env) (draft : EvolutionChangeInput) (provider : VpsProvider) :
    VpsProvider :=
  if draft.confirms provider.id then provider.confirmed env else provider

/-- The provider as the draft would leave it. -/
def VpsProvider.prospective (env : Env) (draft : EvolutionChangeInput) (original : VpsProvider) :
    VpsProvider :=
  let limited := match draft.providerUpdates.find? fun item => item.vpsProviderId = original.id with
    | some update => { original with maxInstances := update.maxInstances }
    | none => original
  limited.identified env draft

/-- What keeps a link from taking a creation, apart from the count: the readiness report of its
provider, then the provider's own switch and the adapters. -/
def Database.prospectiveBlockers (db : Database) (env : Env) (now : Instant) (product : Product)
    (link : LinkSnapshot) (provider : VpsProvider) : List BlockerCode :=
  (db.evolutionReadiness env now provider (link.acceptingNewInstances && product.hubRelay)).1 ++
  (if provider.acceptingNewInstances then [] else [.providerPaused]) ++
  (if provider.adapterType ≠ product.adapterType || provider.adapterType ≠ "evolution" then [.adapterMismatch]
    else [])

/-- Whether a provider has no room left. -/
def Database.isFull (db : Database) (provider : VpsProvider) : Bool :=
  provider.maxInstances.any fun maxInstances =>
    decide ((db.readOccupancy provider.id).effective ≥ maxInstances)

/-- The observations on one link: a blocker blocks only where the link accepts new instances. -/
def Database.linkChecks (db : Database) (env : Env) (now : Instant) (product : Product) (link : LinkSnapshot)
    (provider : VpsProvider) : List ChangeCheck :=
  let blockers := db.prospectiveBlockers env now product link provider
  blockers.map (fun code => check now code (some provider.id) link.acceptingNewInstances) ++
  (if db.isFull provider then [check now .capacityFull (some provider.id) false] else []) ++
  (if blockers.isEmpty then [check now .verified (some provider.id) false] else [])

/-- Whether a link can take a creation. -/
def Database.isVacant (db : Database) (env : Env) (now : Instant) (product : Product) (link : LinkSnapshot)
    (provider : VpsProvider) : Bool :=
  (db.prospectiveBlockers env now product link provider).isEmpty && link.acceptingNewInstances &&
    !db.isFull provider

/-- What an administrator is asked for on a link whose callback is not confirmed: to configure the
webhook of an instance, or to set up a product for tests where there is none. -/
def Database.callbackActions (db : Database) (env : Env) (now : Instant) (product : Product)
    (link : LinkSnapshot) (provider : VpsProvider) : List RequiredAction :=
  if (db.prospectiveBlockers env now product link provider).contains .callbackUnconfirmed &&
      link.acceptingNewInstances then
    let instances := db.instances.rows.filter fun i =>
      i.productId = product.id && i.vpsProviderId = provider.id && i.isActive
    if instances.isEmpty then
      [{ code := .useDedicatedTestProduct, providerId := some provider.id, destination := .testProductSetup
         suggestedProduct := some ⟨.legacy, true, provider.id⟩ }]
    else
      [{ code := .confirmInstanceWebhook, providerId := some provider.id, destination := .callbackCheck
         instanceIds := instances.map (·.id) }]
  else []

/-- The observations on a confirmed identity, whether its link is paused or not. -/
def Database.identityChecks (db : Database) (env : Env) (now : Instant) (provider : VpsProvider) :
    List ChangeCheck :=
  (if canonicalEvolutionEndpoint env provider.providerUrl = none then
    [check now .identityUnverified (some provider.id) true] else []) ++
  (if (db.endpointAliases env provider.providerUrl (some provider.id)).isEmpty then []
    else [check now .endpointAlias (some provider.id) true])

/-- Whether a new limit affects other products that its draft does not name exactly. -/
def limitUnconfirmed (draft : EvolutionChangeInput) (update : DraftProviderUpdate)
    (observed : ProviderSnapshot) :
    Bool :=
  update.maxInstances ≠ observed.maxInstances && observed.productIds.length > 1 &&
    match draft.sharedLimits.find? fun item => item.vpsProviderId = update.vpsProviderId with
    | none => true
    | some accepted => accepted.expectedRevision ≠ observed.revision ||
        accepted.maxInstances ≠ update.maxInstances || accepted.productIds ≠ observed.productIds

/-- The readiness blockers of a provider that gets a limit; those already reported as blocking are
not repeated. -/
def Database.limitBlockers (db : Database) (env : Env) (now : Instant) (draft : EvolutionChangeInput)
    (checks : List ChangeCheck) (original : VpsProvider) : List ChangeCheck :=
  ((db.evolutionReadiness env now (original.identified env draft) false).1.filter fun code =>
    !checks.any fun c => c.code = code && c.providerId = some original.id && c.blocking).map fun code =>
      check now code (some original.id) true

/-- The observations and actions on a new limit, after those made so far. -/
def Database.checkLimit (db : Database) (env : Env) (now : Instant) (draft : EvolutionChangeInput)
    (sofar : List ChangeCheck × List RequiredAction)
    (limit : DraftProviderUpdate × ProviderSnapshot × VpsProvider) : List ChangeCheck × List RequiredAction :=
  let (update, observed, original) := limit
  let unconfirmed := limitUnconfirmed draft update observed
  let checks := sofar.1 ++
    if unconfirmed then [check now .sharedLimitConfirmation (some update.vpsProviderId) true] else []
  (checks ++ (if update.maxInstances = none then [] else db.limitBlockers env now draft checks original),
    sofar.2 ++ if unconfirmed then
      [{ code := .confirmSharedLimit, providerId := some update.vpsProviderId, destination := .draftReview
         productIds := observed.productIds }] else [])

/-- The observations on the environment and on the product. -/
def Database.environmentChecks (db : Database) (env : Env) (now : Instant) (product : Product) :
    List ChangeCheck :=
  (if env.config.evolutionAllocationEnabled then [] else [check now .distributionDisabled none true]) ++
  (if db.baseConsolidated then [] else [check now .databaseNotConsolidated none true]) ++
  (if db.writerConfirmation.isSome then [] else [check now .writersUnconfirmed none true]) ++
  (if product.isActive then [] else [check now .productInactive none true])

/-- Each item with what is found under its id, where something is. -/
def withFound {α β : Type} (items : List α) (find : α → Option β) : List (α × β) :=
  items.filterMap fun item => (find item).map (item, ·)

/-- Read what every item refers to, all of which must exist. -/
def findAll {α β : Type} (e : HubError) (items : List α) (find : α → Option β) : Tx (List (α × β)) := do
  throwWhen (items.any (fun item => (find item).isNone) = true) e
  pure (withFound items find)

/-- Evaluate a draft for the capacity policy: the environment, the links as the draft would leave them,
the identities it confirms and the limits it sets. -/
def evaluateCapacity (env : Env) (now : Instant) (product : Product) (draft : EvolutionChangeInput)
    (snapshot : ChangeSnapshot) : Tx (List ChangeCheck × List RequiredAction) := do
  let db ← get
  let links := prospectiveLinks draft snapshot
  let judged ← findAll .recordNotFound links fun link => db.providers.find? link.vpsProviderId
  let identities ← findAll .recordNotFound draft.identities fun item => db.providers.find? item.vpsProviderId
  let observed ← findAll (.internal "Cannot read properties of undefined") draft.providerUpdates fun item =>
    snapshot.providers.find? fun p => p.id = item.vpsProviderId
  let limits ← findAll .recordNotFound observed fun item => db.providers.find? item.1.vpsProviderId
  let seen := judged.map fun (link, original) => (link, original.prospective env draft)
  let checks := db.environmentChecks env now product ++
    (if draft.action = .singleDestination &&
        !links.any (fun l => draft.targetProviderId = some l.vpsProviderId)
      then [check now .targetUnavailable draft.targetProviderId true] else []) ++
    seen.flatMap (fun (link, provider) => db.linkChecks env now product link provider) ++
    (if seen.any (fun (link, provider) => db.isVacant env now product link provider) then []
      else [check now .noCapacity none true]) ++
    identities.flatMap fun (_, provider) => db.identityChecks env now provider
  let actions := seen.flatMap fun (link, provider) => db.callbackActions env now product link provider
  pure ((limits.map fun ((update, observed), original) => (update, observed, original)).foldl
    (db.checkLimit env now draft) (checks, actions))

/-- Evaluate a draft that returns to the legacy policy or gives up a link. -/
def evaluateReversal (now : Instant) (product : Product) (draft : EvolutionChangeInput)
    (snapshot : ChangeSnapshot) : Tx (List ChangeCheck × List RequiredAction) := do
  let db ← get
  let targetId ← orThrow (.internal "Argument vpsProviderId is missing") draft.targetProviderId
  let reasons := if draft.action = .restoreLegacy then db.legacyBlockers product targetId
    else db.detachBlockers product targetId
  pure (reasons.map (fun reason => check now reason (some targetId) true) ++
    (if snapshot.links.any (fun link => link.vpsProviderId = targetId) then []
      else [check now .targetUnavailable (some targetId) true]), [])

/-- The observations and actions that are particular to an action. -/
def evaluateAction (env : Env) (now : Instant) (product : Product) (draft : EvolutionChangeInput)
    (snapshot : ChangeSnapshot) : Tx (List ChangeCheck × List RequiredAction) :=
  match draft.action with
  | .restoreLegacy | .detach => evaluateReversal now product draft snapshot
  | .configureCapacity | .singleDestination => evaluateCapacity env now product draft snapshot

/-- The products a change affects: its own, and those that share a provider it edits. -/
def affectedProducts (product : Product) (draft : EvolutionChangeInput) (snapshot : ChangeSnapshot) :
    List Uuid :=
  sortedIds (product.id :: (snapshot.providers.filter fun p =>
    draft.providerUpdates.any (fun u => u.vpsProviderId = p.id) || draft.confirms p.id).flatMap
      (·.productIds))

/-- Where an administrator resolves a blocking observation. -/
def resolutionPlace (code : BlockerCode) : ActionDestination :=
  if [BlockerCode.writersUnconfirmed, .distributionDisabled, .databaseNotConsolidated].contains code then
    .environmentSetup
  else .draftReview

/-- The actions that resolve the blocking observations, but for those with actions of their own. -/
def resolutions (checks : List ChangeCheck) : List RequiredAction :=
  (checks.filter fun c =>
      c.blocking && c.code ≠ .callbackUnconfirmed && c.code ≠ .sharedLimitConfirmation).map
    fun c => { code := .resolve c.code, providerId := c.providerId, destination := resolutionPlace c.code }

/-- Evaluate a draft against the configuration it was prepared for. -/
def evaluateChange (env : Env) (now : Instant) (product : Product) (draft : EvolutionChangeInput)
    (snapshot : ChangeSnapshot) : Tx ChangeDiagnostics := do
  let current ← changeSnapshot product draft
  let found ← evaluateAction env now product draft snapshot
  let checks := (if current ≠ snapshot then [check now .configurationChanged none true] else []) ++ found.1
  pure {
    checks := checks
    requiredActions := found.2 ++ resolutions checks
    affectedProducts := affectedProducts product draft snapshot
    ready := !checks.any (·.blocking) }

end ConnectHub
