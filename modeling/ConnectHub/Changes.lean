import ConnectHub.ChangeChecks

/-!
# Administrative changes

The life of a change: it is prepared against a snapshot, collected and evaluated by whichever replica
claims it, reviewed, and applied or cancelled. `cancel`, `callbackCheck` and `apply` read the row
under the product lock, which they hold until they commit, and then write it without conditions; each
is split here into what it reads and what it writes. The other writers are single statements, each
conditional on what it expects to find.
-/

namespace ConnectHub

open Store

/-- The change of a product. -/
def changeRow (productId id : Uuid) : Tx EvolutionChange := do
  let db ← get
  orThrow (.notFound "Preparação não encontrada neste produto")
    ((db.changes.find? id).filter fun row => row.productId = productId)

/-- Change the changes that satisfy a test. -/
@[simps]
def Database.updateChanges (db : Database) (p : EvolutionChange → Bool)
    (f : EvolutionChange → EvolutionChange)
    (hf : ∀ c, (f c).id = c.id := by exact fun _ => Eq.symm rfl) : Database :=
  { db with changes := db.changes.modify p f hf }

/-- The changes after those that satisfy a test are changed. -/
theorem mem_updateChanges {db : Database} {p : EvolutionChange → Bool} {f : EvolutionChange → EvolutionChange}
    {hf : ∀ c, (f c).id = c.id} {c' : EvolutionChange} : c' ∈ (db.updateChanges p f hf).changes ↔
      ∃ c ∈ db.changes, (if p c then f c else c) = c' := by
  simp only [Database.updateChanges_changes, Table.mem_modify]

/-- Lock a product and the providers a draft is about, and read the configuration under those locks. -/
def lockChange (productId : Uuid) (draft : EvolutionChangeInput) : Tx (Product × ChangeSnapshot) := do
  let product ← lockProduct productId
  let snapshot ← changeSnapshot product draft
  pure (product, snapshot)

/-- Whether a link of the draft was not drawn up against the link that exists. -/
def DraftLink.stale (snapshot : ChangeSnapshot) (item : DraftLink) : Bool :=
  match snapshot.links.find? fun link => link.vpsProviderId = item.vpsProviderId with
  | some previous => item.expectedRevision ≠ some previous.configurationRevision
  | none => item.expectedRevision.isSome

/-- The global changes of a draft: the provider each is about and the revision its author saw. -/
def EvolutionChangeInput.globalItems (draft : EvolutionChangeInput) : List (Uuid × Nat) :=
  draft.providerUpdates.map (fun u => (u.vpsProviderId, u.expectedRevision)) ++
  draft.identities.map (fun i => (i.vpsProviderId, i.expectedRevision)) ++
  draft.sharedLimits.map fun l => (l.vpsProviderId, l.expectedRevision)

/-- Refuse a draft that was not drawn up against the configuration. -/
def validateDraft (draft : EvolutionChangeInput) (snapshot : ChangeSnapshot) : Tx Unit := do
  let linked := snapshot.links.map (·.vpsProviderId) ++ draft.links.map (·.vpsProviderId)
  let provider := fun id : Uuid => snapshot.providers.find? fun p => p.id = id
  assertRevision snapshot.product.revision draft.expectedRevision
  throwWhen (draft.links.any (·.stale snapshot) = true) (.conflict "Revise os vínculos do rascunho")
  throwWhen (draft.globalItems.any (fun item => !linked.contains item.1) = true)
    (.conflict "Mudança global exige vínculo explícito no produto")
  throwWhen (draft.globalItems.any (fun item => (provider item.1).any fun p => p.revision ≠ item.2) = true)
    (.conflict "Configuração alterada; consulte novamente")
  throwWhen (draft.identities.any (fun item =>
      (provider item.vpsProviderId).any fun p => p.identityStatus = .verified) = true)
    (.conflict "Identidade já confirmada; atualize o rascunho")
  throwWhen (draft.sharedLimits.any (fun impact => !draft.providerUpdates.any fun u =>
      u.vpsProviderId = impact.vpsProviderId && u.maxInstances = impact.maxInstances) = true)
    (.conflict "Aceite de limite não corresponde ao rascunho")

/-- Prepare a change, or return the one that was prepared under the same request. -/
def create (now : Instant) (productId : Uuid) (input : EvolutionChangeInput) (id : Uuid) :
    Tx EvolutionChange := do
  let draft := normalizeDraft input
  let locked ← lockChange productId draft
  let db ← get
  match db.changes.rows.find? fun c => c.productId = productId && c.draft.requestId = draft.requestId with
  | some previous => do
    throwWhen (previous.draft ≠ draft) (.conflict "requestId já utilizado com outro conteúdo")
    pure previous
  | none => do
    validateDraft draft locked.2
    let row : EvolutionChange :=
      { id, productId, draft, snapshot := locked.2, executionDeadline := now + 120000,
        expiresAt := now + 1800000 }
    let changes ← orThrow .uniqueViolation (db.changes.insert? row)
    set { db with changes := changes }
    pure row

/-- The states a change does not leave. -/
def terminal : List ChangeStatus := [.applied, .cancelled, .expired, .failed]

/-- Whether a change has run out of time. -/
def EvolutionChange.overdue (now : Instant) (row : EvolutionChange) : Bool :=
  decide (row.expiresAt ≤ now) ||
    ([ChangeStatus.queued, .running].contains row.status && decide (row.executionDeadline ≤ now))

/-- The change once it expired. -/
def EvolutionChange.expired (row : EvolutionChange) : EvolutionChange :=
  { row with status := .expired, stage := .prepareAgain, leaseOwner := none, leaseExpiresAt := none,
             revision := row.revision + 1 }

/-- Expire a change that ran out of time, if it still is as it was seen. -/
def expire (now : Instant) (seen : EvolutionChange) : Tx Unit :=
  doWhen (terminal.contains seen.status = false ∧ seen.overdue now = true)
    (modify (·.updateChanges (fun c => c.id = seen.id && c.revision = seen.revision && c.status = seen.status)
      (·.expired)))

/-- The change once an evaluation was noted. -/
def EvolutionChange.evaluated (diagnostics : ChangeDiagnostics) (row : EvolutionChange) : EvolutionChange :=
  { row with
    diagnostics := some diagnostics
    status := if diagnostics.ready then .ready else .actionRequired
    stage := if diagnostics.ready then .review else .requiredActions
    revision := row.revision + 1 }

/-- What tells two evaluations apart: all but the times of their observations. -/
def ChangeDiagnostics.stable (diagnostics : ChangeDiagnostics) : ChangeDiagnostics :=
  { diagnostics with checks := diagnostics.checks.map fun c => { c with observedAt := 0 } }

/-- The last statement of `get`: note the evaluation of a change that awaits review, where it brought
something new and the change still is as it was seen. -/
def noteEvaluation (seen : EvolutionChange) (diagnostics : ChangeDiagnostics) : Tx Unit :=
  doWhen ((seen.status = .ready ∨ seen.status = .actionRequired) ∧
      (seen.diagnostics.map (·.stable) ≠ some diagnostics.stable ∨
      (seen.evaluated diagnostics).status ≠ seen.status))
    (modify (·.updateChanges (fun c => c.id = seen.id && c.revision = seen.revision && c.status = seen.status)
      (·.evaluated diagnostics)))

/-- The change once it is cancelled. -/
def EvolutionChange.cancelled (row : EvolutionChange) : EvolutionChange :=
  { row with status := .cancelled, stage := .cancelled, leaseOwner := none, leaseExpiresAt := none,
             revision := row.revision + 1 }

/-- What `cancel` reads under the product lock: whether there is something to cancel. -/
def cancelRead (productId id : Uuid) (revision : Nat) : Tx Bool := do
  let _ ← lockProduct productId
  let current ← changeRow productId id
  match current.status with
  | .cancelled => pure false
  | .applied => throw (.conflict "Configuração aplicada; prepare uma reversão")
  | _ => do
    assertRevision current.revision revision
    pure true

/-- What `cancel` writes. -/
def cancelWrite (id : Uuid) : Tx Unit :=
  modify (·.updateChanges (fun c => c.id = id) (·.cancelled))

/-- A request to confirm a callback through an instance. -/
structure CallbackCheckDto where
  expectedOperationRevision : Nat
  instanceId : Uuid
  confirmWebhookUpdate : Bool
deriving DecidableEq, Repr

/-- The change once its callback is to be confirmed. -/
def EvolutionChange.callbackQueued (work : CallbackWork) (row : EvolutionChange) : EvolutionChange :=
  { row with
    status := .queued
    stage := .callbackQueued
    callback := some work
    revision := row.revision + 1 }

/-- What `callbackCheck` reads under the product lock: the callback to confirm. -/
def callbackRead (now : Instant) (productId id : Uuid) (dto : CallbackCheckDto) (actor : String) :
    Tx CallbackWork := do
  let product ← lockProduct productId
  let current ← changeRow productId id
  assertRevision current.revision dto.expectedOperationRevision
  throwWhen (dto.confirmWebhookUpdate = false ∨ product.hubRelay = false ∨ current.status ≠ .actionRequired ∨
    current.executionDeadline ≤ now) (.conflict "Prepare novamente antes de configurar o webhook")
  let db ← get
  let item ← orThrow (.conflict "Selecione uma instância própria indicada nesta preparação")
    ((db.instances.find? dto.instanceId).filter fun i => i.productId = productId && i.isActive)
  throwWhen (current.diagnostics.any (fun d => d.requiredActions.any fun action =>
      action.code = .confirmInstanceWebhook && action.providerId = some item.vpsProviderId &&
        action.instanceIds.contains item.id) = false)
    (.conflict "Selecione uma instância própria indicada nesta preparação")
  pure ⟨item.id, item.vpsProviderId, .queued, actor⟩

/-- What `callbackCheck` writes. -/
def callbackWrite (id : Uuid) (work : CallbackWork) : Tx Unit :=
  modify (·.updateChanges (fun c => c.id = id) (·.callbackQueued work))

/-- The provider with a new limit. -/
def VpsProvider.limited (maxInstances : Option Nat) (provider : VpsProvider) : VpsProvider :=
  { provider with maxInstances := maxInstances, configurationRevision := provider.configurationRevision + 1 }

/-- The provider once its identity is certified. -/
def VpsProvider.certified (env : Env) (provider : VpsProvider) : VpsProvider :=
  { provider.confirmed env with configurationRevision := provider.configurationRevision + 1 }

/-- A link as the draft edits it; fields the draft leaves out keep their value. -/
def ProductEvolution.edited (item : DraftLink) (link : ProductEvolution) : ProductEvolution :=
  { link with
    allocationPriority := item.allocationPriority.getD link.allocationPriority
    acceptingNewInstances := item.acceptingNewInstances.getD link.acceptingNewInstances
    configurationRevision := link.configurationRevision + 1 }

/-- The database once a link is edited or created. -/
def Database.upsertLink (db : Database) (productId : Uuid) (item : DraftLink) : Database :=
  match db.links.insert?
      { productId := productId, vpsProviderId := item.vpsProviderId
        allocationPriority := item.allocationPriority.getD 0
        acceptingNewInstances := item.acceptingNewInstances.getD false } with
  | some links => { db with links := links }
  | none => { db with links := db.links.modify (fun l => l.productId = productId &&
      l.vpsProviderId = item.vpsProviderId) (·.edited item) }

/-- A link that is opened or closed. -/
def ProductEvolution.switched (acceptingNewInstances : Bool) (link : ProductEvolution) : ProductEvolution :=
  { link with acceptingNewInstances, configurationRevision := link.configurationRevision + 1 }

/-- The database once a product accepts new instances on one provider alone. -/
def Database.selectOnly (db : Database) (productId targetId : Uuid) : Database :=
  { db with
    links := (db.links.modify (fun l => l.productId = productId && l.vpsProviderId ≠ targetId)
      (·.switched false)).modify
        (fun l => l.productId = productId && l.vpsProviderId = targetId) (·.switched true) }

/-- Accept new instances on the target alone; its link must exist. -/
def selectDestination (productId : Uuid) (targetId : Option Uuid) : Tx Unit := do
  let targetId ← orThrow (.internal "Argument vpsProviderId is missing") targetId
  let db ← get
  throwWhen (db.links.find? (productId, targetId) = none) .recordNotFound
  set (db.selectOnly productId targetId)

/-- The database with the limits, identities and links of a draft written. -/
def Database.applyDraft (db : Database) (env : Env) (productId : Uuid) (draft : EvolutionChangeInput) :
    Database :=
  let limited := draft.providerUpdates.foldl
    (fun db update => db.updateProvider update.vpsProviderId (·.limited update.maxInstances)) db
  let certified := draft.identities.foldl
    (fun db identity => db.updateProvider identity.vpsProviderId (·.certified env)) limited
  draft.links.foldl (fun db item => db.upsertLink productId item) certified

/-- Give up the link to the target. -/
def detachTarget (product : Product) (targetId : Option Uuid) : Tx Unit := do
  let targetId ← orThrow (.internal "Argument vpsProviderId is missing") targetId
  detachEmptyLink product targetId

/-- The product under the policy a draft asks for. -/
def Product.reallocated (draft : EvolutionChangeInput) (product : Product) : Product :=
  { product with
    allocationRevision := product.allocationRevision + 1
    allocationMode := match draft.action with
      | .restoreLegacy => .legacy
      | .detach => product.allocationMode
      | .configureCapacity | .singleDestination => .capacity
    vpsProviderId := if draft.action = .restoreLegacy then draft.targetProviderId else product.vpsProviderId }

/-- The change once it is applied. -/
def EvolutionChange.applied (audit : ChangeAudit) (diagnostics : ChangeDiagnostics) (row : EvolutionChange) :
    EvolutionChange :=
  { row with status := .applied, stage := .applied, result := some audit, diagnostics := some diagnostics,
             revision := row.revision + 1, leaseOwner := none, leaseExpiresAt := none }

/-- What `apply` goes on with once it has read and judged everything. -/
structure ApplyPlan where
  id : Uuid
  product : Product
  draft : EvolutionChangeInput
  before : ChangeSnapshot
  diagnostics : ChangeDiagnostics
deriving DecidableEq, Repr

/-- What `apply` reads under the locks: its plan, or nothing for a change that is applied already. -/
def applyRead (env : Env) (now : Instant) (productId id : Uuid) (revision : Nat) : Tx (Option ApplyPlan) := do
  let initial ← changeRow productId id
  let locked ← lockChange productId initial.draft
  let current ← changeRow productId id
  if current.status = .applied then pure none
  else do
    assertRevision current.revision revision
    throwWhen (current.status ≠ .ready ∨ current.expiresAt ≤ now)
      (.conflict "Preparação não está pronta ou expirou")
    let diagnostics ← evaluateChange env now locked.1 initial.draft current.snapshot
    throwWhen (diagnostics.ready = false) (.blocked "Prepare novamente; as condições mudaram"
      ((diagnostics.checks.filter (·.blocking)).map (·.code)))
    pure (some ⟨id, locked.1, initial.draft, locked.2, diagnostics⟩)

/-- The policy effects of a draft. -/
def applyEffects (env : Env) (product : Product) (draft : EvolutionChangeInput) : Tx Unit := do
  modify (·.applyDraft env product.id draft)
  doWhen (draft.action = .singleDestination) (selectDestination product.id draft.targetProviderId)
  doWhen (draft.action = .detach) (detachTarget product draft.targetProviderId)
  modify (·.updateProduct product.id (·.reallocated draft))

/-- What `apply` writes: the policy effects of the draft, and the change as applied. -/
def applyWrite (env : Env) (plan : ApplyPlan) (actor : String) : Tx Unit := do
  applyEffects env plan.product plan.draft
  let db ← get
  let product ← orThrow .recordNotFound (db.products.find? plan.product.id)
  let after ← changeSnapshot product plan.draft
  let audit : ChangeAudit :=
    ⟨plan.id, actor, plan.before, after, plan.diagnostics.affectedProducts⟩
  modify (·.updateChanges (fun c => c.id = plan.id) (·.applied audit plan.diagnostics))

/-- The transaction of `apply`. The expiry check before it is a step of its own. -/
def apply (env : Env) (now : Instant) (productId id : Uuid) (revision : Nat) (actor : String) : Tx Bool := do
  let plan ← applyRead env now productId id revision
  match plan with
  | none => pure false
  | some plan => do
    applyWrite env plan actor
    pure true

/-- Whether a change can be claimed: it is queued or running, and nobody holds it. -/
def EvolutionChange.claimable (now : Instant) (row : EvolutionChange) : Bool :=
  [ChangeStatus.queued, .running].contains row.status && row.leaseExpiresAt.all fun at_ => decide (at_ ≤ now)

/-- The change once an executor took it. -/
def EvolutionChange.claimed (now : Instant) (owner : Uuid) (row : EvolutionChange) : EvolutionChange :=
  { row with status := .running, stage := .checking, leaseOwner := some owner,
             leaseExpiresAt := some (min (now + 10000) row.executionDeadline), revision := row.revision + 1 }

/-- The first transaction of `processNext`, on the candidate it found unlocked: take it, or expire it
once its time is over. The row stays locked until the transaction commits. -/
def claimChange (now : Instant) (id owner : Uuid) : Tx Unit :=
  modify fun db => (db.updateChanges
      (fun c => c.id = id && c.claimable now && decide (c.executionDeadline ≤ now))
    (·.expired)).updateChanges (fun c => c.id = id && c.claimable now && decide (now < c.executionDeadline))
    (·.claimed now owner)

/-- Whether an executor still holds a change. -/
def EvolutionChange.heldBy (id : Uuid) (owner : Option Uuid) (row : EvolutionChange) : Bool :=
  row.id = id && row.leaseOwner = owner && row.status = .running

/-- Keep a change while its collection goes on. -/
def extendLease (now : Instant) (id : Uuid) (owner : Option Uuid) (executionDeadline : Instant) : Tx Unit :=
  modify (·.updateChanges (fun c => c.heldBy id owner && c.leaseExpiresAt.any fun at_ => decide (at_ > now))
    fun c => { c with leaseExpiresAt := some (min (now + 10000) executionDeadline) })

/-- Note that the callback is being confirmed. -/
def noteSyncing (id : Uuid) (owner : Option Uuid) (work : CallbackWork) : Tx Unit :=
  modify (·.updateChanges (·.heldBy id owner) fun c => { c with callback := some work })

/-- The change once its collection ended with an evaluation. -/
def EvolutionChange.collected (diagnostics : ChangeDiagnostics) (callback : Option CallbackWork)
    (row : EvolutionChange) : EvolutionChange :=
  { row.evaluated diagnostics with callback := callback, leaseOwner := none, leaseExpiresAt := none }

/-- End a collection with an evaluation, if the change is still held. -/
def completeChange (id : Uuid) (owner : Option Uuid) (diagnostics : ChangeDiagnostics)
    (callback : Option CallbackWork) : Tx Unit :=
  modify (·.updateChanges (·.heldBy id owner) (·.collected diagnostics callback))

/-- The change once its collection failed, or ran out of time. -/
def EvolutionChange.interrupted (now : Instant) (aborted conflict : Bool) (callback : Option CallbackWork)
    (row : EvolutionChange) : EvolutionChange :=
  { row with
    status := if aborted then .expired else .failed
    stage := .prepareAgain
    diagnostics := some {
      checks := [check now (if conflict then .configurationChanged else .preparationFailed) none true]
      requiredActions := [{ code := .prepareAgain, destination := .draftReview }]
      affectedProducts := [row.productId]
      ready := false }
    callback := callback
    revision := row.revision + 1
    leaseOwner := none
    leaseExpiresAt := none }

/-- End a collection that failed, if the change is still held. -/
def failChange (now : Instant) (id : Uuid) (owner : Option Uuid) (aborted conflict : Bool)
    (callback : Option CallbackWork) : Tx Unit :=
  modify (·.updateChanges (·.heldBy id owner) (·.interrupted now aborted conflict callback))

end ConnectHub
