import ConnectHub.Provisioning

/-!
# The relay of received events

A provider's callback is attributed to an instance of one product, or to a creation still under way, or to
nobody; the event is stored sealed, queued, validated again and posted to the product's webhook. Every
definition here is one access to the database, so that whatever else happens may happen between two.
-/

namespace ConnectHub

open Store

/-- The name and the id a received event carries. -/
structure RelayIdentity where
  name : Option String
  id : Option String
deriving DecidableEq, Repr

/-- The first of two members that is neither missing nor null. -/
def Json.coalesce (a b : Option Json) : Option Json :=
  if Json.nonNull a then a else b

/-- The text of a member, unless it is blank or no text. -/
def Json.text? (value : Option Json) : Option String :=
  (value.bind (·.str?)).filter (· ≠ "")

/-- The instance a body speaks of, when it is an object. -/
def Json.nested? (body : Json) : Option Json :=
  match body.member? "instance" with
  | some (.obj members) => some (.obj members)
  | _ => none

/-- What a body carries to identify its instance. -/
def identity (body : Json) : RelayIdentity where
  name :=
    match body.member? "instance" with
    | some (.str s) => Json.text? (some (.str s))
    | _ =>
      Json.text? (Json.coalesce (body.member? "instanceName") (body.nested?.bind (·.member? "instanceName")))
  id := Json.text? (Json.coalesce (body.member? "instanceId") (body.nested?.bind (·.member? "instanceId")))

/-- Whether a name or an id is the one carried. -/
def RelayIdentity.selects (identity : RelayIdentity) (instanceName : String)
    (providerInstanceId : Option String) :
    Bool :=
  identity.name.any (fun name => instanceName = name) || identity.id.any fun id =>
    providerInstanceId = some id

/-- Whether a name and an id are the ones carried, where any is. -/
def RelayIdentity.agrees (identity : RelayIdentity) (instanceName : String)
    (providerInstanceId : Option String) :
    Bool :=
  identity.name.all (fun name => instanceName = name) && identity.id.all fun id =>
    providerInstanceId = some id

/-- The providers an event may come from. -/
def OriginEvidence.origins (evidence : OriginEvidence) : List Uuid :=
  evidence.providerIds.getD []

/-- The evidence of an event that came with the token of a provider. -/
def OriginEvidence.token (providerId : Uuid) : OriginEvidence where
  providerIds := some [providerId]
  method := .token

/-- The evidence of an event that came from the address of some providers. -/
def OriginEvidence.peerIp (providerIds : List Uuid) : OriginEvidence where
  providerIds := some providerIds
  method := .peerIp

/-- The active instances an event may be about. -/
def Database.instancesFor (db : Database) (evidence : OriginEvidence) (identity : RelayIdentity) :
    List Instance :=
  db.instances.rows.filter fun i => evidence.origins.contains i.vpsProviderId &&
    identity.selects i.instanceName i.providerInstanceId && i.isActive

/-- The open creations an event may be about. -/
def Database.intentionsFor (db : Database) (evidence : OriginEvidence) (identity : RelayIdentity) :
    List InstanceProvisioning :=
  db.provisionings.rows.filter fun r => evidence.origins.contains r.vpsProviderId &&
    identity.selects r.instanceName r.providerInstanceId && r.isOpen

/-- The instance an event is attributed to: the only one, if it agrees and no other creation is under way. -/
def attributedInstance (identity : RelayIdentity) : List Instance → List InstanceProvisioning →
    Option Instance
  | [item], intentions =>
    if identity.agrees item.instanceName item.providerInstanceId &&
        intentions.all fun intent => intent.instanceId = some item.id then some item else none
  | _, _ => none

/-- The creation an event waits for: the only one, where no instance came into question, if it agrees as far as
it is known. -/
def awaitedIntention (identity : RelayIdentity) : List Instance → List InstanceProvisioning →
    Option InstanceProvisioning
  | [], [intent] =>
    if identity.name.all (fun name => intent.instanceName = name) && identity.id.all (fun id =>
        !truthy intent.providerInstanceId || intent.providerInstanceId = some id) then some intent else none
  | _, _ => none

/-- The delivery of an event. -/
def relayPayload (adapterType : String) (body : Json) (instance? : Option Instance)
    (intention? : Option InstanceProvisioning) : RelayJobPayload where
  version := some 2
  providerId := instance?.map (·.vpsProviderId)
  instanceId := instance?.map (·.id)
  productId := instance?.map (·.productId)
  providerInstanceId := instance?.bind (·.providerInstanceId)
  adapterType := adapterType
  instanceName := (identity body).name.getD
    ((instance?.map (·.instanceName)).getD ((intention?.map (·.instanceName)).getD ""))
  body := body

/-- The record of an event. -/
def receivedEvent (id : Uuid) (adapterType : String) (body : Json) (evidence : OriginEvidence)
    (instance? : Option Instance) (intention? : Option InstanceProvisioning) : PendingRelayEvent where
  id := id
  vpsProviderId := (instance?.map (·.vpsProviderId)).or ((intention?.map (·.vpsProviderId)).or
    (match evidence.origins with
      | [providerId] => some providerId
      | _ => none))
  instanceId := instance?.map (·.id)
  instanceName := (identity body).name
  providerInstanceId := (identity body).id
  encryptedPayload := ⟨some (relayPayload adapterType body instance? intention?)⟩
  originEvidence := some { evidence with
    provisioningId := (intention?.map (·.id)).or evidence.provisioningId }
  state := if instance?.isSome then .pending else if intention?.isSome then .waiting else .retained
  errorCode :=
    if instance?.isSome then none
    else if intention?.isSome then some .awaitingInstance else some .identityUnproven

/-- Store an event; the provider and the instance it refers to must exist. -/
def Database.storeEvent (db : Database) (event : PendingRelayEvent) : Option Database :=
  if event.vpsProviderId.all (fun id => (db.providers.find? id).isSome) &&
      event.instanceId.all fun id => (db.instances.find? id).isSome then
    (db.relayEvents.insert? event).map fun relayEvents => { db with relayEvents := relayEvents }
  else none

/-- The record of a delivery queued by an older version. -/
def legacyEvent (id : Uuid) (payload : RelayJobPayload) : PendingRelayEvent where
  id := id
  instanceName := some payload.instanceName
  encryptedPayload := ⟨some payload⟩
  originEvidence := some { method := .legacyJob }
  state := .retained
  errorCode := some .legacyOriginUnproven

/-- Keep a delivery of an older version, unless it is kept already. -/
def Database.retainLegacyJob (db : Database) (id : Uuid) (payload : RelayJobPayload) : Database :=
  match db.relayEvents.insert? (legacyEvent id payload) with
  | some relayEvents => { db with relayEvents := relayEvents }
  | none => db

/-- The instance a delivery is for, with its product, if all is still as the delivery says. -/
def Database.validateJob (db : Database) (payload : RelayJobPayload) : Option (Instance × Product) :=
  match payload.version, payload.providerId, payload.instanceId, payload.productId with
  | some 2, some providerId, some instanceId, some productId => do
    let item ← (db.instances.find? instanceId).filter fun i => i.productId = productId &&
      i.vpsProviderId = providerId && i.instanceName = payload.instanceName && i.isActive &&
      (!truthy payload.providerInstanceId || i.providerInstanceId = payload.providerInstanceId)
    let product ← db.products.find? item.productId
    let provider ← db.providers.find? item.vpsProviderId
    if (db.links.find? (item.productId, item.vpsProviderId)).isSome &&
        provider.adapterType = payload.adapterType then
      some (item, product)
    else none
  | _, _, _, _ => none

/-- The event once it is marked. -/
def PendingRelayEvent.marked (now : Instant) (state : RelayEventState) (errorCode : Option RelayErrorCode)
    (event : PendingRelayEvent) : PendingRelayEvent :=
  { event with
    state := state
    errorCode := errorCode
    resolvedAt := if state = .delivered || state = .retained then some now else event.resolvedAt }

/-- Change the events that satisfy a test. -/
@[simps]
def Database.updateEvents (db : Database) (p : PendingRelayEvent → Bool)
    (f : PendingRelayEvent → PendingRelayEvent)
    (hf : ∀ e, (f e).id = e.id := by exact fun _ => Eq.symm rfl) : Database :=
  { db with relayEvents := db.relayEvents.modify p f hf }

/-- Mark an event, unless it was delivered. -/
def Database.markEvent (db : Database) (now : Instant) (id : Option Uuid) (state : RelayEventState)
    (errorCode : Option RelayErrorCode) : Database :=
  db.updateEvents (fun e => some e.id = id && e.state ≠ .delivered) (·.marked now state errorCode)

/-- The event once it is queued. -/
def PendingRelayEvent.noted (event : PendingRelayEvent) : PendingRelayEvent :=
  { event with state := .queued, errorCode := none }

/-- Note that an event was queued. -/
def Database.noteQueued (db : Database) (id : Uuid) : Database :=
  db.updateEvents (fun e => e.id = id && e.state = .pending) (·.noted)

/-- What becomes of an event that waits for a creation. -/
inductive WaitingEvent
  | keepWaiting
  | retain (errorCode : RelayErrorCode)
  | resolve (payload : RelayJobPayload) (instanceId : Uuid)

/-- The delivery of an event once the instance of its creation is known. -/
def RelayJobPayload.resolved (intention : InstanceProvisioning) (instanceId : Uuid)
    (original : RelayJobPayload) :
    RelayJobPayload :=
  { original with
    version := some 2
    providerId := some intention.vpsProviderId
    instanceId := some instanceId
    productId := some intention.productId
    providerInstanceId := intention.providerInstanceId
    instanceName := intention.instanceName }

/-- Judge an event that waits by the creation it waits for. -/
def Database.judgeWaiting (db : Database) (event : PendingRelayEvent) : WaitingEvent :=
  match event.originEvidence.bind (·.provisioningId), event.vpsProviderId with
  | some provisioningId, some providerId =>
    match db.provisionings.find? provisioningId with
    | none => .retain .provisioningEnded
    | some intention =>
      if intention.isOpen = false ∧ intention.state ≠ .committed then .retain .provisioningEnded
      else match intention.instanceId with
        | none => .keepWaiting
        | some instanceId =>
          if ¬[ProvisioningState.creating, .uncertain, .committed].contains intention.state then .keepWaiting
          else if intention.vpsProviderId ≠ providerId ∨
              (truthy event.providerInstanceId = true ∧
                intention.providerInstanceId ≠ event.providerInstanceId) then
            .retain .identityChanged
          else match event.encryptedPayload.opened with
            | none => .keepWaiting
            | some original => .resolve (original.resolved intention instanceId) instanceId
  | _, _ => .keepWaiting

/-- The event once its instance is known. -/
def PendingRelayEvent.resolved (payload : RelayJobPayload) (instanceId : Uuid) (event : PendingRelayEvent) :
    PendingRelayEvent :=
  { event with
    state := .pending
    instanceId := some instanceId
    encryptedPayload := ⟨some payload⟩
    errorCode := none }

/-- Note the instance of an event, if it still waits; the instance must exist. -/
def Database.resolveWaiting (db : Database) (id : Uuid) (payload : RelayJobPayload) (instanceId : Uuid) :
    Option Database :=
  if (db.relayEvents.rows.any fun e => e.id = id && e.state = .waiting) &&
      (db.instances.find? instanceId).isNone then
    none
  else some (db.updateEvents (fun e => e.id = id && e.state = .waiting) (·.resolved payload instanceId))

/-- The name of an event with one separator, in upper case. -/
def normalizeEvent (toUpperCase : String → String) (value : String) : String :=
  toUpperCase (value.map fun c => if c = '.' || c = '-' then '_' else c)

/-- Whether a webhook wants an event. -/
def WebhookConfig.wants (webhook : WebhookConfig) (toUpperCase : String → String) (body : Json) : Bool :=
  webhook.events.isEmpty || ((body.member? "event").bind (·.str?)).any fun event =>
    webhook.events.any fun allowed => normalizeEvent toUpperCase allowed = normalizeEvent toUpperCase event

/-- A job of the relay queue, with the attempts made so far. -/
structure RelayJob where
  id : Uuid
  data : RelayJobPayload
  attemptsMade : Nat := 0
deriving Repr

/-- The attempts a job may take. -/
def relayAttempts : Nat := 3

/-- What the relay shares: the database and its queue. -/
structure RelayShared where
  db : Database
  queue : List RelayJob

/-- The shared state with another database. -/
def RelayShared.withDb (shared : RelayShared) (db : Database) : RelayShared :=
  { shared with db := db }

/-- What a task of the relay does next. -/
inductive RelayTask
  /-- Look for the instances an event may be about. -/
  | accept (adapterType : String) (body : Json) (evidence : OriginEvidence)
  /-- Look for the creations it may be about. -/
  | intend (adapterType : String) (body : Json) (evidence : OriginEvidence) (instances : List Instance)
  /-- Store the event. -/
  | store (adapterType : String) (body : Json) (evidence : OriginEvidence) (instances : List Instance)
      (intentions : List InstanceProvisioning)
  /-- Validate a stored event before it is queued. -/
  | publish (event : PendingRelayEvent)
  /-- Queue it. -/
  | enqueue (id : Uuid) (payload : RelayJobPayload)
  /-- Note that it is queued. -/
  | noteQueued (id : Uuid)
  /-- Mark an event. -/
  | mark (id : Option Uuid) (state : RelayEventState) (errorCode : Option RelayErrorCode)
  /-- Recover an event that a round found pending or waiting. -/
  | recover (event : PendingRelayEvent)
  /-- Note the instance of one that waited. -/
  | resolve (id : Uuid) (payload : RelayJobPayload) (instanceId : Uuid)
  /-- Read it again. -/
  | reread (id : Uuid)
  /-- Validate a job before it is delivered. -/
  | relay (job : RelayJob)
  /-- Look for the webhook of the product. -/
  | findWebhook (job : RelayJob) (item : Instance)
  /-- Post to it. -/
  | post (job : RelayJob) (item : Instance) (webhook : WebhookConfig)

/-- What is observed of a step. -/
inductive RelayEvent
  | received (body : Json) (evidence : OriginEvidence)
  | stored (id : Uuid) (body : Json) (evidence : OriginEvidence)
  | validated (payload : RelayJobPayload) (item : Instance)
  | posted (payload : RelayJobPayload) (item : Instance) (webhook : WebhookConfig)
  | silent

/-- What decides a step besides what is shared: the time, a fresh identifier, whether the post went through,
and the platform's upper case. -/
structure RelayInput where
  now : Instant
  id : Uuid
  accepted : Bool := true
  toUpperCase : String → String := String.toUpper

/-- Add a job to the queue, unless one of that id is there. -/
def RelayShared.enqueue (shared : RelayShared) (id : Uuid) (payload : RelayJobPayload) : RelayShared :=
  if shared.queue.any fun job => job.id = id then shared
  else { shared with queue := shared.queue ++ [⟨id, { payload with pendingEventId := some id }, 0⟩] }

/-- Store a received event, and publish it if it was attributed. -/
def storeReceived (input : RelayInput) (shared : RelayShared) (adapterType : String) (body : Json)
    (evidence : OriginEvidence) (instances : List Instance) (intentions : List InstanceProvisioning) :
    RelayEvent × RelayShared × Option RelayTask :=
  let instance? := attributedInstance (identity body) instances intentions
  let event := receivedEvent input.id adapterType body evidence instance?
    (awaitedIntention (identity body) instances intentions)
  match shared.db.storeEvent event with
  | none => (.silent, shared, none)
  | some db =>
    (.stored input.id body evidence, shared.withDb db,
      if instance?.isSome then some (.publish event) else none)

/-- Validate an event and go on to queue it, or give it up. -/
def publish (shared : RelayShared) (event : PendingRelayEvent) : Option RelayTask :=
  event.encryptedPayload.opened.map fun payload =>
    match shared.db.validateJob payload with
    | none => .mark event.id .retained (some .identityChanged)
    | some _ => .enqueue event.id payload

/-- Recover one event of a round. -/
def recoverEvent (shared : RelayShared) (event : PendingRelayEvent) : Option RelayTask :=
  if event.state = .waiting then
    match shared.db.judgeWaiting event with
    | .keepWaiting => none
    | .retain errorCode => some (.mark event.id .retained (some errorCode))
    | .resolve payload instanceId => some (.resolve event.id payload instanceId)
  else some (.publish event)

/-- Validate a job and go on to deliver it, or give it up. -/
def relay (shared : RelayShared) (job : RelayJob) : RelayEvent × Option RelayTask :=
  match shared.db.validateJob job.data with
  | none => (.silent, some (.mark job.data.pendingEventId .retained (some .identityChanged)))
  | some (item, product) =>
    (.validated job.data item,
      if product.hubRelay = false ∨ product.isActive = false then
        some (.mark job.data.pendingEventId .delivered (some .relayDisabled))
      else some (.findWebhook job item))

/-- Find the webhook of a product and go on to post to it, or give the job up. -/
def findWebhook (input : RelayInput) (shared : RelayShared) (job : RelayJob) (item : Instance) : RelayTask :=
  match shared.db.webhookConfigs.rows.find? fun w => w.productId = item.productId && w.isActive with
  | none => .mark job.data.pendingEventId .retained (some .destinationMissing)
  | some webhook =>
    if webhook.wants input.toUpperCase job.data.body then .post job item webhook
    else .mark job.data.pendingEventId .delivered (some .eventFiltered)

/-- What follows a post: the event is delivered, or the job failed for the last time. -/
def afterPost (input : RelayInput) (job : RelayJob) : Option RelayTask :=
  if input.accepted then some (.mark job.data.pendingEventId .delivered none)
  else if relayAttempts ≤ job.attemptsMade then
    some (.mark job.data.pendingEventId .failed (some .deliveryFailed))
  else none

/-- One statement of a task: what is observed, what is shared afterwards, and how the task goes on. -/
def RelayTask.run (input : RelayInput) (shared : RelayShared) : RelayTask →
    RelayEvent × RelayShared × Option RelayTask
  | .accept adapterType body evidence =>
    (.silent, shared,
      some (.intend adapterType body evidence (shared.db.instancesFor evidence (identity body))))
  | .intend adapterType body evidence instances =>
    (.silent, shared,
      some (.store adapterType body evidence instances (shared.db.intentionsFor evidence (identity body))))
  | .store adapterType body evidence instances intentions =>
    storeReceived input shared adapterType body evidence instances intentions
  | .publish event => (.silent, shared, ConnectHub.publish shared event)
  | .enqueue id payload => (.silent, shared.enqueue id payload, some (.noteQueued id))
  | .noteQueued id => (.silent, shared.withDb (shared.db.noteQueued id), none)
  | .mark id state errorCode =>
    (.silent, shared.withDb (shared.db.markEvent input.now id state errorCode), none)
  | .recover event => (.silent, shared, recoverEvent shared event)
  | .resolve id payload instanceId =>
    match shared.db.resolveWaiting id payload instanceId with
    | none => (.silent, shared, none)
    | some db => (.silent, shared.withDb db, some (.reread id))
  | .reread id =>
    (.silent, shared, ((shared.db.relayEvents.find? id).filter fun e => e.state = .pending).map .publish)
  | .relay job =>
    if job.data.version = some 2 then
      ((ConnectHub.relay shared job).1, shared, (ConnectHub.relay shared job).2)
    else (.silent, shared.withDb (shared.db.retainLegacyJob input.id job.data), none)
  | .findWebhook job item => (.silent, shared, some (ConnectHub.findWebhook input shared job item))
  | .post job item webhook => (.posted job.data item webhook, shared, afterPost input job)

/-- Accept a callback that came with a provider's token, and note that the provider reaches the Hub. -/
def receiveAuthenticated (db : Database) (providerId : Uuid) (token : Option String) (body : Json) :
    Option (Database × RelayTask) :=
  match db.providers.find? providerId with
  | none => none
  | some provider =>
    if provider.adapterType = "evolution" ∧ token.isSome = true ∧
        (provider.callbackTokenEncrypted.bind (·.opened)) = token then
      some (db.updateProvider providerId fun p => { p with callbackReadiness := .ready },
        .accept "evolution" body (.token providerId))
    else none

end ConnectHub
