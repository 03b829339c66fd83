import ConnectHub.Auth
import Mathlib.Logic.Function.Basic

/-!
# Batches of messages

A batch is a row, a number of queued jobs and four counters in Redis. Each job is executed once, by some
worker, and the executions interleave at every access to what they share: an execution here is cut into
the steps between two such accesses, and `advance` performs one of them.
-/

namespace ConnectHub

open Store

/-- The counters of a batch. -/
inductive BatchKey
  | total (id : Uuid)
  | sent (id : Uuid)
  | failed (id : Uuid)
  | done (id : Uuid)
deriving DecidableEq, Repr

/-- The batch a counter belongs to. -/
def BatchKey.batch : BatchKey → Uuid
  | .total id | .sent id | .failed id | .done id => id

/-- The values of the counters. -/
abbrev Cache := BatchKey → Option Nat

/-- Set a counter. -/
def Cache.setWithTTL (cache : Cache) (key : BatchKey) (value : Nat) : Cache :=
  Function.update cache key (some value)

/-- The value of a counter, which starts at nothing. -/
def Cache.read (cache : Cache) (key : BatchKey) : Nat :=
  (cache key).getD 0

/-- Raise a counter by one. -/
def Cache.increment (cache : Cache) (key : BatchKey) : Cache :=
  cache.setWithTTL key (cache.read key + 1)

/-- The kinds of messages a batch sends. -/
inductive BatchMessageType
  | text
  | media
  | document
deriving DecidableEq, Repr

/-- The name of the jobs that send such messages, and of the adapter's method that does. -/
def BatchMessageType.jobName : BatchMessageType → String
  | .media => "sendMedia"
  | .document => "sendDocument"
  | .text => "sendText"

/-- What the name or the identifier of an instance stands for. -/
structure ResolvedInstance where
  instanceId : Uuid
  adapterType : String
  instanceName : String
  providerUrl : String
  providerApiKey : String
deriving DecidableEq, Repr

/-- Where the client wants to hear of a message. -/
structure BatchMessageWebhook where
  url : String
  headers : Option (List (String × String)) := none
deriving DecidableEq, Repr

/-- One message of a batch; jobs queued by older versions name no kind and carry the product's callback. -/
structure BatchJobPayload where
  batchJobId : Uuid
  productId : Uuid
  apiKeyHash : String
  instanceId : Uuid
  adapterType : String
  instanceName : String
  providerUrl : String
  providerApiKey : String
  messageType : Option BatchMessageType := none
  message : Json
  webhook : Option BatchMessageWebhook := none
  batchWebhookEnabled : Bool := false
  batchWebhookUrl : Option String := none
deriving Repr

/-- A job of the queue, which makes a single attempt. -/
structure BatchQueueJob where
  name : String
  data : BatchJobPayload
  delay : Option Rat
deriving Repr

/-- What a batch is asked to send. -/
structure BatchRequest where
  batchJobId : Uuid
  productId : Uuid
  apiKeyHash : String
  instanceId : Uuid
  adapterType : String
  instanceName : String
  providerUrl : String
  providerApiKey : String
  messages : List Json
  messageType : BatchMessageType := .text
  delayMs : Option Rat := none
  batchWebhookEnabled : Bool := false
  batchWebhookUrl : Option String := none
deriving Repr

/-- The characters that trimming a text removes. -/
def isTrimmed (c : Char) : Bool :=
  [0x9, 0xA, 0xB, 0xC, 0xD, 0x20, 0xA0, 0x1680, 0x2028, 0x2029, 0x202F, 0x205F, 0x3000, 0xFEFF].contains
      c.toNat ||
    decide (0x2000 ≤ c.toNat ∧ c.toNat ≤ 0x200A)

/-- A text without the blanks at its ends. -/
def trimmed (s : String) : String :=
  String.ofList (((s.toList.dropWhile isTrimmed).reverse.dropWhile isTrimmed).reverse)

/-- The headers of an override that are texts. -/
def textHeaders (members : List (String × Json)) : List (String × String) :=
  members.filterMap fun (name, value) => value.str?.map (name, ·)

/-- The callback that a message names for itself, unless its URL is blank. -/
def webhookOverride : Json → Option BatchMessageWebhook
  | .obj members =>
    let wh := Json.obj members
    let url := trimmed (((wh.member? "url").bind (·.str?)).getD "")
    let headers := match wh.member? "headers" with
      | some (.obj headers) => textHeaders headers
      | _ => []
    if url = "" then none else some ⟨url, if headers = [] then none else some headers⟩
  | _ => none

/-- A message apart from the callback it names for itself. -/
def stripWebhook : Json → Json × Option BatchMessageWebhook
  | .obj members =>
    (.obj (members.filter fun (name, _) => name ≠ "webhook"), (members.lookup "webhook").bind webhookOverride)
  | raw => (raw, none)

/-- The callback of a message: its own, or the product's. -/
def resolveWebhook (override : Option BatchMessageWebhook) (productEnabled : Bool)
    (productUrl : Option String) :
    Option BatchMessageWebhook :=
  override.or ((productUrl.map trimmed).bind fun url =>
    if productEnabled && url ≠ "" then some ⟨url, none⟩ else none)

/-- The jobs of a batch, one for each message. -/
def BatchRequest.jobs (request : BatchRequest) : List BatchQueueJob :=
  request.messages.mapIdx fun index raw =>
    { name := request.messageType.jobName
      data :=
        { batchJobId := request.batchJobId
          productId := request.productId
          apiKeyHash := request.apiKeyHash
          instanceId := request.instanceId
          adapterType := request.adapterType
          instanceName := request.instanceName
          providerUrl := request.providerUrl
          providerApiKey := request.providerApiKey
          messageType := some request.messageType
          message := (stripWebhook raw).1
          webhook := resolveWebhook (stripWebhook raw).2 request.batchWebhookEnabled request.batchWebhookUrl }
      delay := (request.delayMs.filter (· ≠ 0)).map (index * ·) }

/-- Note how many messages a batch has, then queue them all at once. -/
def addJobs (cache : Cache) (request : BatchRequest) : Cache × List BatchQueueJob :=
  (cache.setWithTTL (.total request.batchJobId) request.messages.length, request.jobs)

/-- Why a media call was stopped. -/
inductive MediaStopReason
  | requestTimeout
  | providerTimeout
  | downloadTimeout
  | clientDisconnected
deriving DecidableEq, Repr

/-- The text of a reason. -/
def MediaStopReason.text : MediaStopReason → String
  | .requestTimeout => "request_timeout"
  | .providerTimeout => "provider_timeout"
  | .downloadTimeout => "download_timeout"
  | .clientDisconnected => "client_disconnected"

/-- What a send threw. -/
inductive DeliveryError
  | mediaTimeout (reason : MediaStopReason)
  | error (message : String)
  | unknown
deriving DecidableEq, Repr

/-- What is reported of a send that threw. -/
def DeliveryError.text : DeliveryError → String
  | .mediaTimeout reason => "Media request timeout (" ++ reason.text ++ "); delivery not confirmed"
  | .error message => if message = "" then "Unknown delivery error" else message
  | .unknown => "Unknown delivery error"

/-- The callback that a finished message causes. -/
structure BatchWebhookJobPayload where
  batchWebhookUrl : String
  batchWebhookHeaders : Option (List (String × String))
  apiKeyHash : String
  batchJobId : Uuid
  productId : Uuid
  instanceId : Uuid
  success : Bool
  processedAt : Instant
  deliveryError : Option String
  messagePayload : Json
deriving Repr

/-- Where a message is announced: its callback, or the one an older job carries. -/
def BatchJobPayload.effectiveWebhook (payload : BatchJobPayload) : Option BatchMessageWebhook :=
  (payload.webhook.or (payload.batchWebhookUrl.bind fun url =>
    if payload.batchWebhookEnabled && url ≠ "" then some ⟨url, none⟩ else none)).filter (·.url ≠ "")

/-- What an execution does next. -/
inductive BatchPhase
  | queued
  /-- Wait for a method of the adapter to send the message. -/
  | sending (method : String)
  /-- Count the message as sent. -/
  | delivered
  /-- Count the message as failed. -/
  | refused (deliveryError : String)
  /-- Announce the message. -/
  | attempted (deliveryError : Option String)
  /-- Count the message as done. -/
  | announced (success : Bool)
  /-- Compare the number of messages done with their total. -/
  | counted (success : Bool) (done : Nat)
  /-- Read how many were sent. -/
  | last (success : Bool)
  /-- Read how many failed. -/
  | tallying (success : Bool) (sent : Nat)
  /-- Write the row. -/
  | finishing (success : Bool) (sent failed : Nat)
  | ended (success : Bool)
  | written (success : Bool)
  /-- The adapter could not be resolved. -/
  | rejected
deriving DecidableEq, Repr

/-- Whether an execution is over. -/
def BatchPhase.over : BatchPhase → Bool
  | .ended _ | .written _ | .rejected => true
  | _ => false

/-- One execution of a job. -/
structure BatchExecution where
  payload : BatchJobPayload
  phase : BatchPhase := .queued
  processedAt : Instant := 0
deriving Repr

/-- What the executions share. -/
structure BatchShared where
  cache : Cache
  batchJobs : Table BatchJob
  notifications : List BatchWebhookJobPayload := []

/-- Raise a shared counter. -/
def BatchShared.increment (shared : BatchShared) (key : BatchKey) : BatchShared :=
  { shared with cache := shared.cache.increment key }

/-- What decides a step besides what is shared: the time, what the send threw, and whether the queue takes
the announcement. -/
structure BatchInput where
  now : Instant
  delivery : Option DeliveryError := none
  accepted : Bool := true
deriving Repr

/-- The row once the batch is complete. -/
def BatchJob.completed (now : Instant) (sent failed : Nat) (row : BatchJob) : BatchJob :=
  { row with sentCount := sent, failedCount := failed, status := .completed, completedAt := some now }

/-- Announce a message, unless nobody asked for it or the queue refuses. -/
def BatchExecution.announce (execution : BatchExecution) (input : BatchInput) (deliveryError : Option String)
    (shared : BatchShared) : BatchShared :=
  match execution.payload.effectiveWebhook with
  | some webhook =>
    if input.accepted then
      { shared with
        notifications := shared.notifications ++
          [{ batchWebhookUrl := webhook.url
             batchWebhookHeaders := webhook.headers
             apiKeyHash := execution.payload.apiKeyHash
             batchJobId := execution.payload.batchJobId
             productId := execution.payload.productId
             instanceId := execution.payload.instanceId
             success := deliveryError.isNone
             processedAt := execution.processedAt
             deliveryError := deliveryError
             messagePayload := execution.payload.message }] }
    else shared
  | none => shared

/-- The next phase of an execution. -/
def BatchExecution.next (registry : List String) (input : BatchInput) (shared : BatchShared)
    (execution : BatchExecution) : BatchPhase :=
  let id := execution.payload.batchJobId
  match execution.phase with
  | .queued =>
    if registry.contains execution.payload.adapterType then
      .sending (execution.payload.messageType.getD .text).jobName
    else .rejected
  | .sending _ => match input.delivery with
    | none => .delivered
    | some error => .refused error.text
  | .delivered => .attempted none
  | .refused deliveryError => .attempted (some deliveryError)
  | .attempted deliveryError => .announced deliveryError.isNone
  | .announced success => .counted success (shared.cache.read (.done id) + 1)
  | .counted success done => if shared.cache (.total id) = some done then .last success else .ended success
  | .last success => .tallying success (shared.cache.read (.sent id))
  | .tallying success sent => .finishing success sent (shared.cache.read (.failed id))
  | .finishing success _ _ => if (shared.batchJobs.find? id).isSome then .written success else .ended success
  | .ended success => .ended success
  | .written success => .written success
  | .rejected => .rejected

/-- What an execution does to what is shared in its next step. -/
def BatchExecution.effect (input : BatchInput) (execution : BatchExecution) (shared : BatchShared) :
    BatchShared :=
  let id := execution.payload.batchJobId
  match execution.phase with
  | .delivered => shared.increment (.sent id)
  | .refused _ => shared.increment (.failed id)
  | .attempted deliveryError => execution.announce input deliveryError shared
  | .announced _ => shared.increment (.done id)
  | .finishing _ sent failed =>
    { shared with
      batchJobs := shared.batchJobs.modify (fun row => row.id = id) (·.completed input.now sent failed) }
  | .queued | .sending _ | .counted _ _ | .last _ | .tallying _ _ | .ended _ | .written _ | .rejected =>
      shared

/-- One step of an execution. -/
def BatchExecution.advance (registry : List String) (input : BatchInput) (shared : BatchShared)
    (execution : BatchExecution) : BatchExecution :=
  { execution with
    phase := execution.next registry input shared
    processedAt := if execution.phase = .queued then input.now else execution.processedAt }

/-- The executions of a batch and what they share. -/
structure BatchSystem where
  executions : List BatchExecution
  shared : BatchShared

/-- What happens in one step: an execution goes from one phase to the next, or something else happens. -/
inductive BatchEvent
  | moved (before after : BatchPhase)
  | elsewhere
deriving DecidableEq, Repr

/-- One step of the system: some execution that is not over takes its next step, or other batches and
requests go on, which touch neither the counters nor the row of this one. -/
inductive BatchStep (registry : List String) (id : Uuid) (s : BatchSystem) : BatchEvent → BatchSystem → Prop
  | moved {before after execution} (input : BatchInput)
      (position : s.executions = before ++ execution :: after)
      (running : execution.phase.over = false) :
      BatchStep registry id s (.moved execution.phase (execution.next registry input s.shared))
        { executions := before ++ execution.advance registry input s.shared :: after
          shared := execution.effect input s.shared }
  | elsewhere {shared : BatchShared}
      (counters : ∀ key : BatchKey, key.batch = id → shared.cache key = s.shared.cache key)
      (row : shared.batchJobs.find? id = s.shared.batchJobs.find? id) :
      BatchStep registry id s .elsewhere { s with shared := shared }

/-- The system once the jobs of a batch are queued. -/
def BatchSystem.start (shared : BatchShared) (request : BatchRequest) : BatchSystem where
  executions := (addJobs shared.cache request).2.map fun job => { payload := job.data }
  shared := { shared with cache := (addJobs shared.cache request).1 }

/-- The messages of a batch, on behalf of the product and to the instance it names. -/
def batchRequest (messageType : BatchMessageType) (product : AuthCachePayload) (resolved : ResolvedInstance)
    (batchJobId : Uuid) (messages : List Json) (delayMs : Option Rat) : BatchRequest where
  batchJobId := batchJobId
  productId := product.productId
  apiKeyHash := product.apiKeyHash
  instanceId := resolved.instanceId
  adapterType := resolved.adapterType
  instanceName := resolved.instanceName
  providerUrl := resolved.providerUrl
  providerApiKey := resolved.providerApiKey
  messages := messages
  messageType := messageType
  delayMs := delayMs
  batchWebhookEnabled := product.batchWebhookEnabled
  batchWebhookUrl := product.batchWebhookUrl

/-- Create the row of a batch of some kind of messages, then queue its jobs. -/
def sendBatchOf (messageType : BatchMessageType) (product : AuthCachePayload) (resolved : ResolvedInstance)
    (batchJobId : Uuid) (messages : List Json) (delayMs : Option Rat) (shared : BatchShared) :
    Option BatchSystem :=
  (shared.batchJobs.insert?
    { id := batchJobId
      productId := product.productId
      instanceId := some resolved.instanceId
      totalMessages := messages.length
      status := .processing }).map fun batchJobs =>
    .start { shared with batchJobs := batchJobs }
      (batchRequest messageType product resolved batchJobId messages delayMs)

/-- Send a batch of texts. -/
def sendBatch := sendBatchOf .text

/-- Send a batch of media. -/
def sendBatchMedia := sendBatchOf .media

/-- Send a batch of documents. -/
def sendBatchDocument := sendBatchOf .document

end ConnectHub
