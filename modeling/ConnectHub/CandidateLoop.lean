import ConnectHub.CreationTasks
import ConnectHub.RelayConfiguration

/-!
# The candidates of a creation

`prepare` builds the payload of a creation and tries the candidate providers in order. The payload is one
object for all of them: with the relay on, each candidate that gets as far points its webhook at the Hub under
its own name and token, and a candidate that is refused afterwards leaves it so for the next one. What was
decided elsewhere decides each statement from outside, as for the executors; in particular the tables may have
changed between any two statements.
-/

namespace ConnectHub

open Store

variable {ω : Type}

/-- The default webhook of a product. -/
structure ProductDefaultWebhook where
  enabled : Bool := true
  url : String
  headers : Option (List (String × String)) := none
  byEvents : Bool := false
  base64 : Bool := false
  events : List String := []
deriving DecidableEq, Repr

/-- A default webhook as the payload has it. -/
def ProductDefaultWebhook.config (webhook : ProductDefaultWebhook) : InstanceDefaultWebhookConfig where
  enabled := some webhook.enabled
  url := webhook.url
  headers := webhook.headers
  byEvents := some webhook.byEvents
  base64 := some webhook.base64
  events := some webhook.events

/-- What the turn of a candidate meets, statement by statement. -/
structure CandidateTurn (ω : Type) where
  execution : QrRequestContext
  found : Database
  foundAt : Instant
  refreshed : Except HubError VpsProvider := .error (.internal "event=evolution_inventory_unconfirmed")
  listed : Except HubError (List InstanceDto) := .error (.internal "event=evolution_inventory_unconfirmed")
  observed : QrRequestContext
  configured : Database
  world : ω
  reserved : Database
  reservedAt : Instant
  reserving : QrRequestContext
  ticketId : Uuid
  leaseOwner : Uuid
  failed : QrRequestContext

/-- What `prepare` meets before the first candidate, and the turn of each candidate. -/
structure PrepareInput (ω : Type) where
  execution : QrRequestContext
  tables : Database
  hostListed : Except HubError (List InstanceDto) := .error (.internal "event=evolution_inventory_unconfirmed")
  hostAsked : QrRequestContext
  hostAnswered : QrRequestContext
  removing : Database
  listing : Database
  defaultWebhook : Option ProductDefaultWebhook := none
  drawn : String
  turn : Uuid → CandidateTurn ω

/-- A creation that is reserved, and the tables its reservation was committed to. -/
structure PreparedProvisioning where
  ticket : ProvisioningTicket
  provider : VpsProvider
  payload : ProvisioningPayload
  tables : Database

/-- A step of the turn of a candidate, which may rewrite the payload. -/
abbrev Turn (α : Type) := Attempt ProvisioningPayload HubError α

/-- Run a transaction, or a statement alone, on the tables it meets. -/
def runOn {α : Type} (db : Database) (tx : Tx α) : Turn (α × Database) :=
  match tx.run db with
  | .ok result => pure result
  | .error failure => throw failure

/-- Take an answer. -/
def answered {α : Type} (answer : Except HubError α) : Turn α :=
  match answer with
  | .ok value => pure value
  | .error failure => throw failure

section Webhook

variable (env : SyncEnv ω)

/-- Where the sessions of a provider call the Hub. -/
def relayUrl (providerId : Uuid) : String :=
  relayBaseUrl env ++ "/internal/webhook/evolution/" ++ providerId.value

/-- The headers that are not the private one of the Hub. -/
def InstanceDefaultWebhookConfig.ownHeaders (webhook : InstanceDefaultWebhookConfig) :
    List (String × String) :=
  (webhook.headers.getD []).filter fun header => !env.isRelayToken header.1

/-- The webhook that calls the Hub on behalf of a provider. -/
def InstanceDefaultWebhookConfig.relayed (webhook : InstanceDefaultWebhookConfig) (providerId : Uuid)
    (token : String) : InstanceDefaultWebhookConfig :=
  { webhook with
    enabled := some (webhook.enabled.getD true)
    url := relayUrl env providerId
    headers := some (webhook.ownHeaders env ++ [(relayTokenHeader, token)]) }

/-- The webhook that calls the Hub, and the tables once the provider has its token. -/
def relayDefaultWebhook (db : Database) (world : ω) (providerId : Uuid)
    (webhook : InstanceDefaultWebhookConfig) : Except HubError (InstanceDefaultWebhookConfig × Database) :=
  match db.providers.find? providerId with
  | none => .error .recordNotFound
  | some provider =>
    match callbackToken env world provider with
    | none => .error (.internal "Unsupported state or unable to authenticate data")
    | some token => .ok (webhook.relayed env providerId token, db.withCallbackToken provider token)

/-- The webhook a payload starts from when neither the product nor the client gives one. -/
def generatedWebhook (output : Option WebhookConfig) : InstanceDefaultWebhookConfig where
  enabled := some true
  url := ""
  events := some ((output.map (·.events)).getD [])

/-- The webhook that a candidate rewrites: the one of the payload, the one of the client, or a new one. -/
def ProvisioningPayload.baseWebhook (payload : ProvisioningPayload) (dto : CreateInstanceDto)
    (output : Option WebhookConfig) : InstanceDefaultWebhookConfig :=
  payload.webhook.getD (dto.webhook.getD (generatedWebhook output))

/-- The payload with a webhook that is still to be applied; a client that gave one has it replaced. -/
def ProvisioningPayload.withWebhook (payload : ProvisioningPayload) (dto : CreateInstanceDto)
    (webhook : InstanceDefaultWebhookConfig) : ProvisioningPayload :=
  { payload with
    webhook := some webhook
    webhookApplied := false
    request := if dto.webhook.isSome then { payload.request with webhook := some webhook }
      else payload.request }

/-- The payload before any candidate is tried. -/
def initialPayload (dto : CreateInstanceDto) (drawn : String) (webhook : Option ProductDefaultWebhook) :
    ProvisioningPayload :=
  let token := (dto.token.filter fun given => given ≠ "").getD drawn
  { token := token
    clientToken := dto.token
    request := { dto with token := some token }
    webhookApplied := webhook.isNone
    webhook := webhook.map (·.config) }

end Webhook

section Turns

variable (env : Env) (sync : SyncEnv ω) (product : Product) (dto : CreateInstanceDto) (checked : List Uuid)

/-- See that a candidate is fresh, or that it does not list the name yet. -/
def CandidateTurn.observe (turn : CandidateTurn ω) (provider : VpsProvider) : Turn VpsProvider :=
  if product.allocationMode = .capacity ∨ provider.maxInstances ≠ none then
    if isFresh env turn.foundAt provider = true then pure provider else answered turn.refreshed
  else if provider.id ∈ checked then pure provider
  else do
    let rows ← answered turn.listed
    let remote ← runOn turn.found (normalizeInventory rows)
    if remote.1.any (fun item => item.instanceName = dto.instanceName) = true then
      throw (.conflict "Instância já existe no provider; remova-a ou importe-a antes de criar")
    else pure provider

/-- Point the webhook of the payload at the Hub, on behalf of a candidate. -/
def CandidateTurn.buildWebhook (turn : CandidateTurn ω) (providerId : Uuid) : Turn Unit := do
  let payload ← get
  let base := payload.baseWebhook dto (turn.configured.activeWebhookConfig product.id)
  let webhook ← answered (relayDefaultWebhook sync turn.configured turn.world providerId base)
  set (payload.withWebhook dto webhook.1)

/-- With the relay on, the webhook of the payload is built for each candidate anew. -/
def CandidateTurn.configure (turn : CandidateTurn ω) (providerId : Uuid) : Turn Unit :=
  if product.hubRelay then turn.buildWebhook sync product dto providerId else pure ()

/-- Reserve the name and a slot on a candidate, and seal the payload as it is. -/
def CandidateTurn.reserve (turn : CandidateTurn ω) (candidates : List Uuid) (providerId : Uuid)
    (observed : VpsProvider) : Turn PreparedProvisioning := do
  let payload ← get
  let result ← runOn turn.reserved (prepareReservation env turn.reservedAt turn.reserving product.id
    providerId ⟨product, observed, candidates⟩ payload dto.instanceName turn.ticketId turn.leaseOwner)
  pure { ticket := result.1.1, provider := result.1.2, payload := payload, tables := result.2 }

/-- Try one candidate: observe it, build its webhook, and reserve the name on it. -/
def CandidateTurn.attempt (turn : CandidateTurn ω) (candidates : List Uuid) (provider : VpsProvider) :
    Turn PreparedProvisioning := do
  let observed ← turn.observe env product dto checked provider
  let _ ← runOn turn.found turn.observed.assertActive
  turn.configure sync product dto provider.id
  turn.reserve env product dto candidates provider.id observed

/-- What a candidate's failure ends the creation with, or nothing if the next candidate is tried. -/
def CandidateTurn.outcome (turn : CandidateTurn ω) (failure : HubError) : Option HubError :=
  match turn.failed.assertActive.run turn.found with
  | .error stopped => some stopped
  | .ok _ =>
    match failure with
    | .uniqueViolation => some (.conflict "Nome de instância já utilizado ou em resolução")
    | .serviceUnavailable _ => if product.allocationMode = .capacity then none else some failure
    | _ => some failure

/-- Try candidates until one takes the creation. -/
def tryCandidates (candidates : List Uuid) :
    List (Uuid × CandidateTurn ω) → ProvisioningPayload → Except HubError PreparedProvisioning
  | [], _ => .error unavailable
  | (providerId, turn) :: turns, payload =>
    match turn.execution.assertActive.run turn.found with
    | .error stopped => .error stopped
    | .ok _ =>
      match (turn.found.providers.find? providerId).filter (·.isActive) with
      | none =>
        if product.allocationMode = .capacity then tryCandidates candidates turns payload
        else .error (.notFound "VpsProvider nao encontrado ou inativo")
      | some provider =>
        match (turn.attempt env sync product dto checked candidates provider).run payload with
        | .ok prepared _ => .ok prepared
        | .error failure left =>
          match turn.outcome product failure with
          | none => tryCandidates candidates turns left
          | some ending => .error ending

end Turns

section Preflight

variable (env : Env) (sync : SyncEnv ω) (productId : Uuid) (dto : CreateInstanceDto) (input : PrepareInput ω)

/-- Clear the name of a session the Hub still has but the provider does not list any more: the provider that
was asked. -/
def prepareName (product : Product) : Except HubError (List Uuid) := do
  let db := input.tables
  if db.provisionings.rows.any (fun row => row.productId = product.id && row.instanceName = dto.instanceName &&
      row.isOpen) = true then
    throw (.conflict "Criação ainda em resolução para esta instância")
  match db.instances.rows.find? fun item =>
      item.productId = product.id && item.instanceName = dto.instanceName with
  | none => pure []
  | some existing =>
    match db.providers.find? existing.vpsProviderId with
    | none => throw .recordNotFound
    | some host =>
      let _ ← input.hostAsked.assertActive.run db
      let rows ← input.hostListed
      let remote ← (normalizeInventory rows).run db
      if remote.1.any (fun item => item.instanceName = existing.instanceName) = true then
        throw (.conflict ("Instância \"" ++ dto.instanceName ++ "\" já existe neste produto e no provider (id: " ++
          existing.id.value ++ ")"))
      let _ ← input.hostAnswered.assertActive.run db
      let _ ← (removeConfirmed existing.id product.id host.id none).run input.removing
      pure [host.id]

/-- The providers that are tried for a creation, in order. -/
def prepareCandidates (product : Product) : Except HubError (List Uuid) :=
  if product.allocationMode = .capacity then
    if env.config.evolutionAllocationEnabled = true then .ok (input.listing.allocationCandidates product.id)
    else .error unavailable
  else
    match product.vpsProviderId with
    | some providerId => .ok [providerId]
    | none => .error (.badRequest "Produto sem VpsProvider associado")

/-- Reserve the name and a slot for a creation on the first candidate that takes it. -/
def prepare : Except HubError PreparedProvisioning := do
  let _ ← input.execution.assertActive.run input.tables
  match input.tables.products.find? productId with
  | none => throw (.notFound "Produto não encontrado")
  | some product =>
    if product.isActive = false then throw (.badRequest "Produto inativo")
    let checked ← prepareName dto input product
    let candidates ← prepareCandidates env input product
    tryCandidates env sync product dto checked candidates
      (candidates.map fun providerId => (providerId, input.turn providerId))
      (initialPayload dto input.drawn input.defaultWebhook)

end Preflight

/-- The token that a candidate's turn finds or draws for it. -/
def CandidateTurn.token (env : SyncEnv ω) (turn : CandidateTurn ω) (providerId : Uuid) : Option String :=
  (turn.configured.providers.find? providerId).bind (callbackToken env turn.world)

/-- The webhook configuration of the product that a candidate's turn finds. -/
def CandidateTurn.output (turn : CandidateTurn ω) (productId : Uuid) : Option WebhookConfig :=
  turn.configured.activeWebhookConfig productId

section Relayed

variable {env : SyncEnv ω} {webhook : InstanceDefaultWebhookConfig} {p q : Uuid} {t u : String}

/-- The private header is the private header. -/
theorem isRelayToken_relayTokenHeader : env.isRelayToken relayTokenHeader = true :=
  decide_eq_true rfl

/-- Pointing a webhook at the Hub leaves the other headers alone. -/
theorem ownHeaders_relayed : (webhook.relayed env p t).ownHeaders env = webhook.ownHeaders env := by
  have htoken : (!env.isRelayToken relayTokenHeader) = false := by
    rw [isRelayToken_relayTokenHeader]
    rfl
  have hkept : (webhook.ownHeaders env).filter (fun header => !env.isRelayToken header.1) =
      webhook.ownHeaders env := by
    unfold InstanceDefaultWebhookConfig.ownHeaders
    rw [List.filter_filter]
    simp only [Bool.and_self]
  change (webhook.ownHeaders env ++ [(relayTokenHeader, t)]).filter
    (fun header => !env.isRelayToken header.1) = _
  rw [List.filter_append, hkept, List.filter_cons_of_neg (by simp only [htoken]; decide), List.filter_nil,
    List.append_nil]

/-- Only the last provider a webhook was pointed at the Hub for counts. -/
theorem relayed_relayed : (webhook.relayed env p t).relayed env q u = webhook.relayed env q u := by
  have hheaders := @ownHeaders_relayed _ env webhook p t
  unfold InstanceDefaultWebhookConfig.relayed at hheaders ⊢
  rw [hheaders]
  simp only [Option.getD_some]

/-- A webhook that calls the Hub has the private header once, with its own token. -/
theorem relayed_privateHeaders : ((webhook.relayed env q u).headers.getD []).filter
    (fun header => env.isRelayToken header.1) = [(relayTokenHeader, u)] := by
  have hkept : (webhook.ownHeaders env).filter (fun header => env.isRelayToken header.1) = [] := by
    unfold InstanceDefaultWebhookConfig.ownHeaders
    rw [List.filter_filter]
    simp only [Bool.and_not_self, List.filter_false]
  change (webhook.ownHeaders env ++ [(relayTokenHeader, u)]).filter (fun header => env.isRelayToken header.1) = _
  rw [List.filter_append, hkept, List.nil_append]
  simp only [List.filter_cons, isRelayToken_relayTokenHeader, List.filter_nil, if_true]

/-- The texts of headers, names and values. -/
def headerTexts (headers : List (String × String)) : List String :=
  headers.flatMap fun header => [header.1, header.2]

/-- Every text in a webhook. -/
def InstanceDefaultWebhookConfig.texts (webhook : InstanceDefaultWebhookConfig) : List String :=
  webhook.url :: headerTexts (webhook.headers.getD []) ++ webhook.events.getD []

/-- The texts of a webhook that pointing it at the Hub keeps. -/
def InstanceDefaultWebhookConfig.ownTexts (env : SyncEnv ω) (webhook : InstanceDefaultWebhookConfig) :
    List String :=
  headerTexts (webhook.ownHeaders env) ++ webhook.events.getD []

/-- A webhook that calls the Hub says where and with which token, and is otherwise the one it was made from. -/
theorem mem_texts_relayed {text : String} (h : text ∈ (webhook.relayed env q u).texts) :
    text = relayUrl env q ∨ text = relayTokenHeader ∨ text = u ∨ text ∈ webhook.ownTexts env := by
  have htexts : (webhook.relayed env q u).texts =
      relayUrl env q :: (headerTexts (webhook.ownHeaders env) ++ [relayTokenHeader, u]) ++
        webhook.events.getD [] := by
    unfold InstanceDefaultWebhookConfig.texts InstanceDefaultWebhookConfig.relayed headerTexts
    rw [Option.getD_some, List.flatMap_append, List.flatMap_singleton]
  rw [htexts] at h
  unfold InstanceDefaultWebhookConfig.ownTexts
  simp only [List.mem_append, List.mem_cons, List.not_mem_nil, or_false] at h ⊢
  rcases h with (h | h | h | h) | h
  · exact Or.inl h
  · exact Or.inr (Or.inr (Or.inr (Or.inl h)))
  · exact Or.inr (Or.inl h)
  · exact Or.inr (Or.inr (Or.inl h))
  · exact Or.inr (Or.inr (Or.inr (Or.inr h)))

/-- Different providers are called for at different URLs. -/
theorem relayUrl_injective (env : SyncEnv ω) : Function.Injective (relayUrl env) := by
  intro first second h
  unfold relayUrl at h
  have hvalue : first.value = second.value := by
    have hlist := congrArg String.toList h
    rw [String.toList_append, String.toList_append (t := second.value), List.append_cancel_left_eq] at hlist
    exact String.toList_inj.mp hlist
  cases first
  cases second
  cases hvalue
  rfl

end Relayed

end ConnectHub
