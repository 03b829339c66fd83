import ConnectHub.Json
import ConnectHub.Controls
import ConnectHub.Store.Attempt
import Mathlib.Data.List.Basic

/-!
# Relay configuration

Pointing the sessions of a product at the Hub, or back at the customer. For each session the webhook that
the installation has is read, the one wanted is worked out from it, and it is written. A durable change
passes its execution context and means to write only where the two differ; the legacy call always writes.
What is read has lost the private header of the Hub, and what is wanted has it.
-/

namespace ConnectHub

open Store

/-- How an installation is reached. -/
structure ProviderContext where
  providerUrl : String
  providerApiKey : String
deriving DecidableEq, Repr

/-- What a synchronisation asks of the world outside the store: the texts of the language, the secrets, and
the installations, whose answers may change the world. -/
structure SyncEnv (ω : Type) where
  hubBaseUrl : String
  toLowerCase : String → String
  /-- Latin letters are lowered as usual. -/
  toLowerCase_ascii : ∀ text : String, text.toList.all (·.val < 128) = true → toLowerCase text = text.toLower
  characters : String → List String
  decrypt : String → Option String
  freshToken : ω → String
  findWebhook : ProviderContext → String → ω → Except HubError Json × ω
  setWebhook : ProviderContext → String → Json → ω → Except HubError Unit × ω

/-- What a synchronisation works on: the store, the world, and the webhooks it has sent so far. -/
structure SyncState (ω : Type) where
  db : Database
  world : ω
  setWebhooks : List (Uuid × Json) := []

/-- A step of a synchronisation. -/
abbrev Sync (ω α : Type) := Attempt (SyncState ω) HubError α

/-- The webhook a session is to have. -/
structure WebhookOptions where
  url : String
  enabled : Bool
  events : List String
  byEvents : Json
  base64 : Json
  headers : Option Json

/-- What a call of `syncRelay` reports; a failure of the legacy call is listed with its session. -/
structure SyncRelayResultDto where
  total : Nat
  synced : Nat
  failed : Nat
  targetUrl : Option String := none
  reason : Option String := none
  errors : List (String × HubError) := []
deriving DecidableEq, Repr

variable {ω : Type}

/-- The header that carries the token of the Hub. -/
def relayTokenHeader : String := "X-Hub-Relay-Token"

section Options

variable (env : SyncEnv ω)

/-- Whether a name is that of the private header. -/
def SyncEnv.isRelayToken (name : String) : Bool :=
  env.toLowerCase name = env.toLowerCase relayTokenHeader

/-- The value without the private header, at any depth. -/
def withoutRelayToken (value : Json) : Json :=
  value.without env.isRelayToken

/-- Where the Hub is called. -/
def relayBaseUrl : String :=
  let base := stripTrailingSlashes env.hubBaseUrl
  if base.endsWith "/api/v1" then base else base ++ "/api/v1"

/-- The answer, or an empty object where the installation has no webhook for the session yet. -/
def existingOrEmpty (existing : Json) : Json :=
  if Json.nonNull (some existing) then existing else .obj []

/-- The webhook inside an answer, which may come in an envelope. -/
def previousWebhook (raw : Json) : Json :=
  match (raw.member? "webhook").filter Json.isContainer with
  | some webhook => webhook
  | none => raw

/-- A setting of the previous webhook, which may have it under an older name, or a default. -/
def previousSetting (previous : Json) (name oldName : String) (default : Bool) : Json :=
  (previous.given name <|> previous.given oldName).getD (.bool default)

/-- The webhook to set, keeping what the previous one says of its format and headers. -/
def webhookOptions (previous : Json) (targetUrl : String) (targetEvents : List String) : WebhookOptions where
  url := targetUrl
  enabled := true
  events := targetEvents
  byEvents := previousSetting previous "byEvents" "webhookByEvents" false
  base64 := previousSetting previous "base64" "webhookBase64" true
  headers := previous.member? "headers"

/-- The headers of a webhook with the token of the Hub in the place of any other. -/
def relayHeaders (headers : Option Json) (token : String) : List (String × Json) :=
  ((headers.getD (.obj [])).entries env.characters).filter (fun header => !env.isRelayToken header.1) ++
    [(relayTokenHeader, .str token)]

/-- The webhook that calls the Hub on behalf of a provider. -/
def WebhookOptions.relayed (webhook : WebhookOptions) (providerId : Uuid) (token : String) : WebhookOptions :=
  { webhook with
    url := relayBaseUrl env ++ "/internal/webhook/evolution/" ++ providerId.value
    headers := some (.obj (relayHeaders env webhook.headers token)) }

/-- The fields of a webhook, by name. -/
def WebhookOptions.entries (webhook : WebhookOptions) : List (String × Option Json) :=
  [("url", some (.str webhook.url)), ("enabled", some (.bool webhook.enabled)),
   ("events", some (.arr (webhook.events.map .str))), ("byEvents", some webhook.byEvents),
   ("base64", some webhook.base64), ("headers", webhook.headers)]

/-- Whether two fields hold equal values, or neither holds one. -/
def sameField : Option Json → Option Json → Bool
  | some value, some other => value.deepEqual other
  | none, none => true
  | _, _ => false

/-- Whether a webhook has every field of the one wanted. -/
def WebhookOptions.matches (webhook : WebhookOptions) (previous : Json) : Bool :=
  webhook.entries.all fun field => sameField (previous.member? field.1) field.2

/-- The body that sets a webhook; it names headers only if there are some. -/
def webhookPayload (webhook : WebhookOptions) : Json :=
  .obj ([("url", .str webhook.url), ("enabled", .bool webhook.enabled),
         ("events", .arr (webhook.events.map .str)), ("byEvents", webhook.byEvents),
         ("base64", webhook.base64)] ++
        match webhook.headers with
        | some headers => if (headers.entries env.characters).isEmpty then [] else [("headers", headers)]
        | none => [])

end Options

section Calls

variable (env : SyncEnv ω) (execution : Option (ω → QrRequestContext))

/-- Fail once the durable change that asked for the synchronisation is over. -/
def assertActive : Sync ω Unit := do
  let s ← get
  match execution with
  | none => pure ()
  | some context =>
    match (context s.world).assertActive.run s.db with
    | .ok _ => pure ()
    | .error failure => throw failure

/-- Ask an installation for the webhook of a session; the Hub never shows its own token. -/
def EvolutionAdapter.findWebhook (ctx : ProviderContext) (instanceName : String) : Sync ω Json := do
  let s ← get
  let answer := env.findWebhook ctx instanceName s.world
  set { s with world := answer.2 }
  match answer.1 with
  | .ok raw => pure (withoutRelayToken env raw)
  | .error failure => throw failure

/-- Set the webhook of a session. -/
def EvolutionAdapter.setWebhook (ctx : ProviderContext) (item : Instance) (webhook : WebhookOptions) :
    Sync ω Unit := do
  let s ← get
  let payload := webhookPayload env webhook
  let answer := env.setWebhook ctx item.instanceName (.obj [("webhook", payload)]) s.world
  set { s with world := answer.2, setWebhooks := s.setWebhooks ++ [(item.id, payload)] }
  match answer.1 with
  | .ok _ => pure ()
  | .error failure => throw failure

/-- The provider with a token drawn for it, unless it has one. -/
def Database.drawCallbackToken (db : Database) (providerId : Uuid) (token : String) : Database :=
  db.updateProvider providerId fun p =>
    { p with callbackTokenEncrypted := p.callbackTokenEncrypted <|> some ⟨some token⟩ }

/-- The webhook that calls the Hub; a provider gets its token when it first needs it. -/
def relayWebhook (providerId : Uuid) (webhook : WebhookOptions) : Sync ω WebhookOptions := do
  let s ← get
  match s.db.providers.find? providerId with
  | none => throw .recordNotFound
  | some provider =>
    match provider.callbackTokenEncrypted with
    | some sealed =>
      match sealed.opened with
      | some token => pure (webhook.relayed env providerId token)
      | none => throw (.internal "Unsupported state or unable to authenticate data")
    | none =>
      let token := env.freshToken s.world
      set { s with db := s.db.drawCallbackToken providerId token }
      pure (webhook.relayed env providerId token)

/-- The webhook a session is to have: one that calls the Hub, or the customer. -/
def targetWebhook (hubRelay : Bool) (providerId : Uuid) (options : WebhookOptions) : Sync ω WebhookOptions :=
  if hubRelay then relayWebhook env providerId options else pure options

/-- Write a webhook; a durable change does so only where it differs from the previous one. -/
def writeWebhook (ctx : ProviderContext) (item : Instance) (previous : Json) (webhook : WebhookOptions) :
    Sync ω Unit := do
  assertActive execution
  if execution.isNone || !webhook.matches previous then EvolutionAdapter.setWebhook env ctx item webhook
  else pure ()

/-- Bring the webhook of one session in line. -/
def syncInstance (hubRelay : Bool) (targetUrl : String) (targetEvents : List String)
    (target : Instance × VpsProvider) : Sync ω Unit := do
  assertActive execution
  match env.decrypt target.2.providerApiKey with
  | none => throw (.internal "Unsupported state or unable to authenticate data")
  | some apiKey =>
    if target.2.adapterType ≠ "evolution" then
      throw (.badRequest ("Adapter \"" ++ target.2.adapterType ++ "\" não registrado"))
    else
      let ctx : ProviderContext := ⟨target.2.providerUrl, apiKey⟩
      let existing ← EvolutionAdapter.findWebhook env ctx target.1.instanceName
      let previous := previousWebhook (existingOrEmpty existing)
      let options := webhookOptions previous targetUrl targetEvents
      let webhook ← targetWebhook env hubRelay target.1.vpsProviderId options
      writeWebhook env execution ctx target.1 previous webhook

/-- Bring the webhooks of several sessions in line; a failure of one does not stop the others. -/
def syncInstances (hubRelay : Bool) (targetUrl : String) (targetEvents : List String) :
    List (Instance × VpsProvider) → SyncRelayResultDto → SyncState ω → SyncRelayResultDto × SyncState ω
  | [], result, s => (result, s)
  | target :: targets, result, s =>
    match (syncInstance env execution hubRelay targetUrl targetEvents target).run s with
    | .ok _ s' =>
      syncInstances hubRelay targetUrl targetEvents targets { result with synced := result.synced + 1 } s'
    | .error failure s' =>
      -- a durable change learns only how many failed
      let errors := if execution.isSome then result.errors
        else result.errors ++ [(target.1.instanceName, failure)]
      syncInstances hubRelay targetUrl targetEvents targets
        { result with failed := result.failed + 1, errors := errors } s'

/-- The active sessions of a product, or the one named, each with its provider. -/
def Database.relayTargets (db : Database) (productId : Uuid) (instanceId : Option Uuid) :
    List (Instance × VpsProvider) :=
  (db.instances.rows.filter fun i =>
      i.productId = productId && i.isActive && instanceId.all fun id => i.id = id).filterMap
    fun i => (db.providers.find? i.vpsProviderId).map fun provider => (i, provider)

/-- The webhook configuration of a product, if it has an active one. -/
def Database.activeWebhookConfig (db : Database) (productId : Uuid) : Option WebhookConfig :=
  db.webhookConfigs.rows.find? fun w => w.productId = productId && w.isActive

/-- Where the webhooks of a product are to lead. -/
def relayTarget (product : Product) (webhookConfig : Option WebhookConfig) : Option String :=
  if product.hubRelay then some (env.hubBaseUrl ++ "/internal/webhook/" ++ product.adapterType)
  else webhookConfig.map (·.url)

/-- Bring the webhooks of a product in line, or that of one of its sessions. -/
def syncRelay (productId : Uuid) (instanceId : Option Uuid) : Sync ω SyncRelayResultDto := do
  let s ← get
  match s.db.products.find? productId with
  | none => throw (.notFound ("Produto " ++ productId.value ++ " não encontrado"))
  | some product =>
    let targets := s.db.relayTargets productId instanceId
    match instanceId.filter fun _ => targets.isEmpty with
    | some id =>
      throw (.notFound ("Instância " ++ id.value ++ " não encontrada ou não pertence ao produto"))
    | none =>
      if targets.isEmpty then
        pure { total := 0, synced := 0, failed := 0, reason := some "Nenhuma instância ativa encontrada" }
      else
        let webhookConfig := s.db.activeWebhookConfig productId
        match relayTarget env product webhookConfig with
        | none =>
          throw (.badRequest ("Produto não possui WebhookConfig cadastrado — cadastre a URL do cliente " ++
            "antes de sincronizar com hubRelay=false"))
        | some targetUrl =>
          let targetEvents := (webhookConfig.map (·.events)).getD []
          let outcome := syncInstances env execution product.hubRelay targetUrl targetEvents targets
            { total := targets.length, synced := 0, failed := 0, targetUrl := some targetUrl } s
          set outcome.2
          pure outcome.1

end Calls

/-- What a synchronisation takes for the previous webhook of a session. -/
def previousOf (env : SyncEnv ω) (answer : Json) : Json :=
  previousWebhook (existingOrEmpty (withoutRelayToken env answer))

/-- The webhook that `relayWebhook` would set, given the answer of the installation. -/
def wantedWebhook (env : SyncEnv ω) (targetUrl : String) (targetEvents : List String) (providerId : Uuid)
    (token : String) (answer : Json) : WebhookOptions :=
  (webhookOptions (previousOf env answer) targetUrl targetEvents).relayed env providerId token

/-- The webhooks sent so far for a session. -/
def SyncState.writesTo (s : SyncState ω) (instanceId : Uuid) : List Json :=
  (s.setWebhooks.filter fun write => write.1 = instanceId).map (·.2)

/-- Whether the durable change that asked for the synchronisation, if one did, is under way. -/
def Active (execution : Option (ω → QrRequestContext)) (world : ω) : Prop :=
  ∀ context, execution = some context →
    (context world).reason = none ∧ (context world).remainingMs ≠ 0

/-- Between two states webhooks were sent for one session at most. -/
def SyncState.SentOnlyTo (instanceId : Uuid) (s s' : SyncState ω) : Prop :=
  ∃ writes, s'.setWebhooks = s.setWebhooks ++ writes ∧ ∀ write ∈ writes, write.1 = instanceId

/-- The token a provider has, or would be given. -/
def callbackToken (env : SyncEnv ω) (world : ω) (provider : VpsProvider) : Option String :=
  match provider.callbackTokenEncrypted with
  | some sealed => sealed.opened
  | none => some (env.freshToken world)

/-- The store once a provider has its token. -/
def Database.withCallbackToken (db : Database) (provider : VpsProvider) (token : String) : Database :=
  match provider.callbackTokenEncrypted with
  | some _ => db
  | none => db.drawCallbackToken provider.id token

section Options

variable {env : SyncEnv ω} {value : Json} {providerId : Uuid} {token : String}

/-- A plain name of another length is not that of the private header. -/
theorem isRelayToken_of_length {name : String} (hascii : name.toList.all (·.val < 128) = true)
    (hlength : name.length ≠ relayTokenHeader.length) : env.isRelayToken name = false := by
  apply decide_eq_false
  intro hsame
  rw [env.toLowerCase_ascii name hascii, env.toLowerCase_ascii relayTokenHeader rfl] at hsame
  have hmapped : (name.map Char.toLower).length = (relayTokenHeader.map Char.toLower).length :=
    congrArg String.length hsame
  apply hlength
  simpa only [String.length_map] using hmapped

/-- The webhook inside a value that shows no token shows none. -/
theorem withoutRelayToken_previousWebhook (h : withoutRelayToken env value = value) :
    withoutRelayToken env (previousWebhook value) = previousWebhook value := by
  unfold previousWebhook
  cases hfound : (value.member? "webhook").filter Json.isContainer with
  | none => exact h
  | some webhook =>
    have hmember : value.member? "webhook" = some webhook := (Option.filter_eq_some_iff.mp hfound).1
    exact Json.without_of_member? h hmember

/-- What a synchronisation takes for the previous webhook shows no token of the Hub. -/
theorem withoutRelayToken_previousOf (answer : Json) :
    withoutRelayToken env (previousOf env answer) = previousOf env answer := by
  apply withoutRelayToken_previousWebhook
  unfold existingOrEmpty
  split
  · exact Json.without_without answer
  · rfl

/-- The headers wanted are those kept and the token. -/
theorem relayHeaders_of_clean {members : List (String × Json)}
    (h : withoutRelayToken env (.obj members) = .obj members) :
    relayHeaders env (some (.obj members)) token = members ++ [(relayTokenHeader, .str token)] := by
  have hmembers : Json.withoutMembers env.isRelayToken members = members := Json.obj.inj h
  have hkept : members.filter (fun header => !env.isRelayToken header.1) = members := by
    apply List.filter_eq_self.mpr
    intro member hmember
    rw [← hmembers] at hmember
    rw [Json.drop_of_mem_withoutMembers hmember]
    rfl
  change members.filter (fun header => !env.isRelayToken header.1) ++ _ = _
  rw [hkept]

/-- Headers that show no token are never the headers wanted. -/
theorem sameField_relayHeaders {headers : Option Json}
    (h : ∀ value, headers = some value → withoutRelayToken env value = value) :
    sameField headers (some (.obj (relayHeaders env headers token))) = false := by
  cases headers with
  | none => rfl
  | some value =>
    cases value with
    | obj members =>
      rw [relayHeaders_of_clean (h _ rfl)]
      apply Json.deepEqual_obj_of_length_ne
      rw [List.length_append, List.length_singleton]
      omega
    | _ => rfl

/-- The headers of a webhook are one of its fields. -/
theorem WebhookOptions.headers_mem_entries (webhook : WebhookOptions) :
    ("headers", webhook.headers) ∈ webhook.entries := by
  simp [WebhookOptions.entries]

/-- A webhook read without the token never matches one that carries it. -/
theorem relayed_not_matches {previous : Json} (h : withoutRelayToken env previous = previous)
    (targetUrl : String) (targetEvents : List String) :
    ((webhookOptions previous targetUrl targetEvents).relayed env providerId token).matches previous =
      false := by
  have hsame : sameField (previous.member? "headers")
      (some (.obj (relayHeaders env (previous.member? "headers") token))) = false :=
    sameField_relayHeaders fun value hvalue => Json.without_of_member? h hvalue
  apply List.all_eq_false.mpr
  exact ⟨_, WebhookOptions.headers_mem_entries _, ne_true_of_eq_false hsame⟩

end Options

section Steps

variable {env : SyncEnv ω} {execution : Option (ω → QrRequestContext)} {s : SyncState ω}

/-- A context that was not stopped and has time left is active. -/
theorem QrRequestContext.assertActive_run {context : QrRequestContext} {db : Database}
    (hreason : context.reason = none) (htime : context.remainingMs ≠ 0) :
    context.assertActive.run db = .ok ((), db) := by
  rw [QrRequestContext.assertActive, hreason]
  exact congrArg (fun tx : Tx Unit => tx.run db) (if_neg htime)

/-- A durable change under way may go on. -/
theorem assertActive_of_active (h : Active execution s.world) :
    (assertActive execution).run s = .ok () s := by
  cases execution with
  | none => rfl
  | some context =>
    obtain ⟨hreason, htime⟩ := h context rfl
    have hcontext : (context s.world).assertActive.run s.db = .ok ((), s.db) :=
      QrRequestContext.assertActive_run hreason htime
    simp only [assertActive, EStateM.run_bind, EStateM.run_get, hcontext, EStateM.run_pure]

/-- Reading a webhook ends with the answer of the installation, less the private header. -/
theorem findWebhook_run {ctx : ProviderContext} {instanceName : String} {answer : Json} {world : ω}
    (h : env.findWebhook ctx instanceName s.world = (.ok answer, world)) :
    (EvolutionAdapter.findWebhook env ctx instanceName).run s =
      .ok (withoutRelayToken env answer) { s with world := world } := by
  simp only [EvolutionAdapter.findWebhook, EStateM.run_bind, EStateM.run_get, EStateM.run_set, h,
    EStateM.run_pure]

/-- It fails where the installation does. -/
theorem findWebhook_run_error {ctx : ProviderContext} {instanceName : String} {failure : HubError} {world : ω}
    (h : env.findWebhook ctx instanceName s.world = (.error failure, world)) :
    (EvolutionAdapter.findWebhook env ctx instanceName).run s = .error failure { s with world := world } := by
  simp only [EvolutionAdapter.findWebhook, EStateM.run_bind, EStateM.run_get, EStateM.run_set, h]
  rfl

/-- The webhook wanted carries the token of the provider, which it may only now be given. -/
theorem relayWebhook_run {providerId : Uuid} {webhook : WebhookOptions} {provider : VpsProvider}
    {token : String}
    (hfind : s.db.providers.find? providerId = some provider)
    (htoken : callbackToken env s.world provider = some token) :
    (relayWebhook env providerId webhook).run s = .ok (webhook.relayed env providerId token)
      { s with db := s.db.withCallbackToken provider token } := by
  have hid : provider.id = providerId := (Table.find?_eq_some.mp hfind).2
  simp only [relayWebhook, EStateM.run_bind, EStateM.run_get, hfind]
  unfold callbackToken at htoken
  unfold Database.withCallbackToken
  cases hcolumn : provider.callbackTokenEncrypted with
  | some sealed =>
    rw [hcolumn] at htoken
    have hopened : sealed.opened = some token := htoken
    simp only [hopened, EStateM.run_pure]
  | none =>
    rw [hcolumn] at htoken
    have hfresh : env.freshToken s.world = token := Option.some.inj htoken
    simp only [hfresh, hid, EStateM.run_bind, EStateM.run_set, EStateM.run_pure]

/-- Setting a webhook sends it, whatever comes of it. -/
theorem setWebhook_after (ctx : ProviderContext) (item : Instance) (webhook : WebhookOptions) :
    Attempt.after (EvolutionAdapter.setWebhook env ctx item webhook) s =
      { s with
        world := (env.setWebhook ctx item.instanceName
          (.obj [("webhook", webhookPayload env webhook)]) s.world).2
        setWebhooks := s.setWebhooks ++ [(item.id, webhookPayload env webhook)] } := by
  unfold Attempt.after
  simp only [EvolutionAdapter.setWebhook, EStateM.run_bind, EStateM.run_get, EStateM.run_set]
  cases (env.setWebhook ctx item.instanceName (.obj [("webhook", webhookPayload env webhook)]) s.world).1 with
  | ok _ => rfl
  | error _ => rfl

/-- Sending nothing is sending nothing elsewhere. -/
theorem SyncState.SentOnlyTo.of_eq {instanceId : Uuid} {s' : SyncState ω}
    (h : s'.setWebhooks = s.setWebhooks) : s.SentOnlyTo instanceId s' := by
  refine ⟨[], ?_, ?_⟩
  · rw [h, List.append_nil]
  · intro write hwrite
    cases hwrite

/-- What was sent for one session in two stretches was sent for it in both together. -/
theorem SyncState.SentOnlyTo.trans {instanceId : Uuid} {s' s'' : SyncState ω}
    (h : s.SentOnlyTo instanceId s') (h' : s'.SentOnlyTo instanceId s'') : s.SentOnlyTo instanceId s'' := by
  obtain ⟨first, hfirst, hfirstTo⟩ := h
  obtain ⟨second, hsecond, hsecondTo⟩ := h'
  refine ⟨first ++ second, ?_, ?_⟩
  · rw [hsecond, hfirst, List.append_assoc]
  · intro write hwrite
    cases List.mem_append.mp hwrite with
    | inl hmem => exact hfirstTo write hmem
    | inr hmem => exact hsecondTo write hmem

/-- What a comparison needs from outside is there: a key that opens, an installation of the right kind that
answers, and a token that opens or is still to be drawn. -/
structure Answers (env : SyncEnv ω) (s : SyncState ω) (target : Instance × VpsProvider) (apiKey : String)
    (answer : Json) (world : ω) (provider : VpsProvider) (token : String) : Prop where
  readable : env.decrypt target.2.providerApiKey = some apiKey
  adapter : target.2.adapterType = "evolution"
  answered : env.findWebhook ⟨target.2.providerUrl, apiKey⟩ target.1.instanceName s.world =
    (.ok answer, world)
  known : s.db.providers.find? target.1.vpsProviderId = some provider
  token : callbackToken env world provider = some token

section Turn

variable {target : Instance × VpsProvider} {apiKey token : String} {answer : Json} {world : ω}
  {provider : VpsProvider}

/-- A session that calls the Hub is written whatever the installation answered. -/
theorem syncInstance_run (h : Answers env s target apiKey answer world provider token)
    (hactive : Active execution s.world) (hstill : Active execution world)
    (targetUrl : String) (targetEvents : List String) :
    (syncInstance env execution true targetUrl targetEvents target).run s =
      (EvolutionAdapter.setWebhook env ⟨target.2.providerUrl, apiKey⟩ target.1
        (wantedWebhook env targetUrl targetEvents target.1.vpsProviderId token answer)).run
        { s with db := s.db.withCallbackToken provider token, world := world } := by
  have hwanted : (relayWebhook env target.1.vpsProviderId
        (webhookOptions (previousOf env answer) targetUrl targetEvents)).run { s with world := world } =
      .ok (wantedWebhook env targetUrl targetEvents target.1.vpsProviderId token answer)
        { s with db := s.db.withCallbackToken provider token, world := world } :=
    relayWebhook_run (s := { s with world := world }) h.known h.token
  have hstill' : (assertActive execution).run
        { s with db := s.db.withCallbackToken provider token, world := world } =
      .ok () { s with db := s.db.withCallbackToken provider token, world := world } :=
    assertActive_of_active hstill
  have hdiffers : (wantedWebhook env targetUrl targetEvents target.1.vpsProviderId token answer).matches
      (previousOf env answer) = false :=
    relayed_not_matches (withoutRelayToken_previousOf answer) targetUrl targetEvents
  have hwrite : (writeWebhook env execution ⟨target.2.providerUrl, apiKey⟩ target.1 (previousOf env answer)
        (wantedWebhook env targetUrl targetEvents target.1.vpsProviderId token answer)).run
        { s with db := s.db.withCallbackToken provider token, world := world } =
      (EvolutionAdapter.setWebhook env ⟨target.2.providerUrl, apiKey⟩ target.1
        (wantedWebhook env targetUrl targetEvents target.1.vpsProviderId token answer)).run
        { s with db := s.db.withCallbackToken provider token, world := world } := by
    unfold writeWebhook
    simp only [EStateM.run_bind, hstill', hdiffers, Bool.not_false, Bool.or_true, if_true]
  rw [← hwrite]
  unfold previousOf at hwanted ⊢
  unfold syncInstance
  simp only [EStateM.run_bind, assertActive_of_active hactive, h.readable, h.adapter, ne_eq,
    not_true_eq_false, if_false, findWebhook_run h.answered, targetWebhook, if_true, hwanted]

end Turn

end Steps

end ConnectHub
