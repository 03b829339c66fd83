import ConnectHub.RelayConfiguration
import ConnectHub.RelayDelivery
import Mathlib.Logic.Function.Iterate

/-!
# Relay rewrites

A durable change that asks again for the webhook of a session is to find the effect of an earlier write and
leave it. It never does: what it reads has lost the private header, what it wants has it, and so the two
differ even where the installation keeps exactly what was sent. The webhook wanted is a fixed point all the
same, so every retry sends the same one.
-/

namespace ConnectHub

open Store

variable {ω : Type} {env : SyncEnv ω} {execution : Option (ω → QrRequestContext)} {s : SyncState ω}

section Loop

/-- Where the webhooks of a product that calls the Hub are said to lead. -/
def hubUrl (env : SyncEnv ω) (product : Product) : String :=
  env.hubBaseUrl ++ "/internal/webhook/" ++ product.adapterType

/-- The events of the webhooks of a product. -/
def Database.targetEvents (db : Database) (productId : Uuid) : List String :=
  ((db.activeWebhookConfig productId).map (·.events)).getD []

/-- The state once some sessions were brought in line. -/
def synced (env : SyncEnv ω) (execution : Option (ω → QrRequestContext)) (targetUrl : String)
    (targetEvents : List String) (targets : List (Instance × VpsProvider)) (s : SyncState ω) : SyncState ω :=
  targets.foldl
    (fun s target => Attempt.after (syncInstance env execution true targetUrl targetEvents target) s) s

/-- The loop leaves the state that its sessions leave one after the other. -/
theorem syncInstances_state (env : SyncEnv ω) (execution : Option (ω → QrRequestContext))
    (targetUrl : String) (targetEvents : List String)
    (targets : List (Instance × VpsProvider)) (result : SyncRelayResultDto) (s : SyncState ω) :
    (syncInstances env execution true targetUrl targetEvents targets result s).2 =
      synced env execution targetUrl targetEvents targets s := by
  induction targets generalizing result s with
  | nil => rfl
  | cons target targets ih =>
    unfold syncInstances
    have hafter : synced env execution targetUrl targetEvents (target :: targets) s =
        synced env execution targetUrl targetEvents targets
          (Attempt.after (syncInstance env execution true targetUrl targetEvents target) s) := rfl
    rw [hafter]
    unfold Attempt.after
    cases (syncInstance env execution true targetUrl targetEvents target).run s with
    | ok a s' => exact ih _ _
    | error failure s' => exact ih _ _

/-- What one step adds to the webhooks of a session. -/
theorem SyncState.writesTo_of_append {s' : SyncState ω} {writes : List (Uuid × Json)}
    (h : s'.setWebhooks = s.setWebhooks ++ writes) (instanceId : Uuid) :
    s'.writesTo instanceId =
      s.writesTo instanceId ++ (writes.filter fun write => write.1 = instanceId).map (·.2) := by
  unfold SyncState.writesTo
  rw [h, List.filter_append, List.map_append]

/-- What was sent for one session is nothing for another. -/
theorem SyncState.SentOnlyTo.writesTo {s' : SyncState ω} {instanceId otherId : Uuid}
    (h : s.SentOnlyTo otherId s') (hother : otherId ≠ instanceId) :
    s'.writesTo instanceId = s.writesTo instanceId := by
  obtain ⟨writes, hwrites, hto⟩ := h
  have hnone : writes.filter (fun write => write.1 = instanceId) = [] := by
    apply List.filter_eq_nil_iff.mpr
    intro write hwrite hsame
    apply hother
    rw [← hto write hwrite]
    exact of_decide_eq_true hsame
  have hadded := SyncState.writesTo_of_append hwrites instanceId
  rw [hnone, List.map_nil, List.append_nil] at hadded
  exact hadded

/-- No session is brought in line twice. -/
theorem Database.relayTargets_nodup (db : Database) (productId : Uuid) (instanceId : Option Uuid) :
    ((db.relayTargets productId instanceId).map (·.1.id)).Nodup := by
  unfold Database.relayTargets
  generalize hitems : (db.instances.rows.filter fun i =>
      i.productId = productId && i.isActive && instanceId.all fun id => i.id = id) = items
  have hids : (items.map (·.id)).Nodup := by
    rw [← hitems]
    exact List.Nodup.sublist (List.filter_sublist.map _) db.instances.nodup
  apply List.Nodup.sublist _ hids
  clear hitems hids
  induction items with
  | nil => exact List.Sublist.refl _
  | cons item items ih =>
    rw [List.filterMap_cons, List.map_cons]
    cases db.providers.find? item.vpsProviderId with
    | none => exact ih.cons _
    | some provider => exact ih.cons_cons _

/-- A call for sessions of a product that calls the Hub brings them in line. -/
theorem syncRelay_after {productId : Uuid} {instanceId : Option Uuid} {product : Product}
    (hproduct : s.db.products.find? productId = some product) (hrelay : product.hubRelay = true)
    (hsome : s.db.relayTargets productId instanceId ≠ []) :
    Attempt.after (syncRelay env execution productId instanceId) s =
      synced env execution (hubUrl env product) (s.db.targetEvents productId)
        (s.db.relayTargets productId instanceId) s := by
  have hempty : (s.db.relayTargets productId instanceId).isEmpty = false :=
    List.isEmpty_eq_false_iff.mpr hsome
  have hnone : instanceId.filter (fun _ => false) = none := by
    cases instanceId with
    | none => rfl
    | some id => rfl
  have htarget : relayTarget env product (s.db.activeWebhookConfig productId) =
      some (hubUrl env product) := by
    unfold relayTarget
    rw [if_pos hrelay]
    rfl
  have hstate := syncInstances_state env execution (hubUrl env product)
    (s.db.targetEvents productId) (s.db.relayTargets productId instanceId)
    { total := (s.db.relayTargets productId instanceId).length, synced := 0, failed := 0,
      targetUrl := some (hubUrl env product) } s
  unfold Attempt.after
  simp only [syncRelay, EStateM.run_bind, EStateM.run_get, hproduct, hnone, hempty, Bool.false_eq_true,
    if_false, htarget, hrelay, EStateM.run_set, EStateM.run_pure]
  exact hstate

end Loop

section Turn

variable {target : Instance × VpsProvider} {apiKey token : String} {answer : Json} {world : ω}
  {provider : VpsProvider}

/-- The turn of a session sends one webhook for it. -/
theorem syncInstance_after (h : Answers env s target apiKey answer world provider token)
    (hactive : Active execution s.world) (hstill : Active execution world)
    (targetUrl : String) (targetEvents : List String) :
    Attempt.after (syncInstance env execution true targetUrl targetEvents target) s =
      { db := s.db.withCallbackToken provider token
        world := (env.setWebhook ⟨target.2.providerUrl, apiKey⟩ target.1.instanceName (.obj [("webhook",
          webhookPayload env
            (wantedWebhook env targetUrl targetEvents target.1.vpsProviderId token answer))]) world).2
        setWebhooks := s.setWebhooks ++ [(target.1.id, webhookPayload env
          (wantedWebhook env targetUrl targetEvents target.1.vpsProviderId token answer))] } := by
  have hrun := syncInstance_run h hactive hstill targetUrl targetEvents
  unfold Attempt.after
  rw [hrun]
  exact setWebhook_after ⟨target.2.providerUrl, apiKey⟩ target.1
    (wantedWebhook env targetUrl targetEvents target.1.vpsProviderId token answer)

end Turn

section FixedPoint

variable {value previous : Json} {providerId : Uuid} {token targetUrl : String} {targetEvents : List String}

end FixedPoint

section Retries

/-- A session whose webhook may be asked for: its product calls the Hub, its provider is of the right kind
with a key that opens, and the token of that provider opens or is still to be drawn. -/
structure RelayReady (env : SyncEnv ω) (db : Database) (product : Product) (item : Instance)
    (provider : VpsProvider) (apiKey : String) : Prop where
  registered : db.products.find? product.id = some product
  relays : product.hubRelay = true
  present : item ∈ db.instances
  own : item.productId = product.id
  active : item.isActive = true
  placed : db.providers.find? item.vpsProviderId = some provider
  adapter : provider.adapterType = "evolution"
  readable : env.decrypt provider.providerApiKey = some apiKey
  opens : ∀ sealed, provider.callbackTokenEncrypted = some sealed → sealed.opened ≠ none

/-- A stretch in which the change stays under way and the installation answers: it shows the webhook it has,
bare or in an envelope, and a webhook sent to it takes effect or does not, whether or not the response
arrives. -/
structure Calm (env : SyncEnv ω) (context : ω → QrRequestContext) (ctx : ProviderContext)
    (instanceName : String) (stored : ω → Json) : Prop where
  active : ∀ world, Active (some context) world
  reads : ∀ world, ∃ answer world', env.findWebhook ctx instanceName world = (.ok answer, world') ∧
    (answer = stored world ∨ answer = .obj [("webhook", stored world)]) ∧ stored world' = stored world
  keeps : ∀ world webhook,
    stored (env.setWebhook ctx instanceName (.obj [("webhook", webhook)]) world).2 = webhook ∨
    stored (env.setWebhook ctx instanceName (.obj [("webhook", webhook)]) world).2 = stored world

variable {db : Database} {product : Product} {item : Instance} {provider : VpsProvider} {apiKey : String}

/-- The call for one session is for that one alone. -/
theorem RelayReady.relayTargets (h : RelayReady env db product item provider apiKey) :
    db.relayTargets product.id (some item.id) = [(item, provider)] := by
  have hmem : (item, provider) ∈ db.relayTargets product.id (some item.id) := by
    apply List.mem_filterMap.mpr
    refine ⟨item, List.mem_filter.mpr ⟨h.present, ?_⟩, ?_⟩
    · simp [h.own, h.active]
    · rw [h.placed]
      rfl
  have hall : ∀ target ∈ db.relayTargets product.id (some item.id), target = (item, provider) := by
    intro target htarget
    obtain ⟨i, hi, hpair⟩ := List.mem_filterMap.mp htarget
    obtain ⟨hrow, htest⟩ := List.mem_filter.mp hi
    have hid : i.id = item.id := by
      simp only [Option.all_some, Bool.and_eq_true, decide_eq_true_eq] at htest
      exact htest.2
    have hsame : i = item := Table.eq_of_key_eq hrow h.present hid
    rw [hsame, h.placed] at hpair
    exact (Option.some.inj hpair).symm
  have hrepeat := List.eq_replicate_of_mem hall
  have hids := db.relayTargets_nodup product.id (some item.id)
  rw [hrepeat, List.map_replicate] at hids
  have hshort := List.nodup_replicate.mp hids
  have hlong := List.length_pos_of_mem hmem
  have hone : (db.relayTargets product.id (some item.id)).length = 1 := by omega
  rw [hrepeat, hone]
  rfl

/-- A ready session has a token to be called with. -/
theorem RelayReady.callbackToken (h : RelayReady env db product item provider apiKey) (world : ω) :
    ∃ token, callbackToken env world provider = some token := by
  unfold ConnectHub.callbackToken
  cases hcolumn : provider.callbackTokenEncrypted with
  | none => exact ⟨_, rfl⟩
  | some sealed => exact Option.ne_none_iff_exists'.mp (h.opens sealed hcolumn)

/-- The call for a ready session sends it a webhook. -/
theorem RelayReady.syncRelay (h : RelayReady env s.db product item provider apiKey)
    {context : ω → QrRequestContext} {stored : ω → Json}
    (hcalm : Calm env context ⟨provider.providerUrl, apiKey⟩ item.instanceName stored) :
    ∃ token answer world, (answer = stored s.world ∨ answer = .obj [("webhook", stored s.world)]) ∧
      stored world = stored s.world ∧ ConnectHub.callbackToken env world provider = some token ∧
      Attempt.after (syncRelay env (some context) product.id (some item.id)) s =
        { db := s.db.withCallbackToken provider token
          world := (env.setWebhook ⟨provider.providerUrl, apiKey⟩ item.instanceName (.obj [("webhook",
            webhookPayload env (wantedWebhook env (hubUrl env product) (s.db.targetEvents product.id)
              item.vpsProviderId token answer))]) world).2
          setWebhooks := s.setWebhooks ++ [(item.id,
            webhookPayload env (wantedWebhook env (hubUrl env product) (s.db.targetEvents product.id)
              item.vpsProviderId token answer))] } := by
  obtain ⟨answer, world, hread, hanswer, hstored⟩ := hcalm.reads s.world
  obtain ⟨token, htoken⟩ := h.callbackToken world
  have hanswers : Answers env s (item, provider) apiKey answer world provider token :=
    ⟨h.readable, h.adapter, hread, h.placed, htoken⟩
  refine ⟨token, answer, world, hanswer, hstored, htoken, ?_⟩
  have hsome : s.db.relayTargets product.id (some item.id) ≠ [] := by
    rw [h.relayTargets]
    exact List.cons_ne_nil _ _
  rw [syncRelay_after h.registered h.relays hsome, h.relayTargets]
  exact syncInstance_after hanswers (hcalm.active _) (hcalm.active _) _ _

/-- The provider once it has its token. -/
def VpsProvider.withToken (provider : VpsProvider) (token : String) : VpsProvider :=
  { provider with callbackTokenEncrypted := provider.callbackTokenEncrypted <|> some ⟨some token⟩ }

/-- The provider a token was drawn for has it. -/
theorem find?_drawCallbackToken {id : Uuid} {token : String} (h : db.providers.find? id = some provider) :
    (db.drawCallbackToken provider.id token).providers.find? id = some (provider.withToken token) := by
  have hfound : (db.drawCallbackToken provider.id token).providers.find? id =
      (db.providers.find? id).map fun p => if decide (p.id = provider.id) then p.withToken token else p :=
    @Table.find?_modify _ _ _ _ db.providers (fun p => p.id = provider.id) (fun p => p.withToken token)
      (fun p => rfl) id
  rw [hfound, h, Option.map_some, if_pos (decide_eq_true rfl)]

/-- Giving a provider its token changes nothing else. -/
theorem Database.withCallbackToken_rest (db : Database) (provider : VpsProvider) (token : String) :
    (db.withCallbackToken provider token).products = db.products ∧
      (db.withCallbackToken provider token).instances = db.instances ∧
      (db.withCallbackToken provider token).webhookConfigs = db.webhookConfigs := by
  unfold Database.withCallbackToken
  cases provider.callbackTokenEncrypted with
  | none => exact ⟨rfl, rfl, rfl⟩
  | some sealed => exact ⟨rfl, rfl, rfl⟩

/-- A ready session is ready once its provider has its token. -/
theorem RelayReady.withCallbackToken (h : RelayReady env db product item provider apiKey) {world : ω}
    {token : String} (htoken : ConnectHub.callbackToken env world provider = some token) :
    RelayReady env (db.withCallbackToken provider token) product item (provider.withToken token) apiKey ∧
      ∃ sealed, (provider.withToken token).callbackTokenEncrypted = some sealed ∧
        sealed.opened = some token := by
  obtain ⟨hproducts, hinstances, -⟩ := db.withCallbackToken_rest provider token
  have hid : provider.id = item.vpsProviderId := (Table.find?_eq_some.mp h.placed).2
  unfold ConnectHub.callbackToken at htoken
  cases hcolumn : provider.callbackTokenEncrypted with
  | some sealed =>
    rw [hcolumn] at htoken
    have hopened : sealed.opened = some token := htoken
    have hsame : provider.withToken token = provider := by
      unfold VpsProvider.withToken
      rw [hcolumn]
      exact congrArg (fun column => { provider with callbackTokenEncrypted := column }) hcolumn.symm
    have hdb : db.withCallbackToken provider token = db := by
      unfold Database.withCallbackToken
      rw [hcolumn]
    rw [hsame, hdb]
    exact ⟨h, sealed, hcolumn, hopened⟩
  | none =>
    have hplaced : (db.withCallbackToken provider token).providers.find? item.vpsProviderId =
        some (provider.withToken token) := by
      unfold Database.withCallbackToken
      rw [hcolumn]
      exact find?_drawCallbackToken h.placed
    have htokened : (provider.withToken token).callbackTokenEncrypted = some ⟨some token⟩ := by
      unfold VpsProvider.withToken
      rw [hcolumn]
      rfl
    refine ⟨⟨?_, h.relays, ?_, h.own, h.active, hplaced, h.adapter, h.readable, ?_⟩, _, htokened, rfl⟩
    · rw [hproducts]
      exact h.registered
    · rw [hinstances]
      exact h.present
    · intro sealed hsealed
      rw [htokened] at hsealed
      cases hsealed
      exact Option.some_ne_none token

end Retries

section Small

/-- A world in which one session has a webhook and the installation keeps what it is sent. -/
def smallSyncEnv : SyncEnv Json where
  hubBaseUrl := "https://hub.test"
  toLowerCase := String.toLower
  toLowerCase_ascii := fun _ _ => rfl
  characters text := text.toList.map String.singleton
  decrypt _ := some "key"
  freshToken _ := "fresh"
  findWebhook _ _ stored := (.ok stored, stored)
  setWebhook _ _ body stored := (.ok (), (body.member? "webhook").getD stored)

end Small

end ConnectHub
