import ConnectHub.CandidateLoop
import ConnectHub.RelayRewrites

/-!
# The payload of the candidate that takes a creation

Each candidate rewrites the webhook of the payload over what the one before left there. Since pointing a webhook
at the Hub forgets where it pointed before, the payload that is sealed shows only the candidate that took the
creation: the invariant of the loop is that the payload is the initial one, or the initial one relayed once.
-/

namespace ConnectHub

open Store

variable {ω : Type} {env : Env} {sync : SyncEnv ω} {product : Product} {dto : CreateInstanceDto}
  {checked candidates : List Uuid} {payload left : ProvisioningPayload} {turn : CandidateTurn ω}

section Steps

/-- A step that leaves the payload alone, whether or not it fails. -/
def Turn.Keeps {α : Type} (x : Turn α) : Prop := ∀ payload, x.after payload = payload

/-- Running a transaction leaves the payload alone. -/
theorem runOn_keeps {α : Type} (db : Database) (tx : Tx α) : Turn.Keeps (runOn db tx) := by
  intro payload
  unfold runOn
  cases tx.run db with
  | ok result => rfl
  | error failure => rfl

/-- Taking an answer leaves it alone. -/
theorem answered_keeps {α : Type} (answer : Except HubError α) : Turn.Keeps (answered answer) := by
  intro payload
  cases answer with
  | ok value => rfl
  | error failure => rfl

/-- Two steps that leave the payload alone leave it alone together. -/
theorem Turn.Keeps.bind {α β : Type} {x : Turn α} {f : α → Turn β} (hx : x.Keeps) (hf : ∀ a, (f a).Keeps) :
    Turn.Keeps (x >>= f) := by
  intro payload
  have hfirst := hx payload
  rw [Attempt.after_bind]
  cases hrun : x.run payload with
  | ok a payload' =>
    rw [Attempt.after_of_ok hrun] at hfirst
    rw [hfirst]
    exact hf a payload
  | error failure payload' =>
    rw [Attempt.after_of_error hrun] at hfirst
    exact hfirst

/-- A step that leaves the payload alone ends with the payload it started from. -/
theorem Turn.Keeps.run_ok {α : Type} {x : Turn α} (hx : x.Keeps) {a : α} (h : x.run payload = .ok a left) :
    left = payload := by
  have hafter := hx payload
  rw [Attempt.after_of_ok h] at hafter
  exact hafter

/-- So it does where it fails. -/
theorem Turn.Keeps.run_error {α : Type} {x : Turn α} (hx : x.Keeps) {failure : HubError}
    (h : x.run payload = .error failure left) : left = payload := by
  have hafter := hx payload
  rw [Attempt.after_of_error h] at hafter
  exact hafter

/-- Observing a candidate leaves the payload alone. -/
theorem observe_keeps (provider : VpsProvider) : (turn.observe env product dto checked provider).Keeps := by
  unfold CandidateTurn.observe
  split
  · split
    · intro payload
      rfl
    · exact answered_keeps turn.refreshed
  · split
    · intro payload
      rfl
    · refine (answered_keeps turn.listed).bind fun rows => (runOn_keeps turn.found _).bind fun remote => ?_
      intro payload
      split
      · rfl
      · rfl

/-- A candidate relays the payload: its webhook is the base one, pointed at the Hub for the candidate. -/
def CandidateTurn.Relays (sync : SyncEnv ω) (product : Product) (dto : CreateInstanceDto) (turn : CandidateTurn ω)
    (providerId : Uuid) (payload left : ProvisioningPayload) : Prop :=
  product.hubRelay = true ∧ ∃ token, turn.token sync providerId = some token ∧
    left = payload.withWebhook dto
      ((payload.baseWebhook dto (turn.output product.id)).relayed sync providerId token)

/-- The webhook of a candidate carries its token. -/
theorem relayDefaultWebhook_ok {db : Database} {world : ω} {providerId : Uuid}
    {webhook : InstanceDefaultWebhookConfig} {result : InstanceDefaultWebhookConfig × Database}
    (h : relayDefaultWebhook sync db world providerId webhook = .ok result) :
    ∃ token, (db.providers.find? providerId).bind (callbackToken sync world) = some token ∧
      result.1 = webhook.relayed sync providerId token := by
  unfold relayDefaultWebhook at h
  cases hfind : db.providers.find? providerId with
  | none =>
    rw [hfind] at h
    cases h
  | some provider =>
    rw [hfind] at h
    simp only at h
    cases htoken : callbackToken sync world provider with
    | none =>
      rw [htoken] at h
      cases h
    | some token =>
      rw [htoken] at h
      cases h
      exact ⟨token, htoken, rfl⟩

/-- Building the webhook of a candidate relays the payload, or fails and leaves it alone. -/
theorem buildWebhook_run (hrelay : product.hubRelay = true) (providerId : Uuid) :
    (∃ left, (turn.buildWebhook sync product dto providerId).run payload = .ok () left ∧
        turn.Relays sync product dto providerId payload left) ∨
      ∃ failure, (turn.buildWebhook sync product dto providerId).run payload = .error failure payload := by
  cases hbuild : relayDefaultWebhook sync turn.configured turn.world providerId
      (payload.baseWebhook dto (turn.configured.activeWebhookConfig product.id)) with
  | error failure =>
    refine Or.inr ⟨failure, ?_⟩
    simp only [CandidateTurn.buildWebhook, EStateM.run_bind, EStateM.run_get, hbuild, answered]
    rfl
  | ok result =>
    obtain ⟨token, htoken, hresult⟩ := relayDefaultWebhook_ok hbuild
    refine Or.inl ⟨payload.withWebhook dto result.1, ?_, hrelay, token, htoken, by rw [hresult]; rfl⟩
    simp only [CandidateTurn.buildWebhook, EStateM.run_bind, EStateM.run_get, hbuild, answered, EStateM.run_pure,
      EStateM.run_set]

/-- What a candidate does to the payload before it reserves: nothing without the relay, and otherwise it relays
the payload or fails. -/
theorem configure_run (providerId : Uuid) :
    (∃ left, (turn.configure sync product dto providerId).run payload = .ok () left ∧
        (turn.Relays sync product dto providerId payload left ∨ product.hubRelay = false ∧ left = payload)) ∨
      ∃ failure, (turn.configure sync product dto providerId).run payload = .error failure payload := by
  unfold CandidateTurn.configure
  by_cases hrelay : product.hubRelay = true
  · rw [if_pos hrelay]
    rcases buildWebhook_run hrelay providerId with ⟨left, hrun, hleft⟩ | hfails
    · exact Or.inl ⟨left, hrun, Or.inl hleft⟩
    · exact Or.inr hfails
  · rw [if_neg hrelay]
    exact Or.inl ⟨payload, rfl, Or.inr ⟨eq_false_of_ne_true hrelay, rfl⟩⟩

/-- A candidate took the creation: the transaction sealed the payload that is returned. -/
structure CandidateTurn.Takes (env : Env) (product : Product) (dto : CreateInstanceDto) (candidates : List Uuid)
    (turn : CandidateTurn ω) (providerId : Uuid) (prepared : PreparedProvisioning) : Prop where
  reserved : ∃ observed, (prepareReservation env turn.reservedAt turn.reserving product.id providerId
    ⟨product, observed, candidates⟩ prepared.payload dto.instanceName turn.ticketId turn.leaseOwner).run
      turn.reserved = .ok ((prepared.ticket, prepared.provider), prepared.tables)

/-- Reserving seals the payload as it is. -/
theorem reserve_ok {providerId : Uuid} {observed : VpsProvider} {prepared : PreparedProvisioning}
    (h : (turn.reserve env product dto candidates providerId observed).run payload = .ok prepared left) :
    turn.Takes env product dto candidates providerId prepared ∧ prepared.payload = payload := by
  unfold CandidateTurn.reserve at h
  obtain ⟨sent, payload₁, hget, h⟩ := Attempt.bind_ok.mp h
  obtain ⟨result, payload₂, hreserve, h⟩ := Attempt.bind_ok.mp h
  obtain ⟨hprepared, -⟩ := Attempt.pure_ok.mp h
  cases hget
  rw [← hprepared]
  refine ⟨⟨observed, ?_⟩, rfl⟩
  unfold runOn at hreserve
  split at hreserve
  · next found hfound =>
    cases hreserve
    exact hfound
  · cases hreserve

/-- It leaves the payload alone. -/
theorem reserve_keeps (providerId : Uuid) (observed : VpsProvider) :
    (turn.reserve env product dto candidates providerId observed).Keeps := by
  intro payload
  unfold CandidateTurn.reserve
  rw [Attempt.after_bind, EStateM.run_get]
  refine (runOn_keeps turn.reserved _).bind (fun result => ?_) payload
  intro payload'
  exact Attempt.after_of_ok (EStateM.run_pure _ _)

/-- A candidate that took the creation relayed the payload first, if the relay is on. -/
theorem attempt_ok {provider : VpsProvider} {prepared : PreparedProvisioning}
    (h : (turn.attempt env sync product dto checked candidates provider).run payload = .ok prepared left) :
    turn.Takes env product dto candidates provider.id prepared ∧
      (turn.Relays sync product dto provider.id payload prepared.payload ∨
        product.hubRelay = false ∧ prepared.payload = payload) := by
  unfold CandidateTurn.attempt at h
  obtain ⟨observed, payload₁, hobserve, h⟩ := Attempt.bind_ok.mp h
  obtain ⟨_, payload₂, hactive, h⟩ := Attempt.bind_ok.mp h
  obtain ⟨_, payload₃, hconfigure, hreserve⟩ := Attempt.bind_ok.mp h
  rw [(observe_keeps provider).run_ok hobserve] at hactive
  rw [(runOn_keeps _ _).run_ok hactive] at hconfigure
  obtain ⟨htakes, hpayload⟩ := reserve_ok hreserve
  rw [hpayload]
  rcases @configure_run _ _ _ _ payload _ provider.id with ⟨left', hleft, hrelays⟩ | ⟨failure, hfails⟩
  · rw [hleft] at hconfigure
    cases hconfigure
    exact ⟨htakes, hrelays⟩
  · rw [hfails] at hconfigure
    cases hconfigure

/-- A candidate that failed relayed the payload or left it alone. -/
theorem attempt_error {provider : VpsProvider} {failure : HubError}
    (h : (turn.attempt env sync product dto checked candidates provider).run payload = .error failure left) :
    left = payload ∨ turn.Relays sync product dto provider.id payload left := by
  have hafter := Attempt.after_of_error h
  unfold CandidateTurn.attempt at hafter
  rw [Attempt.after_bind] at hafter
  cases hobserve : (turn.observe env product dto checked provider).run payload with
  | error failure' payload' =>
    rw [hobserve] at hafter
    rw [← hafter]
    exact Or.inl ((observe_keeps provider).run_error hobserve)
  | ok observed payload' =>
    rw [hobserve, (observe_keeps provider).run_ok hobserve] at hafter
    simp only at hafter
    rw [Attempt.after_bind] at hafter
    cases hactive : (runOn turn.found turn.observed.assertActive).run payload with
    | error failure' payload'' =>
      rw [hactive] at hafter
      rw [← hafter]
      exact Or.inl ((runOn_keeps _ _).run_error hactive)
    | ok _ payload'' =>
      rw [hactive, (runOn_keeps _ _).run_ok hactive] at hafter
      simp only at hafter
      rw [Attempt.after_bind] at hafter
      rcases @configure_run _ _ _ _ payload _ provider.id with ⟨left', hleft, hrelays⟩ | ⟨failure', hfails⟩
      · rw [hleft] at hafter
        have hkept : left = left' := hafter.symm.trans (reserve_keeps provider.id observed left')
        rw [hkept]
        rcases hrelays with hrelays | ⟨-, hsame⟩
        · exact Or.inr hrelays
        · exact Or.inl hsame
      · rw [hfails] at hafter
        exact Or.inl hafter.symm

end Steps

section Loop

/-- Replacing the webhook of a payload twice is replacing it once. -/
theorem withWebhook_withWebhook (webhook other : InstanceDefaultWebhookConfig) :
    (payload.withWebhook dto webhook).withWebhook dto other = payload.withWebhook dto other := by
  unfold ProvisioningPayload.withWebhook
  cases dto.webhook with
  | none => rfl
  | some supplied => rfl

/-- The request of the client shows the webhook of the payload, if the client gave one. -/
theorem withWebhook_request (hrequest : payload.request.webhook = dto.webhook)
    (webhook : InstanceDefaultWebhookConfig) :
    (payload.withWebhook dto webhook).request.webhook = dto.webhook.map fun _ => webhook := by
  unfold ProvisioningPayload.withWebhook
  cases hsupplied : dto.webhook with
  | none =>
    rw [hsupplied] at hrequest
    exact hrequest
  | some supplied => rfl

/-- A candidate that relays a payload already relayed does as if it were the first to relay it. -/
theorem Relays.again {first : CandidateTurn ω} {p q : Uuid} {token : String}
    (hleft : first.Relays sync product dto p payload left) (output : Option WebhookConfig) :
    left.withWebhook dto ((left.baseWebhook dto output).relayed sync q token) =
      payload.withWebhook dto ((payload.baseWebhook dto (first.output product.id)).relayed sync q token) := by
  obtain ⟨-, before, -, hleft⟩ := hleft
  rw [hleft, withWebhook_withWebhook]
  change payload.withWebhook dto
    (((payload.baseWebhook dto (first.output product.id)).relayed sync p before).relayed sync q token) = _
  rw [relayed_relayed]

/-- The candidate that takes a creation relays the payload the loop began with: its base webhook is the one that
the first candidate to get so far found. -/
theorem tryCandidates_ok {turns : List (Uuid × CandidateTurn ω)} {prepared : PreparedProvisioning}
    (h : tryCandidates env sync product dto checked candidates turns payload = .ok prepared) :
    ∃ q turn first, (q, turn) ∈ turns ∧ first ∈ turns ∧ turn.Takes env product dto candidates q prepared ∧
      (product.hubRelay = false ∧ prepared.payload = payload ∨
        product.hubRelay = true ∧ ∃ token, turn.token sync q = some token ∧
          prepared.payload = payload.withWebhook dto
            ((payload.baseWebhook dto (first.2.output product.id)).relayed sync q token)) := by
  induction turns generalizing payload with
  | nil => cases h
  | cons candidate turns ih =>
    obtain ⟨p, turn⟩ := candidate
    have hlater : ∀ {payload : ProvisioningPayload},
        tryCandidates env sync product dto checked candidates turns payload = .ok prepared →
        ∃ q later first, (q, later) ∈ (p, turn) :: turns ∧ first ∈ (p, turn) :: turns ∧
          later.Takes env product dto candidates q prepared ∧
          (product.hubRelay = false ∧ prepared.payload = payload ∨
            product.hubRelay = true ∧ ∃ token, later.token sync q = some token ∧
              prepared.payload = payload.withWebhook dto
                ((payload.baseWebhook dto (first.2.output product.id)).relayed sync q token)) := by
      intro payload hrest
      obtain ⟨q, later, first, hq, hfirst, hrest⟩ := ih hrest
      exact ⟨q, later, first, List.mem_cons_of_mem _ hq, List.mem_cons_of_mem _ hfirst, hrest⟩
    simp only [tryCandidates] at h
    split at h
    · cases h
    split at h
    · split at h
      · exact hlater h
      · cases h
    · next provider hprovider =>
      have hid : provider.id = p := by
        have hfound := (Option.filter_eq_some_iff.mp hprovider).1
        exact (Table.find?_eq_some.mp hfound).2
      split at h
      · next taken payload' hrun =>
        cases h
        obtain ⟨htakes, hpayload⟩ := attempt_ok hrun
        rw [hid] at htakes hpayload
        refine ⟨p, turn, (p, turn), List.mem_cons_self, List.mem_cons_self, htakes, ?_⟩
        rcases hpayload with ⟨hrelay, hpayload⟩ | hpayload
        · exact Or.inr ⟨hrelay, hpayload⟩
        · exact Or.inl hpayload
      · next failure payload' hrun =>
        split at h
        · rcases attempt_error hrun with hsame | hrelays
          · rw [hsame] at h
            exact hlater h
          · obtain ⟨q, later, first, hq, -, htakes, hpayload⟩ := hlater h
            refine ⟨q, later, (p, turn), hq, List.mem_cons_self, htakes, ?_⟩
            rcases hpayload with ⟨hoff, -⟩ | ⟨hrelay, token, htoken, hpayload⟩
            · rw [hrelays.1] at hoff
              cases hoff
            · refine Or.inr ⟨hrelay, token, htoken, ?_⟩
              rw [hpayload]
              exact Relays.again hrelays _
        · cases h

end Loop

section Prepare

variable {productId : Uuid} {input : PrepareInput ω} {prepared : PreparedProvisioning}

/-- A creation that was reserved went through the candidates of an active product. -/
theorem prepare_ok (h : prepare env sync productId dto input = .ok prepared) :
    ∃ product checked candidates, input.tables.products.find? productId = some product ∧
      prepareCandidates env input product = .ok candidates ∧
      tryCandidates env sync product dto checked candidates
        (candidates.map fun providerId => (providerId, input.turn providerId))
        (initialPayload dto input.drawn input.defaultWebhook) = .ok prepared := by
  unfold prepare at h
  cases hactive : input.execution.assertActive.run input.tables with
  | error stopped =>
    rw [hactive] at h
    cases h
  | ok _ =>
    rw [hactive] at h
    cases hproduct : input.tables.products.find? productId with
    | none =>
      rw [hproduct] at h
      cases h
    | some product =>
      rw [hproduct] at h
      simp only [bind, Except.bind] at h
      split at h
      · cases h
      · cases hname : prepareName dto input product with
        | error failure =>
          simp only [hname] at h
          cases h
        | ok checked =>
          cases hcandidates : prepareCandidates env input product with
          | error failure =>
            simp only [hname, hcandidates] at h
            cases h
          | ok candidates =>
            simp only [hname, hcandidates] at h
            exact ⟨product, checked, candidates, rfl, hcandidates, h⟩

/-- The row of a ticket holds the payload sealed. -/
theorem Takes.sealed {providerId : Uuid} (h : turn.Takes env product dto candidates providerId prepared) :
    prepared.ticket.vpsProviderId = providerId ∧
      ∃ row ∈ prepared.tables.provisionings, row.ticket = prepared.ticket ∧
        row.encryptedRequest = some (encodePayload prepared.payload) := by
  obtain ⟨observed, hreserved⟩ := h.reserved
  unfold prepareReservation at hreserved
  obtain ⟨current, db₁, -, hreserved⟩ := bind_ok.mp hreserved
  simp only [throwWhen_bind_ok, get_bind_ok, assertActive_bind_ok, createProvisioning_bind_ok,
    advanceOccupancy_bind_ok, pure_ok] at hreserved
  obtain ⟨-, -, -, -, -, provisionings, hinsert, -, heq⟩ := hreserved
  have hticket : prepared.ticket = (reservation turn.reservedAt turn.reserving product.id providerId
      prepared.payload dto.instanceName turn.ticketId turn.leaseOwner).ticket :=
    congrArg (fun result => result.1.1) heq
  have htables := congrArg (fun result => result.2.provisionings) heq
  simp only [advanceOccupancy_provisionings] at htables
  rw [hticket, htables]
  exact ⟨rfl, _, (Table.mem_insert? hinsert).mpr (Or.inr rfl), rfl, rfl⟩

/-- Another run of `prepare`, in which one provider is the only candidate. It meets the same default webhook and
the same token of the provider, and its turn finds the webhook configuration that a given turn of the run found;
whatever else it meets may differ. -/
structure PrepareInput.Alone (env : Env) (sync : SyncEnv ω) (productId q first : Uuid)
    (input alone : PrepareInput ω) : Prop where
  only : ∀ product, alone.tables.products.find? productId = some product →
    prepareCandidates env alone product = .ok [q]
  relay : (alone.tables.products.find? productId).map (·.hubRelay) =
    (input.tables.products.find? productId).map (·.hubRelay)
  defaultWebhook : alone.defaultWebhook = input.defaultWebhook
  drawn : alone.drawn = input.drawn
  token : (alone.turn q).token sync q = (input.turn q).token sync q
  output : (alone.turn q).output productId = (input.turn first).output productId

/-- The payload of a creation is the initial one, relayed once for the candidate that took it. -/
theorem prepare_payload (h : prepare env sync productId dto input = .ok prepared) :
    ∃ product candidates q first, input.tables.products.find? productId = some product ∧
      prepareCandidates env input product = .ok candidates ∧ q ∈ candidates ∧ first ∈ candidates ∧
      (input.turn q).Takes env product dto candidates q prepared ∧
      (product.hubRelay = false ∧ prepared.payload = initialPayload dto input.drawn input.defaultWebhook ∨
        product.hubRelay = true ∧ ∃ token, (input.turn q).token sync q = some token ∧
          prepared.payload = (initialPayload dto input.drawn input.defaultWebhook).withWebhook dto
            (((initialPayload dto input.drawn input.defaultWebhook).baseWebhook dto
              ((input.turn first).output productId)).relayed sync q token)) := by
  obtain ⟨product, checked, candidates, hproduct, hcandidates, hloop⟩ := prepare_ok h
  obtain ⟨q, turn, first, hq, hfirst, htakes, hpayload⟩ := tryCandidates_ok hloop
  obtain ⟨q', hq', heq⟩ := List.mem_map.mp hq
  obtain ⟨p, hp, hturn⟩ := List.mem_map.mp hfirst
  cases heq
  have hid : product.id = productId := (Table.find?_eq_some.mp hproduct).2
  refine ⟨product, candidates, q, p, hproduct, hcandidates, hq', hp, htakes, ?_⟩
  rw [← hturn, hid] at hpayload
  exact hpayload

end Prepare

/-- The payload that `prepare` seals and returns is the one it builds when the provider that took the creation is
the only candidate. With the relay on, its webhook names that provider alone: whatever text is in it, and was not
kept from the webhook it was made from, is the URL, the token or the name of the private header. -/
theorem prepare_shows_one_candidate {productId : Uuid} {input : PrepareInput ω} {prepared : PreparedProvisioning}
    (h : prepare env sync productId dto input = .ok prepared) :
    ∃ product q first base, input.tables.products.find? productId = some product ∧
      prepared.ticket.vpsProviderId = q ∧
      base = (initialPayload dto input.drawn input.defaultWebhook).baseWebhook dto
        ((input.turn first).output productId) ∧
      (∃ row ∈ prepared.tables.provisionings, row.ticket = prepared.ticket ∧
        row.encryptedRequest = some (encodePayload prepared.payload)) ∧
      (∀ alone prepared', input.Alone env sync productId q first alone →
        prepare env sync productId dto alone = .ok prepared' → prepared'.payload = prepared.payload) ∧
      (product.hubRelay = true → ∃ token webhook, (input.turn q).token sync q = some token ∧
        prepared.payload.webhook = some webhook ∧
        prepared.payload.request.webhook = dto.webhook.map (fun _ => webhook) ∧
        webhook.url = relayUrl sync q ∧
        (webhook.headers.getD []).filter (fun header => sync.isRelayToken header.1) =
          [(relayTokenHeader, token)] ∧
        (∀ text ∈ webhook.texts, text ∉ base.ownTexts sync →
          text = relayUrl sync q ∨ text = relayTokenHeader ∨ text = token) ∧
        ∀ p, p ≠ q → relayUrl sync p ≠ relayUrl sync q) := by
  obtain ⟨product, candidates, q, first, hproduct, -, -, -, htakes, hpayload⟩ := prepare_payload h
  obtain ⟨hticket, hsealed⟩ := Takes.sealed htakes
  obtain ⟨base, hbase⟩ : ∃ base, base = (initialPayload dto input.drawn input.defaultWebhook).baseWebhook dto
    ((input.turn first).output productId) := ⟨_, rfl⟩
  rw [← hbase] at hpayload
  refine ⟨product, q, first, base, hproduct, hticket, hbase, hsealed, ?_, ?_⟩
  · intro alone prepared' halone hprepare
    obtain ⟨other, candidates', q', first', hother, hcandidates', hq', hfirst', -, hpayload'⟩ :=
      prepare_payload hprepare
    have honly : candidates' = [q] := Except.ok.inj (hcandidates'.symm.trans (halone.only other hother))
    rw [honly, List.mem_singleton] at hq' hfirst'
    have hrelay : other.hubRelay = product.hubRelay := by
      have hsame := halone.relay
      rw [hother, hproduct] at hsame
      exact Option.some.inj hsame
    rw [hq', hfirst', halone.token, halone.output, halone.drawn, halone.defaultWebhook, hrelay, ← hbase] at hpayload'
    rcases hpayload with ⟨hoff, hpayload⟩ | ⟨hon, token, htoken, hpayload⟩
    · rcases hpayload' with ⟨-, hpayload'⟩ | ⟨hon, -⟩
      · rw [hpayload, hpayload']
      · rw [hoff] at hon
        cases hon
    · rcases hpayload' with ⟨hoff, -⟩ | ⟨-, token', htoken', hpayload'⟩
      · rw [hon] at hoff
        cases hoff
      · rw [htoken] at htoken'
        cases htoken'
        rw [hpayload, hpayload']
  · intro hon
    rcases hpayload with ⟨hoff, -⟩ | ⟨-, token, htoken, hpayload⟩
    · rw [hon] at hoff
      cases hoff
    · have hwebhook : prepared.payload.webhook = some (base.relayed sync q token) := by
        rw [hpayload]
        rfl
      refine ⟨token, _, htoken, hwebhook, ?_, rfl, relayed_privateHeaders, ?_, ?_⟩
      · rw [hpayload]
        exact withWebhook_request rfl _
      · intro text htext hforeign
        rcases mem_texts_relayed htext with hurl | hname | htoken | hown
        · exact Or.inl hurl
        · exact Or.inr (Or.inl hname)
        · exact Or.inr (Or.inr htoken)
        · exact absurd hown hforeign
      · intro p hp hsame
        exact hp (relayUrl_injective sync hsame)

/-- A provider of the small installation whose identity is not verified: it is tried first and refuses. -/
def smallRefusing : VpsProvider :=
  { smallProvider with
    id := smallServer.id
    providerUrl := "https://other.test"
    callbackTokenEncrypted := some ⟨some "first"⟩ }

/-- The provider of the small installation, ready to call the Hub. -/
def smallTaking : VpsProvider :=
  { smallProvider with callbackReadiness := .ready, callbackTokenEncrypted := some ⟨some "second"⟩ }

/-- The small installation with the relay on, its product linked to the second provider alone. -/
def smallLone : Database where
  products := ⟨[{ smallProduct with hubRelay := true }], by decide⟩
  vpsServers := smallDatabase.vpsServers
  providers := ⟨[smallRefusing, smallTaking], by decide⟩
  links := ⟨[{ productId := smallProduct.id, vpsProviderId := smallTaking.id, acceptingNewInstances := true }],
    by decide⟩

/-- The same with the product linked to both. -/
def smallCandidates : Database :=
  { smallLone with
    links := ⟨[{ productId := smallProduct.id, vpsProviderId := smallRefusing.id, acceptingNewInstances := true },
               { productId := smallProduct.id, vpsProviderId := smallTaking.id, allocationPriority := 1,
                 acceptingNewInstances := true }], by decide⟩ }

/-- The turn of a candidate while nobody changes the tables. -/
def smallTurn (tables : Database) : CandidateTurn Json where
  execution := { remainingMs := 1000 }
  found := tables
  foundAt := 0
  observed := { remainingMs := 1000 }
  configured := tables
  world := .null
  reserved := tables
  reservedAt := 0
  reserving := { remainingMs := 1000 }
  ticketId := smallTicket.id
  leaseOwner := smallServer.id
  failed := { remainingMs := 1000 }

/-- A creation while nobody changes the tables; the default webhook has two headers, one of them private. -/
def smallPreparing (tables : Database) : PrepareInput Json where
  execution := { remainingMs := 1000 }
  tables := tables
  hostAsked := { remainingMs := 1000 }
  hostAnswered := { remainingMs := 1000 }
  removing := tables
  listing := tables
  defaultWebhook := some { url := "https://client.test",
                           headers := some [("X-Copy", "first"), ("x-hub-relay-TOKEN", "old")] }
  drawn := "drawn"
  turn _ := smallTurn tables

/-- The second candidate takes the creation with the payload it would take it with alone. -/
theorem prepare_shows_one_candidate_small : ∃ prepared lone,
    prepare smallEnv smallSyncEnv smallProduct.id { instanceName := "alice" } (smallPreparing smallCandidates) =
      .ok prepared ∧
    prepare smallEnv smallSyncEnv smallProduct.id { instanceName := "alice" } (smallPreparing smallLone) =
      .ok lone ∧
    lone.payload = prepared.payload := by
  have hboth : ∃ prepared, prepare smallEnv smallSyncEnv smallProduct.id { instanceName := "alice" }
      (smallPreparing smallCandidates) = .ok prepared ∧ prepared.ticket.vpsProviderId = smallTaking.id :=
    ⟨_, rfl, rfl⟩
  have hlone : ∃ lone, prepare smallEnv smallSyncEnv smallProduct.id { instanceName := "alice" }
      (smallPreparing smallLone) = .ok lone := ⟨_, rfl⟩
  obtain ⟨prepared, hprepared, htaken⟩ := hboth
  obtain ⟨lone, hlone⟩ := hlone
  obtain ⟨product, q, first, base, -, hticket, -, -, hsame, -⟩ := prepare_shows_one_candidate hprepared
  refine ⟨prepared, lone, hprepared, hlone, hsame (smallPreparing smallLone) lone ?_ hlone⟩
  rw [← hticket, htaken]
  constructor
  · intro other hother
    cases hother
    rfl
  · rfl
  · rfl
  · rfl
  · rfl
  · rfl

/-- A header of the default webhook that holds the token of a candidate that refused stays in the payload of the
one that took the creation. -/
theorem prepare_keeps_copied_token : ∃ prepared webhook,
    prepareCandidates smallEnv (smallPreparing smallCandidates) { smallProduct with hubRelay := true } =
      .ok [smallRefusing.id, smallTaking.id] ∧
    smallRefusing.id ≠ smallTaking.id ∧
    prepare smallEnv smallSyncEnv smallProduct.id { instanceName := "alice" } (smallPreparing smallCandidates) =
      .ok prepared ∧
    prepared.ticket.vpsProviderId = smallTaking.id ∧ prepared.payload.webhook = some webhook ∧
    (smallTurn smallCandidates).token smallSyncEnv smallRefusing.id = some "first" ∧
    (smallTurn smallCandidates).token smallSyncEnv smallTaking.id = some "second" ∧
    "first" ∈ webhook.texts := by
  refine ⟨_, _, rfl, by decide, rfl, rfl, rfl, rfl, rfl, ?_⟩
  decide +kernel

end ConnectHub
