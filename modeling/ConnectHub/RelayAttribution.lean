import ConnectHub.ProvisioningRows
import ConnectHub.RelayIngress
import ConnectHub.Store.Pool

/-!
# Events reach the owner of the instance they name

What an event carried is decided once, when it is stored; what it is attributed to is decided then or when
the creation it waited for has an instance. From then on every copy of the delivery, in the table, in the
queue or in the hands of a task, names the provider it came from and the name and id it carried, and the
validation before the post compares all of that with the instance it finds.
-/

namespace ConnectHub

open Store

/-- Whether an event may still be published. -/
def PendingRelayEvent.isOpen (event : PendingRelayEvent) : Bool :=
  event.state = .pending || event.state = .waiting

/-- An event that is to be queued can still be delivered. -/
theorem isOpen_of_pending {event : PendingRelayEvent} (h : event.state = .pending) : event.isOpen = true := by
  unfold PendingRelayEvent.isOpen
  rw [h]
  rfl

/-- An event as it was, or no longer open. -/
structure PendingRelayEvent.Follows (event' event : PendingRelayEvent) : Prop where
  id : event'.id = event.id
  same : event'.isOpen = true → event.isOpen = true ∧ event'.vpsProviderId = event.vpsProviderId ∧
    event'.providerInstanceId = event.providerInstanceId ∧ event'.encryptedPayload = event.encryptedPayload ∧
    event'.originEvidence = event.originEvidence

/-- A creation is there under a name. -/
def Database.Names (db : Database) (k : Uuid) (name : String) : Prop :=
  ∃ row, db.provisionings.find? k = some row ∧ row.instanceName = name

/-- The events are those that were there, and the creations keep their names. -/
structure Database.EventsKept (db db' : Database) : Prop where
  follows : ∀ event' ∈ db'.relayEvents, ∃ event ∈ db.relayEvents, event'.Follows event
  present : ∀ k, db.relayEvents.find? k ≠ none → db'.relayEvents.find? k ≠ none
  names : ∀ k name, db.Names k name → db'.Names k name

section Kept

variable {env : Env} {db db' : Database} {op : Operation} {outcome : Outcome} {k : Uuid} {name : String}

/-- An event follows itself. -/
theorem PendingRelayEvent.Follows.refl (event : PendingRelayEvent) : event.Follows event :=
  ⟨rfl, fun h => ⟨h, rfl, rfl, rfl, rfl⟩⟩

/-- An event that is no longer open follows any event with its id. -/
theorem PendingRelayEvent.Follows.of_closed {event' event : PendingRelayEvent} (hid : event'.id = event.id)
    (hclosed : event'.isOpen = false) : event'.Follows event :=
  ⟨hid, fun h => by rw [hclosed] at h; cases h⟩

/-- Leaving the events and the creations alone. -/
theorem eventsKept_of_eq (hevents : db'.relayEvents = db.relayEvents)
    (hrows : db'.provisionings = db.provisionings) :
    db.EventsKept db' := by
  refine ⟨fun event hevent => ⟨event, hevents ▸ hevent, .refl event⟩, fun k hk => ?_, fun k name hname => ?_⟩
  · rw [hevents]
    exact hk
  · unfold Database.Names
    rw [hrows]
    exact hname

/-- Changing events so that each follows itself. -/
theorem eventsKept_modify {p : PendingRelayEvent → Bool} {f : PendingRelayEvent → PendingRelayEvent}
    (hf : ∀ e, (f e).id = e.id) (hfollows : ∀ e, p e = true → (f e).Follows e)
    (hevents : db'.relayEvents = db.relayEvents.modify p f hf)
    (hnames : ∀ k name, db.Names k name → db'.Names k name) : db.EventsKept db' := by
  refine ⟨fun event' hevent' => ?_, fun k hk => ?_, hnames⟩
  · rw [hevents] at hevent'
    obtain ⟨event, hevent, rfl⟩ := Table.mem_modify.mp hevent'
    refine ⟨event, hevent, ?_⟩
    split
    · next hp => exact hfollows event hp
    · exact .refl event
  · rw [hevents, Table.find?_modify]
    simpa using hk

/-- An operation changes no event but by forgetting an instance it deleted. -/
theorem Effect.relayEvents (h : Effect env db op outcome db') :
    db'.relayEvents = db.relayEvents ∨ ∃ id, db'.relayEvents = (db.deleteInstance id).relayEvents ∧
      ∀ i ∈ db'.instances, i.id ≠ id := by
  cases h with
  | @prepared _ _ _ providerId _ _ _ _ _ product =>
    obtain ⟨links, hlinks⟩ := admissionBase_eq db product providerId
    rw [hlinks]
    exact Or.inl rfl
  | @sent _ _ ticket product =>
    obtain ⟨links, hlinks⟩ := admissionBase_eq db product ticket.vpsProviderId
    rw [hlinks]
    exact Or.inl rfl
  | removedOwned | removed =>
    exact Or.inr ⟨_, rfl, fun i hi => (mem_dropInstance_instances.mp hi).2⟩
  | idle | recordedAgain | recorded | webhookMarked | finished | cleaning | abandoned | expired | taken
  | linked | imported => exact Or.inl rfl

/-- Creation, import, removal and provisioning keep the events and the names of the creations. -/
theorem DatabaseStep.eventsKept {e : Transition} (h : DatabaseStep env db e db') : db.EventsKept db' := by
  cases h with
  | committed op =>
    rcases commit_effect env db op with hsame | ⟨outcome, heffect⟩
    · rw [hsame]
      exact eventsKept_of_eq rfl rfl
    · have hnames : ∀ k name, db.Names k name → (commit (perform env op) db).Names k name := by
        rintro k name ⟨row, hrow, hname⟩
        obtain ⟨row', hrow', hchange⟩ := heffect.row_change hrow
        exact ⟨row', hrow', hchange.claim_eq.2.trans hname⟩
      rcases heffect.relayEvents with hevents | ⟨id, hevents, -⟩
      · refine ⟨fun event hevent => ⟨event, hevents ▸ hevent, .refl event⟩, fun k hk => ?_, hnames⟩
        rw [hevents]
        exact hk
      · exact eventsKept_modify (f := fun e => { e with instanceId := none }) (fun _ => rfl)
          (fun e _ => ⟨rfl, fun hopen => ⟨hopen, rfl, rfl, rfl, rfl⟩⟩) hevents hnames
  | reordered hsame =>
    refine ⟨fun event hevent => ⟨event, ?_, .refl event⟩, fun k hk => ?_, fun k name hname => ?_⟩
    · rw [← hsame.rest] at hevent
      exact hevent
    · rw [← hsame.rest]
      exact hk
    · obtain ⟨row, hrow, hname⟩ := hname
      refine ⟨row, ?_, hname⟩
      rw [Table.find?_eq_some] at hrow ⊢
      exact ⟨hsame.provisionings.mem_iff.mp hrow.1, hrow.2⟩

end Kept

/-- The only reception under which an event was stored. -/
structure RelayOrigin (hist : List RelayEvent) (k : Uuid) (body : Json)
    (evidence : OriginEvidence) : Prop where
  stored : .stored k body evidence ∈ hist
  received : .received body evidence ∈ hist
  unique : ∀ body' evidence', .stored k body' evidence' ∈ hist → body' = body ∧ evidence' = evidence

/-- A delivery that names a provider names one the event may come from, and what the event carried. -/
structure Attributed (body : Json) (evidence : OriginEvidence) (payload : RelayJobPayload) : Prop where
  body_eq : payload.body = body
  origin : ∀ v, payload.providerId = some v → v ∈ evidence.origins
  instanceName : ∀ name, (identity body).name = some name → payload.providerId ≠ none →
    payload.instanceName = name
  providerInstanceId : ∀ id, (identity body).id = some id → payload.providerId ≠ none →
    payload.providerInstanceId = some id

/-- A delivery of a stored event. -/
def Sent (hist : List RelayEvent) (k : Uuid) (payload : RelayJobPayload) : Prop :=
  ∃ body evidence, RelayOrigin hist k body evidence ∧ Attributed body evidence payload

/-- What the record of an event that is open says. -/
structure RecordOf (db : Database) (body : Json) (evidence : OriginEvidence)
    (event : PendingRelayEvent) : Prop where
  vpsProviderId : ∀ v, event.vpsProviderId = some v → v ∈ evidence.origins
  providerInstanceId : event.providerInstanceId = (identity body).id
  payload : ∀ payload, event.encryptedPayload.opened = some payload → Attributed body evidence payload
  awaited : ∀ k, event.originEvidence.bind (·.provisioningId) = some k →
    ∀ name, (identity body).name = some name → db.Names k name

/-- The record of an event that is open tells what was received. -/
def RecordRight (hist : List RelayEvent) (db : Database) (event : PendingRelayEvent) : Prop :=
  event.isOpen = true → ∃ body evidence, RelayOrigin hist event.id body evidence ∧
    RecordOf db body evidence event

/-- A job delivers the event it is named after. -/
def JobRight (hist : List RelayEvent) (job : RelayJob) : Prop :=
  job.data.pendingEventId = some job.id ∧ Sent hist job.id job.data

/-- What the tables and the queue say at any moment. -/
structure RelayRight (hist : List RelayEvent) (shared : RelayShared) : Prop where
  records : ∀ event ∈ shared.db.relayEvents, RecordRight hist shared.db event
  jobs : ∀ job ∈ shared.queue, JobRight hist job
  present : ∀ k body evidence, .stored k body evidence ∈ hist → shared.db.relayEvents.find? k ≠ none

/-- Where an event came from that is being accepted. -/
structure Accepting (hist : List RelayEvent) (body : Json) (evidence : OriginEvidence) : Prop where
  received : .received body evidence ∈ hist
  provisioningId : evidence.provisioningId = none

/-- What a task knows. -/
def RelayTask.Knows (hist : List RelayEvent) (shared : RelayShared) : RelayTask → Prop
  | .accept _ body evidence => Accepting hist body evidence
  | .intend _ body evidence instances =>
    Accepting hist body evidence ∧ ∀ i ∈ instances, i.vpsProviderId ∈ evidence.origins
  | .store _ body evidence instances intentions =>
    Accepting hist body evidence ∧ (∀ i ∈ instances, i.vpsProviderId ∈ evidence.origins) ∧
      ∀ r ∈ intentions, r.vpsProviderId ∈ evidence.origins ∧ shared.db.Names r.id r.instanceName
  | .publish event => ∀ payload, event.encryptedPayload.opened = some payload → Sent hist event.id payload
  | .enqueue k payload | .resolve k payload _ => Sent hist k payload
  | .mark _ state _ => state ≠ .pending ∧ state ≠ .waiting
  | .recover event => event.isOpen = true ∧ RecordRight hist shared.db event
  | .relay job => JobRight hist job
  | .findWebhook job item => JobRight hist job ∧ .validated job.data item ∈ hist
  | .post job item webhook =>
    JobRight hist job ∧ .validated job.data item ∈ hist ∧ webhook.productId = item.productId
  | .noteQueued _ | .reread _ => True

/-- What every step guarantees to the tasks: creations keep their names, and an event is stored but once. -/
structure RelayGuarantee (hist : List RelayEvent) (shared : RelayShared) (e : RelayEvent)
    (shared' : RelayShared) :
    Prop where
  names : ∀ k name, shared.db.Names k name → shared'.db.Names k name
  fresh : ∀ k body evidence, e = .stored k body evidence → ∀ body' evidence', .stored k body' evidence' ∉ hist

section Stability

variable {hist : List RelayEvent} {shared shared' : RelayShared} {e : RelayEvent} {k : Uuid} {body : Json}
  {evidence : OriginEvidence} {payload : RelayJobPayload} {event event' : PendingRelayEvent} {job : RelayJob}
  {db db' : Database}

/-- Where an event came from does not change. -/
theorem RelayOrigin.stable (h : RelayOrigin hist k body evidence)
    (hfresh : ∀ body' evidence', e = .stored k body' evidence' → ∀ b v, .stored k b v ∉ hist) :
    RelayOrigin (hist ++ [e]) k body evidence := by
  refine ⟨List.mem_append_left _ h.stored, List.mem_append_left _ h.received,
    fun body' evidence' hstored => ?_⟩
  rcases List.mem_append.mp hstored with hstored | hstored
  · exact h.unique body' evidence' hstored
  · exact absurd h.stored (hfresh body' evidence' (List.mem_singleton.mp hstored).symm _ _)

/-- A delivery stays one of its event. -/
theorem Sent.stable (h : Sent hist k payload) (hguarantee : RelayGuarantee hist shared e shared') :
    Sent (hist ++ [e]) k payload := by
  obtain ⟨body, evidence, horigin, hattributed⟩ := h
  exact ⟨body, evidence, horigin.stable (hguarantee.fresh k), hattributed⟩

/-- A job stays one of its event. -/
theorem JobRight.stable (h : JobRight hist job) (hguarantee : RelayGuarantee hist shared e shared') :
    JobRight (hist ++ [e]) job :=
  ⟨h.1, h.2.stable hguarantee⟩

/-- A record that follows a right one is right. -/
theorem RecordRight.follows (h : RecordRight hist db event) (hfollows : event'.Follows event)
    (hnames : ∀ k name, db.Names k name → db'.Names k name) : RecordRight hist db' event' := by
  intro hopen
  obtain ⟨hopen', hprovider, hid, hpayload, horigin⟩ := hfollows.same hopen
  obtain ⟨body, evidence, hfrom, hrecord⟩ := h hopen'
  refine ⟨body, evidence, hfollows.id ▸ hfrom, ?_, hid.trans hrecord.providerInstanceId, ?_, ?_⟩
  · rw [hprovider]
    exact hrecord.vpsProviderId
  · rw [hpayload]
    exact hrecord.payload
  · rw [horigin]
    exact fun k hk name hname => hnames k name (hrecord.awaited k hk name hname)

/-- A right record stays right. -/
theorem RecordRight.stable (h : RecordRight hist shared.db event)
    (hguarantee : RelayGuarantee hist shared e shared') :
    RecordRight (hist ++ [e]) shared'.db event := by
  intro hopen
  obtain ⟨body, evidence, horigin, hrecord⟩ := h hopen
  exact ⟨body, evidence, horigin.stable (hguarantee.fresh event.id), hrecord.vpsProviderId,
    hrecord.providerInstanceId, hrecord.payload,
    fun k hk name hname => hguarantee.names k name (hrecord.awaited k hk name hname)⟩

/-- Where an accepted event came from does not change. -/
theorem Accepting.stable (h : Accepting hist body evidence) : Accepting (hist ++ [e]) body evidence :=
  ⟨List.mem_append_left _ h.received, h.provisioningId⟩

/-- What a task knows stays so, whatever the others do. -/
theorem RelayTask.Knows.stable {task : RelayTask} (h : task.Knows hist shared)
    (hguarantee : RelayGuarantee hist shared e shared') : task.Knows (hist ++ [e]) shared' := by
  cases task with
  | accept => exact Accepting.stable h
  | intend => exact ⟨h.1.stable, h.2⟩
  | store =>
    exact ⟨h.1.stable, h.2.1, fun r hr => ⟨(h.2.2 r hr).1, hguarantee.names _ _ (h.2.2 r hr).2⟩⟩
  | publish event => exact fun payload hpayload => (h payload hpayload).stable hguarantee
  | enqueue | resolve => exact Sent.stable h hguarantee
  | mark => exact h
  | recover event => exact ⟨h.1, h.2.stable hguarantee⟩
  | relay job => exact JobRight.stable h hguarantee
  | findWebhook => exact ⟨h.1.stable hguarantee, List.mem_append_left _ h.2⟩
  | post => exact ⟨h.1.stable hguarantee, List.mem_append_left _ h.2.1, h.2.2⟩
  | noteQueued | reread => trivial

/-- A step that stores no event is right where every record it leaves is. -/
theorem RelayRight.step (h : RelayRight hist shared)
    (hnames : ∀ k name, shared.db.Names k name → shared'.db.Names k name)
    (hpresent : ∀ k, shared.db.relayEvents.find? k ≠ none → shared'.db.relayEvents.find? k ≠ none)
    (hrecords : ∀ event ∈ shared'.db.relayEvents, RecordRight hist shared.db event)
    (hqueue : ∀ job ∈ shared'.queue, JobRight hist job)
    (he : ∀ k body evidence, e ≠ .stored k body evidence) :
    RelayRight (hist ++ [e]) shared' ∧ RelayGuarantee hist shared e shared' := by
  have hguarantee : RelayGuarantee hist shared e shared' :=
    ⟨hnames, fun k body evidence hstored => absurd hstored (he k body evidence)⟩
  refine ⟨⟨fun event hevent => (hrecords event hevent).stable hguarantee,
    fun job hjob => (hqueue job hjob).stable hguarantee, fun k body evidence hstored => ?_⟩, hguarantee⟩
  rcases List.mem_append.mp hstored with hstored | hstored
  · exact hpresent k (h.present k body evidence hstored)
  · exact absurd (List.mem_singleton.mp hstored).symm (he k body evidence)

/-- A step that stores no event and keeps those that are there. -/
theorem RelayRight.kept (h : RelayRight hist shared) (hkept : shared.db.EventsKept shared'.db)
    (hqueue : ∀ job ∈ shared'.queue, JobRight hist job)
    (he : ∀ k body evidence, e ≠ .stored k body evidence) :
    RelayRight (hist ++ [e]) shared' ∧ RelayGuarantee hist shared e shared' := by
  refine h.step hkept.names hkept.present (fun event' hevent' => ?_) hqueue he
  obtain ⟨event, hevent, hfollows⟩ := hkept.follows event' hevent'
  exact RecordRight.follows (h.records event hevent) hfollows fun _ _ hname => hname

end Stability

section Statements

variable {hist : List RelayEvent} {shared shared' : RelayShared} {e : RelayEvent} {next : Option RelayTask}
  {input : RelayInput} {body : Json} {evidence : OriginEvidence} {adapterType : String}
  {instances : List Instance}
  {intentions : List InstanceProvisioning} {event : PendingRelayEvent} {item : Instance}
  {intent : InstanceProvisioning} {payload : RelayJobPayload} {instanceId : Uuid}

/-- An id that is carried is no blank. -/
theorem identity_id_truthy {id : String} (h : (identity body).id = some id) : truthy (some id) = true := by
  unfold identity Json.text? at h
  simpa [truthy] using (Option.filter_eq_some_iff.mp h).2

/-- The instance an event is attributed to is one of those found, and agrees with what it carried. -/
theorem attributedInstance_some (h : attributedInstance (identity body) instances intentions = some item) :
    item ∈ instances ∧ (∀ name, (identity body).name = some name → item.instanceName = name) ∧
      ∀ id, (identity body).id = some id → item.providerInstanceId = some id := by
  cases instances with
  | nil => cases h
  | cons found others =>
    cases others with
    | cons => cases h
    | nil =>
      simp only [attributedInstance] at h
      split at h
      · next hagrees =>
        obtain rfl : found = item := Option.some.inj h
        simp only [RelayIdentity.agrees, Bool.and_eq_true, Option.all_eq_true, decide_eq_true_eq] at hagrees
        exact ⟨List.mem_singleton_self _, hagrees.1.1, hagrees.1.2⟩
      · cases h

/-- The creation an event waits for is one of those found, under the name it carried. -/
theorem awaitedIntention_some (h : awaitedIntention (identity body) instances intentions = some intent) :
    intent ∈ intentions ∧ ∀ name, (identity body).name = some name → intent.instanceName = name := by
  cases instances with
  | cons => cases h
  | nil =>
    cases intentions with
    | nil => cases h
    | cons found others =>
      cases others with
      | cons => cases h
      | nil =>
        simp only [awaitedIntention] at h
        split at h
        · next hagrees =>
          obtain rfl : found = intent := Option.some.inj h
          simp only [Bool.and_eq_true, Option.all_eq_true, decide_eq_true_eq] at hagrees
          exact ⟨List.mem_singleton_self _, hagrees.1⟩
        · cases h

/-- The delivery of an event as it is stored: it names a provider only with an instance. -/
theorem attributed_relayPayload (horigins : ∀ i ∈ instances, i.vpsProviderId ∈ evidence.origins)
    (intention? : Option InstanceProvisioning) :
    Attributed body evidence (relayPayload adapterType body
      (attributedInstance (identity body) instances intentions) intention?) := by
  cases hitem : attributedInstance (identity body) instances intentions with
  | none =>
    refine ⟨rfl, fun v hv => ?_, fun _ _ hne => absurd rfl hne, fun _ _ hne => absurd rfl hne⟩
    cases hv
  | some item =>
    obtain ⟨hmem, -, hid⟩ := attributedInstance_some hitem
    refine ⟨rfl, fun v hv => ?_, fun name hname _ => ?_, fun id hcarried _ => hid id hcarried⟩
    · obtain rfl : item.vpsProviderId = v := Option.some.inj hv
      exact horigins item hmem
    · unfold relayPayload
      rw [hname]
      rfl

/-- What the record of a received event says. -/
theorem recordOf_receivedEvent {id : Uuid} {db : Database} (hevidence : evidence.provisioningId = none)
    (horigins : ∀ i ∈ instances, i.vpsProviderId ∈ evidence.origins)
    (hintentions : ∀ r ∈ intentions, r.vpsProviderId ∈ evidence.origins ∧ db.Names r.id r.instanceName) :
    RecordOf db body evidence (receivedEvent id adapterType body evidence
      (attributedInstance (identity body) instances intentions)
      (awaitedIntention (identity body) instances intentions)) := by
  refine ⟨fun v hv => ?_, rfl, fun payload hpayload => ?_, fun k hk name hname => ?_⟩
  · unfold receivedEvent at hv
    cases hitem : attributedInstance (identity body) instances intentions with
    | some item =>
      rw [hitem] at hv
      obtain rfl : item.vpsProviderId = v := Option.some.inj hv
      exact horigins item (attributedInstance_some hitem).1
    | none =>
      cases hintent : awaitedIntention (identity body) instances intentions with
      | some intent =>
        rw [hitem, hintent] at hv
        obtain rfl : intent.vpsProviderId = v := Option.some.inj hv
        exact (hintentions intent (awaitedIntention_some hintent).1).1
      | none =>
        rw [hitem, hintent] at hv
        dsimp only [Option.map_none, Option.none_or] at hv
        split at hv
        · next providerId hsingle =>
          obtain rfl : providerId = v := Option.some.inj hv
          rw [hsingle]
          exact List.mem_singleton_self _
        · cases hv
  · obtain rfl := Option.some.inj hpayload
    exact attributed_relayPayload horigins _
  · unfold receivedEvent at hk
    cases hintent : awaitedIntention (identity body) instances intentions with
    | some intent =>
      rw [hintent] at hk
      obtain rfl : intent.id = k := Option.some.inj hk
      obtain ⟨hmem, hagrees⟩ := awaitedIntention_some hintent
      rw [← hagrees name hname]
      exact (hintentions intent hmem).2
    | none =>
      rw [hintent] at hk
      dsimp only [Option.map_none, Option.none_or, Option.bind_some] at hk
      rw [hevidence] at hk
      cases hk

/-- What is known of an event that waits and is resolved: the creation that it waits for, and its own delivery. -/
theorem judgeWaiting_eq_resolve {db : Database} {waiting : PendingRelayEvent}
    (h : db.judgeWaiting waiting = .resolve payload instanceId) :
    ∃ provisioningId intention original,
      waiting.originEvidence.bind (·.provisioningId) = some provisioningId ∧
      db.provisionings.find? provisioningId = some intention ∧
      waiting.vpsProviderId = some intention.vpsProviderId ∧
      (truthy waiting.providerInstanceId = true → intention.providerInstanceId = waiting.providerInstanceId) ∧
      waiting.encryptedPayload.opened = some original ∧ payload = original.resolved intention instanceId := by
  unfold Database.judgeWaiting at h
  split at h
  · next provisioningId providerId hprovisioning hprovider =>
    split at h
    · cases h
    · next intention hintention =>
      split at h
      · cases h
      · split at h
        · cases h
        · split at h
          · cases h
          · split at h
            · cases h
            · next hsame =>
              split at h
              · cases h
              · next original horiginal =>
                cases h
                simp only [not_or, not_not, not_and] at hsame
                have hcarried : waiting.vpsProviderId = some intention.vpsProviderId :=
                  hprovider.trans (congrArg some hsame.1.symm)
                exact ⟨provisioningId, intention, original, hprovisioning, hintention, hcarried, hsame.2,
                  horiginal, rfl⟩
  · cases h

/-- An event that waits is resolved only into a delivery of that event. -/
theorem judgeWaiting_resolve {db : Database} (hrecord : RecordOf db body evidence event)
    (h : db.judgeWaiting event = .resolve payload instanceId) : Attributed body evidence payload := by
  obtain ⟨provisioningId, intention, original, hprovisioning, hintention, hprovider, hsame, horiginal, rfl⟩ :=
    judgeWaiting_eq_resolve h
  refine ⟨(hrecord.payload original horiginal).body_eq, fun v hv => ?_, fun name hname _ => ?_, fun id hid _ => ?_⟩
  · obtain rfl : intention.vpsProviderId = v := Option.some.inj hv
    exact hrecord.vpsProviderId _ hprovider
  · obtain ⟨row, hrow, hnamed⟩ := hrecord.awaited provisioningId hprovisioning name hname
    obtain rfl : intention = row := Option.some.inj (hintention.symm.trans hrow)
    exact hnamed
  · have hcarried : event.providerInstanceId = some id := hrecord.providerInstanceId.trans hid
    rw [← hcarried]
    exact hsame (hcarried ▸ identity_id_truthy hid)

end Statements

end ConnectHub
