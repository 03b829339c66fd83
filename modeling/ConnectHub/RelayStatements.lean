import ConnectHub.RelayAttribution

/-!
# What one statement of the relay keeps

Storing an event is the only step that adds to what was received; resolving one that waits is the only step
that changes what an open event delivers. All others read, close events or copy deliveries.
-/

namespace ConnectHub

open Store

/-- What a step of a task leaves: right tables, what the others rely on, and what the task knows next. -/
def RelayKeeps (hist : List RelayEvent) (shared : RelayShared)
    (r : RelayEvent × RelayShared × Option RelayTask) :
    Prop :=
  (RelayRight (hist ++ [r.1]) r.2.1 ∧ RelayGuarantee hist shared r.1 r.2.1) ∧
    ∀ task ∈ r.2.2, task.Knows (hist ++ [r.1]) r.2.1

/-- What a delivery says of the instance it was validated against. -/
structure ValidatedAs (db : Database) (payload : RelayJobPayload) (item : Instance) : Prop where
  found : item ∈ db.instances
  isActive : item.isActive = true
  productId : payload.productId = some item.productId
  providerId : payload.providerId = some item.vpsProviderId
  instanceName : item.instanceName = payload.instanceName
  providerInstanceId : truthy payload.providerInstanceId = true →
    item.providerInstanceId = payload.providerInstanceId

/-- What may be observed of a statement. -/
inductive RelayTask.Observed (shared : RelayShared) : RelayTask → RelayEvent → Prop
  | silent (task : RelayTask) : Observed shared task .silent
  | stored (task : RelayTask) (k : Uuid) (body : Json) (evidence : OriginEvidence) :
      Observed shared task (.stored k body evidence)
  | validated {job : RelayJob} {item : Instance} (valid : ValidatedAs shared.db job.data item) :
      Observed shared (.relay job) (.validated job.data item)
  | posted (job : RelayJob) (item : Instance) (webhook : WebhookConfig) :
      Observed shared (.post job item webhook) (.posted job.data item webhook)

/-- A step that is not observed stores no event. -/
theorem silent_ne_stored (k : Uuid) (body : Json) (evidence : OriginEvidence) :
    RelayEvent.silent ≠ .stored k body evidence := by
  intro h
  cases h

section Reads

variable {hist : List RelayEvent} {shared shared' : RelayShared} {e : RelayEvent} {next : Option RelayTask}
  {body : Json} {evidence : OriginEvidence} {event : PendingRelayEvent} {payload : RelayJobPayload}
  {item : Instance} {product : Product} {job : RelayJob} {input : RelayInput} {db : Database}

/-- A delivery is validated only against an active instance that is what it says. -/
theorem validateJob_some (h : db.validateJob payload = some (item, product)) :
    ValidatedAs db payload item := by
  unfold Database.validateJob at h
  split at h
  · next providerId instanceId productId _ hprovider _ hproduct =>
    obtain ⟨found, hfound, h⟩ := Option.bind_eq_some_iff.mp h
    obtain ⟨product', -, h⟩ := Option.bind_eq_some_iff.mp h
    obtain ⟨provider, -, h⟩ := Option.bind_eq_some_iff.mp h
    split at h
    · obtain rfl : found = item := congrArg Prod.fst (Option.some.inj h)
      obtain ⟨hrow, htest⟩ := Option.filter_eq_some_iff.mp hfound
      simp only [Bool.and_eq_true, Bool.or_eq_true, decide_eq_true_eq] at htest
      obtain ⟨⟨⟨⟨hproductId, hproviderId⟩, hname⟩, hactive⟩, hid⟩ := htest
      refine ⟨(Table.find?_eq_some.mp hrow).1, hactive, ?_, ?_, hname, fun htruthy => ?_⟩
      · rw [hproduct, hproductId]
      · rw [hprovider, hproviderId]
      · rw [htruthy] at hid
        simpa using hid
    · cases h
  · cases h

/-- A validation is observed only of a delivery attempt that finds the instance, and a post only of a post. -/
theorem RelayTask.run_observed (input : RelayInput) (shared : RelayShared) (task : RelayTask) :
    task.Observed shared (task.run input shared).1 := by
  cases task with
  | store =>
    simp only [RelayTask.run, storeReceived]
    split
    · exact .silent _
    · exact .stored _ _ _ _
  | resolve =>
    simp only [RelayTask.run]
    split <;> exact .silent _
  | relay job =>
    simp only [RelayTask.run, ConnectHub.relay]
    split
    · split
      · exact .silent _
      · next hvalid => exact .validated (validateJob_some hvalid)
    · exact .silent _
  | post job item webhook => exact .posted job item webhook
  | accept | intend | publish | enqueue | noteQueued | mark | recover | reread | findWebhook => exact .silent _

/-- A step that changes nothing leaves the task with what it learned. -/
theorem keeps_read (h : RelayRight hist shared) (he : ∀ k body evidence, e ≠ .stored k body evidence)
    (hnext : ∀ task ∈ next, RelayGuarantee hist shared e shared → task.Knows (hist ++ [e]) shared) :
    RelayKeeps hist shared (e, shared, next) := by
  have hkept : RelayRight (hist ++ [e]) shared ∧ RelayGuarantee hist shared e shared :=
    h.kept (eventsKept_of_eq rfl rfl) h.jobs he
  exact ⟨hkept, fun task htask => hnext task htask hkept.2⟩

/-- A step that ends its task. -/
theorem keeps_end (h : RelayRight (hist ++ [e]) shared' ∧ RelayGuarantee hist shared e shared') :
    RelayKeeps hist shared (e, shared', none) := by
  refine ⟨h, fun task htask => ?_⟩
  cases htask

/-- So does a step at which the task learns something lasting. -/
theorem keeps_silent (h : RelayRight hist shared) (hnext : ∀ task ∈ next, task.Knows hist shared) :
    RelayKeeps hist shared (.silent, shared, next) :=
  keeps_read h silent_ne_stored fun task htask hguarantee => (hnext task htask).stable hguarantee

/-- The instances found are of the providers the event may come from. -/
theorem mem_instancesFor {identity : RelayIdentity} (h : item ∈ db.instancesFor evidence identity) :
    item.vpsProviderId ∈ evidence.origins := by
  have htest := (List.mem_filter.mp h).2
  simp only [Bool.and_eq_true, List.contains_iff_mem] at htest
  exact htest.1.1

/-- The creations found are of those providers, and they are there. -/
theorem mem_intentionsFor {identity : RelayIdentity} {row : InstanceProvisioning}
    (h : row ∈ db.intentionsFor evidence identity) :
    row.vpsProviderId ∈ evidence.origins ∧ db.Names row.id row.instanceName := by
  obtain ⟨hrow, htest⟩ := List.mem_filter.mp h
  simp only [Bool.and_eq_true, List.contains_iff_mem] at htest
  exact ⟨htest.1.1, row, Table.find?_key hrow, rfl⟩

/-- What a right record of an open event delivers. -/
theorem RecordRight.sent (h : RecordRight hist db event) (hopen : event.isOpen = true)
    (hpayload : event.encryptedPayload.opened = some payload) : Sent hist event.id payload := by
  obtain ⟨body, evidence, horigin, hrecord⟩ := h hopen
  exact ⟨body, evidence, horigin, hrecord.payload payload hpayload⟩

/-- Publishing goes on with the delivery of the event. -/
theorem publish_knows (hknows : (RelayTask.publish event).Knows hist shared) :
    ∀ task ∈ publish shared event, task.Knows hist shared := by
  intro task htask
  unfold publish at htask
  obtain ⟨payload, hpayload, rfl⟩ := Option.map_eq_some_iff.mp htask
  split
  · exact ⟨nofun, nofun⟩
  · exact hknows payload hpayload

/-- Recovery goes on with a delivery of the event. -/
theorem recoverEvent_knows (hknows : (RelayTask.recover event).Knows hist shared) :
    ∀ task ∈ recoverEvent shared event, task.Knows hist shared := by
  obtain ⟨hopen, hright⟩ := hknows
  intro task htask
  unfold recoverEvent at htask
  split at htask
  · split at htask
    · cases htask
    · obtain rfl := Option.some.inj htask
      exact ⟨nofun, nofun⟩
    · next payload instanceId hjudged =>
      obtain rfl := Option.some.inj htask
      obtain ⟨body, evidence, horigin, hrecord⟩ := hright hopen
      exact ⟨body, evidence, horigin, judgeWaiting_resolve hrecord hjudged⟩
  · obtain rfl := Option.some.inj htask
    exact fun payload hpayload => hright.sent hopen hpayload

/-- Reading an event again goes on with what its record delivers. -/
theorem reread_knows {id : Uuid} (h : RelayRight hist shared) :
    ∀ task ∈ ((shared.db.relayEvents.find? id).filter fun e => e.state = .pending).map RelayTask.publish,
      task.Knows hist shared := by
  intro task htask
  obtain ⟨event, hevent, rfl⟩ := Option.map_eq_some_iff.mp htask
  obtain ⟨hfound, hpending⟩ := Option.filter_eq_some_iff.mp hevent
  exact fun payload hpayload => RecordRight.sent (h.records event (Table.find?_eq_some.mp hfound).1)
    (isOpen_of_pending (of_decide_eq_true hpending)) hpayload

/-- A delivery attempt goes on with the instance it was validated against. -/
theorem keeps_relay (h : RelayRight hist shared) (hjob : JobRight hist job) :
    RelayKeeps hist shared ((relay shared job).1, shared, (relay shared job).2) := by
  unfold relay
  split
  · refine keeps_silent h fun task htask => ?_
    obtain rfl := Option.some.inj htask
    exact ⟨nofun, nofun⟩
  · next item product hvalid =>
    refine keeps_read h (fun _ _ _ => nofun) fun task htask hguarantee => ?_
    dsimp only at htask
    split at htask
    · obtain rfl := Option.some.inj htask
      exact ⟨nofun, nofun⟩
    · obtain rfl := Option.some.inj htask
      exact ⟨hjob.stable hguarantee, List.mem_append_right _ (List.mem_singleton_self _)⟩

/-- The webhook found is one of the product of the instance. -/
theorem findWebhook_knows (hknows : (RelayTask.findWebhook job item).Knows hist shared) :
    (findWebhook input shared job item).Knows hist shared := by
  unfold findWebhook
  split
  · exact ⟨nofun, nofun⟩
  · next webhook hfound =>
    split
    · have htest := List.find?_some hfound
      simp only [Bool.and_eq_true, decide_eq_true_eq] at htest
      exact ⟨hknows.1, hknows.2, htest.1⟩
    · exact ⟨nofun, nofun⟩

end Reads

section Writes

variable {hist : List RelayEvent} {shared shared' : RelayShared} {e : RelayEvent} {body : Json}
  {evidence : OriginEvidence} {adapterType : String} {instances : List Instance}
  {intentions : List InstanceProvisioning} {event : PendingRelayEvent} {payload : RelayJobPayload}
  {input : RelayInput}
  {db : Database} {id instanceId : Uuid}

/-- Adding an event to the table keeps the events that are there. -/
theorem present_of_insert? {relayEvents : Table PendingRelayEvent}
    (h : db.relayEvents.insert? event = some relayEvents) {k : Uuid} (hk : db.relayEvents.find? k ≠ none) :
    relayEvents.find? k ≠ none := by
  rw [Table.find?_insert? h]
  split
  · exact Option.some_ne_none event
  · exact hk

/-- Storing an event adds it under a fresh id. -/
theorem storeEvent_some {db' : Database} (h : db.storeEvent event = some db') :
    ∃ relayEvents, db.relayEvents.insert? event = some relayEvents ∧
      db' = { db with relayEvents := relayEvents } := by
  unfold Database.storeEvent at h
  split at h
  · obtain ⟨relayEvents, hinserted, rfl⟩ := Option.map_eq_some_iff.mp h
    exact ⟨relayEvents, hinserted, rfl⟩
  · cases h

/-- Storing a received event. -/
theorem keeps_store (h : RelayRight hist shared)
    (hknows : (RelayTask.store adapterType body evidence instances intentions).Knows hist shared) :
    RelayKeeps hist shared (storeReceived input shared adapterType body evidence instances intentions) := by
  obtain ⟨haccepting, horigins, hintentions⟩ := hknows
  simp only [storeReceived]
  split
  · exact keeps_end (h.kept (eventsKept_of_eq rfl rfl) h.jobs silent_ne_stored)
  · next db hstored =>
    obtain ⟨relayEvents, hinserted, rfl⟩ := storeEvent_some hstored
    have hfresh : ∀ body' evidence', .stored input.id body' evidence' ∉ hist := by
      intro body' evidence' hmem
      refine h.present input.id body' evidence' hmem (Table.find?_eq_none.mpr fun event hevent hid => ?_)
      exact (Table.insert?_eq_some hinserted).1 event hevent hid
    have hguarantee : RelayGuarantee hist shared (.stored input.id body evidence)
        (shared.withDb { shared.db with relayEvents := relayEvents }) := by
      refine ⟨fun k name hname => hname, fun k body' evidence' hsame => ?_⟩
      cases hsame
      exact hfresh
    have horigin : RelayOrigin (hist ++ [.stored input.id body evidence]) input.id body evidence := by
      refine ⟨List.mem_append_right _ (List.mem_singleton_self _), haccepting.stable.received,
        fun body' evidence' hmem => ?_⟩
      rcases List.mem_append.mp hmem with hmem | hmem
      · exact absurd hmem (hfresh body' evidence')
      · cases List.mem_singleton.mp hmem
        exact ⟨rfl, rfl⟩
    have hrecord : RecordOf shared.db body evidence (receivedEvent input.id adapterType body evidence
        (attributedInstance (identity body) instances intentions)
        (awaitedIntention (identity body) instances intentions)) :=
      recordOf_receivedEvent haccepting.provisioningId horigins hintentions
    refine ⟨⟨⟨fun event hevent => ?_, fun job hjob => (h.jobs job hjob).stable hguarantee,
      fun k body' evidence' hmem => ?_⟩, hguarantee⟩, fun task htask => ?_⟩
    · rcases (Table.mem_insert? hinserted).mp hevent with hold | rfl
      · exact RecordRight.stable (h.records event hold) hguarantee
      · exact fun _ => ⟨body, evidence, horigin, hrecord.vpsProviderId, hrecord.providerInstanceId,
          hrecord.payload, hrecord.awaited⟩
    · rcases List.mem_append.mp hmem with hmem | hmem
      · exact present_of_insert? hinserted (h.present k body' evidence' hmem)
      · cases List.mem_singleton.mp hmem
        exact fun hnone => absurd ((Table.find?_insert? hinserted).symm.trans hnone)
          (by simp [Keyed.key, receivedEvent])
    · dsimp only at htask
      split at htask
      · obtain rfl := Option.some.inj htask
        exact fun payload hpayload => ⟨body, evidence, horigin, hrecord.payload payload hpayload⟩
      · cases htask

/-- Keeping a delivery of an older version adds at most an event that is closed. -/
theorem kept_retainLegacyJob (h : RelayRight hist shared) :
    RelayRight (hist ++ [.silent]) (shared.withDb (shared.db.retainLegacyJob id payload)) ∧
      RelayGuarantee hist shared .silent (shared.withDb (shared.db.retainLegacyJob id payload)) := by
  unfold Database.retainLegacyJob
  split
  · next relayEvents hinserted =>
    refine h.step (fun _ _ hname => hname) (fun k hk => present_of_insert? hinserted hk)
      (fun event hevent => ?_)
      h.jobs silent_ne_stored
    rcases (Table.mem_insert? hinserted).mp hevent with hold | rfl
    · exact h.records event hold
    · exact fun hopen => absurd hopen Bool.false_ne_true
  · exact h.kept (eventsKept_of_eq rfl rfl) h.jobs silent_ne_stored

/-- Marking an event closes it. -/
theorem kept_markEvent (h : RelayRight hist shared) {now : Instant} {k : Option Uuid}
    {state : RelayEventState}
    {errorCode : Option RelayErrorCode} (hstate : state ≠ .pending ∧ state ≠ .waiting) :
    RelayRight (hist ++ [.silent]) (shared.withDb (shared.db.markEvent now k state errorCode)) ∧
      RelayGuarantee hist shared .silent (shared.withDb (shared.db.markEvent now k state errorCode)) := by
  refine h.kept (eventsKept_modify (f := (·.marked now state errorCode)) (fun _ => rfl)
    (fun event _ => ?_) rfl
    fun _ _ hname => hname) h.jobs silent_ne_stored
  refine .of_closed rfl ?_
  simp [PendingRelayEvent.isOpen, PendingRelayEvent.marked, hstate.1, hstate.2]

/-- Noting that an event is queued closes it. -/
theorem kept_noteQueued (h : RelayRight hist shared) :
    RelayRight (hist ++ [.silent]) (shared.withDb (shared.db.noteQueued id)) ∧
      RelayGuarantee hist shared .silent (shared.withDb (shared.db.noteQueued id)) :=
  h.kept (eventsKept_modify (f := (·.noted)) (fun _ => rfl) (fun _ _ => .of_closed rfl rfl) rfl
    fun _ _ hname => hname) h.jobs silent_ne_stored

/-- Queueing a delivery of an event. -/
theorem kept_enqueue (h : RelayRight hist shared) (hsent : Sent hist id payload) :
    RelayRight (hist ++ [.silent]) (shared.enqueue id payload) ∧
      RelayGuarantee hist shared .silent (shared.enqueue id payload) := by
  unfold RelayShared.enqueue
  split
  · exact h.kept (eventsKept_of_eq rfl rfl) h.jobs silent_ne_stored
  · refine h.kept (eventsKept_of_eq rfl rfl) (fun job hjob => ?_) silent_ne_stored
    rcases List.mem_append.mp hjob with hjob | hjob
    · exact h.jobs job hjob
    · obtain rfl := List.mem_singleton.mp hjob
      obtain ⟨body, evidence, horigin, hattributed⟩ := hsent
      exact ⟨rfl, body, evidence, horigin, hattributed.body_eq, hattributed.origin, hattributed.instanceName,
        hattributed.providerInstanceId⟩

/-- Noting the instance of an event that waits changes its delivery into another delivery of that event. -/
theorem kept_resolveWaiting {db' : Database} (h : RelayRight hist shared) (hsent : Sent hist id payload)
    (hresolved : shared.db.resolveWaiting id payload instanceId = some db') :
    RelayRight (hist ++ [.silent]) (shared.withDb db') ∧
      RelayGuarantee hist shared .silent (shared.withDb db') := by
  unfold Database.resolveWaiting at hresolved
  split at hresolved
  · cases hresolved
  · obtain rfl := Option.some.inj hresolved
    refine h.step (fun _ _ hname => hname) (fun k hk => ?_) (fun event' hevent' => ?_) h.jobs
      silent_ne_stored
    · unfold RelayShared.withDb Database.updateEvents
      rw [Table.find?_modify]
      simpa using hk
    · have hmodified : event' ∈ shared.db.relayEvents.modify (fun e => e.id = id && e.state = .waiting)
          (·.resolved payload instanceId) (fun _ => rfl) := hevent'
      obtain ⟨event, hevent, rfl⟩ := Table.mem_modify.mp hmodified
      split
      · next hwaits =>
        simp only [Bool.and_eq_true, decide_eq_true_eq] at hwaits
        obtain ⟨rfl, hwaiting⟩ := hwaits
        have hopen : event.isOpen = true := by simp [PendingRelayEvent.isOpen, hwaiting]
        obtain ⟨body, evidence, horigin, hrecord⟩ := h.records event hevent hopen
        obtain ⟨body', evidence', horigin', hattributed⟩ := hsent
        obtain ⟨rfl, rfl⟩ := horigin.unique body' evidence' horigin'.stored
        refine fun _ => ⟨body', evidence', horigin, hrecord.vpsProviderId, hrecord.providerInstanceId,
          fun payload' hpayload => ?_, hrecord.awaited⟩
        obtain rfl := Option.some.inj hpayload
        exact hattributed
      · exact h.records event hevent

/-- Every statement of a task keeps the tables right and what the others rely on, and tells the task what it
needs to know next. -/
theorem RelayTask.run_keeps (h : RelayRight hist shared) {task : RelayTask}
    (hknows : task.Knows hist shared) :
    RelayKeeps hist shared (task.run input shared) := by
  cases task with
  | accept adapterType body evidence =>
    refine keeps_silent h fun task htask => ?_
    obtain rfl := Option.some.inj htask
    exact ⟨hknows, fun item hitem => mem_instancesFor hitem⟩
  | intend adapterType body evidence instances =>
    refine keeps_silent h fun task htask => ?_
    obtain rfl := Option.some.inj htask
    exact ⟨hknows.1, hknows.2, fun row hrow => mem_intentionsFor hrow⟩
  | store => exact keeps_store h hknows
  | publish => exact keeps_silent h (publish_knows hknows)
  | enqueue id payload =>
    refine ⟨kept_enqueue h hknows, fun task htask => ?_⟩
    obtain rfl := Option.some.inj htask
    trivial
  | noteQueued id => exact keeps_end (kept_noteQueued h)
  | mark id state errorCode => exact keeps_end (kept_markEvent h hknows)
  | recover => exact keeps_silent h (recoverEvent_knows hknows)
  | resolve id payload instanceId =>
    simp only [RelayTask.run]
    split
    · exact keeps_end (h.kept (eventsKept_of_eq rfl rfl) h.jobs silent_ne_stored)
    · next db hresolved =>
      refine ⟨kept_resolveWaiting h hknows hresolved, fun task htask => ?_⟩
      obtain rfl := Option.some.inj htask
      trivial
  | reread => exact keeps_silent h (reread_knows h)
  | relay job =>
    simp only [RelayTask.run]
    split
    · exact keeps_relay h hknows
    · exact keeps_end (kept_retainLegacyJob h)
  | findWebhook =>
    refine keeps_silent h fun task htask => ?_
    obtain rfl := Option.some.inj htask
    exact findWebhook_knows hknows
  | post job item webhook =>
    refine keeps_read h (fun _ _ _ => nofun) fun task htask _ => ?_
    unfold afterPost at htask
    split at htask
    · obtain rfl := Option.some.inj htask
      exact ⟨nofun, nofun⟩
    · split at htask
      · obtain rfl := Option.some.inj htask
        exact ⟨nofun, nofun⟩
      · cases htask

end Writes

end ConnectHub
