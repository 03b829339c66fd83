import ConnectHub.RelayDelivery

/-!
# Deliveries as a check sees them

Before a product gives up providers, the deliveries that may still reach it through them are looked for: by
the instance an event is about, by the creation it waits for, by where it may come from. The relay decides the
owner of an event on its own. What holds the two together: the record of an event names the instance of every
delivery of it for as long as that instance is there, and a creation it waits for is known from the moment the
event is stored.
-/

namespace ConnectHub

open Store

/-- What a check asked about one event, and the instances it saw. -/
structure DeliveryCheck where
  productId : Uuid
  providerIds : List Uuid
  event : Uuid
  instances : List Instance

/-- An instance was there at the check. -/
def DeliveryCheck.Saw (check : DeliveryCheck) (id : Uuid) : Prop :=
  ∃ i ∈ check.instances, i.id = id

/-- The record of an event, seen from a delivery of it: it names the instance of the delivery while that is
there, and the provider. -/
structure Tied (db : Database) (k : Uuid) (payload : RelayJobPayload) (event : PendingRelayEvent) : Prop where
  found : db.relayEvents.find? k = some event
  resolved : payload.instanceId ≠ none → event.state ≠ .waiting
  vpsProviderId : payload.instanceId ≠ none → event.vpsProviderId = payload.providerId
  instanceId : ∀ i ∈ db.instances, payload.instanceId = some i.id → event.instanceId = some i.id

/-- A delivery has its record, and it cannot be validated for the product and the providers of the check with
an instance the check saw. -/
structure DeliveryCheck.Clears (check : DeliveryCheck) (db : Database) (k : Uuid)
    (payload : RelayJobPayload) : Prop where
  tied : ∃ event, Tied db k payload event
  barred : k = check.event → ∀ i ∈ db.instances, check.Saw i.id → payload.instanceId = some i.id →
    i.productId = check.productId → i.vpsProviderId ∈ check.providerIds →
      payload.productId = some i.productId → payload.providerId ≠ some i.vpsProviderId

/-- A delivery that was validated: the instance is not one the check asked about. -/
structure DeliveryCheck.Delivers (check : DeliveryCheck) (db : Database) (job : RelayJob)
    (item : Instance) : Prop where
  pendingEventId : job.data.pendingEventId = some job.id
  instanceId : job.data.instanceId = some item.id
  providerId : job.data.providerId = some item.vpsProviderId
  tied : ∃ event, Tied db job.id job.data event
  same : ∀ i ∈ db.instances, i.id = item.id →
    i.productId = item.productId ∧ i.vpsProviderId = item.vpsProviderId
  aside : job.id = check.event → check.Saw item.id →
    ¬(item.productId = check.productId ∧ item.vpsProviderId ∈ check.providerIds)

/-- A delivery that an event is being resolved to: it comes from the creation the event waits for. -/
def Resolution (db : Database) (k : Uuid) (payload : RelayJobPayload) (instanceId : Uuid) : Prop :=
  ∃ event, db.relayEvents.find? k = some event ∧ payload.providerId = event.vpsProviderId ∧
    payload.instanceId = some instanceId ∧
    ∃ id row, event.originEvidence.bind (·.provisioningId) = some id ∧
      db.provisionings.find? id = some row ∧ payload.productId = some row.productId

/-- What each task knows. -/
def DeliveryCheck.Asserts (check : DeliveryCheck) (db : Database) : RelayTask → Prop
  | .accept _ _ evidence | .intend _ _ evidence _ => evidence.provisioningId = none
  | .store _ _ evidence _ intentions =>
    evidence.provisioningId = none ∧ ∀ r ∈ intentions, db.provisionings.find? r.id ≠ none
  | .noteQueued _ | .reread _ => True
  | .publish event => ∀ payload, event.encryptedPayload.opened = some payload →
      check.Clears db event.id payload
  | .enqueue k payload => check.Clears db k payload
  | .mark _ state _ => state ≠ .pending ∧ state ≠ .waiting
  | .recover event =>
    (∃ record, db.relayEvents.find? event.id = some record ∧ record.vpsProviderId = event.vpsProviderId ∧
      record.originEvidence = event.originEvidence) ∧
    ∀ payload, event.encryptedPayload.opened = some payload → check.Clears db event.id payload
  | .resolve k payload instanceId => Resolution db k payload instanceId
  | .relay job => job.data.pendingEventId = some job.id ∧ check.Clears db job.id job.data
  | .findWebhook job item => check.Delivers db job item
  | .post job item webhook => check.Delivers db job item ∧ webhook.productId = item.productId

/-- The instance a task speaks of. -/
def RelayTask.Speaks (id : Uuid) : RelayTask → Prop
  | .publish event | .recover event =>
    ∃ payload, event.encryptedPayload.opened = some payload ∧ payload.instanceId = some id
  | .enqueue _ payload => payload.instanceId = some id
  | .relay job | .findWebhook job _ | .post job _ _ => job.data.instanceId = some id
  | _ => False

/-- The instances the deliveries of a pool speak of. -/
def Speaks (p : Pool RelayShared RelayTask) (id : Uuid) : Prop :=
  (∃ event ∈ p.shared.db.relayEvents, event.isOpen = true ∧
    ∃ payload, event.encryptedPayload.opened = some payload ∧ payload.instanceId = some id) ∨
  (∃ job ∈ p.shared.queue, job.data.instanceId = some id) ∨ ∃ task ∈ p.tasks, task.Speaks id

/-- An instance of an id, if there is one, was there before, for the same product and on the same provider. -/
def Database.InstanceStays (db db' : Database) (id : Uuid) : Prop :=
  ∀ i' ∈ db'.instances, i'.id = id → ∃ i ∈ db.instances, i.id = id ∧ i'.productId = i.productId ∧
    i'.vpsProviderId = i.vpsProviderId

/-- A step of the relay. No statement of the program moves an instance to another product or provider, and the
id of a new instance is one that no delivery speaks of yet. -/
def SteadyStep (env : Env) (p : Pool RelayShared RelayTask) (e : RelayEvent)
    (q : Pool RelayShared RelayTask) : Prop :=
  RelayStep env p e q ∧ ∀ id, Speaks p id → p.shared.db.InstanceStays q.shared.db id

/-- What the tables and the queue say. -/
structure DeliveryCheck.Holds (check : DeliveryCheck) (shared : RelayShared) : Prop where
  records : ∀ event ∈ shared.db.relayEvents, event.isOpen = true →
    ∀ payload, event.encryptedPayload.opened = some payload → check.Clears shared.db event.id payload
  waiting : ∀ event ∈ shared.db.relayEvents, event.state = .waiting → event.instanceId = none ∧
    ∀ id, event.originEvidence.bind (·.provisioningId) = some id →
      ∃ row, shared.db.provisionings.find? id = some row ∧
        (event.id = check.event → check.instances ≠ [] → row.productId = check.productId →
          ∀ v ∈ check.providerIds, event.vpsProviderId ≠ some v)
  jobs : ∀ job ∈ shared.queue,
    job.data.pendingEventId = some job.id ∧ check.Clears shared.db job.id job.data
  present : check.instances ≠ [] → shared.db.relayEvents.find? check.event ≠ none

/-- How the record of an event may change: it keeps where it came from, does not wait again, and forgets its
instance only when that is gone. -/
structure PendingRelayEvent.Stays (db' : Database) (event event' : PendingRelayEvent) : Prop where
  vpsProviderId : event'.vpsProviderId = event.vpsProviderId
  originEvidence : event'.originEvidence = event.originEvidence
  waits : event'.state = .waiting → event.state = .waiting
  instanceId : event.state = .waiting ∨ event'.instanceId = event.instanceId ∨
    ∀ i ∈ db'.instances, event.instanceId ≠ some i.id

/-- What is stored stays: events, and creations with their products. -/
structure Database.Stays (db db' : Database) : Prop where
  events : ∀ k event, db.relayEvents.find? k = some event →
    ∃ event', db'.relayEvents.find? k = some event' ∧ event.Stays db' event'
  rows : ∀ k row, db.provisionings.find? k = some row →
    ∃ row', db'.provisionings.find? k = some row' ∧ row'.productId = row.productId

/-- Every record comes from one that was there: it is not opened, its delivery is the same while it is open,
and it names no other instance. -/
def Database.RecordsFrom (db db' : Database) : Prop :=
  ∀ event' ∈ db'.relayEvents, ∃ event ∈ db.relayEvents, event'.id = event.id ∧ event.Stays db' event' ∧
    (event'.isOpen = true → event.isOpen = true ∧ event'.encryptedPayload = event.encryptedPayload) ∧
    (event'.instanceId = event.instanceId ∨ event'.instanceId = none)

section Stability

variable {check : DeliveryCheck} {db db' : Database} {k : Uuid} {payload : RelayJobPayload}
  {event event' : PendingRelayEvent} {job : RelayJob} {item : Instance} {instanceId : Uuid}

/-- The record of a delivery stays its record. -/
theorem Tied.stable (h : Tied db k payload event) (hstays : db.Stays db')
    (hinstance : ∀ id, payload.instanceId = some id → db.InstanceStays db' id) :
    ∃ event', Tied db' k payload event' := by
  obtain ⟨event', hfound, hrecord⟩ := hstays.events k event h.found
  refine ⟨event', hfound, fun hne hwaiting => h.resolved hne (hrecord.waits hwaiting),
    fun hne => hrecord.vpsProviderId.trans (h.vpsProviderId hne), fun i' hi' hnamed => ?_⟩
  obtain ⟨i, hi, hid, -⟩ := hinstance i'.id hnamed i' hi' rfl
  have hbefore : event.instanceId = some i'.id := by
    rw [← hid]
    exact h.instanceId i hi (hid ▸ hnamed)
  have hne : payload.instanceId ≠ none := by
    rw [hnamed]
    exact Option.some_ne_none _
  rcases hrecord.instanceId with hwaiting | hsame | hgone
  · exact absurd hwaiting (h.resolved hne)
  · exact hsame.trans hbefore
  · exact absurd hbefore (hgone i' hi')

/-- What the check cleared stays cleared. -/
theorem DeliveryCheck.Clears.stable (h : check.Clears db k payload) (hstays : db.Stays db')
    (hinstance : ∀ id, payload.instanceId = some id → db.InstanceStays db' id) :
    check.Clears db' k payload := by
  obtain ⟨event, htied⟩ := h.tied
  refine ⟨htied.stable hstays hinstance, fun hk i' hi' hsaw hnamed hproduct hprovider hcarried => ?_⟩
  obtain ⟨i, hi, hid, hsameProduct, hsameProvider⟩ := hinstance i'.id hnamed i' hi' rfl
  rw [hsameProduct] at hproduct hcarried
  rw [hsameProvider] at hprovider ⊢
  rw [← hid] at hsaw hnamed
  exact h.barred hk i hi hsaw hnamed hproduct hprovider hcarried

/-- A validated delivery stays one that the check did not ask about. -/
theorem DeliveryCheck.Delivers.stable (h : check.Delivers db job item) (hstays : db.Stays db')
    (hinstance : ∀ id, job.data.instanceId = some id → db.InstanceStays db' id) :
    check.Delivers db' job item := by
  obtain ⟨event, htied⟩ := h.tied
  refine ⟨h.pendingEventId, h.instanceId, h.providerId, htied.stable hstays hinstance,
    fun i' hi' hid => ?_, h.aside⟩
  obtain ⟨i, hi, hsame, hproduct, hprovider⟩ := hinstance item.id h.instanceId i' hi' hid
  rw [hproduct, hprovider]
  exact h.same i hi hsame

/-- What an event is being resolved to stays so. -/
theorem Resolution.stable (h : Resolution db k payload instanceId) (hstays : db.Stays db') :
    Resolution db' k payload instanceId := by
  obtain ⟨event, hfound, hprovider, hinstance, id, row, hid, hrow, hproduct⟩ := h
  obtain ⟨event', hfound', hrecord⟩ := hstays.events k event hfound
  obtain ⟨row', hrow', hsame⟩ := hstays.rows id row hrow
  refine ⟨event', hfound', hprovider.trans hrecord.vpsProviderId.symm, hinstance, id, row', ?_, hrow', ?_⟩
  · rw [hrecord.originEvidence]
    exact hid
  · rw [hproduct, hsame]

/-- What a task knows stays so. -/
theorem DeliveryCheck.Asserts.stable {task : RelayTask} (h : check.Asserts db task) (hstays : db.Stays db')
    (hinstance : ∀ id, task.Speaks id → db.InstanceStays db' id) : check.Asserts db' task := by
  cases task with
  | accept | intend => exact h
  | noteQueued | reread => trivial
  | store _ _ _ _ intentions =>
    refine ⟨h.1, fun r hr => ?_⟩
    obtain ⟨row, hrow⟩ := Option.ne_none_iff_exists'.mp (h.2 r hr)
    obtain ⟨row', hrow', -⟩ := hstays.rows r.id row hrow
    rw [hrow']
    exact Option.some_ne_none _
  | publish event =>
    exact fun payload hpayload => Clears.stable (h payload hpayload) hstays
      fun id hid => hinstance id ⟨payload, hpayload, hid⟩
  | enqueue k payload => exact Clears.stable h hstays hinstance
  | mark => exact h
  | recover event =>
    obtain ⟨⟨record, hfound, hprovider, horigin⟩, hclears⟩ := h
    obtain ⟨record', hfound', hrecord⟩ := hstays.events event.id record hfound
    exact ⟨⟨record', hfound', hrecord.vpsProviderId.trans hprovider, hrecord.originEvidence.trans horigin⟩,
      fun payload hpayload => (hclears payload hpayload).stable hstays
        fun id hid => hinstance id ⟨payload, hpayload, hid⟩⟩
  | resolve k payload instanceId => exact Resolution.stable h hstays
  | relay job => exact ⟨h.1, h.2.stable hstays hinstance⟩
  | findWebhook job item => exact Delivers.stable h hstays hinstance
  | post job item webhook => exact ⟨h.1.stable hstays hinstance, h.2⟩

/-- The tables are right where every record that is open was open with the same delivery. -/
theorem DeliveryCheck.Holds.of_stays {shared shared' : RelayShared} (h : check.Holds shared)
    (hstays : shared.db.Stays shared'.db)
    (hrecords : shared.db.RecordsFrom shared'.db)
    (hjobs : ∀ job' ∈ shared'.queue, ∃ job ∈ shared.queue, job'.id = job.id ∧ job'.data = job.data)
    (hinstance : ∀ event ∈ shared.db.relayEvents, event.isOpen = true → ∀ payload,
      event.encryptedPayload.opened = some payload → ∀ id, payload.instanceId = some id →
        shared.db.InstanceStays shared'.db id)
    (hqueued : ∀ job ∈ shared.queue, ∀ id, job.data.instanceId = some id →
      shared.db.InstanceStays shared'.db id) :
    check.Holds shared' := by
  refine ⟨fun event' hevent' hopen' payload hpayload => ?_, fun event' hevent' hwaiting => ?_,
    fun job' hjob' => ?_, fun hne => ?_⟩
  · obtain ⟨event, hevent, hid, -, hsame, -⟩ := hrecords event' hevent'
    obtain ⟨hopen, hsealed⟩ := hsame hopen'
    rw [hsealed] at hpayload
    rw [hid]
    exact (h.records event hevent hopen payload hpayload).stable hstays
      (hinstance event hevent hopen payload hpayload)
  · obtain ⟨event, hevent, hid, hrecord, -, hinstances⟩ := hrecords event' hevent'
    obtain ⟨hnone, hrow⟩ := h.waiting event hevent (hrecord.waits hwaiting)
    refine ⟨?_, fun id hevidence => ?_⟩
    · rcases hinstances with hsame | hgone
      · exact hsame.trans hnone
      · exact hgone
    · rw [hrecord.originEvidence] at hevidence
      obtain ⟨row, hfound, hbarred⟩ := hrow id hevidence
      obtain ⟨row', hfound', hproduct⟩ := hstays.rows id row hfound
      refine ⟨row', hfound', fun hcheck hne hsame v hv => ?_⟩
      rw [hrecord.vpsProviderId]
      exact hbarred (hid ▸ hcheck) hne (hproduct ▸ hsame) v hv
  · obtain ⟨job, hjob, hid, hdata⟩ := hjobs job' hjob'
    rw [hid, hdata]
    exact ⟨(h.jobs job hjob).1, (h.jobs job hjob).2.stable hstays (hqueued job hjob)⟩
  · obtain ⟨event, hevent⟩ := Option.ne_none_iff_exists'.mp (h.present hne)
    obtain ⟨event', hevent', -⟩ := hstays.events _ event hevent
    rw [hevent']
    exact Option.some_ne_none _

end Stability

section Statements

variable {check : DeliveryCheck} {db db' : Database} {shared shared' : RelayShared} {next : Option RelayTask}
  {k id : Uuid} {payload : RelayJobPayload} {event : PendingRelayEvent} {job : RelayJob} {item : Instance}
  {instanceId : Uuid} {input : RelayInput} {adapterType : String} {body : Json} {evidence : OriginEvidence}
  {instances : List Instance} {intentions : List InstanceProvisioning}

/-- A record that stays as it is. -/
theorem PendingRelayEvent.Stays.refl (event : PendingRelayEvent) : event.Stays db' event :=
  ⟨rfl, rfl, fun h => h, Or.inr (Or.inl rfl)⟩

/-- Creations that stay as they are. -/
theorem rows_of_eq (h : db'.provisionings = db.provisionings) (k : Uuid) (row : InstanceProvisioning)
    (hrow : db.provisionings.find? k = some row) :
    ∃ row', db'.provisionings.find? k = some row' ∧ row'.productId = row.productId := by
  rw [h]
  exact ⟨row, hrow, rfl⟩

/-- Events that stay as they are. -/
theorem stays_of_eq (hevents : db'.relayEvents = db.relayEvents)
    (hrows : db'.provisionings = db.provisionings) : db.Stays db' := by
  refine ⟨fun k event hevent => ⟨event, ?_, .refl event⟩, rows_of_eq hrows⟩
  rw [hevents]
  exact hevent

/-- So do their records. -/
theorem recordsFrom_of_eq (hevents : db'.relayEvents = db.relayEvents) : db.RecordsFrom db' := by
  intro event hevent
  rw [hevents] at hevent
  exact ⟨event, hevent, rfl, .refl event, fun hopen => ⟨hopen, rfl⟩, Or.inl rfl⟩

/-- Records that are changed one by one. -/
theorem recordsFrom_modify {p : PendingRelayEvent → Bool} {f : PendingRelayEvent → PendingRelayEvent}
    (hf : ∀ e, (f e).id = e.id) (hevents : db'.relayEvents = db.relayEvents.modify p f hf)
    (hchange : ∀ e ∈ db.relayEvents, p e = true → e.Stays db' (f e) ∧
      ((f e).isOpen = true → e.isOpen = true ∧ (f e).encryptedPayload = e.encryptedPayload) ∧
      ((f e).instanceId = e.instanceId ∨ (f e).instanceId = none)) : db.RecordsFrom db' := by
  intro event' hevent'
  rw [hevents] at hevent'
  obtain ⟨event, hevent, rfl⟩ := Table.mem_modify.mp hevent'
  refine ⟨event, hevent, ?_⟩
  split
  · next hp => exact ⟨hf event, hchange event hevent hp⟩
  · exact ⟨rfl, .refl event, fun hopen => ⟨hopen, rfl⟩, Or.inl rfl⟩

/-- Events that are changed one by one. -/
theorem stays_modify {p : PendingRelayEvent → Bool} {f : PendingRelayEvent → PendingRelayEvent}
    (hf : ∀ e, (f e).id = e.id) (hevents : db'.relayEvents = db.relayEvents.modify p f hf)
    (hchange : ∀ e ∈ db.relayEvents, p e = true → e.Stays db' (f e))
    (hrows : ∀ k row, db.provisionings.find? k = some row →
      ∃ row', db'.provisionings.find? k = some row' ∧ row'.productId = row.productId) : db.Stays db' := by
  refine ⟨fun k event hevent => ?_, hrows⟩
  rw [hevents, Table.find?_modify, hevent, Option.map_some]
  refine ⟨_, rfl, ?_⟩
  split
  · next hp => exact hchange event (Table.find?_eq_some.mp hevent).1 hp
  · exact .refl event

/-- An event is added. -/
theorem stays_insert {relayEvents : Table PendingRelayEvent}
    (hinserted : db.relayEvents.insert? event = some relayEvents) :
    db.Stays { db with relayEvents := relayEvents } := by
  refine ⟨fun k event' hevent' => ⟨event', ?_, .refl event'⟩, rows_of_eq rfl⟩
  obtain ⟨hmem, hid⟩ := Table.find?_eq_some.mp hevent'
  exact Table.find?_eq_some.mpr ⟨(Table.mem_insert? hinserted).mpr (Or.inl hmem), hid⟩

/-- Where the instances are the same, each stays. -/
theorem instanceStays_of_eq (h : db'.instances = db.instances) (id : Uuid) : db.InstanceStays db' id := by
  intro i hi hid
  rw [h] at hi
  exact ⟨i, hi, hid, rfl, rfl⟩

/-- What a statement leaves: the tables right, what is stored, and a task that knows enough. -/
structure DeliveryCheck.Keeps (check : DeliveryCheck) (shared shared' : RelayShared)
    (next : Option RelayTask) : Prop where
  holds : check.Holds shared'
  stays : shared.db.Stays shared'.db
  next : ∀ task ∈ next, check.Asserts shared'.db task

/-- A statement that only reads. -/
theorem DeliveryCheck.Keeps.read (h : check.Holds shared)
    (hnext : ∀ task ∈ next, check.Asserts shared.db task) : check.Keeps shared shared next :=
  ⟨h, stays_of_eq rfl rfl, hnext⟩

/-- A statement that changes records without opening any, and ends its task. -/
theorem DeliveryCheck.Keeps.updated {p : PendingRelayEvent → Bool}
    {f : PendingRelayEvent → PendingRelayEvent} {hf : ∀ e, (f e).id = e.id} (h : check.Holds shared)
    (hchange : ∀ e ∈ shared.db.relayEvents, p e = true →
      (f e).vpsProviderId = e.vpsProviderId ∧ (f e).originEvidence = e.originEvidence ∧
      (f e).isOpen = false ∧ (f e).instanceId = e.instanceId) :
    check.Keeps shared (shared.withDb (shared.db.updateEvents p f hf)) none := by
  have hone : ∀ e ∈ shared.db.relayEvents, p e = true → e.Stays (shared.db.updateEvents p f hf) (f e) := by
    intro e he hp
    obtain ⟨hprovider, horigin, hclosed, hinstance⟩ := hchange e he hp
    refine ⟨hprovider, horigin, fun hwaiting => ?_, Or.inr (Or.inl hinstance)⟩
    simp [PendingRelayEvent.isOpen, hwaiting] at hclosed
  have hstays : shared.db.Stays (shared.db.updateEvents p f hf) := stays_modify hf rfl hone (rows_of_eq rfl)
  have hrecords : shared.db.RecordsFrom (shared.db.updateEvents p f hf) := by
    refine recordsFrom_modify hf rfl fun e he hp => ?_
    obtain ⟨-, -, hclosed, hinstance⟩ := hchange e he hp
    exact ⟨hone e he hp, fun hopen => absurd (hclosed.symm.trans hopen) Bool.false_ne_true, Or.inl hinstance⟩
  refine ⟨h.of_stays hstays hrecords (fun job hjob => ⟨job, hjob, rfl, rfl⟩)
    (fun _ _ _ _ _ id _ => instanceStays_of_eq rfl id) fun _ _ id _ => instanceStays_of_eq rfl id,
    hstays, fun task htask => by cases htask⟩

/-- Marking an event. -/
theorem DeliveryCheck.Keeps.marked (h : check.Holds shared) {now : Instant} {k : Option Uuid}
    {state : RelayEventState} {errorCode : Option RelayErrorCode}
    (hstate : state ≠ .pending ∧ state ≠ .waiting) :
    check.Keeps shared (shared.withDb (shared.db.markEvent now k state errorCode)) none := by
  refine .updated h fun e _ _ => ⟨rfl, rfl, ?_, rfl⟩
  simp [PendingRelayEvent.isOpen, PendingRelayEvent.marked, hstate.1, hstate.2]

/-- Noting that an event is queued. -/
theorem DeliveryCheck.Keeps.noted (h : check.Holds shared) :
    check.Keeps shared (shared.withDb (shared.db.noteQueued id)) none :=
  .updated h fun _ _ _ => ⟨rfl, rfl, rfl, rfl⟩

/-- Adding an event that is right. -/
theorem DeliveryCheck.Keeps.inserted {relayEvents : Table PendingRelayEvent} (h : check.Holds shared)
    (hinserted : shared.db.relayEvents.insert? event = some relayEvents)
    (hrecord : event.isOpen = true → ∀ payload, event.encryptedPayload.opened = some payload →
      check.Clears { shared.db with relayEvents := relayEvents } event.id payload)
    (hwaiting : event.state = .waiting → event.instanceId = none ∧
      ∀ id, event.originEvidence.bind (·.provisioningId) = some id →
        shared.db.provisionings.find? id ≠ none)
    (hnext : ∀ task ∈ next, check.Asserts { shared.db with relayEvents := relayEvents } task) :
    check.Keeps shared (shared.withDb { shared.db with relayEvents := relayEvents }) next := by
  have hstays := stays_insert hinserted
  have hfresh : check.instances ≠ [] → event.id ≠ check.event := by
    intro hne hid
    obtain ⟨known, hknown⟩ := Option.ne_none_iff_exists'.mp (h.present hne)
    obtain ⟨hmem, hkey⟩ := Table.find?_eq_some.mp hknown
    exact (Table.insert?_eq_some hinserted).1 known hmem (hkey.trans hid.symm)
  refine ⟨⟨fun event' hevent' hopen payload hpayload => ?_, fun event' hevent' hwaits => ?_,
    fun job hjob => ⟨(h.jobs job hjob).1, ?_⟩, fun hne => ?_⟩, hstays, hnext⟩
  · rcases (Table.mem_insert? hinserted).mp hevent' with hold | rfl
    · exact (h.records event' hold hopen payload hpayload).stable hstays
        fun id _ => instanceStays_of_eq rfl id
    · exact hrecord hopen payload hpayload
  · rcases (Table.mem_insert? hinserted).mp hevent' with hold | rfl
    · exact h.waiting event' hold hwaits
    · obtain ⟨hnone, hrow⟩ := hwaiting hwaits
      refine ⟨hnone, fun id hid => ?_⟩
      obtain ⟨row, hfound⟩ := Option.ne_none_iff_exists'.mp (hrow id hid)
      exact ⟨row, hfound, fun hcheck hne => absurd hcheck (hfresh hne)⟩
  · exact (h.jobs job hjob).2.stable hstays fun id _ => instanceStays_of_eq rfl id
  · exact present_of_insert? hinserted (h.present hne)

/-- The record of a received event names the instance of its delivery. -/
theorem tied_receivedEvent {instance? : Option Instance} {intention? : Option InstanceProvisioning}
    (hfound : db.relayEvents.find? k =
      some (receivedEvent k adapterType body evidence instance? intention?)) :
    Tied db k (relayPayload adapterType body instance? intention?)
      (receivedEvent k adapterType body evidence instance? intention?) := by
  cases instance? with
  | none =>
    refine ⟨hfound, fun hne => absurd rfl hne, fun hne => absurd rfl hne, fun _ _ hnamed => ?_⟩
    cases hnamed
  | some item =>
    refine ⟨hfound, fun _ hwaiting => ?_, fun _ => rfl, fun _ _ hnamed => hnamed⟩
    cases hwaiting

/-- Storing a received event. -/
theorem DeliveryCheck.Keeps.stored (h : check.Holds shared) (hnone : evidence.provisioningId = none)
    (hrows : ∀ r ∈ intentions, shared.db.provisionings.find? r.id ≠ none) :
    check.Keeps shared (storeReceived input shared adapterType body evidence instances intentions).2.1
      (storeReceived input shared adapterType body evidence instances intentions).2.2 := by
  simp only [storeReceived]
  split
  · exact .read h fun task htask => by cases htask
  · next db hstored =>
    obtain ⟨relayEvents, hinserted, rfl⟩ := storeEvent_some hstored
    generalize hinstance : attributedInstance (identity body) instances intentions = instance? at hinserted ⊢
    generalize hintention : awaitedIntention (identity body) instances intentions = intention? at hinserted ⊢
    have hclears : check.Clears { shared.db with relayEvents := relayEvents } input.id
        (relayPayload adapterType body instance? intention?) := by
      have hfound : relayEvents.find? input.id =
          some (receivedEvent input.id adapterType body evidence instance? intention?) :=
        Table.find?_eq_some.mpr ⟨(Table.mem_insert? hinserted).mpr (Or.inr rfl), rfl⟩
      refine ⟨⟨_, tied_receivedEvent hfound⟩, fun hk i hi hsaw => ?_⟩
      · -- the event of the check was there already
        have hne : check.instances ≠ [] := List.ne_nil_of_mem hsaw.choose_spec.1
        obtain ⟨known, hknown⟩ := Option.ne_none_iff_exists'.mp (h.present hne)
        obtain ⟨hmem, hkey⟩ := Table.find?_eq_some.mp hknown
        exact absurd (hkey.trans hk.symm) ((Table.insert?_eq_some hinserted).1 known hmem)
    refine .inserted h hinserted (fun _ payload hpayload => ?_) (fun hwaiting => ?_) fun task htask => ?_
    · obtain rfl := Option.some.inj hpayload
      exact hclears
    · cases instance? with
      | some item => cases hwaiting
      | none =>
        refine ⟨rfl, fun id hid => ?_⟩
        cases intention? with
        | none =>
          dsimp only [receivedEvent, Option.map_none, Option.none_or, Option.bind_some] at hid
          rw [hnone] at hid
          cases hid
        | some intent =>
          obtain rfl : intent.id = id := Option.some.inj hid
          exact hrows intent (awaitedIntention_some hintention).1
    · split at htask
      · obtain rfl := Option.some.inj htask
        intro payload hpayload
        obtain rfl := Option.some.inj hpayload
        exact hclears
      · cases htask

/-- Publishing goes on with the delivery of the event. -/
theorem publish_asserts (h : check.Asserts shared.db (.publish event)) :
    ∀ task ∈ publish shared event, check.Asserts shared.db task := by
  intro task htask
  unfold publish at htask
  obtain ⟨payload, hpayload, rfl⟩ := Option.map_eq_some_iff.mp htask
  split
  · exact ⟨by decide, by decide⟩
  · exact h payload hpayload

/-- What an event that waits is resolved to comes from the creation it waits for. -/
theorem judgeWaiting_resolution (h : db.judgeWaiting event = .resolve payload instanceId) :
    payload.providerId = event.vpsProviderId ∧ payload.instanceId = some instanceId ∧
    ∃ id row, event.originEvidence.bind (·.provisioningId) = some id ∧
      db.provisionings.find? id = some row ∧ payload.productId = some row.productId := by
  obtain ⟨id, intention, original, hprovisioning, hintention, hprovider, -, -, rfl⟩ := judgeWaiting_eq_resolve h
  exact ⟨hprovider.symm, rfl, id, intention, hprovisioning, hintention, rfl⟩

/-- Recovery goes on with a delivery of the event, or with what it is resolved to. -/
theorem recoverEvent_asserts (h : check.Asserts shared.db (.recover event)) :
    ∀ task ∈ recoverEvent shared event, check.Asserts shared.db task := by
  obtain ⟨⟨record, hfound, hprovider, horigin⟩, hclears⟩ := h
  intro task htask
  unfold recoverEvent at htask
  split at htask
  · split at htask
    · cases htask
    · obtain rfl := Option.some.inj htask
      exact ⟨by decide, by decide⟩
    · next payload instanceId hjudged =>
      obtain rfl := Option.some.inj htask
      obtain ⟨hcarried, hinstance, id, row, hid, hrow, hproduct⟩ := judgeWaiting_resolution hjudged
      exact ⟨record, hfound, hcarried.trans hprovider.symm, hinstance, id, row, horigin ▸ hid, hrow, hproduct⟩
  · obtain rfl := Option.some.inj htask
    exact hclears

/-- A delivery that is validated names the instance. -/
theorem validateJob_instanceId {product : Product} (h : db.validateJob payload = some (item, product)) :
    payload.instanceId = some item.id := by
  unfold Database.validateJob at h
  split at h
  · next hinstance _ =>
    obtain ⟨found, hfound, h⟩ := Option.bind_eq_some_iff.mp h
    obtain ⟨product', -, h⟩ := Option.bind_eq_some_iff.mp h
    obtain ⟨provider, -, h⟩ := Option.bind_eq_some_iff.mp h
    split at h
    · obtain rfl : found = item := congrArg Prod.fst (Option.some.inj h)
      rw [hinstance, ← (Table.find?_eq_some.mp (Option.filter_eq_some_iff.mp hfound).1).2]
      rfl
    · cases h
  · cases h

/-- A delivery attempt goes on with the instance it was validated against. -/
theorem relay_asserts (h : check.Asserts shared.db (.relay job)) :
    ∀ task ∈ (relay shared job).2, check.Asserts shared.db task := by
  intro task htask
  unfold relay at htask
  split at htask
  · obtain rfl := Option.some.inj htask
    exact ⟨by decide, by decide⟩
  · next item product hvalid =>
    dsimp only at htask
    split at htask
    · obtain rfl := Option.some.inj htask
      exact ⟨by decide, by decide⟩
    · obtain rfl := Option.some.inj htask
      have hinstance := validateJob_instanceId hvalid
      have hvalidated := validateJob_some hvalid
      refine ⟨h.1, hinstance, hvalidated.providerId, h.2.tied, fun i hi hid => ?_, fun hk hsaw hasked => ?_⟩
      · rw [Table.eq_of_key_eq hi hvalidated.found hid]
        exact ⟨rfl, rfl⟩
      · exact h.2.barred hk item hvalidated.found hsaw hinstance hasked.1 hasked.2 hvalidated.productId
          hvalidated.providerId

/-- The webhook found is one of the product of the instance. -/
theorem findWebhook_asserts (h : check.Delivers shared.db job item) :
    check.Asserts shared.db (findWebhook input shared job item) := by
  unfold findWebhook
  split
  · exact ⟨by decide, by decide⟩
  · next webhook hfound =>
    split
    · have htest := List.find?_some hfound
      simp only [Bool.and_eq_true, decide_eq_true_eq] at htest
      exact ⟨h, htest.1⟩
    · exact ⟨by decide, by decide⟩

/-- What noting the instance of an event changes: that event, if it waits. -/
theorem resolveWaiting_some (h : db.resolveWaiting k payload instanceId = some db') :
    db.Stays db' ∧ db'.instances = db.instances ∧ db'.provisionings = db.provisionings ∧
      ∀ event' ∈ db'.relayEvents, event' ∈ db.relayEvents ∨
        ∃ event ∈ db.relayEvents, event.id = k ∧ event.state = .waiting ∧
          event' = event.resolved payload instanceId := by
  unfold Database.resolveWaiting at h
  split at h
  · cases h
  · obtain rfl := Option.some.inj h
    refine ⟨stays_modify (f := (·.resolved payload instanceId)) (fun _ => rfl) rfl (fun e _ hp => ?_)
      (rows_of_eq rfl), rfl, rfl, fun event' hevent' => ?_⟩
    · simp only [Bool.and_eq_true, decide_eq_true_eq] at hp
      exact ⟨rfl, rfl, fun _ => hp.2, Or.inl hp.2⟩
    · have hmodified : event' ∈ db.relayEvents.modify (fun e => e.id = k && e.state = .waiting)
          (·.resolved payload instanceId) (fun _ => rfl) := hevent'
      obtain ⟨event, hevent, rfl⟩ := Table.mem_modify.mp hmodified
      split
      · next hp =>
        simp only [Bool.and_eq_true, decide_eq_true_eq] at hp
        exact Or.inr ⟨event, hevent, hp.1, hp.2, rfl⟩
      · exact Or.inl hevent

/-- Noting the instance of an event that waits: the check knows whose creation it waited for. -/
theorem DeliveryCheck.Keeps.resolved (h : check.Holds shared)
    (hresolution : Resolution shared.db k payload instanceId)
    (hresolved : shared.db.resolveWaiting k payload instanceId = some db) :
    check.Keeps shared (shared.withDb db) (some (.reread k)) := by
  obtain ⟨record, hfound, hprovider, hinstance, id, row, hid, hrow, hproduct⟩ := hresolution
  obtain ⟨hmem, hkey⟩ := Table.find?_eq_some.mp hfound
  obtain ⟨hstays, hinstances, hrows, hrecords⟩ := resolveWaiting_some hresolved
  refine ⟨⟨fun event' hevent' hopen payload' hpayload => ?_, fun event' hevent' hwaiting => ?_,
    fun job hjob => ⟨(h.jobs job hjob).1, ?_⟩, fun hne => ?_⟩, hstays, fun task htask => ?_⟩
  · rcases hrecords event' hevent' with hold | ⟨event, hevent, hk, hwaiting, rfl⟩
    · exact (h.records event' hold hopen payload' hpayload).stable hstays
        fun id _ => instanceStays_of_eq hinstances id
    · obtain rfl := Option.some.inj hpayload
      obtain rfl := Table.eq_of_key_eq hevent hmem (hk.trans hkey.symm)
      refine ⟨⟨_, Table.find?_key hevent', fun _ hwaits => ?_, fun _ => hprovider.symm, fun i _ hnamed => ?_⟩,
        fun hcheck i _ hsaw _ hasked hon hcarried hto => ?_⟩
      · cases hwaits
      · exact hinstance.symm.trans hnamed
      · -- the creation is one of the product of the check, on one of its providers
        obtain ⟨row', hrow', hbarred⟩ := (h.waiting event hmem hwaiting).2 id hid
        rw [hrow] at hrow'
        obtain rfl := Option.some.inj hrow'
        have hsame : row.productId = check.productId := by
          rw [← hasked]
          exact Option.some.inj (hproduct.symm.trans hcarried)
        exact hbarred hcheck (List.ne_nil_of_mem hsaw.choose_spec.1) hsame i.vpsProviderId hon
          (hprovider.symm.trans hto)
  · rcases hrecords event' hevent' with hold | ⟨event, -, -, -, rfl⟩
    · rw [show (shared.withDb db).db.provisionings = shared.db.provisionings from hrows]
      exact h.waiting event' hold hwaiting
    · cases hwaiting
  · exact (h.jobs job hjob).2.stable hstays fun id _ => instanceStays_of_eq hinstances id
  · obtain ⟨event, hevent⟩ := Option.ne_none_iff_exists'.mp (h.present hne)
    obtain ⟨event', hevent', -⟩ := hstays.events _ event hevent
    rw [show (shared.withDb db).db.relayEvents.find? check.event = some event' from hevent']
    exact Option.some_ne_none _
  · obtain rfl := Option.some.inj htask
    trivial

/-- Queueing a delivery of an event. -/
theorem DeliveryCheck.Keeps.enqueued (h : check.Holds shared) (hclears : check.Clears shared.db k payload) :
    check.Keeps shared (shared.enqueue k payload) (some (.noteQueued k)) := by
  have hnext : ∀ task ∈ some (RelayTask.noteQueued k), check.Asserts shared.db task := by
    intro task htask
    obtain rfl := Option.some.inj htask
    trivial
  unfold RelayShared.enqueue
  split
  · exact .read h hnext
  · refine ⟨⟨h.records, h.waiting, fun job hjob => ?_, h.present⟩, stays_of_eq rfl rfl, hnext⟩
    rcases List.mem_append.mp hjob with hjob | hjob
    · exact h.jobs job hjob
    · obtain rfl := List.mem_singleton.mp hjob
      obtain ⟨⟨event, htied⟩, hbarred⟩ := hclears
      exact ⟨rfl, ⟨event, htied.found, htied.resolved, htied.vpsProviderId, htied.instanceId⟩, hbarred⟩

/-- Keeping a delivery of an older version. -/
theorem DeliveryCheck.Keeps.retained (h : check.Holds shared) :
    check.Keeps shared (shared.withDb (shared.db.retainLegacyJob id payload)) none := by
  unfold Database.retainLegacyJob
  split
  · next relayEvents hinserted =>
    exact .inserted h hinserted (fun hopen => absurd hopen Bool.false_ne_true)
      (fun hwaiting => by cases hwaiting) fun task htask => by cases htask
  · exact .read h fun task htask => by cases htask

/-- Every statement of a task keeps the tables right and tells the task what it needs to know next. -/
theorem RelayTask.run_clears (input : RelayInput) (h : check.Holds shared) {task : RelayTask}
    (hasserts : check.Asserts shared.db task) :
    check.Keeps shared (task.run input shared).2.1 (task.run input shared).2.2 := by
  cases task with
  | accept adapterType body evidence =>
    refine .read h fun task htask => ?_
    obtain rfl := Option.some.inj htask
    exact hasserts
  | intend adapterType body evidence instances =>
    refine .read h fun task htask => ?_
    obtain rfl := Option.some.inj htask
    refine ⟨hasserts, fun r hr => ?_⟩
    obtain ⟨-, row, hrow, -⟩ := mem_intentionsFor hr
    rw [hrow]
    exact Option.some_ne_none _
  | store => exact .stored h hasserts.1 hasserts.2
  | publish => exact .read h (publish_asserts hasserts)
  | enqueue => exact .enqueued h hasserts
  | noteQueued => exact .noted h
  | mark => exact .marked h hasserts
  | recover => exact .read h (recoverEvent_asserts hasserts)
  | resolve id payload instanceId =>
    simp only [RelayTask.run]
    split
    · exact .read h fun task htask => by cases htask
    · next db hresolved => exact .resolved h hasserts hresolved
  | reread id =>
    refine .read h fun task htask => ?_
    obtain ⟨event, hevent, rfl⟩ := Option.map_eq_some_iff.mp htask
    obtain ⟨hfound, hpending⟩ := Option.filter_eq_some_iff.mp hevent
    exact h.records event (Table.find?_eq_some.mp hfound).1 (isOpen_of_pending (of_decide_eq_true hpending))
  | relay job =>
    simp only [RelayTask.run]
    split
    · exact .read h (relay_asserts hasserts)
    · exact .retained h
  | findWebhook job item =>
    refine .read h fun task htask => ?_
    obtain rfl := Option.some.inj htask
    exact findWebhook_asserts hasserts
  | post job item webhook =>
    refine .read h fun task htask => ?_
    simp only [RelayTask.run, afterPost] at htask
    split at htask
    · obtain rfl := Option.some.inj htask
      exact ⟨by decide, by decide⟩
    · split at htask
      · obtain rfl := Option.some.inj htask
        exact ⟨by decide, by decide⟩
      · cases htask

end Statements

end ConnectHub
