import ConnectHub.DeliveryCheck
import ConnectHub.Reversal

/-!
# What the check for unresolved deliveries rules out

The relay runs on after the check, next to creations, imports, removals and edits. An event that is not
delivered yet and that the check found to be none of the product's is never posted to the product for an
instance the check saw on the providers, so that giving them up strands nothing. An event that was delivered
may be posted again: the queue hands a job out until its end is noted.
-/

namespace ConnectHub

open Store

section Moves

variable {env : Env} {check : DeliveryCheck} {db db' : Database} {shared shared' : RelayShared}
  {e : RelayEvent} {new : List RelayTask} {p q : Pool RelayShared RelayTask}

/-- Creation, import, removal and provisioning keep what is stored, and open no event. -/
theorem DatabaseStep.stays {transition : Transition} (h : DatabaseStep env db transition db') :
    db.Stays db' ∧ db.RecordsFrom db' := by
  cases h with
  | committed op =>
    rcases commit_effect env db op with hsame | ⟨outcome, heffect⟩
    · rw [hsame]
      exact ⟨stays_of_eq rfl rfl, recordsFrom_of_eq rfl⟩
    · have hrows : ∀ k row, db.provisionings.find? k = some row → ∃ row',
          (commit (perform env op) db).provisionings.find? k = some row' ∧
            row'.productId = row.productId := by
        intro k row hrow
        obtain ⟨row', hrow', hchange⟩ := heffect.row_change hrow
        exact ⟨row', hrow', hchange.productId_eq⟩
      rcases heffect.relayEvents with hevents | ⟨id, hevents, hgone⟩
      · refine ⟨⟨fun k event hevent => ⟨event, ?_, .refl event⟩, hrows⟩, recordsFrom_of_eq hevents⟩
        rw [hevents]
        exact hevent
      · have hforgets : ∀ e ∈ db.relayEvents, decide (e.instanceId = some id) = true →
            e.Stays (commit (perform env op) db) { e with instanceId := none } := by
          intro e _ hnamed
          refine ⟨rfl, rfl, fun hwaiting => hwaiting, Or.inr (Or.inr fun i hi heq => ?_)⟩
          rw [of_decide_eq_true hnamed] at heq
          exact hgone i hi (Option.some.inj heq).symm
        have hmodified : (commit (perform env op) db).relayEvents =
            db.relayEvents.modify (fun e => e.instanceId = some id) (fun e => { e with instanceId := none })
              (fun _ => rfl) := hevents
        exact ⟨stays_modify _ hmodified hforgets hrows, recordsFrom_modify _ hmodified
          fun e he hnamed => ⟨hforgets e he hnamed, fun hopen => ⟨hopen, rfl⟩, Or.inr rfl⟩⟩
  | reordered hsame =>
    have hevents : db'.relayEvents = db.relayEvents := by rw [← hsame.rest]
    refine ⟨⟨fun k event hevent => ⟨event, ?_, .refl event⟩, fun k row hrow => ⟨row, ?_, rfl⟩⟩,
      recordsFrom_of_eq hevents⟩
    · rw [hevents]
      exact hevent
    · rw [Table.find?_eq_some] at hrow ⊢
      exact ⟨hsame.provisionings.mem_iff.mp hrow.1, hrow.2⟩

/-- What a move leaves, as far as the instances that the records and the queue speak of stay. -/
theorem RelayMove.clears (h : check.Holds shared) (hmove : RelayMove env shared e shared' new)
    (hinstance : ∀ event ∈ shared.db.relayEvents, event.isOpen = true → ∀ payload,
      event.encryptedPayload.opened = some payload → ∀ id, payload.instanceId = some id →
        shared.db.InstanceStays shared'.db id)
    (hqueued : ∀ job ∈ shared.queue, ∀ id, job.data.instanceId = some id →
      shared.db.InstanceStays shared'.db id) :
    check.Holds shared' ∧ shared.db.Stays shared'.db ∧ ∀ task ∈ new, check.Asserts shared'.db task := by
  have hkept : ∀ hstays : shared.db.Stays shared'.db, shared.db.RecordsFrom shared'.db →
      shared'.queue = shared.queue → check.Holds shared' := fun hstays hrecords hqueue =>
    h.of_stays hstays hrecords (fun job hjob => ⟨job, hqueue ▸ hjob, rfl, rfl⟩) hinstance hqueued
  cases hmove with
  | authenticated haccepted =>
    obtain ⟨hevents, hrows, rfl⟩ := receiveAuthenticated_some haccepted
    refine ⟨hkept (stays_of_eq hevents hrows) (recordsFrom_of_eq hevents) rfl, stays_of_eq hevents hrows,
      fun task htask => ?_⟩
    obtain rfl := List.mem_singleton.mp htask
    rfl
  | fromAddress =>
    refine ⟨h, stays_of_eq rfl rfl, fun task htask => ?_⟩
    obtain rfl := List.mem_singleton.mp htask
    rfl
  | @round event hevent hopen =>
    refine ⟨h, stays_of_eq rfl rfl, fun task htask => ?_⟩
    obtain rfl := List.mem_singleton.mp htask
    exact ⟨⟨event, Table.find?_key hevent, rfl, rfl⟩, h.records event hevent hopen⟩
  | @delivery before after job position =>
    have hmem : ∀ job' ∈ before ++ job.attempt :: after, ∃ known ∈ shared.queue, job'.id = known.id ∧
        job'.data = known.data := by
      intro job' hjob'
      rw [position]
      rcases List.mem_append.mp hjob' with hjob' | hjob'
      · exact ⟨job', List.mem_append_left _ hjob', rfl, rfl⟩
      · rcases List.mem_cons.mp hjob' with rfl | hjob'
        · exact ⟨job, List.mem_append_right _ List.mem_cons_self, rfl, rfl⟩
        · exact ⟨job', List.mem_append_right _ (List.mem_cons_of_mem _ hjob'), rfl, rfl⟩
    refine ⟨h.of_stays (stays_of_eq rfl rfl) (recordsFrom_of_eq rfl) hmem hinstance hqueued,
      stays_of_eq rfl rfl, fun task htask => ?_⟩
    obtain rfl := List.mem_singleton.mp htask
    exact h.jobs job (position ▸ List.mem_append_right _ List.mem_cons_self)
  | @legacy id payload =>
    have hretained : check.Keeps shared (shared.withDb (shared.db.retainLegacyJob id payload)) none :=
      .retained h
    exact ⟨hretained.holds, hretained.stays, fun task htask => absurd htask List.not_mem_nil⟩
  | progress hstep =>
    obtain ⟨hstays, hrecords⟩ := hstep.stays
    exact ⟨hkept hstays hrecords rfl, hstays, fun task htask => absurd htask List.not_mem_nil⟩
  | edited hevents hrows =>
    exact ⟨hkept (stays_of_eq hevents hrows) (recordsFrom_of_eq hevents) rfl, stays_of_eq hevents hrows,
      fun task htask => absurd htask List.not_mem_nil⟩

/-- The tables are right, and every task knows what it should. -/
def DeliveryCheck.Right (check : DeliveryCheck) (p : Pool RelayShared RelayTask) : Prop :=
  check.Holds p.shared ∧ ∀ task ∈ p.tasks, check.Asserts p.shared.db task

/-- Every step keeps it so. -/
theorem SteadyStep.right (hright : check.Right p) (h : SteadyStep env p e q) : check.Right q := by
  obtain ⟨hholds, hasserts⟩ := hright
  obtain ⟨hstep, hinstance⟩ := h
  have hrecords : ∀ event ∈ p.shared.db.relayEvents, event.isOpen = true → ∀ payload,
      event.encryptedPayload.opened = some payload → ∀ id, payload.instanceId = some id →
        p.shared.db.InstanceStays q.shared.db id :=
    fun event hevent hopen payload hpayload id hid =>
      hinstance id (Or.inl ⟨event, hevent, hopen, payload, hpayload, hid⟩)
  have hqueued : ∀ job ∈ p.shared.queue, ∀ id, job.data.instanceId = some id →
      p.shared.db.InstanceStays q.shared.db id :=
    fun job hjob id hid => hinstance id (Or.inr (Or.inl ⟨job, hjob, hid⟩))
  have hstays : check.Holds q.shared ∧ p.shared.db.Stays q.shared.db := by
    cases hstep with
    | ran position run =>
      obtain ⟨input, hrun⟩ := run
      have hkeeps : check.Keeps p.shared _ _ :=
        RelayTask.run_clears input hholds
          (hasserts _ (position ▸ List.mem_append_right _ List.mem_cons_self))
      rw [hrun] at hkeeps
      exact ⟨hkeeps.holds, hkeeps.stays⟩
    | came move => exact ⟨(move.clears hholds hrecords hqueued).1, (move.clears hholds hrecords hqueued).2.1⟩
    | lost position => exact ⟨hholds, stays_of_eq rfl rfl⟩
  refine ⟨hstays.1, hstep.asserts (A := fun shared task => check.Asserts shared.db task) ?_ ?_ ?_⟩
  · intro task htask next run
    obtain ⟨input, hrun⟩ := run
    have hkeeps : check.Keeps p.shared _ _ := RelayTask.run_clears input hholds (hasserts task htask)
    rw [hrun] at hkeeps
    exact hkeeps.next
  · exact fun new move => (move.clears hholds hrecords hqueued).2.2
  · exact fun task htask => (hasserts task htask).stable hstays.2
      fun id hid => hinstance id (Or.inr (Or.inr ⟨task, htask, hid⟩))

/-- Where nothing is on its way, every task knows what it should. -/
theorem Quiet.clears (h : Quiet p) (hblank : check.instances = []) : check.Right p := by
  refine ⟨⟨fun event hevent hopen => ?_, fun event hevent hwaiting => ?_, fun job hjob => ?_,
    fun hne => absurd hblank hne⟩, fun task htask => ?_⟩
  · rw [h.events event hevent] at hopen
    cases hopen
  · have hopen := h.events event hevent
    simp [PendingRelayEvent.isOpen, hwaiting] at hopen
  · rw [h.queue] at hjob
    cases hjob
  · rw [h.tasks] at htask
    cases htask

end Moves

section Check

variable {env : Env} {db : Database} {product : Product} {productId v : Uuid} {providerIds : List Uuid}
  {event : PendingRelayEvent} {payload : RelayJobPayload} {item : Instance} {webhook : WebhookConfig}
  {p r s t : Pool RelayShared RelayTask} {pre es : List RelayEvent}

/-- An event that is not delivered and that the check lets pass is not the product's, or from elsewhere. -/
theorem not_pending (hnone : db.pendingDeliveries productId providerIds = false)
    (hevent : event ∈ db.relayEvents) (hundelivered : event.state ≠ .delivered) (hv : v ∈ providerIds)
    (hfrom : event.vpsProviderId = some v) : db.eventPending productId providerIds event = false := by
  unfold Database.pendingDeliveries at hnone
  rw [Bool.or_eq_false_iff, List.any_eq_false] at hnone
  have hpassed := hnone.1 event hevent
  simpa [hundelivered, hfrom, hv] using hpassed

/-- The check finds the instance of every delivery of such an event, where that is there. -/
theorem Tied.not_asked {record : PendingRelayEvent} (h : Tied db event.id payload record)
    (hnone : db.pendingDeliveries productId providerIds = false) (hevent : event ∈ db.relayEvents)
    (hundelivered : event.state ≠ .delivered) {i : Instance} (hi : i ∈ db.instances)
    (hnamed : payload.instanceId = some i.id) (hv : v ∈ providerIds) (hto : payload.providerId = some v) :
    i.productId ≠ productId := by
  intro hproduct
  obtain ⟨hrecord, hid⟩ := Table.find?_eq_some.mp h.found
  obtain rfl : record = event := Table.eq_of_key_eq hrecord hevent hid
  have hne : payload.instanceId ≠ none := by
    rw [hnamed]
    exact Option.some_ne_none _
  have hpending := not_pending hnone hevent hundelivered hv ((h.vpsProviderId hne).trans hto)
  have hfound : db.instances.find? i.id = some i := Table.find?_key hi
  simp [Database.eventPending, h.instanceId i hi hnamed, hfound, hproduct] at hpending

/-- From the check on, what it asked about is known. -/
theorem DeliveryCheck.Right.checked
    (h : DeliveryCheck.Right ⟨productId, providerIds, event.id, []⟩ r)
    (hnone : r.shared.db.pendingDeliveries productId providerIds = false)
    (hevent : event ∈ r.shared.db.relayEvents) (hundelivered : event.state ≠ .delivered) :
    DeliveryCheck.Right ⟨productId, providerIds, event.id, r.shared.db.instances.rows⟩ r := by
  obtain ⟨hholds, hasserts⟩ := h
  have hclears : ∀ k payload,
      DeliveryCheck.Clears ⟨productId, providerIds, event.id, []⟩ r.shared.db k payload →
      DeliveryCheck.Clears ⟨productId, providerIds, event.id, r.shared.db.instances.rows⟩ r.shared.db k
        payload := by
    intro k payload hclears
    refine ⟨hclears.tied, ?_⟩
    rintro rfl i hi - hnamed hproduct hon - hto
    obtain ⟨record, htied⟩ := hclears.tied
    exact htied.not_asked hnone hevent hundelivered hi hnamed hon hto hproduct
  have hdelivers : ∀ job item,
      DeliveryCheck.Delivers ⟨productId, providerIds, event.id, []⟩ r.shared.db job item →
      DeliveryCheck.Delivers ⟨productId, providerIds, event.id, r.shared.db.instances.rows⟩ r.shared.db job
        item := by
    intro job item hdelivers
    refine ⟨hdelivers.pendingEventId, hdelivers.instanceId, hdelivers.providerId, hdelivers.tied,
      hdelivers.same, fun hk hsaw hasked => ?_⟩
    obtain ⟨i, hi, hid⟩ := hsaw
    obtain ⟨record, htied⟩ := hdelivers.tied
    rw [show job.id = event.id from hk] at htied
    have hproduct : i.productId = productId := (hdelivers.same i hi hid).1.trans hasked.1
    exact htied.not_asked hnone hevent hundelivered hi (hid ▸ hdelivers.instanceId) hasked.2
      hdelivers.providerId hproduct
  refine ⟨⟨fun e he hopen payload hpayload => hclears _ _ (hholds.records e he hopen payload hpayload),
    fun e he hwaiting => ?_, fun job hjob => ⟨(hholds.jobs job hjob).1, hclears _ _ (hholds.jobs job hjob).2⟩,
    fun _ => ?_⟩, fun task htask => ?_⟩
  · obtain ⟨hinstance, hrow⟩ := hholds.waiting e he hwaiting
    refine ⟨hinstance, fun id hid => ?_⟩
    obtain ⟨row, hfound, -⟩ := hrow id hid
    refine ⟨row, hfound, fun hk _ hproduct v hv hfrom => ?_⟩
    obtain rfl : e = event := Table.eq_of_key_eq he hevent hk
    have hpending := not_pending hnone hevent hundelivered hv hfrom
    have hsame : row.productId = productId := hproduct
    simp [Database.eventPending, hinstance, hid, hfound, hsame] at hpending
  · rw [show r.shared.db.relayEvents.find? event.id = some event from Table.find?_key hevent]
    exact Option.some_ne_none _
  · have hknows := hasserts task htask
    cases task with
    | accept | intend | store | mark | resolve => exact hknows
    | noteQueued | reread => trivial
    | publish event' => exact fun payload hpayload => hclears _ _ (hknows payload hpayload)
    | enqueue => exact hclears _ _ hknows
    | recover event' => exact ⟨hknows.1, fun payload hpayload => hclears _ _ (hknows.2 payload hpayload)⟩
    | relay => exact ⟨hknows.1, hclears _ _ hknows.2⟩
    | findWebhook => exact hdelivers _ _ hknows
    | post => exact ⟨hdelivers _ _ hknows.1, hknows.2⟩

/-- Where the check finds nothing for a product on some providers, an event that is not delivered is never
posted to the product for an instance that is on one of them. -/
theorem undelivered_not_posted (hquiet : Quiet p) (hbefore : Run (SteadyStep env) p pre r)
    (hnone : r.shared.db.pendingDeliveries productId providerIds = false)
    (hevent : event ∈ r.shared.db.relayEvents) (hundelivered : event.state ≠ .delivered)
    (hafter : Run (SteadyStep env) r es s) (hpost : SteadyStep env s (.posted payload item webhook) t)
    (hcarried : payload.pendingEventId = some event.id) (hproduct : webhook.productId = productId)
    (hsaw : ∃ i ∈ r.shared.db.instances, i.id = item.id) : item.vpsProviderId ∉ providerIds := by
  intro hon
  have hblank : DeliveryCheck.Right ⟨productId, providerIds, event.id, []⟩ r :=
    hbefore.invariant (fun _ _ _ h hstep => hstep.right h) (hquiet.clears rfl)
  have hright := hafter.invariant (fun _ _ _ h hstep => hstep.right h)
    (hblank.checked hnone hevent hundelivered)
  obtain ⟨job, htask, rfl⟩ := hpost.1.posted
  obtain ⟨hdelivers, hwebhook⟩ := hright.2 _ htask
  have hk : job.id = event.id := Option.some.inj (hdelivers.pendingEventId.symm.trans hcarried)
  exact hdelivers.aside hk hsaw ⟨hwebhook.symm.trans hproduct, hon⟩

/-- So does an unfinished batch of the product have its instance elsewhere. -/
theorem unfinished_elsewhere (hnone : db.pendingDeliveries productId providerIds = false) {job : BatchJob}
    (hjob : job ∈ db.batchJobs) (hproduct : job.productId = productId)
    (hopen : job.status ∉ [.completed, .failed, .cancelled]) :
    ∃ item, job.instanceId.bind db.instances.find? = some item ∧ item.vpsProviderId ∉ providerIds := by
  unfold Database.pendingDeliveries at hnone
  have hbatch := List.any_eq_false.mp (Bool.or_eq_false_iff.mp hnone).2 job hjob
  unfold Database.batchPending at hbatch
  cases hitem : job.instanceId.bind db.instances.find? with
  | none => simp_all
  | some item =>
    refine ⟨item, rfl, fun hon => hbatch ?_⟩
    simp_all

/-- Where the check finds nothing for a product on some providers, whatever the relay does from then on, no
event that is stored and not delivered yet is posted to a webhook of the product for an instance the check saw
on one of those providers, and every unfinished batch of the product has an instance elsewhere. -/
theorem unresolved_never_posted (hquiet : Quiet p) (hbefore : Run (SteadyStep env) p pre r)
    (hnone : r.shared.db.pendingDeliveries productId providerIds = false) :
    (∀ event ∈ r.shared.db.relayEvents, event.state ≠ .delivered → ∀ es s payload item webhook t,
      Run (SteadyStep env) r es s → SteadyStep env s (.posted payload item webhook) t →
      payload.pendingEventId = some event.id → webhook.productId = productId →
      (∃ i ∈ r.shared.db.instances, i.id = item.id) → item.vpsProviderId ∉ providerIds) ∧
    ∀ job ∈ r.shared.db.batchJobs, job.productId = productId →
      job.status ∉ [.completed, .failed, .cancelled] →
      ∃ item, job.instanceId.bind r.shared.db.instances.find? = some item ∧
        item.vpsProviderId ∉ providerIds := by
  constructor
  · intro event hevent hundelivered es s payload item webhook t hafter hpost hcarried hproduct hsaw
    exact undelivered_not_posted hquiet hbefore hnone hevent hundelivered hafter hpost hcarried hproduct hsaw
  · exact fun job hjob hproduct hopen => unfinished_elsewhere hnone hjob hproduct hopen

/-- A product that may give up its link to a provider strands no event there. -/
theorem detachable_strands_nothing (hquiet : Quiet p) (hbefore : Run (SteadyStep env) p pre r)
    (hdetachable : r.shared.db.detachBlockers product v = []) (hevent : event ∈ r.shared.db.relayEvents)
    (hundelivered : event.state ≠ .delivered) (hafter : Run (SteadyStep env) r es s)
    (hpost : SteadyStep env s (.posted payload item webhook) t)
    (hcarried : payload.pendingEventId = some event.id) (hproduct : webhook.productId = product.id)
    (hsaw : ∃ i ∈ r.shared.db.instances, i.id = item.id) : item.vpsProviderId ≠ v := by
  have hnone : r.shared.db.pendingDeliveries product.id [v] = false := by
    simp only [Database.detachBlockers, List.append_eq_nil_iff, ite_eq_right_iff] at hdetachable
    simpa using hdetachable.2
  have helsewhere := undelivered_not_posted hquiet hbefore hnone hevent hundelivered hafter hpost hcarried
    hproduct hsaw
  exact fun heq => helsewhere (heq ▸ List.mem_singleton_self _)

/-- A product that may return to the legacy policy strands no event on a provider it leaves. -/
theorem restorable_strands_nothing (hquiet : Quiet p) (hbefore : Run (SteadyStep env) p pre r)
    {targetId : Uuid} (hrestorable : r.shared.db.legacyBlockers product targetId = [])
    (hevent : event ∈ r.shared.db.relayEvents) (hundelivered : event.state ≠ .delivered)
    (hafter : Run (SteadyStep env) r es s) (hpost : SteadyStep env s (.posted payload item webhook) t)
    (hcarried : payload.pendingEventId = some event.id) (hproduct : webhook.productId = product.id)
    (hsaw : ∃ i ∈ r.shared.db.instances, i.id = item.id)
    (hlinked : (r.shared.db.links.find? (product.id, item.vpsProviderId)).isSome = true) :
    item.vpsProviderId = targetId := by
  simp only [Database.legacyBlockers, List.append_eq_nil_iff, ite_eq_right_iff] at hrestorable
  have hnone := Bool.eq_false_iff.mpr fun hpending => List.cons_ne_nil _ _ (hrestorable.2 hpending)
  have helsewhere := undelivered_not_posted hquiet hbefore hnone hevent hundelivered hafter hpost hcarried
    hproduct hsaw
  obtain ⟨link, hlink⟩ := Option.isSome_iff_exists.mp hlinked
  obtain ⟨hmem, hkey⟩ := Table.find?_eq_some.mp hlink
  by_contra hne
  refine helsewhere (List.mem_filter.mpr ⟨List.mem_map.mpr ⟨link, List.mem_filter.mpr ⟨hmem, ?_⟩, ?_⟩, ?_⟩)
  · exact decide_eq_true (congrArg Prod.fst hkey)
  · exact congrArg Prod.snd hkey
  · exact decide_eq_true hne

end Check

/-! ## A small relay -/

/-- No statement of a task touches the instances. -/
theorem RelayTask.run_instances (input : RelayInput) (shared : RelayShared) (task : RelayTask) :
    (task.run input shared).2.1.db.instances = shared.db.instances := by
  cases task with
  | store =>
    simp only [RelayTask.run, storeReceived]
    split
    · rfl
    · next db hstored =>
      obtain ⟨relayEvents, -, rfl⟩ := storeEvent_some hstored
      rfl
  | resolve id payload instanceId =>
    simp only [RelayTask.run]
    split
    · rfl
    · next db hresolved => exact (resolveWaiting_some hresolved).2.1
  | relay job =>
    simp only [RelayTask.run]
    split
    · rfl
    · simp only [RelayShared.withDb, Database.retainLegacyJob]
      split <;> rfl
  | enqueue =>
    simp only [RelayTask.run, RelayShared.enqueue]
    split <;> rfl
  | accept | intend | publish | noteQueued | mark | recover | reread | findWebhook | post => rfl

/-- Running the first task is a run. -/
theorem advance_steady (env : Env) (input : RelayInput) (n : Nat) (p : Pool RelayShared RelayTask) :
    Run (SteadyStep env) p (advance input n p).1 (advance input n p).2 := by
  induction n generalizing p with
  | zero => exact .nil p
  | succ n ih =>
    unfold advance
    split
    · exact .nil p
    · next task after position =>
      have hstep : SteadyStep env p (task.run input p.shared).1
          ⟨(task.run input p.shared).2.1, (task.run input p.shared).2.2.toList ++ after⟩ :=
        ⟨.first position ⟨input, rfl⟩, fun id _ => instanceStays_of_eq (task.run_instances input p.shared) id⟩
      exact .cons hstep (ih _)

/-- The small relay once its callback was delivered. -/
def smallSettled : Pool RelayShared RelayTask := (advance smallRelayInput 4 smallDelivered).2

/-- The small relay once the queue hands out the job again. -/
def smallRepeated : Pool RelayShared RelayTask where
  shared := { smallSettled.shared with queue := [smallJob.attempt.attempt] }
  tasks := [.relay smallJob.attempt.attempt]

/-- The small relay comes to deliver its callback. -/
theorem smallDelivered_run : ∃ pre, Run (SteadyStep smallEnv) smallRelay pre smallDelivered := by
  have hreceived : SteadyStep smallEnv smallRelay (.received smallCallback (.token smallRelayProvider.id))
      smallReceived :=
    ⟨.came (@RelayMove.authenticated _ _ _ (some "callback") _ _ _ rfl),
      fun id _ => instanceStays_of_eq rfl id⟩
  have hdelivered : SteadyStep smallEnv (advance smallRelayInput 6 smallReceived).2 .silent smallDelivered :=
    ⟨.came (@RelayMove.delivery _ _ [] [] smallJob rfl (by decide)), fun id _ => instanceStays_of_eq rfl id⟩
  exact ⟨_, .cons hreceived ((advance_steady smallEnv smallRelayInput 6 smallReceived).append
    (.single hdelivered))⟩

/-- A post of the small relay. -/
theorem smallPosted_step {job : RelayJob} {p : Pool RelayShared RelayTask}
    (h : p.tasks = [.post job smallRelayItem smallWebhook]) :
    ∃ t, SteadyStep smallEnv p (.posted job.data smallRelayItem smallWebhook) t :=
  ⟨_, .first h ⟨smallRelayInput, rfl⟩, fun id _ => instanceStays_of_eq rfl id⟩

/-- The queue may hand out a job whose event was delivered and noted, when its end was not: the check finds
nothing, and the event is posted once more. -/
theorem delivered_posted_again : ∃ pre r es s t, Quiet smallRelay ∧
    Run (SteadyStep smallEnv) smallRelay pre r ∧
    r.shared.db.pendingDeliveries smallRelayProduct.id [smallRelayProvider.id] = false ∧
    Run (SteadyStep smallEnv) r es s ∧
    SteadyStep smallEnv s (.posted smallJob.data smallRelayItem smallWebhook) t ∧
    (∃ event ∈ r.shared.db.relayEvents.rows, smallJob.data.pendingEventId = some event.id) ∧
    smallRelayItem ∈ r.shared.db.instances.rows := by
  obtain ⟨pre, hbefore⟩ := smallDelivered_run
  have hagain : SteadyStep smallEnv smallSettled .silent smallRepeated :=
    ⟨.came (@RelayMove.delivery _ _ [] [] smallJob.attempt rfl (by decide)),
      fun id _ => instanceStays_of_eq rfl id⟩
  obtain ⟨t, hpost⟩ :=
    @smallPosted_step smallJob.attempt.attempt (advance smallRelayInput 2 smallRepeated).2 rfl
  exact ⟨_, smallSettled, _, _, t, ⟨rfl, rfl, fun _ hevent => absurd hevent List.not_mem_nil⟩,
    hbefore.append (advance_steady smallEnv smallRelayInput 4 smallDelivered), by decide,
    .cons hagain (advance_steady smallEnv smallRelayInput 2 smallRepeated), hpost, by decide, by decide⟩

/-- The callback of the small relay is about its provider: another one may be given up while it is queued. -/
theorem unresolved_never_posted_small :
    smallDelivered.shared.db.pendingDeliveries smallRelayProduct.id [smallServer.id] = false ∧
      smallRelayItem.vpsProviderId ∉ [smallServer.id] := by
  obtain ⟨pre, hbefore⟩ := smallDelivered_run
  have hnone : smallDelivered.shared.db.pendingDeliveries smallRelayProduct.id [smallServer.id] = false := by
    decide
  have hquiet : Quiet smallRelay := ⟨rfl, rfl, fun _ hevent => absurd hevent List.not_mem_nil⟩
  have hstored : ∃ event ∈ smallDelivered.shared.db.relayEvents.rows, event.state ≠ .delivered ∧
      smallJob.data.pendingEventId = some event.id := by decide
  obtain ⟨event, hevent, hundelivered, hcarried⟩ := hstored
  obtain ⟨t, hpost⟩ := @smallPosted_step smallJob.attempt (advance smallRelayInput 2 smallDelivered).2 rfl
  have hsaw : ∃ i ∈ smallDelivered.shared.db.instances.rows, i.id = smallRelayItem.id := by decide
  exact ⟨hnone, (unresolved_never_posted hquiet hbefore hnone).1 event hevent hundelivered _ _ _ _ _ t
    (advance_steady smallEnv smallRelayInput 2 smallDelivered) hpost hcarried rfl hsaw⟩

end ConnectHub
