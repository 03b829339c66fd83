import ConnectHub.RelayStatements

/-!
# Runs of the relay

Callbacks arrive, rounds recover, the queue delivers and attempts again, while sessions are created, imported
and removed, creations progress, and everything the relay does not own is edited. Whatever the order, an
event is posted only to the product that owns the instance it names.
-/

namespace ConnectHub

open Store

/-- One statement of a task, whatever decides it. -/
def RelayStatement (shared : RelayShared) (task : RelayTask) (e : RelayEvent) (shared' : RelayShared)
    (next : Option RelayTask) : Prop :=
  ∃ input, task.run input shared = (e, shared', next)

/-- A job at its next attempt. -/
def RelayJob.attempt (job : RelayJob) : RelayJob :=
  { job with attemptsMade := job.attemptsMade + 1 }

/-- What happens besides the statements of the tasks: a callback is received, a round finds an event, the queue
hands out a job, a job of an older version is kept, a creation, an import, a removal or a step of a creation is
committed, or anything but the events and the creations is edited. -/
inductive RelayMove (env : Env) (shared : RelayShared) : RelayEvent → RelayShared → List RelayTask → Prop
  | authenticated {providerId token body db task}
      (haccepted : receiveAuthenticated shared.db providerId token body = some (db, task)) :
      RelayMove env shared (.received body (.token providerId)) (shared.withDb db) [task]
  | fromAddress {adapterType body providerIds} (hknown : providerIds ≠ []) :
      RelayMove env shared (.received body (.peerIp providerIds)) shared
        [.accept adapterType body (.peerIp providerIds)]
  | round {event} (hevent : event ∈ shared.db.relayEvents) (hopen : event.isOpen = true) :
      RelayMove env shared .silent shared [.recover event]
  | delivery {before after job} (position : shared.queue = before ++ job :: after)
      (hattempts : job.attemptsMade < relayAttempts) :
      RelayMove env shared .silent { shared with queue := before ++ job.attempt :: after }
        [.relay job.attempt]
  | legacy {id payload} :
      RelayMove env shared .silent (shared.withDb (shared.db.retainLegacyJob id payload)) []
  | progress {transition db} (hstep : DatabaseStep env shared.db transition db) :
      RelayMove env shared .silent (shared.withDb db) []
  | edited {db} (hevents : db.relayEvents = shared.db.relayEvents)
      (hrows : db.provisionings = shared.db.provisionings) :
      RelayMove env shared .silent (shared.withDb db) []

/-- One step of the relay. -/
abbrev RelayStep (env : Env) : Pool RelayShared RelayTask → RelayEvent → Pool RelayShared RelayTask → Prop :=
  PoolStep RelayStatement (RelayMove env) .silent

/-- Nothing is on its way: no task, no job, and no event that could still be published. -/
structure Quiet (p : Pool RelayShared RelayTask) : Prop where
  tasks : p.tasks = []
  queue : p.shared.queue = []
  events : ∀ event ∈ p.shared.db.relayEvents, event.isOpen = false

/-- The instance an event is about: active, of the product of the webhook, on a provider the event may come
from, and under the name and the id the event carried. -/
structure OwnerOf (db : Database) (body : Json) (evidence : OriginEvidence) (webhook : WebhookConfig)
    (item : Instance) : Prop where
  found : item ∈ db.instances
  isActive : item.isActive = true
  productId : item.productId = webhook.productId
  vpsProviderId : item.vpsProviderId ∈ evidence.origins
  instanceName : ∀ name, (identity body).name = some name → item.instanceName = name
  providerInstanceId : ∀ id, (identity body).id = some id → item.providerInstanceId = some id

section Runs

variable {env : Env} {hist : List RelayEvent} {shared shared' : RelayShared} {e : RelayEvent}
  {new : List RelayTask} {next : Option RelayTask} {task : RelayTask} {p q r s : Pool RelayShared RelayTask}
  {pre : List RelayEvent} {payload : RelayJobPayload} {item : Instance} {webhook : WebhookConfig}

/-- Receiving a callback with a token notes that its provider reaches the Hub, and goes on to look for what it
is about. -/
theorem receiveAuthenticated_some {db db' : Database} {providerId : Uuid} {token : Option String}
    {body : Json}
    (h : receiveAuthenticated db providerId token body = some (db', task)) :
    db'.relayEvents = db.relayEvents ∧ db'.provisionings = db.provisionings ∧
      task = .accept "evolution" body (.token providerId) := by
  unfold receiveAuthenticated at h
  split at h
  · cases h
  · split at h
    · cases h
      exact ⟨rfl, rfl, rfl⟩
    · cases h

/-- An event being received is known where it came from. -/
theorem accepting_received {body : Json} {evidence : OriginEvidence}
    (hnone : evidence.provisioningId = none) :
    Accepting (hist ++ [.received body evidence]) body evidence :=
  ⟨List.mem_append_right _ (List.mem_singleton_self _), hnone⟩

/-- A move that stores no event and keeps those that are there, and starts tasks that know enough. -/
theorem keeps_move (h : RelayRight hist shared) (hkept : shared.db.EventsKept shared'.db)
    (hqueue : ∀ job ∈ shared'.queue, JobRight hist job) (he : ∀ k body evidence, e ≠ .stored k body evidence)
    (hnew : RelayGuarantee hist shared e shared' → ∀ task ∈ new, task.Knows (hist ++ [e]) shared') :
    RelayRight (hist ++ [e]) shared' ∧ RelayGuarantee hist shared e shared' ∧
      ∀ task ∈ new, task.Knows (hist ++ [e]) shared' := by
  obtain ⟨hright, hguarantee⟩ := h.kept hkept hqueue he
  exact ⟨hright, hguarantee, hnew hguarantee⟩

/-- Every other move keeps the tables right and what the tasks rely on, and starts tasks that know enough. -/
theorem RelayMove.keeps (h : RelayRight hist shared) (hmove : RelayMove env shared e shared' new) :
    RelayRight (hist ++ [e]) shared' ∧ RelayGuarantee hist shared e shared' ∧
      ∀ task ∈ new, task.Knows (hist ++ [e]) shared' := by
  cases hmove with
  | authenticated haccepted =>
    obtain ⟨hevents, hrows, rfl⟩ := receiveAuthenticated_some haccepted
    refine keeps_move h (eventsKept_of_eq hevents hrows) h.jobs (fun _ _ _ => nofun) fun _ task htask => ?_
    obtain rfl := List.mem_singleton.mp htask
    exact accepting_received rfl
  | fromAddress =>
    refine keeps_move h (eventsKept_of_eq rfl rfl) h.jobs (fun _ _ _ => nofun) fun _ task htask => ?_
    obtain rfl := List.mem_singleton.mp htask
    exact accepting_received rfl
  | round hevent hopen =>
    refine keeps_move h (eventsKept_of_eq rfl rfl) h.jobs (fun _ _ _ => nofun) fun hguarantee task htask => ?_
    obtain rfl := List.mem_singleton.mp htask
    exact ⟨hopen, RecordRight.stable (h.records _ hevent) hguarantee⟩
  | @delivery before after job position =>
    have hjobs : ∀ other ∈ before ++ job :: after, JobRight hist other := position ▸ h.jobs
    have hjob : JobRight hist job.attempt := hjobs job (List.mem_append_right _ List.mem_cons_self)
    refine keeps_move h (eventsKept_of_eq rfl rfl) (fun other hother => ?_) (fun _ _ _ => nofun)
      fun hguarantee task htask => ?_
    · rcases List.mem_append.mp hother with hother | hother
      · exact hjobs other (List.mem_append_left _ hother)
      · rcases List.mem_cons.mp hother with rfl | hother
        · exact hjob
        · exact hjobs other (List.mem_append_right _ (List.mem_cons_of_mem _ hother))
    · obtain rfl := List.mem_singleton.mp htask
      exact hjob.stable hguarantee
  | legacy =>
    obtain ⟨hright, hguarantee⟩ := kept_retainLegacyJob h
    exact ⟨hright, hguarantee, fun task htask => absurd htask List.not_mem_nil⟩
  | progress hstep =>
    exact keeps_move h hstep.eventsKept h.jobs (fun _ _ _ => nofun) fun _ _ htask =>
      absurd htask List.not_mem_nil
  | edited hevents hrows =>
    exact keeps_move h (eventsKept_of_eq hevents hrows) h.jobs (fun _ _ _ => nofun)
      fun _ _ htask => absurd htask List.not_mem_nil

/-- The tasks of the relay rely on what every step guarantees. -/
theorem relay_discipline (env : Env) :
    Discipline RelayStatement (RelayMove env) .silent RelayRight
      (fun hist shared task => task.Knows hist shared)
      RelayGuarantee where
  statement_ok := by
    rintro hist shared task e shared' next h hknows ⟨input, hrun⟩
    have hkeeps : RelayKeeps hist shared (task.run input shared) := RelayTask.run_keeps h hknows
    rw [hrun] at hkeeps
    exact ⟨hkeeps.1.1, hkeeps.1.2, hkeeps.2⟩
  environment_ok h hmove := hmove.keeps h
  lost_ok h := h.kept (eventsKept_of_eq rfl rfl) h.jobs (fun _ _ _ => nofun)
  stable h hguarantee := RelayTask.Knows.stable h hguarantee

/-- Where nothing is on its way, nothing is wrong. -/
theorem Quiet.right (h : Quiet p) :
    p.Right RelayRight (fun hist shared task => task.Knows hist shared) [] := by
  refine ⟨⟨fun event hevent hopen => ?_, fun job hjob => ?_,
    fun _ _ _ hstored => absurd hstored List.not_mem_nil⟩, fun task htask => ?_⟩
  · rw [h.events event hevent] at hopen
    cases hopen
  · rw [h.queue] at hjob
    cases hjob
  · rw [h.tasks] at htask
    cases htask

/-- What is observed of a statement. -/
theorem RelayStatement.observed (h : RelayStatement shared task e shared' next) : task.Observed shared e := by
  obtain ⟨input, hrun⟩ := h
  have hlabel : (task.run input shared).1 = e := congrArg Prod.fst hrun
  rw [← hlabel]
  exact task.run_observed input shared

/-- A post is a statement of a task. -/
theorem RelayStep.posted (h : RelayStep env p (.posted payload item webhook) q) :
    ∃ job, .post job item webhook ∈ p.tasks ∧ job.data = payload := by
  cases h with
  | ran position run =>
    cases run.observed with
    | posted job => exact ⟨job, position ▸ List.mem_append_right _ List.mem_cons_self, rfl⟩
  | came move => cases move

/-- So is a validation. -/
theorem RelayStep.validated (h : RelayStep env p (.validated payload item) q) :
    ValidatedAs p.shared.db payload item := by
  cases h with
  | ran position run =>
    cases run.observed with
    | validated valid => exact valid
  | came move => cases move

/-- What was validated for a delivery of an event owns it, for the product whose webhook the delivery names. -/
theorem ValidatedAs.ownerOf {db : Database} {body : Json} {evidence : OriginEvidence}
    (h : ValidatedAs db payload item) (hattributed : Attributed body evidence payload)
    (hproduct : payload.productId = some webhook.productId) : OwnerOf db body evidence webhook item := by
  have hprovider : payload.providerId ≠ none := by
    rw [h.providerId]
    exact Option.some_ne_none _
  refine ⟨h.found, h.isActive, Option.some.inj (h.productId.symm.trans hproduct),
    hattributed.origin _ h.providerId, fun name hname => ?_, fun id hid => ?_⟩
  · rw [h.instanceName]
    exact hattributed.instanceName name hname hprovider
  · have hcarried : payload.providerInstanceId = some id := hattributed.providerInstanceId id hid hprovider
    rw [← hcarried]
    exact h.providerInstanceId (hcarried ▸ identity_id_truthy hid)

/-- Whatever happens in between, an event that is posted to a webhook was received once, and every validation of
the delivery that precedes the post, of which there is one, finds the instance the event names: active, of the
product of that webhook, on the provider whose token came with the event, and under the name and the id the
event carried. -/
theorem posted_to_owner (hquiet : Quiet p) (hrun : Run (RelayStep env) p pre r)
    (hpost : RelayStep env r (.posted payload item webhook) s) :
    ∃ k body evidence, payload.pendingEventId = some k ∧ payload.body = body ∧
      RelayOrigin pre k body evidence ∧
      .validated payload item ∈ pre ∧
      ∀ before found after q, pre = before ++ .validated payload found :: after →
        Run (RelayStep env) p before q →
        Run (RelayStep env) q (.validated payload found :: after) r →
          OwnerOf q.shared.db body evidence webhook found ∧
            ∀ v, evidence = .token v → found.vpsProviderId = v := by
  have hright := hrun.right (relay_discipline env) hquiet.right
  obtain ⟨job, htask, rfl⟩ := hpost.posted
  obtain ⟨⟨hid, body, evidence, horigin, hattributed⟩, hvalidated, hwebhook⟩ := hright.2 _ htask
  -- the validation that the posting task made tells which product the delivery names
  have hproduct : job.data.productId = some webhook.productId := by
    obtain ⟨before, after, hpre⟩ := List.append_of_mem hvalidated
    rw [List.nil_append] at hpre
    subst hpre
    obtain ⟨_, _, -, hstep, -⟩ := hrun.exists_step
    rw [hstep.validated.productId, hwebhook]
  rw [List.nil_append] at horigin hvalidated
  refine ⟨job.id, body, evidence, hid, hattributed.body_eq, horigin, hvalidated, ?_⟩
  rintro before found after q rfl - hrest
  cases hrest with
  | cons hstep _ =>
    have howner : OwnerOf q.shared.db body evidence webhook found :=
      hstep.validated.ownerOf hattributed hproduct
    refine ⟨howner, fun v hv => ?_⟩
    have hfrom : found.vpsProviderId ∈ evidence.origins := howner.vpsProviderId
    rw [hv] at hfrom
    exact List.mem_singleton.mp hfrom

end Runs

/-- The product of a small relay. -/
def smallRelayProduct : Product where
  id := smallProduct.id
  name := smallProduct.name
  slug := smallProduct.slug
  apiKeyHash := smallProduct.apiKeyHash
  hubRelay := true

/-- Its provider, which has a token. -/
def smallRelayProvider : VpsProvider where
  id := smallProvider.id
  vpsId := smallServer.id
  providerUrl := "https://evolution.test"
  providerApiKey := "sealed"
  callbackTokenEncrypted := some ⟨some "callback"⟩

/-- The instance of that product. -/
def smallRelayItem : Instance where
  id := ⟨"support", by decide⟩
  productId := smallRelayProduct.id
  vpsProviderId := smallRelayProvider.id
  instanceName := "support"
  hubToken := "hub_support"
  updatedAt := 0

/-- The webhook of that product. -/
def smallWebhook : WebhookConfig where
  id := ⟨"webhook", by decide⟩
  productId := smallRelayProduct.id
  url := "https://customer.test"
  secret := "secret"

/-- A small relay at rest. -/
def smallRelay : Pool RelayShared RelayTask where
  shared :=
    { db :=
        { products := ⟨[smallRelayProduct], by decide⟩
          providers := ⟨[smallRelayProvider], by decide⟩
          links := ⟨[{ productId := smallRelayProduct.id, vpsProviderId := smallRelayProvider.id }],
            by decide⟩
          instances := ⟨[smallRelayItem], by decide⟩
          webhookConfigs := ⟨[smallWebhook], by decide⟩ }
      queue := [] }
  tasks := []

/-- A callback about the instance of the small relay. -/
def smallCallback : Json := .obj [("instance", .str "support")]

/-- Run the first task of a pool, statement by statement. -/
def advance (input : RelayInput) : Nat → Pool RelayShared RelayTask →
    List RelayEvent × Pool RelayShared RelayTask
  | 0, p => ([], p)
  | n + 1, p =>
    match p.tasks with
    | [] => ([], p)
    | task :: after =>
      let r := task.run input p.shared
      let rest := advance input n ⟨r.2.1, r.2.2.toList ++ after⟩
      (r.1 :: rest.1, rest.2)

/-- Running the first task is a run. -/
theorem advance_run (env : Env) (input : RelayInput) (n : Nat) (p : Pool RelayShared RelayTask) :
    Run (RelayStep env) p (advance input n p).1 (advance input n p).2 := by
  induction n generalizing p with
  | zero => exact .nil p
  | succ n ih =>
    unfold advance
    split
    · exact .nil p
    · next task after position =>
      have hstep : RelayStep env p (task.run input p.shared).1
          ⟨(task.run input p.shared).2.1, [] ++ ((task.run input p.shared).2.2.toList ++ after)⟩ :=
        .ran position ⟨input, rfl⟩
      exact .cons hstep (ih _)

/-- What decides the steps of the small relay. -/
def smallRelayInput : RelayInput where
  now := 0
  id := ⟨"event", by decide⟩

/-- The small relay once the callback is received. -/
def smallReceived : Pool RelayShared RelayTask :=
  match receiveAuthenticated smallRelay.shared.db smallRelayProvider.id (some "callback") smallCallback with
  | some (db, task) => ⟨smallRelay.shared.withDb db, [task]⟩
  | none => smallRelay

/-- The job of its delivery. -/
def smallJob : RelayJob where
  id := smallRelayInput.id
  data := { relayPayload "evolution" smallCallback (some smallRelayItem) none with
    pendingEventId := some smallRelayInput.id }

/-- The small relay once the queue hands out that job. -/
def smallDelivered : Pool RelayShared RelayTask where
  shared := { (advance smallRelayInput 6 smallReceived).2.shared with queue := [smallJob.attempt] }
  tasks := [.relay smallJob.attempt]

/-- The small relay receives the callback, stores and queues it, and posts it to the owner of the instance. -/
theorem posted_to_owner_small : ∃ pre r s, Run (RelayStep smallEnv) smallRelay pre r ∧
    RelayStep smallEnv r (.posted smallJob.data smallRelayItem smallWebhook) s ∧
    RelayOrigin pre smallJob.id smallCallback (.token smallRelayProvider.id) ∧
    OwnerOf smallDelivered.shared.db smallCallback (.token smallRelayProvider.id) smallWebhook
      smallRelayItem := by
  have hreceived : RelayStep smallEnv smallRelay (.received smallCallback (.token smallRelayProvider.id))
      smallReceived := .came (@RelayMove.authenticated _ _ _ (some "callback") _ _ _ rfl)
  have hdelivered : RelayStep smallEnv (advance smallRelayInput 6 smallReceived).2 .silent smallDelivered :=
    .came (@RelayMove.delivery _ _ [] [] smallJob rfl (by decide))
  have hbefore : Run (RelayStep smallEnv) smallRelay _ smallDelivered :=
    .cons hreceived ((advance_run smallEnv smallRelayInput 6 smallReceived).append (.single hdelivered))
  have hafter : Run (RelayStep smallEnv) smallDelivered [.validated smallJob.data smallRelayItem, .silent]
      (advance smallRelayInput 2 smallDelivered).2 := advance_run smallEnv smallRelayInput 2 smallDelivered
  have hpost : RelayStep smallEnv (advance smallRelayInput 2 smallDelivered).2
      (.posted smallJob.data smallRelayItem smallWebhook) _ :=
    @PoolStep.ran _ _ _ _ _ _ _ [] [] (.post smallJob.attempt smallRelayItem smallWebhook) _ _ _ rfl
      ⟨smallRelayInput, rfl⟩
  have hquiet : Quiet smallRelay := ⟨rfl, rfl, fun _ hevent => absurd hevent List.not_mem_nil⟩
  refine ⟨_, _, _, hbefore.append hafter, hpost, ?_⟩
  obtain ⟨k, body, evidence, hid, -, horigin, -, howner⟩ :=
    posted_to_owner hquiet (hbefore.append hafter) hpost
  cases hid
  obtain ⟨rfl, rfl⟩ := horigin.unique smallCallback (.token smallRelayProvider.id)
    (.tail _ (.tail _ (.tail _ (.head _))))
  exact ⟨horigin, (howner _ smallRelayItem [.silent] smallDelivered rfl hbefore hafter).1⟩

end ConnectHub
