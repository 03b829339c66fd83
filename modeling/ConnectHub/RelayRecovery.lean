import ConnectHub.RelayDelivery
import ConnectHub.Store.Attempt

/-!
# Recovery of relay events

A round of recovery goes over the events that were not queued yet. One that waits for a creation is judged by
it: it is given up when the creation ended without an instance, and published once the instance is known. A
creation that was committed and whose instance is gone is neither, and its events wait for ever.
-/

namespace ConnectHub

open Store

/-- What decides the handling of an event besides what is shared: the time, and whether the queue takes
jobs. -/
structure RecoveryInput where
  now : Instant
  queueAccepts : Bool := true

/-- A step of a round. -/
abbrev Recovery (α : Type) := Attempt RelayShared HubError α

/-- Change the database. -/
def updateShared (f : Database → Database) : Recovery Unit :=
  modify fun shared => shared.withDb (f shared.db)

/-- Give an event up. -/
def retainEvent (now : Instant) (event : PendingRelayEvent) (errorCode : RelayErrorCode) : Recovery Unit :=
  updateShared (·.markEvent now event.id .retained (some errorCode))

/-- Queue an event, unless what it says of its instance no longer holds. -/
def publishEvent (input : RecoveryInput) (event : PendingRelayEvent) : Recovery Unit := do
  match event.encryptedPayload.opened with
  | none => throw (.internal "Unsupported state or unable to authenticate data")
  | some payload =>
    let shared ← get
    match shared.db.validateJob payload with
    | none => retainEvent input.now event .identityChanged
    | some _ =>
      if input.queueAccepts = false then throw (.internal "Connection is closed.")
      else
        set (shared.enqueue event.id payload)
        updateShared (·.noteQueued event.id)

/-- Note the instance of an event that waited, and read it again; there is nothing to publish if it moved on
meanwhile. -/
def resolveEvent (event : PendingRelayEvent) (payload : RelayJobPayload) (instanceId : Uuid) :
    Recovery (Option PendingRelayEvent) := do
  let shared ← get
  match shared.db.resolveWaiting event.id payload instanceId with
  | none => throw (.internal "Foreign key constraint violated")
  | some db =>
    set (shared.withDb db)
    match db.relayEvents.find? event.id with
    | none => throw .recordNotFound
    | some row => pure (if row.state = .pending then some row else none)

/-- Judge an event that waits by the creation it waits for: give it up, resolve it, or go on to the next. -/
def recoverWaiting (input : RecoveryInput) (event : PendingRelayEvent) :
    Recovery (Option PendingRelayEvent) := do
  let shared ← get
  match event.originEvidence.bind (·.provisioningId), event.vpsProviderId with
  | some provisioningId, some providerId =>
    match shared.db.provisionings.find? provisioningId with
    | none => do
      retainEvent input.now event .provisioningEnded
      pure none
    | some intention =>
      if intention.isOpen = false ∧ intention.state ≠ .committed then do
        retainEvent input.now event .provisioningEnded
        pure none
      else
        match intention.instanceId with
        | none => pure none
        | some instanceId =>
          if ¬[ProvisioningState.creating, .uncertain, .committed].contains intention.state then pure none
          else if intention.vpsProviderId ≠ providerId ∨
              (truthy event.providerInstanceId = true ∧
                intention.providerInstanceId ≠ event.providerInstanceId) then do
            retainEvent input.now event .identityChanged
            pure none
          else
            match event.encryptedPayload.opened with
            | none => throw (.internal "Unsupported state or unable to authenticate data")
            | some original => resolveEvent event (original.resolved intention instanceId) instanceId
  | _, _ => pure none

/-- The event to publish, if there is one: a pending one is, a waiting one is judged first. -/
def readyRow (input : RecoveryInput) (event : PendingRelayEvent) : Recovery (Option PendingRelayEvent) :=
  if event.state = .waiting then recoverWaiting input event else pure (some event)

/-- Handle one event of a round. -/
def recoverRow (input : RecoveryInput) (event : PendingRelayEvent) : Recovery Unit := do
  match ← readyRow input event with
  | none => pure ()
  | some row => publishEvent input row

/-- The events of a round: the next ones after the cursor, in order. -/
def Database.recoveryRows (db : Database) (cursor : Option Uuid) : List PendingRelayEvent :=
  ((db.relayEvents.rows.filter fun e =>
      (e.state = .pending || e.state = .waiting) && cursor.all fun c => c.value < e.id.value).mergeSort
    fun a b => a.id.value ≤ b.id.value).take 50

/-- Handle some events one after the other; a failure of one does not stop the others. -/
def recoverRows (input : Uuid → RecoveryInput) (rows : List PendingRelayEvent) (shared : RelayShared) :
    RelayShared :=
  rows.foldl (fun shared event => (recoverRow (input event.id) event).after shared) shared

/-- A round of recovery, with the cursor it leaves. -/
def recoverPending (input : Uuid → RecoveryInput) (cursor : Option Uuid) (shared : RelayShared) :
    RelayShared × Option Uuid :=
  (recoverRows input (shared.db.recoveryRows cursor) shared,
    (shared.db.recoveryRows cursor).getLast?.map (·.id))

/-- An event was published, or given up for a reason. -/
def RelayShared.Recovered (shared : RelayShared) (id : Uuid) : Prop :=
  ∃ row, shared.db.relayEvents.find? id = some row ∧
    ((row.state = .queued ∧ ∃ job ∈ shared.queue, job.id = id) ∨
      (row.state = .retained ∧ row.errorCode ≠ none))

/-- A creation has ended or is not there. -/
def Database.Ended (db : Database) (provisioningId : Uuid) : Prop :=
  ∀ intention, db.provisionings.find? provisioningId = some intention → intention.isTerminal = true

/-- An event can be told what became of the creation it waits for: it names its provider, and the creation was
not committed with its instance gone since. -/
def Database.Settles (db : Database) (event : PendingRelayEvent) (provisioningId : Uuid) : Prop :=
  event.vpsProviderId ≠ none ∧ ∀ intention, db.provisionings.find? provisioningId = some intention →
    intention.state = .committed → intention.instanceId ≠ none

/-- Nothing happened but to one event and its job. -/
structure RelayShared.OnlyEvent (id : Uuid) (shared shared' : RelayShared) : Prop where
  provisionings : shared'.db.provisionings = shared.db.provisionings
  others : ∀ other, other ≠ id → shared'.db.relayEvents.find? other = shared.db.relayEvents.find? other
  queue : ∀ job, job.id ≠ id → (job ∈ shared'.queue ↔ job ∈ shared.queue)

section Frame

variable {shared shared' shared'' : RelayShared} {id : Uuid} {input : RecoveryInput}

/-- A lookup after events were changed finds the old one, changed where the test holds. -/
theorem find?_updateEvents {db : Database} {p : PendingRelayEvent → Bool}
    {f : PendingRelayEvent → PendingRelayEvent} {hf : ∀ e, (f e).id = e.id} :
    (db.updateEvents p f hf).relayEvents.find? id =
      (db.relayEvents.find? id).map fun e => if p e then f e else e :=
  @Table.find?_modify _ _ _ _ db.relayEvents p f hf id

/-- Nothing happened. -/
theorem RelayShared.OnlyEvent.refl (shared : RelayShared) : shared.OnlyEvent id shared :=
  ⟨rfl, fun _ _ => rfl, fun _ _ => Iff.rfl⟩

/-- Nothing else in two stretches is nothing else in both. -/
theorem RelayShared.OnlyEvent.trans (h : shared.OnlyEvent id shared')
    (h' : shared'.OnlyEvent id shared'') : shared.OnlyEvent id shared'' where
  provisionings := h'.provisionings.trans h.provisionings
  others := fun other hother => (h'.others other hother).trans (h.others other hother)
  queue := fun job hjob => (h'.queue job hjob).trans (h.queue job hjob)

/-- Changing rows of one event leaves the others alone. -/
theorem RelayShared.OnlyEvent.updateEvents {p : PendingRelayEvent → Bool}
    {f : PendingRelayEvent → PendingRelayEvent} {hf : ∀ e, (f e).id = e.id}
    (hp : ∀ e, p e = true → e.id = id) :
    shared.OnlyEvent id (shared.withDb (shared.db.updateEvents p f hf)) where
  provisionings := rfl
  others := by
    intro other hother
    change (shared.db.updateEvents p f hf).relayEvents.find? other = _
    rw [find?_updateEvents]
    cases hfind : shared.db.relayEvents.find? other with
    | none => rfl
    | some row =>
      have hid : row.id = other := (Table.find?_eq_some.mp hfind).2
      have hno : p row ≠ true := by
        intro hyes
        apply hother
        rw [← hid]
        exact hp row hyes
      rw [Option.map_some, if_neg hno]
  queue := fun _ _ => Iff.rfl

/-- Giving an event up leaves the others alone. -/
theorem retainEvent_onlyEvent (now : Instant) (event : PendingRelayEvent) (errorCode : RelayErrorCode) :
    (retainEvent now event errorCode).Guarantees (RelayShared.OnlyEvent event.id) := by
  intro shared
  apply RelayShared.OnlyEvent.updateEvents
  intro e he
  exact Option.some.inj (of_decide_eq_true (Bool.and_eq_true_iff.mp he).1)

/-- So does queueing it. -/
theorem publishEvent_onlyEvent (input : RecoveryInput) (event : PendingRelayEvent) :
    (publishEvent input event).Guarantees (RelayShared.OnlyEvent event.id) := by
  unfold publishEvent
  split
  · exact Attempt.Guarantees.throw RelayShared.OnlyEvent.refl _
  · next payload hpayload =>
    apply Attempt.Guarantees.get_bind
    intro shared
    split
    · exact retainEvent_onlyEvent input.now event .identityChanged shared
    · split
      · exact RelayShared.OnlyEvent.refl shared
      · have hqueued : shared.OnlyEvent event.id (shared.enqueue event.id payload) := by
          unfold RelayShared.enqueue
          split
          · exact RelayShared.OnlyEvent.refl shared
          · refine ⟨rfl, fun _ _ => rfl, fun job hjob => ?_⟩
            rw [List.mem_append, List.mem_singleton]
            refine or_iff_left fun hnew => hjob ?_
            rw [hnew]
        apply hqueued.trans
        apply RelayShared.OnlyEvent.updateEvents
        intro e he
        exact of_decide_eq_true (Bool.and_eq_true_iff.mp he).1

/-- So does resolving it. -/
theorem resolveEvent_onlyEvent (event : PendingRelayEvent) (payload : RelayJobPayload) (instanceId : Uuid) :
    (resolveEvent event payload instanceId).Guarantees (RelayShared.OnlyEvent event.id) := by
  apply Attempt.Guarantees.get_bind
  intro shared
  cases hresolved : shared.db.resolveWaiting event.id payload instanceId with
  | none => exact RelayShared.OnlyEvent.refl shared
  | some db =>
    have honly : shared.OnlyEvent event.id (shared.withDb db) := by
      unfold Database.resolveWaiting at hresolved
      split at hresolved
      · cases hresolved
      · cases hresolved
        apply RelayShared.OnlyEvent.updateEvents
        intro e he
        exact of_decide_eq_true (Bool.and_eq_true_iff.mp he).1
    simp only [Attempt.after_bind, EStateM.run_set]
    split
    · exact honly
    · exact honly

/-- So does judging it while it waits. -/
theorem recoverWaiting_onlyEvent (input : RecoveryInput) (event : PendingRelayEvent) :
    (recoverWaiting input event).Guarantees (RelayShared.OnlyEvent event.id) := by
  have hretain : ∀ (errorCode : RelayErrorCode) (s : RelayShared), s.OnlyEvent event.id
      (Attempt.after (do
        retainEvent input.now event errorCode
        pure (none : Option PendingRelayEvent)) s) :=
    fun errorCode s => retainEvent_onlyEvent input.now event errorCode s
  apply Attempt.Guarantees.get_bind
  intro shared
  split
  · split
    · exact hretain _ shared
    · split
      · exact hretain _ shared
      · split
        · exact RelayShared.OnlyEvent.refl shared
        · split
          · exact RelayShared.OnlyEvent.refl shared
          · split
            · exact hretain _ shared
            · split
              · exact RelayShared.OnlyEvent.refl shared
              · exact resolveEvent_onlyEvent _ _ _ shared
  · exact RelayShared.OnlyEvent.refl shared

/-- What is read again after an event was resolved is that event. -/
theorem resolveEvent_reads {event row : PendingRelayEvent} {payload : RelayJobPayload} {instanceId : Uuid}
    (hrun : (resolveEvent event payload instanceId).run shared = .ok (some row) shared') :
    row.id = event.id := by
  obtain ⟨s, s₁, hget, hrest⟩ := Attempt.bind_ok.mp hrun
  cases hget
  split at hrest
  · exact absurd hrest Attempt.throw_ok.mp
  · obtain ⟨u, s₂, hset, hread⟩ := Attempt.bind_ok.mp hrest
    cases hset
    split at hread
    · exact absurd hread Attempt.throw_ok.mp
    · next found hfound =>
      have hvalue := (Attempt.pure_ok.mp hread).1
      split at hvalue
      · cases hvalue
        exact (Table.find?_eq_some.mp hfound).2
      · cases hvalue

/-- What is read again after an event was judged is that event. -/
theorem recoverWaiting_reads {event row : PendingRelayEvent}
    (hrun : (recoverWaiting input event).run shared = .ok (some row) shared') : row.id = event.id := by
  have hretained : ∀ {errorCode : RelayErrorCode} {s s' : RelayShared}, EStateM.run (do
      retainEvent input.now event errorCode
      pure (none : Option PendingRelayEvent)) s ≠ .ok (some row) s' := by
    intro errorCode s s' h
    cases h
  obtain ⟨s, s₁, hget, hrest⟩ := Attempt.bind_ok.mp hrun
  cases hget
  split at hrest
  · split at hrest
    · exact absurd hrest hretained
    · split at hrest
      · exact absurd hrest hretained
      · split at hrest
        · cases hrest
        · split at hrest
          · cases hrest
          · split at hrest
            · exact absurd hrest hretained
            · split at hrest
              · exact absurd hrest Attempt.throw_ok.mp
              · exact resolveEvent_reads hrest
  · cases hrest

/-- Handling an event leaves the others alone. -/
theorem recoverRow_onlyEvent (input : RecoveryInput) (event : PendingRelayEvent) :
    (recoverRow input event).Guarantees (RelayShared.OnlyEvent event.id) := by
  intro shared
  unfold recoverRow
  rw [Attempt.after_bind]
  unfold readyRow
  by_cases hwaiting : event.state = .waiting
  · rw [if_pos hwaiting]
    have hjudged := recoverWaiting_onlyEvent input event shared
    cases hrun : (recoverWaiting input event).run shared with
    | error e s =>
      rw [Attempt.after_of_error hrun] at hjudged
      exact hjudged
    | ok read s =>
      rw [Attempt.after_of_ok hrun] at hjudged
      cases read with
      | none => exact hjudged
      | some row =>
        have hpublished := publishEvent_onlyEvent input row s
        rw [recoverWaiting_reads hrun] at hpublished
        exact hjudged.trans hpublished
  · rw [if_neg hwaiting]
    exact publishEvent_onlyEvent input event shared

/-- Handling events leaves another one alone. -/
theorem recoverRows_other (input : Uuid → RecoveryInput) {rows : List PendingRelayEvent} {id : Uuid}
    (h : ∀ event ∈ rows, event.id ≠ id) (shared : RelayShared) :
    (recoverRows input rows shared).db.provisionings = shared.db.provisionings ∧
      (recoverRows input rows shared).db.relayEvents.find? id = shared.db.relayEvents.find? id ∧
      ∀ job, job.id = id → (job ∈ (recoverRows input rows shared).queue ↔ job ∈ shared.queue) := by
  induction rows generalizing shared with
  | nil => exact ⟨rfl, rfl, fun _ _ => Iff.rfl⟩
  | cons event rows ih =>
    have hfirst := recoverRow_onlyEvent (input event.id) event shared
    have hrest := ih (fun other hother => h other (List.mem_cons_of_mem _ hother))
      ((recoverRow (input event.id) event).after shared)
    have hapart : event.id ≠ id := h event List.mem_cons_self
    refine ⟨hrest.1.trans hfirst.provisionings, hrest.2.1.trans (hfirst.others id hapart.symm), ?_⟩
    intro job hjob
    apply (hrest.2.2 job hjob).trans (hfirst.queue job _)
    rw [hjob]
    exact hapart.symm

end Frame

section Own

variable {shared shared' : RelayShared} {input : RecoveryInput} {event row : PendingRelayEvent}

/-- An event that was given up is recovered. -/
theorem retainEvent_recovered {now : Instant} {errorCode : RelayErrorCode}
    (hfind : shared.db.relayEvents.find? event.id = some row) (hstate : row.state ≠ .delivered)
    (hrun : (retainEvent now event errorCode).run shared = .ok () shared') : shared'.Recovered event.id := by
  have hid : row.id = event.id := (Table.find?_eq_some.mp hfind).2
  cases hrun
  refine ⟨row.marked now .retained (some errorCode), ?_, Or.inr ⟨rfl, Option.some_ne_none _⟩⟩
  change (shared.db.markEvent now event.id .retained (some errorCode)).relayEvents.find? event.id = _
  unfold Database.markEvent
  rw [find?_updateEvents, hfind, Option.map_some, hid, if_pos]
  exact Bool.and_eq_true_iff.mpr ⟨decide_eq_true rfl, decide_eq_true hstate⟩

/-- A pending event that was handled without a failure is recovered. -/
theorem publishEvent_recovered (hfind : shared.db.relayEvents.find? row.id = some row)
    (hstate : row.state = .pending) (hrun : (publishEvent input row).run shared = .ok () shared') :
    shared'.Recovered row.id := by
  unfold publishEvent at hrun
  split at hrun
  · exact absurd hrun Attempt.throw_ok.mp
  · next payload hpayload =>
    obtain ⟨s, s₁, hget, hrest⟩ := Attempt.bind_ok.mp hrun
    cases hget
    split at hrest
    · apply retainEvent_recovered hfind _ hrest
      rw [hstate]
      exact RelayEventState.noConfusion
    · split at hrest
      · exact absurd hrest Attempt.throw_ok.mp
      · cases hrest
        refine ⟨row.noted, ?_, Or.inl ⟨rfl, ?_⟩⟩
        · change ((shared.enqueue row.id payload).db.noteQueued row.id).relayEvents.find? row.id = _
          have hdb : (shared.enqueue row.id payload).db = shared.db := by
            unfold RelayShared.enqueue
            split
            · rfl
            · rfl
          unfold Database.noteQueued
          rw [hdb, find?_updateEvents, hfind, Option.map_some, if_pos]
          exact Bool.and_eq_true_iff.mpr ⟨decide_eq_true rfl, decide_eq_true hstate⟩
        · change ∃ job ∈ (shared.enqueue row.id payload).queue, job.id = row.id
          unfold RelayShared.enqueue
          split
          · next hqueued =>
            obtain ⟨job, hjob, hid⟩ := List.any_eq_true.mp hqueued
            exact ⟨job, hjob, of_decide_eq_true hid⟩
          · exact ⟨_, List.mem_append_right _ List.mem_cons_self, rfl⟩

/-- An event that waits and is resolved is pending afterwards, and read as it then is. -/
theorem resolveEvent_ok {payload : RelayJobPayload} {instanceId : Uuid} {read : Option PendingRelayEvent}
    (hfind : shared.db.relayEvents.find? event.id = some event) (hwaiting : event.state = .waiting)
    (hrun : (resolveEvent event payload instanceId).run shared = .ok read shared') :
    read = some (event.resolved payload instanceId) ∧
      shared'.db.relayEvents.find? event.id = some (event.resolved payload instanceId) := by
  obtain ⟨s, s₁, hget, hrest⟩ := Attempt.bind_ok.mp hrun
  cases hget
  split at hrest
  · exact absurd hrest Attempt.throw_ok.mp
  · next db hresolved =>
    obtain ⟨u, s₂, hset, hread⟩ := Attempt.bind_ok.mp hrest
    cases hset
    have hrow : db.relayEvents.find? event.id = some (event.resolved payload instanceId) := by
      unfold Database.resolveWaiting at hresolved
      split at hresolved
      · cases hresolved
      · cases hresolved
        rw [find?_updateEvents, hfind, Option.map_some, if_pos]
        exact Bool.and_eq_true_iff.mpr ⟨decide_eq_true rfl, decide_eq_true hwaiting⟩
    rw [hrow] at hread
    obtain ⟨hvalue, hstate⟩ := Attempt.pure_ok.mp hread
    refine ⟨hvalue.symm, ?_⟩
    rw [← hstate]
    exact hrow

/-- Giving an event up and going on to the next one recovers it. -/
theorem retained_of_ok {errorCode : RelayErrorCode} {read : Option PendingRelayEvent}
    (hfind : shared.db.relayEvents.find? event.id = some event) (hwaiting : event.state = .waiting)
    (hrun : EStateM.run (do
      retainEvent input.now event errorCode
      pure (none : Option PendingRelayEvent)) shared = .ok read shared') :
    read = none ∧ shared'.Recovered event.id := by
  obtain ⟨u, s, hretain, hdone⟩ := Attempt.bind_ok.mp hrun
  obtain ⟨hvalue, hstate⟩ := Attempt.pure_ok.mp hdone
  have hnot : event.state ≠ .delivered := by
    rw [hwaiting]
    exact RelayEventState.noConfusion
  rw [← hstate]
  exact ⟨hvalue.symm, retainEvent_recovered hfind hnot hretain⟩

/-- An event that waits for an ended creation is recovered or pending where it can be told, and left alone
where it cannot. -/
theorem recoverWaiting_ended {provisioningId : Uuid} {read : Option PendingRelayEvent}
    (hfind : shared.db.relayEvents.find? event.id = some event) (hwaiting : event.state = .waiting)
    (hprovisioning : event.originEvidence.bind (·.provisioningId) = some provisioningId)
    (hended : shared.db.Ended provisioningId)
    (hrun : (recoverWaiting input event).run shared = .ok read shared') :
    (shared.db.Settles event provisioningId ∧ ((read = none ∧ shared'.Recovered event.id) ∨
        ∃ row, read = some row ∧ row.id = event.id ∧ row.state = .pending ∧
          shared'.db.relayEvents.find? row.id = some row)) ∨
      (¬ shared.db.Settles event provisioningId ∧ read = none ∧ shared' = shared) := by
  obtain ⟨s, s₁, hget, hrest⟩ := Attempt.bind_ok.mp hrun
  cases hget
  rw [hprovisioning] at hrest
  cases hprovider : event.vpsProviderId with
  | none =>
    rw [hprovider] at hrest
    obtain ⟨hvalue, hstate⟩ := Attempt.pure_ok.mp hrest
    exact Or.inr ⟨fun hsettles => hsettles.1 hprovider, hvalue.symm, hstate.symm⟩
  | some providerId =>
    have hnamed : event.vpsProviderId ≠ none := by
      rw [hprovider]
      exact Option.some_ne_none providerId
    rw [hprovider] at hrest
    cases hintention : shared.db.provisionings.find? provisioningId with
    | none =>
      simp only [hintention] at hrest
      refine Or.inl ⟨⟨hnamed, ?_⟩, Or.inl (retained_of_ok hfind hwaiting hrest)⟩
      intro intention hsome
      rw [hintention] at hsome
      cases hsome
    | some intention =>
      simp only [hintention] at hrest
      have hterminal := hended intention hintention
      have hsettles : (intention.state = .committed → intention.instanceId ≠ none) →
          shared.db.Settles event provisioningId := by
        intro h
        refine ⟨hnamed, ?_⟩
        intro other hother
        rw [hintention] at hother
        cases hother
        exact h
      have hclosed : intention.isOpen = false := by
        rw [isTerminal_eq_not_isOpen] at hterminal
        exact (Bool.not_eq_true' _).mp hterminal
      by_cases hcommitted : intention.state = .committed
      · rw [if_neg (fun h => h.2 hcommitted)] at hrest
        cases hinstance : intention.instanceId with
        | none =>
          simp only [hinstance] at hrest
          obtain ⟨hvalue, hstate⟩ := Attempt.pure_ok.mp hrest
          refine Or.inr ⟨?_, hvalue.symm, hstate.symm⟩
          intro h
          exact h.2 intention hintention hcommitted hinstance
        | some instanceId =>
          have hsettled : shared.db.Settles event provisioningId := by
            apply hsettles
            intro _
            rw [hinstance]
            exact Option.some_ne_none instanceId
          refine Or.inl ⟨hsettled, ?_⟩
          have hjudged : ¬ ¬ [ProvisioningState.creating, .uncertain, .committed].contains
              intention.state = true := by
            rw [hcommitted]
            decide
          simp only [hinstance] at hrest
          rw [if_neg hjudged] at hrest
          split at hrest
          · exact Or.inl (retained_of_ok hfind hwaiting hrest)
          · split at hrest
            · exact absurd hrest Attempt.throw_ok.mp
            · obtain ⟨hread, hrow⟩ := resolveEvent_ok hfind hwaiting hrest
              exact Or.inr ⟨_, hread, rfl, rfl, hrow⟩
      · rw [if_pos ⟨hclosed, hcommitted⟩] at hrest
        have hsettled : shared.db.Settles event provisioningId :=
          hsettles fun h => absurd h hcommitted
        exact Or.inl ⟨hsettled, Or.inl (retained_of_ok hfind hwaiting hrest)⟩

/-- An event that waits for an ended creation and is handled without a failure is recovered exactly where it
can be told what became of the creation. -/
theorem recoverRow_recovered_iff {provisioningId : Uuid}
    (hfind : shared.db.relayEvents.find? event.id = some event) (hwaiting : event.state = .waiting)
    (hprovisioning : event.originEvidence.bind (·.provisioningId) = some provisioningId)
    (hended : shared.db.Ended provisioningId)
    (hrun : (recoverRow input event).run shared = .ok () shared') :
    shared'.Recovered event.id ↔ shared.db.Settles event provisioningId := by
  unfold recoverRow readyRow at hrun
  rw [if_pos hwaiting] at hrun
  obtain ⟨read, s, hread, hrest⟩ := Attempt.bind_ok.mp hrun
  cases recoverWaiting_ended hfind hwaiting hprovisioning hended hread with
  | inl htold =>
    obtain ⟨hsettles, houtcome⟩ := htold
    refine ⟨fun _ => hsettles, fun _ => ?_⟩
    cases houtcome with
    | inl hretained =>
      obtain ⟨hnone, hrecovered⟩ := hretained
      rw [hnone] at hrest
      cases hrest
      exact hrecovered
    | inr hpending =>
      obtain ⟨row, hsome, hid, hstate, hrow⟩ := hpending
      rw [hsome] at hrest
      rw [← hid]
      exact publishEvent_recovered hrow hstate hrest
  | inr huntold =>
    obtain ⟨hnot, hnone, hsame⟩ := huntold
    rw [hnone] at hrest
    cases hrest
    refine ⟨?_, fun hsettles => absurd hsettles hnot⟩
    intro hrecovered
    obtain ⟨row, hrow, hstate⟩ := hrecovered
    rw [hsame, hfind] at hrow
    cases hrow
    rw [hwaiting] at hstate
    cases hstate with
    | inl hqueued => cases hqueued.1
    | inr hretained => cases hretained.1

end Own

section Tasks

variable {shared : RelayShared} {input : RelayInput} {event : PendingRelayEvent}

/-- Run a task of the relay to its end, undisturbed, for a number of statements at most. -/
def RelayTask.settle (input : RelayInput) : Nat → RelayShared → RelayTask → RelayShared
  | 0, shared, _ => shared
  | n + 1, shared, task =>
    match task.run input shared with
    | (_, shared', none) => shared'
    | (_, shared', some next) => next.settle input n shared'

/-- Queueing an event is what its task does. -/
theorem publishEvent_settle (n : Nat) (event : PendingRelayEvent) (shared : RelayShared) :
    (publishEvent { now := input.now } event).after shared =
      (RelayTask.publish event).settle input (n + 3) shared := by
  unfold publishEvent
  cases hpayload : event.encryptedPayload.opened with
  | none =>
    have hpublish : publish shared event = none := by
      unfold publish
      rw [hpayload]
      rfl
    simp only [RelayTask.settle, RelayTask.run, hpublish]
    rfl
  | some payload =>
    cases hvalid : shared.db.validateJob payload with
    | none =>
      have hpublish : publish shared event = some (.mark event.id .retained (some .identityChanged)) := by
        unfold publish
        rw [hpayload, Option.map_some, hvalid]
      simp only [RelayTask.settle, RelayTask.run, hpublish, Attempt.after_bind, EStateM.run_get, hvalid]
      rfl
    | some found =>
      have hpublish : publish shared event = some (.enqueue event.id payload) := by
        unfold publish
        rw [hpayload, Option.map_some, hvalid]
      simp only [RelayTask.settle, RelayTask.run, hpublish, Attempt.after_bind, EStateM.run_get, hvalid,
        Bool.true_eq_false, if_false]
      rfl

/-- An event that waits is handled as it is judged; one that is left alone may have failed to open. -/
theorem recoverWaiting_judged (input : RecoveryInput) (event : PendingRelayEvent) (shared : RelayShared) :
    match shared.db.judgeWaiting event with
    | .keepWaiting => (recoverWaiting input event).run shared = .ok none shared ∨
        ∃ failure, (recoverWaiting input event).run shared = .error failure shared
    | .retain errorCode => (recoverWaiting input event).run shared =
        .ok none (shared.withDb (shared.db.markEvent input.now event.id .retained (some errorCode)))
    | .resolve payload instanceId =>
        (recoverWaiting input event).run shared = (resolveEvent event payload instanceId).run shared := by
  unfold Database.judgeWaiting
  simp only [recoverWaiting, EStateM.run_bind, EStateM.run_get]
  cases event.originEvidence.bind (·.provisioningId) with
  | none => exact Or.inl rfl
  | some provisioningId =>
    cases event.vpsProviderId with
    | none => exact Or.inl rfl
    | some providerId =>
      dsimp only
      cases shared.db.provisionings.find? provisioningId with
      | none => rfl
      | some intention =>
        dsimp only
        by_cases hended : intention.isOpen = false ∧ intention.state ≠ .committed
        · simp only [if_pos hended]
          rfl
        · simp only [if_neg hended]
          cases intention.instanceId with
          | none => exact Or.inl rfl
          | some instanceId =>
            dsimp only
            by_cases hjudged : ¬[ProvisioningState.creating, .uncertain, .committed].contains intention.state
            · simp only [if_pos hjudged]
              exact Or.inl rfl
            · simp only [if_neg hjudged]
              by_cases hchanged : intention.vpsProviderId ≠ providerId ∨
                  (truthy event.providerInstanceId = true ∧
                    intention.providerInstanceId ≠ event.providerInstanceId)
              · simp only [if_pos hchanged]
                rfl
              · simp only [if_neg hchanged]
                cases event.encryptedPayload.opened with
                | none => exact Or.inr ⟨_, rfl⟩
                | some original => rfl

/-- Handling an event is what its tasks do, undisturbed and with a queue that takes the job. -/
theorem recoverRow_settle (event : PendingRelayEvent) (shared : RelayShared) :
    (recoverRow { now := input.now } event).after shared =
      (RelayTask.recover event).settle input 6 shared := by
  unfold recoverRow readyRow
  by_cases hwaiting : event.state = .waiting
  · have hjudged := recoverWaiting_judged { now := input.now } event shared
    rw [if_pos hwaiting, Attempt.after_bind]
    have hrecover : recoverEvent shared event =
        match shared.db.judgeWaiting event with
        | .keepWaiting => none
        | .retain errorCode => some (.mark event.id .retained (some errorCode))
        | .resolve payload instanceId => some (.resolve event.id payload instanceId) := if_pos hwaiting
    cases hjudgement : shared.db.judgeWaiting event with
    | keepWaiting =>
      rw [hjudgement] at hjudged hrecover
      simp only [RelayTask.settle, RelayTask.run, hrecover]
      cases hjudged with
      | inl hleft => rw [hleft]; rfl
      | inr hfailed =>
        obtain ⟨failure, hfailure⟩ := hfailed
        rw [hfailure]
    | retain errorCode =>
      rw [hjudgement] at hjudged hrecover
      simp only [RelayTask.settle, RelayTask.run, hrecover]
      rw [hjudged]
      rfl
    | resolve payload instanceId =>
      rw [hjudgement] at hjudged hrecover
      simp only [RelayTask.settle, RelayTask.run, hrecover]
      rw [hjudged]
      simp only [resolveEvent, EStateM.run_bind, EStateM.run_get]
      cases shared.db.resolveWaiting event.id payload instanceId with
      | none => rfl
      | some db =>
        simp only [EStateM.run_bind, EStateM.run_set, RelayShared.withDb]
        cases hfind : db.relayEvents.find? event.id with
        | none => rfl
        | some row =>
          by_cases hpending : row.state = .pending
          · simp only [if_pos hpending, EStateM.run_pure, Option.filter_some, decide_eq_true hpending,
              if_true, Option.map_some]
            exact publishEvent_settle 0 row _
          · simp only [if_neg hpending, EStateM.run_pure, Option.filter_some, decide_eq_false hpending,
              Bool.false_eq_true, if_false, Option.map_none]
            rfl
  · have hrecover : recoverEvent shared event = some (.publish event) := if_neg hwaiting
    simp only [RelayTask.settle, RelayTask.run, hrecover, if_neg hwaiting]
    exact publishEvent_settle 2 event shared

end Tasks

section Round

variable {shared : RelayShared} {input : Uuid → RecoveryInput} {cursor : Option Uuid}
  {before later : List PendingRelayEvent} {event : PendingRelayEvent}

/-- The events of a round are events of the store, each once. -/
theorem recoveryRows_spec (db : Database) (cursor : Option Uuid) :
    ((db.recoveryRows cursor).map (·.id)).Nodup ∧
      ∀ event ∈ db.recoveryRows cursor, event ∈ db.relayEvents := by
  unfold Database.recoveryRows
  generalize hdue : (db.relayEvents.rows.filter fun e =>
      (e.state = .pending || e.state = .waiting) && cursor.all fun c => c.value < e.id.value) = due
  have hids : (due.map (·.id)).Nodup := by
    rw [← hdue]
    exact List.Nodup.sublist (List.filter_sublist.map _) db.relayEvents.nodup
  have hsorted := due.mergeSort_perm fun a b => a.id.value ≤ b.id.value
  constructor
  · apply List.Nodup.sublist ((List.take_sublist 50 _).map _)
    exact ((hsorted.map (·.id)).nodup_iff).mpr hids
  · intro event hevent
    have hmem := hsorted.mem_iff.mp (List.mem_of_mem_take hevent)
    rw [← hdue] at hmem
    exact (List.mem_filter.mp hmem).1

/-- When the turn of an event comes, its row and every creation are as the round found them. -/
theorem recoverRows_turn (input : Uuid → RecoveryInput)
    (hrows : shared.db.recoveryRows cursor = before ++ event :: later) :
    (recoverRows input before shared).db.provisionings = shared.db.provisionings ∧
      (recoverRows input before shared).db.relayEvents.find? event.id = some event := by
  obtain ⟨hids, hstored⟩ := recoveryRows_spec shared.db cursor
  rw [hrows] at hids hstored
  rw [List.map_append, List.map_cons] at hids
  have hbefore : ∀ other ∈ before, other.id ≠ event.id := by
    intro other hother
    exact (List.nodup_append.mp hids).2.2 other.id (List.mem_map_of_mem hother) event.id List.mem_cons_self
  obtain ⟨hprovisionings, hrow, -⟩ := recoverRows_other input hbefore shared
  refine ⟨hprovisionings, hrow.trans ?_⟩
  exact Table.find?_key (hstored event (List.mem_append_right _ List.mem_cons_self))

/-- After the turn of an event the rest of the round leaves it alone. -/
theorem recoverRows_recovered (hrows : shared.db.recoveryRows cursor = before ++ event :: later)
    {shared' : RelayShared}
    (hrun : (recoverRow (input event.id) event).run (recoverRows input before shared) = .ok () shared') :
    (recoverPending input cursor shared).1.Recovered event.id ↔ shared'.Recovered event.id := by
  have hids := (recoveryRows_spec shared.db cursor).1
  rw [hrows, List.map_append, List.map_cons] at hids
  have hlater : ∀ other ∈ later, other.id ≠ event.id := by
    intro other hother hsame
    apply (List.nodup_cons.mp (List.nodup_append.mp hids).2.1).1
    rw [← hsame]
    exact List.mem_map_of_mem hother
  have hround : (recoverPending input cursor shared).1 = recoverRows input later shared' := by
    unfold recoverPending
    rw [hrows]
    unfold recoverRows
    rw [List.foldl_append, List.foldl_cons]
    have hturn := Attempt.after_of_ok hrun
    unfold recoverRows at hturn
    rw [hturn]
  obtain ⟨-, hrow, hqueue⟩ := recoverRows_other input hlater shared'
  have hjobs : (∃ job ∈ (recoverRows input later shared').queue, job.id = event.id) ↔
      ∃ job ∈ shared'.queue, job.id = event.id := by
    constructor
    · intro h
      obtain ⟨job, hjob, hid⟩ := h
      exact ⟨job, (hqueue job hid).mp hjob, hid⟩
    · intro h
      obtain ⟨job, hjob, hid⟩ := h
      exact ⟨job, (hqueue job hid).mpr hjob, hid⟩
  rw [hround]
  unfold RelayShared.Recovered
  rw [hrow, hjobs]

/-- An event that a round found waiting for an ended creation, and that it handled without a failure, was
published or given up exactly when it names its provider and the creation was not committed with its instance
gone since. -/
theorem waiting_recovered_iff {provisioningId : Uuid} {shared' : RelayShared}
    (hrows : shared.db.recoveryRows cursor = before ++ event :: later) (hwaiting : event.state = .waiting)
    (hprovisioning : event.originEvidence.bind (·.provisioningId) = some provisioningId)
    (hended : shared.db.Ended provisioningId)
    (hrun : (recoverRow (input event.id) event).run (recoverRows input before shared) = .ok () shared') :
    (recoverPending input cursor shared).1.Recovered event.id ↔
      shared.db.Settles event provisioningId := by
  obtain ⟨hprovisionings, hfind⟩ := recoverRows_turn input hrows
  have hended' : (recoverRows input before shared).db.Ended provisioningId := by
    unfold Database.Ended
    rw [hprovisionings]
    exact hended
  have hturn := recoverRow_recovered_iff hfind hwaiting hprovisioning hended' hrun
  rw [recoverRows_recovered hrows hrun, hturn]
  unfold Database.Settles
  rw [hprovisionings]

end Round

section Small

/-- A creation of the small relay that ended without an instance, or whose instance is gone. -/
def smallEnded (state : ProvisioningState) : InstanceProvisioning where
  id := smallTicket.id
  productId := smallRelayProduct.id
  vpsProviderId := smallRelayProvider.id
  instanceName := "support"
  state := state

/-- An event that waits for it. -/
def smallAwaiting : PendingRelayEvent where
  id := smallRelayInput.id
  vpsProviderId := some smallRelayProvider.id
  instanceName := some "support"
  encryptedPayload := ⟨some (relayPayload "evolution" smallCallback none (some (smallEnded .creating)))⟩
  originEvidence := some { method := .token, provisioningId := some smallTicket.id }
  state := .waiting
  errorCode := some .awaitingInstance

/-- The small relay with that creation and that event. -/
def smallAwaited (state : ProvisioningState) : RelayShared where
  db :=
    { smallRelay.shared.db with
      instances := .empty
      provisionings := ⟨[smallEnded state], by simp⟩
      relayEvents := ⟨[smallAwaiting], by simp⟩ }
  queue := []

/-- The round that finds the event. -/
theorem smallAwaited_rows (state : ProvisioningState) :
    (smallAwaited state).db.recoveryRows none = [] ++ smallAwaiting :: [] := by
  have hdue : ((smallAwaited state).db.relayEvents.rows.filter fun e =>
      (e.state = .pending || e.state = .waiting) && (none : Option Uuid).all fun c => c.value < e.id.value) =
      [smallAwaiting] := rfl
  unfold Database.recoveryRows
  rw [hdue, List.mergeSort_singleton]
  rfl

/-- An event that waits for a creation that failed is given up by the round. -/
theorem waiting_recovered_iff_small :
    (recoverPending (fun _ => { now := 0 }) none (smallAwaited .failed)).1.Recovered smallAwaiting.id := by
  have hended : (smallAwaited .failed).db.Ended smallTicket.id := by
    intro intention hintention
    cases hintention
    rfl
  have hsettles : (smallAwaited .failed).db.Settles smallAwaiting smallTicket.id := by
    refine ⟨Option.some_ne_none _, ?_⟩
    intro intention hintention hcommitted
    cases hintention
    cases hcommitted
  exact (waiting_recovered_iff (smallAwaited_rows .failed) rfl rfl hended rfl).mpr hsettles

/-- One that waits for a committed creation whose instance is gone is handled without a failure and waits
on. -/
theorem stranded_event_waits :
    (smallAwaited .committed).db.Ended smallTicket.id ∧
      smallAwaiting.originEvidence.bind (·.provisioningId) = some smallTicket.id ∧
      (∃ shared', (recoverRow { now := 0 } smallAwaiting).run (smallAwaited .committed) = .ok () shared') ∧
      (recoverPending (fun _ => { now := 0 }) none (smallAwaited .committed)).1.db.relayEvents.find?
        smallAwaiting.id = some smallAwaiting ∧ smallAwaiting.state = .waiting := by
  refine ⟨?_, rfl, ⟨_, rfl⟩, ?_, rfl⟩
  · intro intention hintention
    cases hintention
    rfl
  · unfold recoverPending
    rw [smallAwaited_rows .committed]
    rfl

end Small

end ConnectHub
