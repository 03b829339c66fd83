import ConnectHub.MediaExecution

/-!
# How a media request comes out

Whatever its handler and its connection do, and in whatever order, a request is settled once and leaves one
record. Until then its timer is set and its handler is heard, so that it is settled by its deadline at the latest;
afterwards neither the timer nor a listener is left. A client that leaves after the request was sent stops nothing.
-/

namespace ConnectHub

open Store

section Consistent

/-- What holds of an execution whatever is done with it: a departure that stopped it did happen, with nothing sent, a
departure before anything was sent did stop it, and it counts as sent once it was called. -/
structure MediaRequestContext.Consistent (execution : MediaRequestContext) : Prop where
  left : execution.reason = some .clientDisconnected → execution.clientDisconnected = true
  unsent : execution.reason = some .clientDisconnected → execution.providerStarted = false
  stopped : execution.clientDisconnected = true → execution.providerStarted = false → execution.reason.isSome = true
  calls : execution.providerStarted = decide (0 < execution.calls)

variable {execution : MediaRequestContext}

/-- A new execution. -/
theorem newMediaExecution_consistent (timeouts : MediaTimeouts) : (newMediaExecution timeouts).Consistent :=
  ⟨nofun, fun _ => rfl, fun h => absurd h Bool.false_ne_true, rfl⟩

/-- The deadline may stop an execution, but not because the client left. -/
theorem MediaRequestContext.Consistent.withDeadline (h : execution.Consistent)
    {deadline : Deadline MediaStopReason} (hleads : execution.toDeadline.Leads deadline)
    (hreason : deadline.reason = some .clientDisconnected → execution.reason = some .clientDisconnected) :
    (execution.withDeadline deadline).Consistent := by
  refine ⟨fun hgone => h.left (hreason hgone), fun hgone => h.unsent (hreason hgone), fun hgone hunsent => ?_,
    h.calls⟩
  obtain ⟨reason, hsome⟩ := Option.isSome_iff_exists.mp (h.stopped hgone hunsent)
  exact Option.isSome_iff_exists.mpr ⟨reason, hleads.reason reason hsome⟩

/-- A time that is over stops an execution. -/
theorem MediaRequestContext.Consistent.abort (h : execution.Consistent) (reason : MediaTimeoutReason) :
    (execution.abort reason.val).Consistent := by
  refine h.withDeadline (Deadline.abort_leads _ _) fun hgone => ?_
  rcases Deadline.abort_origin hgone with hold | hnew
  · exact hold
  · exact absurd hnew.symm reason.property

/-- A check may stop an execution. -/
theorem MediaRequestContext.Consistent.assertActive (h : execution.Consistent) (elapsed : ℚ) :
    (execution.assertActive elapsed).1.Consistent := by
  refine h.withDeadline (Deadline.assertActive_leads _ _ _) fun hgone => ?_
  rcases Deadline.assertActive_origin hgone with hold | hnew
  · exact hold
  · cases hnew

/-- Asking for time may stop an execution. -/
theorem MediaRequestContext.Consistent.callTimeout (h : execution.Consistent) (limitMs : ℤ)
    (checkedAt readAt : ℚ) : (execution.callTimeout limitMs checkedAt readAt).1.Consistent := by
  refine h.withDeadline (Deadline.callTimeout_leads _ _ _ _ _) fun hgone => ?_
  rcases Deadline.callTimeout_origin hgone with hold | hnew
  · exact hold
  · cases hnew

/-- A departure stops nothing once the request was sent. -/
theorem MediaRequestContext.disconnect_of_started (h : execution.providerStarted = true) :
    execution.disconnect = { execution with clientDisconnected := true } := by
  rw [MediaRequestContext.disconnect]
  simp only [h, Bool.not_true, Bool.false_eq_true, if_false]

/-- A departure stops what was not sent. -/
theorem MediaRequestContext.disconnect_of_unsent (h : execution.providerStarted = false) :
    execution.disconnect = ({ execution with clientDisconnected := true }).abort .clientDisconnected := by
  rw [MediaRequestContext.disconnect]
  simp only [h, Bool.not_false, if_true]

/-- A departure is noted. -/
theorem MediaRequestContext.disconnect_clientDisconnected (execution : MediaRequestContext) :
    execution.disconnect.clientDisconnected = true := by
  cases h : execution.providerStarted with
  | true => rw [disconnect_of_started h]
  | false =>
    rw [disconnect_of_unsent h]
    rfl

/-- A departure sends nothing. -/
theorem MediaRequestContext.disconnect_providerStarted (execution : MediaRequestContext) :
    execution.disconnect.providerStarted = execution.providerStarted := by
  cases h : execution.providerStarted with
  | true =>
    rw [disconnect_of_started h]
    exact h
  | false =>
    rw [disconnect_of_unsent h]
    exact h

/-- A departure leaves an execution consistent. -/
theorem MediaRequestContext.Consistent.disconnect (h : execution.Consistent) : execution.disconnect.Consistent := by
  cases hstarted : execution.providerStarted with
  | true =>
    rw [disconnect_of_started hstarted]
    exact ⟨fun _ => rfl, h.unsent, fun _ hunsent => absurd (hstarted.symm.trans hunsent) Bool.true_eq_false.mp, h.calls⟩
  | false =>
    rw [disconnect_of_unsent hstarted]
    exact ⟨fun _ => rfl, fun _ => hstarted, fun _ _ => Deadline.abort_isSome _ _, h.calls⟩

/-- A call to the provider finds an execution that is going on. -/
theorem MediaRequestContext.startProviderCall_eq (execution : MediaRequestContext) (checkedAt readAt startedAt : ℚ) :
    (∃ reason, execution.startProviderCall checkedAt readAt startedAt =
      ((execution.callTimeout execution.providerTimeoutMs checkedAt readAt).1, .error reason) ∧
      (execution.callTimeout execution.providerTimeoutMs checkedAt readAt).1.reason = some reason) ∨
    ∃ granted, execution.reason = none ∧
      (execution.callTimeout execution.providerTimeoutMs checkedAt readAt).2 = .ok granted ∧
      execution.startProviderCall checkedAt readAt startedAt =
        ({ execution with providerStarted := true, providerStartedAt := some startedAt,
                          calls := execution.calls + 1, callTimeoutMs := some granted }, .ok granted) := by
  unfold startProviderCall
  cases hcall : execution.callTimeout execution.providerTimeoutMs checkedAt readAt with
  | mk after answer =>
    cases answer with
    | error reason =>
      left
      refine ⟨reason, rfl, ?_⟩
      have hreason := @Deadline.callTimeout_error _ execution.toDeadline .requestTimeout
        execution.providerTimeoutMs checkedAt readAt reason (congrArg Prod.snd hcall)
      rw [← hcall]
      exact hreason
    | ok granted =>
      right
      obtain ⟨hsame, hnone, -⟩ := @Deadline.callTimeout_ok _ execution.toDeadline .requestTimeout
        execution.providerTimeoutMs granted checkedAt readAt (congrArg Prod.snd hcall)
      have hafter : after = execution :=
        (congrArg Prod.fst hcall).symm.trans (congrArg execution.withDeadline hsame)
      rw [hafter]
      exact ⟨granted, hnone, rfl, rfl⟩

/-- A call to the provider leaves an execution consistent. -/
theorem MediaRequestContext.Consistent.startProviderCall (h : execution.Consistent) (checkedAt readAt startedAt : ℚ) :
    (execution.startProviderCall checkedAt readAt startedAt).1.Consistent := by
  rcases execution.startProviderCall_eq checkedAt readAt startedAt with ⟨_, heq, -⟩ | ⟨_, hnone, -, heq⟩
  · rw [heq]
    exact h.callTimeout _ _ _
  · rw [heq]
    refine ⟨h.left, fun hgone => ?_, fun _ hunsent => absurd hunsent Bool.true_eq_false.mp, ?_⟩
    · rw [hnone] at hgone
      cases hgone
    · exact (decide_eq_true (Nat.succ_pos _)).symm

/-- Whatever the handler does leaves an execution consistent. -/
theorem MediaRequestContext.Consistent.apply (h : execution.Consistent) (operation : MediaOperation) :
    (operation.apply execution).Consistent := by
  cases operation with
  | abort reason => exact h.abort reason
  | assertActive elapsed => exact h.assertActive elapsed
  | callTimeout limitMs checkedAt readAt => exact h.callTimeout limitMs checkedAt readAt
  | startProviderCall checkedAt readAt startedAt => exact h.startProviderCall checkedAt readAt startedAt
  | note noted => cases noted <;> exact ⟨h.left, h.unsent, h.stopped, h.calls⟩

/-- No handler makes the client leave. -/
theorem MediaOperation.apply_clientDisconnected (execution : MediaRequestContext) (operation : MediaOperation) :
    (operation.apply execution).clientDisconnected = execution.clientDisconnected := by
  cases operation with
  | startProviderCall checkedAt readAt startedAt =>
    rw [MediaOperation.apply]
    rcases execution.startProviderCall_eq checkedAt readAt startedAt with ⟨_, heq, -⟩ | ⟨_, -, -, heq⟩
    · rw [heq]
      rfl
    · rw [heq]
  | note noted => cases noted <;> rfl
  | _ => rfl

/-- What was sent stays sent. -/
theorem MediaOperation.apply_providerStarted (operation : MediaOperation) (h : execution.providerStarted = true) :
    (operation.apply execution).providerStarted = true := by
  cases operation with
  | startProviderCall checkedAt readAt startedAt =>
    rw [MediaOperation.apply]
    rcases execution.startProviderCall_eq checkedAt readAt startedAt with ⟨_, heq, -⟩ | ⟨_, -, -, heq⟩
    · rw [heq]
      exact h
    · rw [heq]
  | note noted => cases noted <;> exact h
  | _ => exact h

end Consistent

section Settling

namespace MediaRun

variable {α : Type} {run : MediaRun α} {last : Option (Notification α HandlerError)}

/-- What a request is once it is settled: as it was, but for its record, its timer, its listeners and what the client
was told. -/
structure Settles (before : MediaRun α) (execution : MediaRequestContext) (record : MediaRequestRecord)
    (told : List (Notification α HandlerError)) (after : MediaRun α) : Prop where
  settled : after.settled = true
  timer : after.timer = false
  listening : after.listening = []
  execution : after.execution = execution
  records : after.records = before.records ++ [record]
  returned : after.returned = before.returned
  closed : after.subscriber.closed = true
  sent : after.subscriber.sent =
    if before.subscriber.closed then before.subscriber.sent else before.subscriber.sent ++ told

/-- A request that is not settled is, with its record. -/
theorem finish_of_unsettled (h : run.settled = false) (statusCode : ℕ) (source : String) (now : ℚ) :
    run.finish statusCode source now =
      { run with settled := true, timer := false, listening := [],
                 records := run.records ++ [run.record statusCode source now] } := by
  rw [finish, h, if_neg Bool.false_ne_true]

/-- The end of a subscription changes nothing else. -/
theorem unsubscribeInner_eq (run : MediaRun α) :
    run.unsubscribeInner = { run with subscribed := run.subscribed && !run.returned } := by
  cases h : run.returned with
  | true => rw [unsubscribeInner, if_pos h, Bool.not_true, Bool.and_false, ← h]
  | false => rw [unsubscribeInner, h, if_neg Bool.false_ne_true, Bool.not_false, Bool.and_true, ← h]

/-- Closing the subscriber of a settled request leaves it settled. -/
theorem closed_of_settled (h : run.settled = true) (now : ℚ) (closing : Subscriber α HandlerError × Bool) :
    run.closed now closing =
      { run with subscriber := closing.1
                 listening := if closing.2 then [] else run.listening
                 subscribed := run.subscribed && !(closing.2 && run.returned) } := by
  unfold closed
  cases hdue : closing.2 with
  | false =>
    rw [if_neg Bool.false_ne_true, if_neg Bool.false_ne_true, Bool.false_and, Bool.not_false, Bool.and_true]
  | true =>
    simp only [if_true, tearDown, h, unsubscribeInner_eq, Bool.true_and]

/-- A request that is settled and told of it. -/
theorem finish_closed_settles (h : run.settled = false) (statusCode : ℕ) (source : String) (now : ℚ)
    (last : Notification α HandlerError) :
    run.Settles run.execution (run.record statusCode source now) [last]
      ((run.finish statusCode source now).closed now
        ((run.finish statusCode source now).subscriber.close (some last))) := by
  rw [finish_of_unsettled h, closed_of_settled rfl]
  refine ⟨rfl, rfl, ite_self _, rfl, rfl, rfl, Subscriber.close_closed _ _, ?_⟩
  change (run.subscriber.close (some last)).1.sent = _
  unfold Subscriber.close
  split <;> rfl

/-- A failure settles a request. -/
theorem fail_settles (h : run.settled = false) (error : HandlerError) (now : ℚ) :
    run.Settles run.execution (run.record error.status
      ((run.execution.failureSource.map MediaFailureSource.text).getD "error") now) [.error error]
      (run.fail error now) := by
  rw [fail, h, if_neg Bool.false_ne_true]
  exact finish_closed_settles h _ _ now _

/-- A request is settled again by nothing. -/
theorem fail_of_settled (h : run.settled = true) (error : HandlerError) (now : ℚ) : run.fail error now = run := by
  rw [fail, if_pos h]

/-- The execution that a request is settled under may have changed just before. -/
theorem Settles.of_execution {execution execution' : MediaRequestContext} {record : MediaRequestRecord}
    {told : List (Notification α HandlerError)} {after : MediaRun α}
    (h : ({ run with execution := execution } : MediaRun α).Settles execution' record told after) :
    run.Settles execution' record told after :=
  ⟨h.settled, h.timer, h.listening, h.execution, h.records, h.returned, h.closed, h.sent⟩

/-- A departure before anything was sent settles a request. -/
theorem abandon_settles (h : run.settled = false) (hunsent : run.execution.providerStarted = false) (now : ℚ) :
    ∃ record, run.Settles run.execution.disconnect record [.error (.timeout .clientDisconnected)]
      (run.abandon now) ∧ record = ({ run with execution := run.execution.disconnect }).record 408
        ((run.execution.disconnect.failureSource.map MediaFailureSource.text).getD "error") now := by
  have hstill : run.execution.disconnect.providerStarted = false :=
    run.execution.disconnect_providerStarted.trans hunsent
  refine ⟨_, @Settles.of_execution _ _ run.execution.disconnect _ _ _ _ ?_, rfl⟩
  unfold abandon
  rw [if_neg (Bool.eq_false_iff.mp h)]
  simp only [hstill, Bool.not_false, if_true]
  exact @fail_settles α { run with execution := run.execution.disconnect } h (.timeout .clientDisconnected) now

/-- What a request is once its client has left it to its handler: nothing is sent any more, and nothing is listened
to but the handler. -/
structure Detaches (before : MediaRun α) (told : List (Notification α HandlerError)) (after : MediaRun α) : Prop where
  settled : after.settled = false
  timer : after.timer = before.timer
  execution : after.execution.clientDisconnected = true ∧ after.execution.providerStarted = true
  consistent : before.execution.Consistent → after.execution.Consistent
  subscribed : after.subscribed = before.subscribed
  records : after.records = before.records
  returned : after.returned = before.returned
  closed : after.subscriber.closed = true
  sent : after.subscriber.sent =
    if before.subscriber.closed then before.subscriber.sent else before.subscriber.sent ++ told

/-- Closing the subscriber of a request that was sent and is not settled leaves it to its handler. -/
theorem closed_detaches (h : run.settled = false) (hstarted : run.execution.providerStarted = true)
    (hgone : run.execution.clientDisconnected = true ∨ (run.subscriber.close last).2 = true) (now : ℚ) :
    run.Detaches last.toList (run.closed now (run.subscriber.close last)) := by
  have hsent : (run.subscriber.close last).1.sent =
      if run.subscriber.closed then run.subscriber.sent else run.subscriber.sent ++ last.toList := by
    unfold Subscriber.close
    split <;> rfl
  have hclosed := Subscriber.close_closed run.subscriber last
  unfold closed
  cases hdue : (run.subscriber.close last).2 with
  | false =>
    simp only [Bool.false_eq_true, if_false]
    rw [hdue] at hgone
    exact ⟨h, rfl, ⟨hgone.resolve_right Bool.false_ne_true, hstarted⟩, id, rfl, rfl, rfl, hclosed, hsent⟩
  | true =>
    have hstill : run.execution.disconnect.providerStarted = true :=
      run.execution.disconnect_providerStarted.trans hstarted
    simp only [if_true, tearDown, if_neg (Bool.eq_false_iff.mp h), hstill, Bool.not_true, Bool.false_eq_true,
      if_false]
    exact ⟨h, rfl, ⟨run.execution.disconnect_clientDisconnected, hstill⟩, fun hc => hc.disconnect, rfl, rfl, rfl,
      hclosed, hsent⟩

/-- A departure after the request was sent leaves it to its handler. -/
theorem abandon_detaches (h : run.settled = false) (hstarted : run.execution.providerStarted = true) (now : ℚ) :
    run.Detaches [.error (.timeout .clientDisconnected)] (run.abandon now) := by
  have hstill : run.execution.disconnect.providerStarted = true :=
    run.execution.disconnect_providerStarted.trans hstarted
  have hgone := run.execution.disconnect_clientDisconnected
  have hdetaches : ({ run with execution := run.execution.disconnect } : MediaRun α).Detaches
      [.error (.timeout .clientDisconnected)] (run.abandon now) := by
    unfold abandon
    rw [if_neg (Bool.eq_false_iff.mp h)]
    simp only [hstill, Bool.not_true, Bool.false_eq_true, if_false]
    exact @closed_detaches α { run with execution := run.execution.disconnect }
      (some (.error (.timeout .clientDisconnected))) h hstill (.inl hgone) now
  exact ⟨hdetaches.settled, hdetaches.timer, hdetaches.execution, fun hc => hdetaches.consistent hc.disconnect,
    hdetaches.subscribed, hdetaches.records, hdetaches.returned, hdetaches.closed, hdetaches.sent⟩

/-- The subscription to the handler is no matter of the settling. -/
theorem Settles.unsubscribeInner {execution : MediaRequestContext} {record : MediaRequestRecord}
    {told : List (Notification α HandlerError)} {after : MediaRun α}
    (h : run.Settles execution record told after) : run.Settles execution record told after.unsubscribeInner := by
  rw [unsubscribeInner_eq]
  exact ⟨h.settled, h.timer, h.listening, h.execution, h.records, h.returned, h.closed, h.sent⟩

/-- A subscriber that wants no more before anything was sent settles a request. -/
theorem unsubscribe_settles (h : run.settled = false) (hunsent : run.execution.providerStarted = false)
    (hdue : run.subscriber.unsubscribe.2 = true) (now : ℚ) :
    run.Settles run.execution.disconnect
      (({ run with execution := run.execution.disconnect }).record 499 "client_disconnected" now) []
      (run.closed now run.subscriber.unsubscribe) := by
  have hstill : run.execution.disconnect.providerStarted = false :=
    run.execution.disconnect_providerStarted.trans hunsent
  have hsent : run.subscriber.unsubscribe.1.sent =
      if run.subscriber.closed then run.subscriber.sent else run.subscriber.sent ++ [] := by
    unfold Subscriber.unsubscribe Subscriber.close
    split <;> rfl
  unfold closed
  simp only [hdue, if_true, tearDown, if_neg (Bool.eq_false_iff.mp h), hstill, Bool.not_false]
  rw [finish_of_unsettled (by exact h), unsubscribeInner_eq]
  exact ⟨rfl, rfl, rfl, rfl, rfl, rfl, Subscriber.close_closed _ _, hsent⟩

end MediaRun

end Settling

section Accounting

namespace MediaRun

variable {α : Type} {run after : MediaRun α} {events : List (Event α)}

/-- What the client was told and what was recorded agree, for a client that did not leave. -/
inductive Told (events : List (Event α)) (record : MediaRequestRecord) : List (Notification α HandlerError) → Prop
  | value {value : α} {now : ℚ} (hevent : Event.next value record.statusCode now ∈ events)
    (hsource : record.source = "upstream_success") : Told events record [.next value, .complete]
  | completed {now : ℚ} (hevent : Event.complete record.statusCode now ∈ events) : Told events record [.complete]
  | failed {error : HandlerError} {now : ℚ} (hevent : Event.error error now ∈ events)
    (hstatus : record.statusCode = error.status) : Told events record [.error error]
  | timedOut (reason first : MediaTimeoutReason) (hstatus : record.statusCode = 408)
    (hsource : record.source = first.val.text) : Told events record [.error (.timeout reason.val)]

/-- What the client that left was told: nothing, or that it did. -/
def toldGone (sent : List (Notification α HandlerError)) : Prop :=
  sent = [] ∨ sent = [.error (.timeout .clientDisconnected)]

/-- What holds of a request after some events. -/
structure Accounted (events : List (Event α)) (run : MediaRun α) : Prop where
  consistent : run.execution.Consistent
  recorded : run.records.length = run.settled.toNat
  released : run.settled = true → run.timer = false ∧ run.listening = [] ∧ run.subscriber.closed = true
  observed : run.settled = false → run.timer = true ∧ run.subscribed = true
  silent : run.subscriber.closed = false → run.subscriber.sent = [] ∧ run.execution.clientDisconnected = false
  gone : run.execution.clientDisconnected = true → toldGone run.subscriber.sent ∧
    ∀ record ∈ run.records, record.clientDisconnected = true ∧ record.statusCode = 499
  stayed : run.subscriber.closed = true → run.execution.clientDisconnected = false →
    ∃ record, run.records = [record] ∧ record.clientDisconnected = false ∧ Told events record run.subscriber.sent
  detached : run.subscriber.closed = true → run.settled = false → run.execution.providerStarted = true
  registered : run.returned = true → run.subscriber.closed = false → run.subscriber.teardown = true
  prompt : run.returned = false → run.subscriber.closed = true → run.settled = true

/-- What was told stays told. -/
theorem Told.mono {record : MediaRequestRecord} {sent : List (Notification α HandlerError)}
    (h : Told events record sent) (event : Event α) : Told (events ++ [event]) record sent := by
  cases h with
  | value hevent hsource => exact .value (List.mem_append_left _ hevent) hsource
  | completed hevent => exact .completed (List.mem_append_left _ hevent)
  | failed hevent hstatus => exact .failed (List.mem_append_left _ hevent) hstatus
  | timedOut reason first hstatus hsource => exact .timedOut reason first hstatus hsource

/-- An event that changes nothing. -/
theorem Accounted.mono (h : run.Accounted events) (event : Event α) : run.Accounted (events ++ [event]) := by
  refine { h with stayed := ?_ }
  intro hclosed hstayed
  obtain ⟨record, hrecord, hnot, htold⟩ := h.stayed hclosed hstayed
  exact ⟨record, hrecord, hnot, htold.mono event⟩

/-- A request that is not settled has no record. -/
theorem Accounted.records_nil (h : run.Accounted events) (hunsettled : run.settled = false) : run.records = [] := by
  have hlength := h.recorded
  rw [hunsettled] at hlength
  exact List.eq_nil_of_length_eq_zero hlength

/-- A request that is not settled but closed is one whose client left. -/
theorem Accounted.left (h : run.Accounted events) (hunsettled : run.settled = false)
    (hclosed : run.subscriber.closed = true) : run.execution.clientDisconnected = true := by
  by_contra hstayed
  obtain ⟨record, hrecord, -⟩ := h.stayed hclosed (Bool.eq_false_iff.mpr hstayed)
  rw [h.records_nil hunsettled] at hrecord
  cases hrecord

/-- A request that is listened to is not settled. -/
theorem Accounted.unsettled (h : run.Accounted events) {ending : HttpEnd}
    (hlistening : run.listening.contains ending = true) : run.settled = false := by
  by_contra hsettled
  rw [(h.released (by simpa using hsettled)).2.1] at hlistening
  cases hlistening

/-- What the record of a request says of its client. -/
theorem record_gone (hgone : run.execution.clientDisconnected = true) (statusCode : ℕ) (source : String) (now : ℚ) :
    (run.record statusCode source now).clientDisconnected = true ∧
      (run.record statusCode source now).statusCode = 499 :=
  ⟨hgone, if_pos hgone⟩

/-- What the record of a request says whose client is there. -/
theorem record_stayed (hstayed : run.execution.clientDisconnected = false) (statusCode : ℕ) (source : String)
    (now : ℚ) : (run.record statusCode source now).clientDisconnected = false ∧
      (run.record statusCode source now).statusCode = statusCode :=
  ⟨hstayed, if_neg (Bool.eq_false_iff.mp hstayed)⟩

/-- A request that is settled is accounted for. -/
theorem Settles.accounted {execution : MediaRequestContext} {record : MediaRequestRecord}
    {told : List (Notification α HandlerError)} (hsettles : run.Settles execution record told after)
    (hrecords : run.records = []) (hsent : run.subscriber.closed = false → run.subscriber.sent = [])
    (hconsistent : execution.Consistent)
    (hgone : execution.clientDisconnected = true → record.clientDisconnected = true ∧ record.statusCode = 499 ∧
      (run.subscriber.closed = false → toldGone told) ∧
      (run.subscriber.closed = true → toldGone run.subscriber.sent))
    (hstayed : execution.clientDisconnected = false → run.subscriber.closed = false ∧
      record.clientDisconnected = false ∧ Told events record told) : after.Accounted events := by
  have hrecord : after.records = [record] := by rw [hsettles.records, hrecords, List.nil_append]
  refine
    { consistent := ?_, recorded := ?_, released := fun _ => ⟨hsettles.timer, hsettles.listening, hsettles.closed⟩,
      observed := ?_, silent := ?_, gone := fun hleft => ⟨?_, ?_⟩, stayed := fun _ hthere => ⟨record, hrecord, ?_⟩,
      detached := ?_, registered := ?_, prompt := fun _ _ => hsettles.settled }
  · rw [hsettles.execution]
    exact hconsistent
  · rw [hrecord, hsettles.settled]
    rfl
  · exact fun hnot => absurd (hsettles.settled.symm.trans hnot) Bool.true_eq_false.mp
  · exact fun hnot => absurd (hsettles.closed.symm.trans hnot) Bool.true_eq_false.mp
  · rw [hsettles.execution] at hleft
    obtain ⟨-, -, hopen, hclosed⟩ := hgone hleft
    rw [hsettles.sent]
    split
    · next h => exact hclosed h
    · next h =>
      have hnot := Bool.eq_false_iff.mpr h
      rw [hsent hnot, List.nil_append]
      exact hopen hnot
  · rw [hsettles.execution] at hleft
    intro other hother
    rw [hrecord, List.mem_singleton] at hother
    rw [hother]
    exact ⟨(hgone hleft).1, (hgone hleft).2.1⟩
  · rw [hsettles.execution] at hthere
    obtain ⟨hopen, hnot, htold⟩ := hstayed hthere
    rw [hsettles.sent, if_neg (Bool.eq_false_iff.mp hopen), hsent hopen, List.nil_append]
    exact ⟨hnot, htold⟩
  · exact fun _ hnot => absurd (hsettles.settled.symm.trans hnot) Bool.true_eq_false.mp
  · exact fun _ hnot => absurd (hsettles.closed.symm.trans hnot) Bool.true_eq_false.mp

/-- A request that its client left to its handler is accounted for. -/
theorem Detaches.accounted {told : List (Notification α HandlerError)} (hdetaches : run.Detaches told after)
    (hconsistent : run.execution.Consistent) (hrecords : run.records = [])
    (hobserved : run.timer = true ∧ run.subscribed = true) (hreturned : run.returned = true)
    (hsent : run.subscriber.closed = false → run.subscriber.sent = []) (htold : toldGone told)
    (hclosed : run.subscriber.closed = true → toldGone run.subscriber.sent) : after.Accounted events := by
  have hnone : after.records = [] := hdetaches.records.trans hrecords
  refine
    { consistent := hdetaches.consistent hconsistent, recorded := ?_, released := ?_,
      observed := fun _ => ⟨hdetaches.timer.trans hobserved.1, hdetaches.subscribed.trans hobserved.2⟩,
      silent := ?_, gone := fun _ => ⟨?_, ?_⟩, stayed := ?_, detached := fun _ _ => hdetaches.execution.2,
      registered := ?_, prompt := ?_ }
  · rw [hnone, hdetaches.settled]
    rfl
  · exact fun h => absurd (hdetaches.settled.symm.trans h) Bool.false_ne_true
  · exact fun h => absurd (hdetaches.closed.symm.trans h) Bool.true_eq_false.mp
  · rw [hdetaches.sent]
    split
    · next h => exact hclosed h
    · next h =>
      rw [hsent (Bool.eq_false_iff.mpr h), List.nil_append]
      exact htold
  · rw [hnone]
    exact List.forall_mem_nil _
  · exact fun _ h => absurd (hdetaches.execution.1.symm.trans h) Bool.true_eq_false.mp
  · exact fun _ h => absurd (hdetaches.closed.symm.trans h) Bool.true_eq_false.mp
  · exact fun h => absurd (hreturned.symm.trans (hdetaches.returned.symm.trans h)) Bool.true_eq_false.mp

/-- What a client was told that has left, or has not. -/
theorem Accounted.toldGone_of_closed (h : run.Accounted events) (hunsettled : run.settled = false)
    (hclosed : run.subscriber.closed = true) : toldGone run.subscriber.sent :=
  (h.gone (h.left hunsettled hclosed)).1

/-- What an open subscriber was told. -/
theorem Accounted.sent_nil (h : run.Accounted events) (hopen : run.subscriber.closed = false) :
    run.subscriber.sent = [] := (h.silent hopen).1

/-- A client that did not leave can still be told. -/
theorem Accounted.open_of_stayed (h : run.Accounted events) (hunsettled : run.settled = false)
    (hstayed : run.execution.clientDisconnected = false) : run.subscriber.closed = false := by
  by_contra hclosed
  exact absurd ((h.left hunsettled (by simpa using hclosed)).symm.trans hstayed) Bool.true_eq_false.mp

/-- What the handler does. -/
theorem Accounted.handler (h : run.Accounted events) (operation : MediaOperation) :
    ({ run with execution := operation.apply run.execution } : MediaRun α).Accounted events := by
  have hsame := operation.apply_clientDisconnected run.execution
  refine { h with consistent := h.consistent.apply operation, silent := ?_, gone := ?_, stayed := ?_, detached := ?_ }
  · intro hopen
    exact ⟨(h.silent hopen).1, hsame.trans (h.silent hopen).2⟩
  · intro hgone
    exact h.gone (hsame.symm.trans hgone)
  · intro hclosed hstayed
    exact h.stayed hclosed (hsame.symm.trans hstayed)
  · intro hclosed hunsettled
    exact operation.apply_providerStarted (h.detached hclosed hunsettled)

/-- The client is gone. -/
theorem Accounted.abandon (h : run.Accounted events) (hunsettled : run.settled = false)
    (hreturned : run.returned = true) (listening : List HttpEnd) (now : ℚ) :
    (({ run with listening := listening }).abandon now).Accounted events := by
  have hleft := run.execution.disconnect_clientDisconnected
  cases hstarted : run.execution.providerStarted with
  | true =>
    exact (@abandon_detaches α { run with listening := listening } hunsettled hstarted now).accounted h.consistent
      (h.records_nil hunsettled) (h.observed hunsettled) hreturned h.sent_nil (.inr rfl)
      (h.toldGone_of_closed hunsettled)
  | false =>
    obtain ⟨record, hsettles, hrecord⟩ :=
      @abandon_settles α { run with listening := listening } hunsettled hstarted now
    refine hsettles.accounted (h.records_nil hunsettled) h.sent_nil h.consistent.disconnect (fun hgone => ?_)
      fun hstayed => absurd (hleft.symm.trans hstayed) Bool.true_eq_false.mp
    rw [hrecord]
    exact ⟨(record_gone hgone _ _ _).1, (record_gone hgone _ _ _).2, fun _ => .inr rfl,
      h.toldGone_of_closed hunsettled⟩

/-- A request that fails while its client is there, or has left it to its handler. -/
theorem Accounted.fail (h : run.Accounted events) (hunsettled : run.settled = false) {execution : MediaRequestContext}
    (hconsistent : execution.Consistent) (hsame : execution.clientDisconnected = run.execution.clientDisconnected)
    (timer subscribed : Bool) (error : HandlerError) (now : ℚ)
    (htold : run.execution.clientDisconnected = false → ∀ record : MediaRequestRecord,
      record.statusCode = error.status → record.source = (execution.reason.map MediaStopReason.text).getD
        ((execution.failureSource.map MediaFailureSource.text).getD "error") → Told events record [.error error]) :
    (({ run with execution := execution, timer := timer, subscribed := subscribed }).fail error now).Accounted
      events := by
  have hsettles := @fail_settles α { run with execution := execution, timer := timer, subscribed := subscribed }
    hunsettled error now
  refine hsettles.accounted (h.records_nil hunsettled) h.sent_nil hconsistent (fun hgone => ?_) fun hstayed => ?_
  · refine ⟨(record_gone hgone _ _ _).1, (record_gone hgone _ _ _).2, fun hopen => ?_,
      h.toldGone_of_closed hunsettled⟩
    exact absurd (hgone.symm.trans (hsame.trans (h.silent hopen).2)) Bool.true_eq_false.mp
  · have hthere := hsame.symm.trans hstayed
    exact ⟨h.open_of_stayed hunsettled hthere, (record_stayed hstayed _ _ _).1,
      htold hthere _ (record_stayed hstayed _ _ _).2 rfl⟩

/-- A request that a time stopped fails with that, whatever time stopped it first. -/
theorem Told.of_reason {execution : MediaRequestContext} (hconsistent : execution.Consistent)
    (hstayed : execution.clientDisconnected = false) {first reason : MediaStopReason}
    (hfirst : execution.reason = some first) (hreason : reason ≠ .clientDisconnected) (record : MediaRequestRecord)
    (hstatus : record.statusCode = 408) {source : String}
    (hsource : record.source = (execution.reason.map MediaStopReason.text).getD source) :
    Told events record [.error (.timeout reason)] := by
  have hnot : first ≠ .clientDisconnected := by
    intro hgone
    rw [hgone] at hfirst
    exact absurd ((hconsistent.left hfirst).symm.trans hstayed) Bool.true_eq_false.mp
  rw [hfirst] at hsource
  exact .timedOut ⟨reason, hreason⟩ ⟨first, hnot⟩ hstatus hsource

/-- A value settles a request that is going on. -/
theorem onNext_settles (h : run.settled = false) {now : ℚ}
    (hactive : (run.execution.assertActive now).2 = .ok ()) (value : α) (statusCode : ℕ) :
    run.Settles run.execution (run.record statusCode "upstream_success" now) [.next value, .complete]
      (run.onNext value statusCode now) := by
  have hsame : (run.execution.assertActive now).1 = run.execution :=
    congrArg run.execution.withDeadline (Deadline.assertActive_ok hactive).1
  unfold MediaRun.onNext
  rw [if_neg (Bool.eq_false_iff.mp h)]
  simp only [hactive, hsame]
  rw [finish_of_unsettled h, closed_of_settled rfl]
  refine ⟨rfl, rfl, ite_self _, rfl, rfl, rfl, Subscriber.close_closed _ _, ?_⟩
  change ((run.subscriber.next value).close (some .complete)).1.sent = _
  cases hclosed : run.subscriber.closed with
  | true => simp only [Subscriber.next, Subscriber.close, hclosed, if_true]
  | false =>
    simp only [Subscriber.next, Subscriber.close, hclosed, Bool.false_eq_true, if_false, List.append_assoc]
    rfl

/-- A value of the handler. -/
theorem Accounted.onNext (h : run.Accounted events) {value : α} {statusCode : ℕ} {now : ℚ}
    (hevent : Event.next value statusCode now ∈ events) : (run.onNext value statusCode now).Accounted events := by
  cases hsettled : run.settled with
  | true =>
    rw [MediaRun.onNext, if_pos hsettled]
    exact h
  | false =>
    cases hactive : (run.execution.assertActive now).2 with
    | error reason =>
      have hconsistent := h.consistent.assertActive now
      have hfirst : (run.execution.assertActive now).1.reason = some reason := Deadline.assertActive_error hactive
      have hfails : run.onNext value statusCode now =
          ({ run with execution := (run.execution.assertActive now).1 }).fail (.timeout reason) now := by
        unfold MediaRun.onNext
        rw [if_neg (Bool.eq_false_iff.mp hsettled)]
        simp only [hactive]
      rw [hfails]
      refine h.fail hsettled hconsistent rfl run.timer run.subscribed (.timeout reason) now ?_
      intro hstayed record hstatus hsource
      refine Told.of_reason hconsistent hstayed hfirst ?_ record hstatus hsource
      intro hgone
      rw [hgone] at hfirst
      exact absurd ((hconsistent.left hfirst).symm.trans hstayed) Bool.true_eq_false.mp
    | ok _ =>
      refine (onNext_settles hsettled hactive value statusCode).accounted (h.records_nil hsettled) h.sent_nil
        h.consistent (fun hgone => ?_) fun hstayed => ?_
      · refine ⟨(record_gone hgone _ _ _).1, (record_gone hgone _ _ _).2, fun hopen => ?_,
          h.toldGone_of_closed hsettled⟩
        exact absurd (hgone.symm.trans (h.silent hopen).2) Bool.true_eq_false.mp
      · refine ⟨h.open_of_stayed hsettled hstayed, (record_stayed hstayed _ _ _).1, @Told.value _ _ _ _ now ?_ ?_⟩
        · rw [(record_stayed hstayed _ _ _).2]
          exact hevent
        · have hnone : run.execution.reason = none := (Deadline.assertActive_ok hactive).2.1
          rw [record, hnone]
          rfl

/-- A request that is settled may stop hearing its handler. -/
theorem Accounted.unsubscribed (h : run.Accounted events) (hsettled : run.settled = true) (subscribed : Bool) :
    ({ run with subscribed := subscribed } : MediaRun α).Accounted events := by
  refine { h with observed := ?_ }
  intro hunsettled
  exact absurd (hsettled.symm.trans hunsettled) Bool.true_eq_false.mp

/-- A failure of the handler. -/
theorem Accounted.onError (h : run.Accounted events) {error : HandlerError} {now : ℚ}
    (hevent : Event.error error now ∈ events) :
    (({ run with subscribed := false }).fail error now).Accounted events := by
  rcases Bool.eq_false_or_eq_true run.settled with hsettled | hsettled
  · rw [fail_of_settled (by exact hsettled)]
    exact h.unsubscribed hsettled false
  · exact h.fail hsettled h.consistent rfl run.timer false error now fun _ _ hstatus _ => .failed hevent hstatus

/-- The completion of the handler. -/
theorem Accounted.onComplete (h : run.Accounted events) {statusCode : ℕ} {now : ℚ}
    (hevent : Event.complete statusCode now ∈ events) :
    (({ run with subscribed := false }).onComplete statusCode now).Accounted events := by
  unfold MediaRun.onComplete
  rcases Bool.eq_false_or_eq_true run.settled with hsettled | hsettled
  · have hclosed := (h.released hsettled).2.2
    have hquiet : run.subscriber.complete = (run.subscriber, false) := by
      rw [Subscriber.complete, Subscriber.close, if_pos hclosed]
    simp only [hsettled, Bool.not_true, Bool.false_eq_true, if_false, hquiet, MediaRun.closed]
    rw [← hsettled]
    exact h.unsubscribed hsettled false
  · simp only [hsettled, Bool.not_false, if_true]
    have hsettles := @finish_closed_settles α { run with subscribed := false } hsettled statusCode "completed" now
      .complete
    rw [← hsettled] at hsettles ⊢
    refine hsettles.accounted (h.records_nil hsettled) h.sent_nil h.consistent (fun hgone => ?_) fun hstayed => ?_
    · refine ⟨(record_gone hgone _ _ _).1, (record_gone hgone _ _ _).2, fun hopen => ?_,
        h.toldGone_of_closed hsettled⟩
      exact absurd (hgone.symm.trans (h.silent hopen).2) Bool.true_eq_false.mp
    · refine ⟨h.open_of_stayed hsettled hstayed, (record_stayed hstayed _ _ _).1, @Told.completed _ _ _ now ?_⟩
      rw [(record_stayed hstayed _ _ _).2]
      exact hevent

/-- The time of the request is over. -/
theorem Accounted.onTimeout (h : run.Accounted events) (hsettled : run.settled = false) (now : ℚ) :
    (run.onTimeout now).Accounted events := by
  have hconsistent := h.consistent.abort requestTimeoutReason
  have hfails := @fail_settles α { run with timer := false, execution := run.execution.abort .requestTimeout }
    hsettled (.timeout .requestTimeout) now
  refine hfails.unsubscribeInner.accounted (h.records_nil hsettled) h.sent_nil hconsistent (fun hgone => ?_)
    fun hstayed => ?_
  · refine ⟨(record_gone hgone _ _ _).1, (record_gone hgone _ _ _).2, fun hopen => ?_,
      h.toldGone_of_closed hsettled⟩
    exact absurd (hgone.symm.trans (h.silent hopen).2) Bool.true_eq_false.mp
  · obtain ⟨first, hfirst⟩ := Option.isSome_iff_exists.mp (Deadline.abort_isSome run.execution.toDeadline
      MediaStopReason.requestTimeout)
    refine ⟨h.open_of_stayed hsettled hstayed, (record_stayed hstayed _ _ _).1, ?_⟩
    refine Told.of_reason hconsistent hstayed hfirst ?_ _ (record_stayed hstayed _ _ _).2 rfl
    exact nofun

/-- The subscription returns. -/
theorem Accounted.onReturned (h : run.Accounted events) (hnot : run.returned = false) (now : ℚ) :
    (({ run with returned := true } : MediaRun α).closed now run.subscriber.add).Accounted events := by
  rcases Bool.eq_false_or_eq_true run.subscriber.closed with hclosed | hopen
  · have hsettled := h.prompt hnot hclosed
    have hdue : run.subscriber.add = (run.subscriber, true) := by rw [Subscriber.add, if_pos hclosed]
    rw [closed_of_settled (by exact hsettled), hdue]
    have hfree := h.unsubscribed hsettled (run.subscribed && !(true && true))
    refine { hfree with released := ?_, registered := ?_, prompt := ?_ }
    · exact fun _ => ⟨(h.released hsettled).1, rfl, hclosed⟩
    · exact fun _ hopen => absurd (hclosed.symm.trans hopen) Bool.true_eq_false.mp
    · exact fun hnot => absurd hnot Bool.true_eq_false.mp
  · have hdue : run.subscriber.add = ({ run.subscriber with teardown := true }, false) := by
      rw [Subscriber.add, if_neg (Bool.eq_false_iff.mp hopen)]
    simp only [hdue, MediaRun.closed, Bool.false_eq_true, if_false]
    exact { h with registered := fun _ _ => rfl, prompt := fun hnot => absurd hnot Bool.true_eq_false.mp }

/-- The subscriber wants no more. -/
theorem Accounted.onUnsubscribe (h : run.Accounted events) (hreturned : run.returned = true) (now : ℚ) :
    (run.closed now run.subscriber.unsubscribe).Accounted events := by
  rcases Bool.eq_false_or_eq_true run.subscriber.closed with hclosed | hopen
  · have hquiet : run.subscriber.unsubscribe = (run.subscriber, false) := by
      rw [Subscriber.unsubscribe, Subscriber.close, if_pos hclosed]
    simp only [hquiet, MediaRun.closed, Bool.false_eq_true, if_false]
    exact h
  · have hsettled : run.settled = false := by
      by_contra hnot
      exact absurd ((h.released (by simpa using hnot)).2.2.symm.trans hopen) Bool.true_eq_false.mp
    have hdue : run.subscriber.unsubscribe.2 = true := by
      rw [Subscriber.unsubscribe, Subscriber.close, if_neg (Bool.eq_false_iff.mp hopen)]
      exact h.registered hreturned hopen
    rcases Bool.eq_false_or_eq_true run.execution.providerStarted with hstarted | hunsent
    · exact (closed_detaches hsettled hstarted (.inr hdue) now).accounted h.consistent (h.records_nil hsettled)
        (h.observed hsettled) hreturned h.sent_nil (.inl rfl) (h.toldGone_of_closed hsettled)
    · refine (unsubscribe_settles hsettled hunsent hdue now).accounted (h.records_nil hsettled) h.sent_nil
        h.consistent.disconnect (fun hgone => ?_) fun hstayed => ?_
      · exact ⟨(record_gone hgone _ _ _).1, (record_gone hgone _ _ _).2, fun _ => .inl rfl,
          h.toldGone_of_closed hsettled⟩
      · exact absurd (run.execution.disconnect_clientDisconnected.symm.trans hstayed) Bool.true_eq_false.mp

/-- Every event leaves a request accounted for. -/
theorem Accounted.step (h : run.Accounted events) (event : Event α) :
    (run.step event).Accounted (events ++ [event]) := by
  have hmem : event ∈ events ++ [event] := List.mem_append_right _ (List.mem_singleton_self _)
  have hmono := h.mono event
  cases event with
  | handler operation => exact hmono.handler operation
  | next value statusCode now =>
    rw [MediaRun.step]
    split
    · exact hmono.onNext hmem
    · exact hmono
  | error error now =>
    rw [MediaRun.step]
    split
    · exact hmono.onError hmem
    · exact hmono
  | complete statusCode now =>
    rw [MediaRun.step]
    split
    · exact hmono.onComplete hmem
    · exact hmono
  | returned now =>
    rw [MediaRun.step]
    split
    · exact hmono
    · next hnot => exact hmono.onReturned (Bool.eq_false_iff.mpr hnot) now
  | timeout now =>
    rw [MediaRun.step]
    split
    · next hset =>
      refine hmono.onTimeout ?_ now
      by_contra hsettled
      rw [(h.released (by simpa using hsettled)).1, Bool.and_false] at hset
      cases hset
    · exact hmono
  | aborted now =>
    rw [MediaRun.step]
    split
    · next hset =>
      obtain ⟨hreturned, hlistening⟩ := (Bool.and_eq_true _ _).mp hset
      exact hmono.abandon (h.unsettled hlistening) hreturned _ now
    · exact hmono
  | close writableFinished now =>
    rw [MediaRun.step]
    split
    · next hset =>
      obtain ⟨hreturned, hlistening⟩ := (Bool.and_eq_true _ _).mp hset
      have hsettled := h.unsettled hlistening
      cases writableFinished with
      | false => exact hmono.abandon hsettled hreturned _ now
      | true =>
        exact { hmono with
          released := fun hset => absurd (hset.symm.trans hsettled) Bool.true_eq_false.mp }
    · exact hmono
  | unsubscribe now =>
    rw [MediaRun.step]
    split
    · next hreturned => exact hmono.onUnsubscribe hreturned now
    · exact hmono

/-- A request as it is subscribed to is accounted for. -/
theorem interceptMedia_accounted (request : MediaRequestInfo) (timeouts : MediaTimeouts) (gone : Bool) (began : ℚ) :
    (interceptMedia request timeouts gone began : MediaRun α).Accounted [] := by
  have hconsistent := newMediaExecution_consistent timeouts
  unfold interceptMedia
  cases gone with
  | true =>
    obtain ⟨record, hsettles, hrecord⟩ :=
      @abandon_settles α { request := request, execution := newMediaExecution timeouts } rfl rfl began
    refine hsettles.accounted rfl (fun _ => rfl) hconsistent.disconnect (fun hgone => ?_) fun hstayed => ?_
    · rw [hrecord]
      exact ⟨(record_gone hgone _ _ _).1, (record_gone hgone _ _ _).2, fun _ => .inr rfl,
        fun hclosed => absurd hclosed Bool.false_ne_true⟩
    · exact absurd ((MediaRequestContext.disconnect_clientDisconnected _).symm.trans hstayed) Bool.true_eq_false.mp
  | false =>
    exact
      { consistent := hconsistent, recorded := rfl, released := nofun, observed := fun _ => ⟨rfl, rfl⟩,
        silent := fun _ => ⟨rfl, rfl⟩, gone := nofun, stayed := nofun, detached := nofun, registered := nofun,
        prompt := nofun }

/-- Any events leave a request accounted for. -/
theorem Accounted.exec (h : run.Accounted events) (more : List (Event α)) :
    (run.exec more).Accounted (events ++ more) := by
  induction more generalizing run events with
  | nil =>
    rw [List.append_nil]
    exact h
  | cons event rest ih =>
    rw [List.append_cons]
    exact ih (h.step event)

/-- A settling adds to the records. -/
theorem finish_records (run : MediaRun α) (statusCode : ℕ) (source : String) (now : ℚ) :
    run.records <+: (run.finish statusCode source now).records := by
  unfold finish
  split
  · exact List.prefix_refl _
  · exact List.prefix_append _ _

/-- The end of a subscription records nothing. -/
theorem unsubscribeInner_records (run : MediaRun α) : run.unsubscribeInner.records = run.records := by
  rw [unsubscribeInner_eq]

/-- Closing the subscriber adds to the records. -/
theorem closed_records (run : MediaRun α) (now : ℚ) (closing : Subscriber α HandlerError × Bool) :
    run.records <+: (run.closed now closing).records := by
  unfold closed tearDown
  simp only
  split
  · split
    · exact (unsubscribeInner_records _).symm ▸ List.prefix_refl _
    · split
      · rw [unsubscribeInner_records]
        exact @finish_records α { run with
          subscriber := closing.1, listening := [], execution := run.execution.disconnect } _ _ now
      · exact List.prefix_refl _
  · exact List.prefix_refl _

/-- A failure adds to the records. -/
theorem fail_records (run : MediaRun α) (error : HandlerError) (now : ℚ) :
    run.records <+: (run.fail error now).records := by
  unfold fail
  split
  · exact List.prefix_refl _
  · exact (finish_records _ _ _ _).trans (closed_records _ _ _)

/-- A departure adds to the records. -/
theorem abandon_records (run : MediaRun α) (now : ℚ) : run.records <+: (run.abandon now).records := by
  unfold abandon
  split
  · exact List.prefix_refl _
  · simp only
    split
    · exact @fail_records α { run with execution := run.execution.disconnect } _ now
    · exact @closed_records α { run with execution := run.execution.disconnect } now _

/-- A value adds to the records. -/
theorem onNext_records (run : MediaRun α) (value : α) (statusCode : ℕ) (now : ℚ) :
    run.records <+: (run.onNext value statusCode now).records := by
  unfold onNext
  split
  · exact List.prefix_refl _
  · simp only
    split
    · exact @fail_records α { run with execution := (run.execution.assertActive now).1 } _ now
    · have hfinished := @finish_records α { run with execution := (run.execution.assertActive now).1 } statusCode
        "upstream_success" now
      exact hfinished.trans (closed_records _ now _)

/-- The completion adds to the records. -/
theorem onComplete_records (run : MediaRun α) (statusCode : ℕ) (now : ℚ) :
    run.records <+: (run.onComplete statusCode now).records := by
  unfold onComplete
  simp only
  split
  · exact (finish_records _ _ _ _).trans (closed_records _ _ _)
  · exact closed_records _ _ _

/-- An event adds to the records. -/
theorem step_records (run : MediaRun α) (event : Event α) : run.records <+: (run.step event).records := by
  cases event with
  | handler operation => exact List.prefix_refl _
  | next value statusCode now =>
    rw [step]
    split
    · exact onNext_records _ _ _ _
    · exact List.prefix_refl _
  | error error now =>
    rw [step]
    split
    · exact @fail_records α { run with subscribed := false } error now
    · exact List.prefix_refl _
  | complete statusCode now =>
    rw [step]
    split
    · exact @onComplete_records α { run with subscribed := false } statusCode now
    · exact List.prefix_refl _
  | returned now =>
    rw [step]
    split
    · exact List.prefix_refl _
    · exact @closed_records α { run with returned := true } now _
  | timeout now =>
    rw [step]
    split
    · unfold onTimeout
      rw [unsubscribeInner_records]
      exact @fail_records α { run with timer := false, execution := run.execution.abort .requestTimeout } _ now
    · exact List.prefix_refl _
  | aborted now =>
    rw [step]
    split
    · exact @abandon_records α { run with listening := run.listening.erase .aborted } now
    · exact List.prefix_refl _
  | close writableFinished now =>
    rw [step]
    split
    · cases writableFinished with
      | true => exact List.prefix_refl _
      | false => exact @abandon_records α { run with listening := run.listening.erase .close } now
    · exact List.prefix_refl _
  | unsubscribe now =>
    rw [step]
    split
    · exact closed_records _ _ _
    · exact List.prefix_refl _

/-- Events add to the records. -/
theorem exec_records (run : MediaRun α) (events : List (Event α)) : run.records <+: (run.exec events).records := by
  induction events generalizing run with
  | nil => exact List.prefix_refl _
  | cons event rest ih => exact (run.step_records event).trans (ih (run.step event))

/-- A request that is settled stays so. -/
theorem Accounted.settled_exec (h : run.Accounted events) (hsettled : run.settled = true) (more : List (Event α)) :
    (run.exec more).settled = true := by
  have hlength := h.recorded
  rw [hsettled, Bool.toNat_true] at hlength
  have hprefix := (run.exec_records more).length_le
  have hlater := (h.exec more).recorded
  rcases Bool.eq_false_or_eq_true (run.exec more).settled with hset | hunset
  · exact hset
  · rw [hunset, Bool.toNat_false] at hlater
    omega

/-- A value settles a request, unless it was settled before. -/
theorem Accounted.settled_of_next (h : run.Accounted events) (value : α) (statusCode : ℕ) (now : ℚ) :
    (run.step (.next value statusCode now)).settled = true := by
  rcases Bool.eq_false_or_eq_true run.settled with hsettled | hsettled
  · exact h.settled_exec hsettled [.next value statusCode now]
  · rw [MediaRun.step, (h.observed hsettled).2, if_pos rfl]
    cases hactive : (run.execution.assertActive now).2 with
    | error reason =>
      unfold MediaRun.onNext
      rw [if_neg (Bool.eq_false_iff.mp hsettled)]
      simp only [hactive]
      exact (@fail_settles α { run with execution := (run.execution.assertActive now).1 } hsettled
        (.timeout reason) now).settled
    | ok _ => exact (onNext_settles hsettled hactive value statusCode).settled

/-- A failure settles a request, unless it was settled before. -/
theorem Accounted.settled_of_error (h : run.Accounted events) (error : HandlerError) (now : ℚ) :
    (run.step (.error error now)).settled = true := by
  rcases Bool.eq_false_or_eq_true run.settled with hsettled | hsettled
  · exact h.settled_exec hsettled [.error error now]
  · rw [MediaRun.step, (h.observed hsettled).2, if_pos rfl]
    exact (@fail_settles α { run with subscribed := false } hsettled error now).settled

/-- Once it has returned, a request is settled by its deadline. -/
theorem Accounted.settled_of_timeout (h : run.Accounted events) (hreturned : run.returned = true) (now : ℚ) :
    (run.step (.timeout now)).settled = true := by
  rcases Bool.eq_false_or_eq_true run.settled with hsettled | hsettled
  · rw [MediaRun.step, (h.released hsettled).1, Bool.and_false, if_neg Bool.false_ne_true]
    exact hsettled
  · rw [MediaRun.step, hreturned, (h.observed hsettled).1, Bool.and_true, if_pos rfl]
    exact (@fail_settles α { run with timer := false, execution := run.execution.abort .requestTimeout } hsettled
      (.timeout .requestTimeout) now).unsubscribeInner.settled

end MediaRun

end Accounting

/-- After any events a request is accounted for: it is settled with one record and nothing left to wait for, or is
not settled, with its timer set and its handler heard. What was recorded stays, and once the subscription has
returned, the deadline settles the request whatever came before or comes after. -/
theorem media_request_accounted {α : Type} (request : MediaRequestInfo) (timeouts : MediaTimeouts) (gone : Bool)
    (began : ℚ) (events more : List (MediaRun.Event α)) :
    let run : MediaRun α := (MediaRun.interceptMedia request timeouts gone began).exec events
    run.Accounted events ∧ run.records <+: (run.exec more).records ∧
      ∀ now, run.returned = true → ((run.step (.timeout now)).exec more).settled = true := by
  intro run
  have haccounted : run.Accounted events :=
    (MediaRun.interceptMedia_accounted request timeouts gone began).exec events
  refine ⟨haccounted, run.exec_records more, fun now hreturned => ?_⟩
  exact (haccounted.step (.timeout now)).settled_exec (haccounted.settled_of_timeout hreturned now) more

end ConnectHub
