import ConnectHub.QrExecution

/-!
# How a QR request comes out

Whatever its handler and its connection do, and in whatever order, a QR request is recorded once, when its
subscription is over, and audited at most once, when its handler is. Both say the same: success exactly if the first
thing that the client was told is a value, and else why there was none.
-/

namespace ConnectHub

open Store

namespace QrRun

variable {α : Type} {run : QrRun α} {events : List (Event α)}

/-- How a request came out, by what the client was told: nothing comes out without a value or an error, a value first
is a success, and an error first says where it comes from. -/
inductive Told (events : List (Event α)) : Option QrOutcome → List (Notification α QrHandlerError) → Prop
  | nothing : Told events none []
  | completed : Told events none [.complete]
  | value {value : α} {statusCode : ℕ} {reading : QrReading} (rest : List (Notification α QrHandlerError))
    (hevent : Event.next value statusCode reading ∈ events) :
    Told events (some ⟨statusCode, "success"⟩) (.next value :: rest)
  | failed {outcome : QrOutcome} {error : QrHandlerError} (hsource : outcome.source ≠ "success")
    (hstatus : outcome.statusCode = error.status ∨ outcome = ⟨499, "client_disconnected"⟩) :
    Told events (some outcome) [.error error]

/-- What was told stays told. -/
theorem Told.mono {outcome : Option QrOutcome} {sent : List (Notification α QrHandlerError)}
    (h : Told events outcome sent) (event : Event α) : Told (events ++ [event]) outcome sent := by
  cases h with
  | nothing => exact .nothing
  | completed => exact .completed
  | value rest hevent => exact .value rest (List.mem_append_left _ hevent)
  | failed hsource hstatus => exact .failed hsource hstatus

/-- An error after values changes nothing, and says where it comes from if it is the first. -/
theorem Told.error {outcome : Option QrOutcome} {sent : List (Notification α QrHandlerError)}
    (h : Told events outcome sent) (hvalues : ∀ told ∈ sent, Subscriber.isNext told = true) {found : QrOutcome}
    {error : QrHandlerError} (hsource : found.source ≠ "success")
    (hstatus : found.statusCode = error.status ∨ found = ⟨499, "client_disconnected"⟩) :
    Told events (outcome.or (some found)) (sent ++ [.error error]) := by
  cases h with
  | nothing => exact .failed hsource hstatus
  | completed => cases hvalues .complete (List.mem_singleton_self _)
  | value rest hevent => exact .value (rest ++ [.error error]) hevent
  | failed => cases hvalues (.error _) (List.mem_singleton_self _)

/-- A value after values changes nothing, and is a success if it is the first. -/
theorem Told.next {outcome : Option QrOutcome} {sent : List (Notification α QrHandlerError)}
    (h : Told events outcome sent) (hvalues : ∀ told ∈ sent, Subscriber.isNext told = true) {value : α}
    {statusCode : ℕ} {reading : QrReading} (hevent : Event.next value statusCode reading ∈ events) :
    Told events (outcome.or (some ⟨statusCode, "success"⟩)) (sent ++ [.next value]) := by
  cases h with
  | nothing => exact .value [] hevent
  | completed => cases hvalues .complete (List.mem_singleton_self _)
  | value rest hevent => exact .value (rest ++ [.next value]) hevent
  | failed => cases hvalues (.error _) (List.mem_singleton_self _)

/-- The completion after values changes nothing. -/
theorem Told.complete {outcome : Option QrOutcome} {sent : List (Notification α QrHandlerError)}
    (h : Told events outcome sent) (hvalues : ∀ told ∈ sent, Subscriber.isNext told = true) :
    Told events outcome (sent ++ [.complete]) := by
  cases h with
  | nothing => exact .completed
  | completed => cases hvalues .complete (List.mem_singleton_self _)
  | value rest hevent => exact .value (rest ++ [.complete]) hevent
  | failed => cases hvalues (.error _) (List.mem_singleton_self _)

/-- What is audited says how the request came out. -/
structure Audits (product : Option String) (outcome : Option QrOutcome) (entry : AuditEntry) : Prop where
  product : product = some entry.productId
  outcome : ∃ source, outcome = some ⟨entry.statusCode, source⟩ ∧
    entry.errorMsg = if source = "success" then none else some source

/-- What holds of a request after some events. -/
structure Accounted (events : List (Event α)) (run : QrRun α) : Prop where
  grammatical : run.subscriber.Grammatical
  told : Told events run.execution.outcome run.subscriber.sent
  recorded : run.records.length = (run.returned && run.subscriber.closed).toNat
  records : ∀ record ∈ run.records, record.outcome = run.execution.outcome
  released : run.returned = true → run.subscriber.closed = true →
    run.timer = false ∧ run.listening = [] ∧ run.subscribed = false
  observed : run.subscriber.closed = false → run.timer = true ∧ run.subscribed = true
  failed : run.subscriber.closed = true → run.subscribed = true → run.execution.outcome.isSome = true
  registered : run.subscriber.teardown = (run.returned && !run.subscriber.closed)
  handled : run.subscribed = true → run.handledAt.isSome = true
  auditedLength : run.audited.length =
    (run.handledAt.isSome && !run.subscribed && run.execution.outcome.isSome && run.request.product.isSome).toNat
  audits : ∀ entry ∈ run.audited, Audits run.request.product run.execution.outcome entry

/-- An event that changes nothing. -/
theorem Accounted.mono (h : run.Accounted events) (event : Event α) : run.Accounted (events ++ [event]) :=
  { h with told := h.told.mono event }

/-- An open subscriber was told values only. -/
theorem Accounted.values (h : run.Accounted events) (hopen : run.subscriber.closed = false) :
    ∀ told ∈ run.subscriber.sent, Subscriber.isNext told = true := by
  obtain ⟨values, last, hsent, hvalues, hlast⟩ := h.grammatical
  rw [hlast hopen, Option.toList_none, List.append_nil] at hsent
  rw [hsent]
  exact hvalues

/-- A request whose subscription is not over was not recorded. -/
theorem Accounted.records_nil (h : run.Accounted events)
    (hopen : (run.returned && run.subscriber.closed) = false) : run.records = [] := by
  have hlength := h.recorded
  rw [hopen] at hlength
  exact List.eq_nil_of_length_eq_zero hlength

/-- A request whose handler is not over was not audited. -/
theorem Accounted.audited_nil (h : run.Accounted events) (hsubscribed : run.subscribed = true) :
    run.audited = [] := by
  have hlength := h.auditedLength
  rw [hsubscribed, Bool.not_true, Bool.and_false, Bool.false_and, Bool.false_and] at hlength
  exact List.eq_nil_of_length_eq_zero hlength

/-- What closing the subscriber leaves of a request that has returned. -/
theorem closed_of_due (hreturned : run.returned = true) (hsubscribed : run.subscribed = true) (reading : QrReading)
    {closing : Subscriber α QrHandlerError × Bool} (hdue : closing.2 = true) :
    run.closed reading closing =
      { run with subscriber := closing.1, timer := false, listening := [], subscribed := false,
                 audited := run.audited ++ run.audit reading, records := run.records ++ [run.record reading] } := by
  unfold closed tearDown closeInner
  simp only [hdue, hreturned, hsubscribed, if_true]
  rfl

/-- What closing the subscriber leaves of a request that has not returned. -/
theorem closed_of_not_due (reading : QrReading) {closing : Subscriber α QrHandlerError × Bool}
    (hdue : closing.2 = false) : run.closed reading closing = { run with subscriber := closing.1 } := by
  unfold closed
  simp only [hdue, Bool.false_eq_true, if_false]

/-- Whatever else a closing does, it leaves the subscriber it found. -/
theorem closed_subscriber (run : QrRun α) (reading : QrReading) (closing : Subscriber α QrHandlerError × Bool) :
    (run.closed reading closing).subscriber = closing.1 := by
  unfold closed tearDown closeInner
  simp only
  repeat' split
  all_goals rfl

/-- What is audited says how the request came out. -/
theorem audit_audits (run : QrRun α) (reading : QrReading) :
    ∀ entry ∈ run.audit reading, Audits run.request.product run.execution.outcome entry := by
  intro entry hentry
  unfold audit at hentry
  split at hentry
  · next outcome product houtcome hproduct =>
    rw [List.mem_singleton.mp hentry]
    exact ⟨hproduct, outcome.source, houtcome, rfl⟩
  · exact absurd hentry List.not_mem_nil

/-- A request that came out is audited, if it has a product. -/
theorem audit_length (run : QrRun α) (reading : QrReading) :
    (run.audit reading).length = (run.execution.outcome.isSome && run.request.product.isSome).toNat := by
  unfold audit
  cases run.execution.outcome <;> cases run.request.product <;> rfl

/-- A closing sends its last notification to an open subscriber. -/
theorem close_of_open {subscriber : Subscriber α QrHandlerError} (hopen : subscriber.closed = false)
    (last : Option (Notification α QrHandlerError)) :
    subscriber.close last =
      (⟨subscriber.sent ++ last.toList, true, false⟩, subscriber.teardown) := by
  rw [Subscriber.close, if_neg (Bool.eq_false_iff.mp hopen)]

/-- A request whose handler is over, with its client told. -/
theorem Accounted.over (h : run.Accounted events) (hopen : run.subscriber.closed = false) {execution : QrExecution}
    {last : Option (Notification α QrHandlerError)}
    (htold : Told events execution.outcome (run.subscriber.sent ++ last.toList)) (reading : QrReading)
    {timer : Bool} {listening : List HttpEnd} {records : List QrRecord}
    (hrecords : records.length = run.returned.toNat ∧ ∀ record ∈ records, record.outcome = execution.outcome)
    (hreleased : run.returned = true → timer = false ∧ listening = []) :
    ({ run with execution := execution, subscriber := (run.subscriber.close last).1, timer := timer,
                listening := listening, subscribed := false, records := records,
                audited := run.audited ++ ({ run with execution := execution }).audit reading } :
      QrRun α).Accounted events := by
  have hgrammatical := h.grammatical.close last
  have hsubscribed := (h.observed hopen).2
  rw [close_of_open hopen] at hgrammatical ⊢
  refine
    { grammatical := hgrammatical, told := htold, recorded := ?_, records := hrecords.2, released := ?_,
      observed := nofun, failed := nofun, registered := ?_, handled := nofun, auditedLength := ?_, audits := ?_ }
  · rw [hrecords.1, Bool.and_true]
  · exact fun hreturned _ => ⟨(hreleased hreturned).1, (hreleased hreturned).2, rfl⟩
  · exact (Bool.and_false _).symm
  · rw [h.audited_nil hsubscribed, List.nil_append, audit_length, h.handled hsubscribed]
    rfl
  · rw [h.audited_nil hsubscribed, List.nil_append]
    exact audit_audits { run with execution := execution } reading

/-- A request whose client was told how it came out before its subscription returned. -/
theorem Accounted.pending (h : run.Accounted events) (hopen : run.subscriber.closed = false)
    (hnot : run.returned = false) {execution : QrExecution} {last : Option (Notification α QrHandlerError)}
    (htold : Told events execution.outcome (run.subscriber.sent ++ last.toList))
    (houtcome : execution.outcome.isSome = true) (timer : Bool) (listening : List HttpEnd) :
    ({ run with execution := execution, subscriber := (run.subscriber.close last).1, timer := timer,
                listening := listening } : QrRun α).Accounted events := by
  have hgrammatical := h.grammatical.close last
  have hsubscribed := (h.observed hopen).2
  have hrecords := h.records_nil (by rw [hnot, Bool.false_and])
  rw [close_of_open hopen] at hgrammatical ⊢
  refine
    { grammatical := hgrammatical, told := htold, recorded := ?_, records := ?_, released := ?_, observed := nofun,
      failed := fun _ _ => houtcome, registered := ?_, handled := fun _ => h.handled hsubscribed,
      auditedLength := ?_, audits := ?_ }
  · rw [hrecords, hnot]
    rfl
  · rw [hrecords]
    exact List.forall_mem_nil _
  · exact fun hreturned => absurd (hnot.symm.trans hreturned) Bool.false_ne_true
  · exact (Bool.and_false _).symm
  · rw [h.audited_nil hsubscribed, hsubscribed, Bool.not_true, Bool.and_false]
    rfl
  · rw [h.audited_nil hsubscribed]
    exact List.forall_mem_nil _

/-- An open request that comes out, by an error or at least with an outcome. -/
theorem Accounted.closing (h : run.Accounted events) (hopen : run.subscriber.closed = false)
    {execution : QrExecution} {last : Option (Notification α QrHandlerError)}
    (htold : Told events execution.outcome (run.subscriber.sent ++ last.toList))
    (houtcome : execution.outcome.isSome = true ∨ run.returned = true) (timer : Bool) (listening : List HttpEnd)
    (reading : QrReading) :
    (({ run with execution := execution, timer := timer, listening := listening }).closed reading
      (run.subscriber.close last)).Accounted events := by
  have hsubscribed := (h.observed hopen).2
  rcases Bool.eq_false_or_eq_true run.returned with hreturned | hnot
  · have hdue : (run.subscriber.close last).2 = true := by
      rw [close_of_open hopen, h.registered, hreturned, hopen]
      rfl
    rw [closed_of_due (by exact hreturned) (by exact hsubscribed) reading hdue]
    refine h.over hopen htold reading ⟨?_, ?_⟩ fun _ => ⟨rfl, rfl⟩
    · rw [h.records_nil (by rw [hopen, Bool.and_false]), hreturned]
      rfl
    · rw [h.records_nil (by rw [hopen, Bool.and_false])]
      intro record hrecord
      rw [List.mem_singleton.mp hrecord]
      rfl
  · have hdue : (run.subscriber.close last).2 = false := by
      rw [close_of_open hopen, h.registered, hnot, Bool.false_and]
    rw [closed_of_not_due reading hdue]
    refine h.pending hopen hnot htold (houtcome.resolve_right ?_) timer listening
    exact fun hreturned => absurd (hnot.symm.trans hreturned) Bool.false_ne_true

/-- A handler that is over after its client was told. -/
theorem Accounted.closeInner (h : run.Accounted events) (hclosed : run.subscriber.closed = true)
    (reading : QrReading) : (run.closeInner reading).Accounted events := by
  unfold QrRun.closeInner
  split
  · next hsubscribed =>
    have houtcome := h.failed hclosed hsubscribed
    refine { h with released := ?_, observed := ?_, failed := nofun, handled := nofun, auditedLength := ?_,
                    audits := ?_ }
    · exact fun hreturned hclosed => ⟨(h.released hreturned hclosed).1, (h.released hreturned hclosed).2.1, rfl⟩
    · exact fun hopen => absurd (hclosed.symm.trans hopen) Bool.true_eq_false.mp
    · rw [h.audited_nil hsubscribed, List.nil_append, audit_length, h.handled hsubscribed]
      rfl
    · rw [h.audited_nil hsubscribed, List.nil_append]
      exact run.audit_audits reading
  · exact h

/-- The first outcome stays. -/
theorem finish_of_some {execution : QrExecution} (h : execution.outcome.isSome = true) (statusCode : ℕ)
    (source : String) : execution.finish statusCode source = execution := by
  obtain ⟨outcome, houtcome⟩ := Option.isSome_iff_exists.mp h
  rw [QrExecution.finish, houtcome, Option.some_or, ← houtcome]

/-- A request that came out and was closed fails no more. -/
theorem fail_of_closed (hclosed : run.subscriber.closed = true) (houtcome : run.execution.outcome.isSome = true)
    (error : QrHandlerError) (reading : QrReading) : run.fail error reading = run := by
  unfold fail
  simp only [finish_of_some houtcome]
  have hquiet : run.subscriber.error error = (run.subscriber, false) := by
    rw [Subscriber.error, Subscriber.close, if_pos hclosed]
  rw [hquiet, closed_of_not_due reading rfl]

/-- No failure is called a success. -/
theorem source_ne_success (execution : QrExecution) :
    (execution.reason.map QrStopReason.text).getD
      ((execution.failureSource.map QrFailureSource.text).getD "error") ≠ "success" := by
  cases execution.reason with
  | some reason =>
    change reason.text ≠ "success"
    cases reason <;> decide
  | none =>
    cases execution.failureSource with
    | some source =>
      change source.text ≠ "success"
      cases source <;> decide
    | none => decide

/-- A request that fails while it is open. -/
theorem Accounted.fail (h : run.Accounted events) (hopen : run.subscriber.closed = false) {execution : QrExecution}
    (hsame : execution.outcome = run.execution.outcome) (timer : Bool) (listening : List HttpEnd)
    (error : QrHandlerError) (reading : QrReading) :
    (({ run with execution := execution, timer := timer, listening := listening }).fail error reading).Accounted
      events := by
  unfold QrRun.fail
  refine h.closing hopen ?_ (.inl ?_) timer listening reading
  · change Told events (execution.outcome.or (some _)) _
    rw [hsame]
    refine h.told.error (h.values hopen) (source_ne_success execution) ?_
    by_cases hgone : execution.reason = some QrStopReason.clientDisconnected
    · right
      rw [if_pos hgone, hgone]
      rfl
    · left
      exact if_neg hgone
  · change (execution.outcome.or (some _)).isSome = true
    cases execution.outcome <;> rfl

/-- The client is gone. -/
theorem Accounted.abandon (h : run.Accounted events) (hopen : run.subscriber.closed = false)
    (listening : List HttpEnd) (reading : QrReading) :
    (({ run with listening := listening }).abandon reading).Accounted events :=
  @Accounted.fail α run _ h hopen (run.execution.abort .clientDisconnected) rfl run.timer listening
    (.timeout .clientDisconnected) reading

/-- A request that is open or came out may fail. -/
theorem Accounted.fail_subscribed (h : run.Accounted events) (hsubscribed : run.subscribed = true)
    {execution : QrExecution} (hsame : execution.outcome = run.execution.outcome) (error : QrHandlerError)
    (reading : QrReading) :
    (({ run with execution := execution }).fail error reading).Accounted events ∧
      (({ run with execution := execution }).fail error reading).subscriber.closed = true := by
  rcases Bool.eq_false_or_eq_true run.subscriber.closed with hclosed | hopen
  · have houtcome : execution.outcome.isSome = true := by
      rw [hsame]
      exact h.failed hclosed hsubscribed
    rw [@fail_of_closed α { run with execution := execution } hclosed houtcome]
    refine ⟨{ h with told := ?_, records := ?_, failed := fun _ _ => houtcome, auditedLength := ?_, audits := ?_ },
      hclosed⟩
    · rw [hsame]
      exact h.told
    · intro record hrecord
      exact (h.records record hrecord).trans hsame.symm
    · rw [hsame]
      exact h.auditedLength
    · rw [hsame]
      exact h.audits
  · refine ⟨h.fail hopen hsame run.timer run.listening error reading, ?_⟩
    unfold QrRun.fail
    rw [closed_subscriber]
    exact Subscriber.close_closed _ _

/-- A handler that gives a value. -/
theorem Accounted.onNext (h : run.Accounted events) (hsubscribed : run.subscribed = true) {value : α}
    {statusCode : ℕ} {reading : QrReading} (hevent : Event.next value statusCode reading ∈ events) :
    (run.onNext value statusCode reading).Accounted events := by
  unfold QrRun.onNext
  cases hactive : (run.execution.assertActive reading.elapsed).2 with
  | error reason =>
    simp only [hactive]
    exact (@Accounted.fail_subscribed α run events h hsubscribed (run.execution.assertActive reading.elapsed).1 rfl
      (.timeout reason) reading).1
  | ok _ =>
    have hnone : run.execution.reason = none := (Deadline.assertActive_ok hactive).2.1
    have hsame : (run.execution.assertActive reading.elapsed).1 = run.execution :=
      congrArg run.execution.withDeadline (Deadline.assertActive_ok hactive).1
    simp only [hactive, hsame]
    rcases Bool.eq_false_or_eq_true run.subscriber.closed with hclosed | hopen
    · rw [finish_of_some (h.failed hclosed hsubscribed)]
      have hquiet : run.subscriber.next value = run.subscriber := by rw [Subscriber.next, if_pos hclosed]
      rw [hquiet]
      exact h
    · have hfinish : run.execution.finish statusCode "success" =
          { run.execution with outcome := run.execution.outcome.or (some ⟨statusCode, "success"⟩) } := by
        rw [QrExecution.finish, hnone]
        rfl
      have hgrammatical := h.grammatical.next value
      have hnext : run.subscriber.next value =
          { run.subscriber with sent := run.subscriber.sent ++ [.next value] } := by
        rw [Subscriber.next, if_neg (Bool.eq_false_iff.mp hopen)]
      have hrecords := h.records_nil (by rw [hopen, Bool.and_false])
      have haudited := h.audited_nil hsubscribed
      rw [hnext] at hgrammatical ⊢
      rw [hfinish]
      refine { h with
        grammatical := hgrammatical, told := h.told.next (h.values hopen) hevent, records := ?_, failed := ?_,
        auditedLength := ?_, audits := ?_ }
      · rw [hrecords]
        exact List.forall_mem_nil _
      · exact fun hclosed => absurd (hopen.symm.trans hclosed) Bool.false_ne_true
      · rw [haudited, hsubscribed, Bool.not_true, Bool.and_false]
        rfl
      · rw [haudited]
        exact List.forall_mem_nil _

/-- A handler that completes. -/
theorem Accounted.onComplete (h : run.Accounted events) (hsubscribed : run.subscribed = true) (reading : QrReading) :
    ((run.closed reading run.subscriber.complete).closeInner reading).Accounted events := by
  rcases Bool.eq_false_or_eq_true run.subscriber.closed with hclosed | hopen
  · have hquiet : run.subscriber.complete = (run.subscriber, false) := by
      rw [Subscriber.complete, Subscriber.close, if_pos hclosed]
    rw [hquiet, closed_of_not_due reading rfl]
    exact h.closeInner hclosed reading
  · have htold := h.told.complete (h.values hopen)
    rcases Bool.eq_false_or_eq_true run.returned with hreturned | hnot
    · have haccounted := @Accounted.closing α run events h hopen run.execution (some .complete) htold
        (.inr hreturned) run.timer run.listening reading
      refine haccounted.closeInner ?_ reading
      rw [closed_subscriber]
      exact Subscriber.close_closed _ _
    · have hdue : run.subscriber.complete.2 = false := by
        rw [Subscriber.complete, close_of_open hopen, h.registered, hnot, Bool.false_and]
      have hrecords := h.records_nil (by rw [hnot, Bool.false_and])
      have hover := @Accounted.over α run events h hopen run.execution (some .complete) htold reading run.timer
        run.listening run.records ⟨by rw [hrecords, hnot]; rfl, by rw [hrecords]; exact List.forall_mem_nil _⟩
        fun hreturned => absurd (hnot.symm.trans hreturned) Bool.false_ne_true
      rw [closed_of_not_due reading hdue, QrRun.closeInner, if_pos (by exact hsubscribed)]
      exact hover

/-- The subscription returns. -/
theorem Accounted.onReturned (h : run.Accounted events) (hnot : run.returned = false) (reading : QrReading) :
    (({ run with returned := true } : QrRun α).closed reading run.subscriber.add).Accounted events := by
  have hrecords := h.records_nil (by rw [hnot, Bool.false_and])
  rcases Bool.eq_false_or_eq_true run.subscriber.closed with hclosed | hopen
  · have hdue : run.subscriber.add = (run.subscriber, true) := by rw [Subscriber.add, if_pos hclosed]
    have hended := h.closeInner hclosed reading
    have hsubscriber : (run.closeInner reading).subscriber = run.subscriber := by
      unfold QrRun.closeInner
      split <;> rfl
    have hexecution : (run.closeInner reading).execution = run.execution := by
      unfold QrRun.closeInner
      split <;> rfl
    have hover : (({ run with returned := true } : QrRun α).closed reading run.subscriber.add) =
        { run.closeInner reading with
          returned := true, timer := false, listening := [],
          records := [({ run.closeInner reading with returned := true }).record reading] } := by
      rw [hdue]
      unfold QrRun.closed QrRun.tearDown QrRun.closeInner
      simp only [if_true, hrecords]
      split <;> rfl
    have hregistered : (run.closeInner reading).subscriber.teardown = false := by
      rw [hsubscriber, h.registered, hnot, Bool.false_and]
    have hunsubscribed : (run.closeInner reading).subscribed = false := by
      unfold QrRun.closeInner
      split
      · rfl
      · next hnot => exact Bool.eq_false_iff.mpr hnot
    have hclosed' : (run.closeInner reading).subscriber.closed = true := by
      rw [hsubscriber]
      exact hclosed
    rw [hover]
    refine { hended with recorded := ?_, records := ?_, released := ?_, observed := ?_, registered := ?_ }
    · rw [hclosed']
      rfl
    · intro record hrecord
      rw [List.mem_singleton.mp hrecord]
      rfl
    · exact fun _ _ => ⟨rfl, rfl, hunsubscribed⟩
    · exact fun hopen => absurd (hclosed'.symm.trans hopen) Bool.true_eq_false.mp
    · rw [hregistered, hclosed']
      rfl
  · have hdue : run.subscriber.add = ({ run.subscriber with teardown := true }, false) := by
      rw [Subscriber.add, if_neg (Bool.eq_false_iff.mp hopen)]
    rw [hdue, closed_of_not_due reading rfl]
    have hgrammatical : Subscriber.Grammatical { run.subscriber with teardown := true } := h.grammatical
    refine { h with grammatical := hgrammatical, recorded := ?_, released := ?_, registered := ?_ }
    · rw [hrecords, hopen]
      rfl
    · exact fun _ hclosed => absurd (hopen.symm.trans hclosed) Bool.false_ne_true
    · rw [hopen]
      rfl

/-- A request that is listened to, or whose timer is set, once its subscription has returned. -/
theorem Accounted.open_of_waiting (h : run.Accounted events) (hreturned : run.returned = true)
    (hwaiting : run.timer = true ∨ run.listening ≠ []) : run.subscriber.closed = false := by
  by_contra hnot
  obtain ⟨htimer, hlistening, -⟩ := h.released hreturned (by simpa using hnot)
  rcases hwaiting with hset | hset
  · exact absurd (htimer.symm.trans hset) Bool.false_ne_true
  · exact hset hlistening

/-- A listener that is there. -/
theorem ne_nil_of_contains {listening : List HttpEnd} {ending : HttpEnd} (h : listening.contains ending = true) :
    listening ≠ [] := by
  intro hnil
  rw [hnil] at h
  cases h

/-- The subscriber wants no more. -/
theorem Accounted.onUnsubscribe (h : run.Accounted events) (hreturned : run.returned = true) (reading : QrReading) :
    (run.closed reading run.subscriber.unsubscribe).Accounted events := by
  rcases Bool.eq_false_or_eq_true run.subscriber.closed with hclosed | hopen
  · have hquiet : run.subscriber.unsubscribe = (run.subscriber, false) := by
      rw [Subscriber.unsubscribe, Subscriber.close, if_pos hclosed]
    rw [hquiet, closed_of_not_due reading rfl]
    exact h
  · refine @Accounted.closing α run events h hopen run.execution none ?_ (.inr hreturned) run.timer run.listening
      reading
    rw [Option.toList_none, List.append_nil]
    exact h.told

/-- The operations of a handler do not say how the request comes out. -/
theorem apply_outcome (execution : QrExecution) (operation : QrHandlerOperation) :
    (operation.apply execution).outcome = execution.outcome := by
  cases operation with
  | note noted => cases noted <;> rfl
  | _ => rfl

/-- Every event leaves a request accounted for. -/
theorem Accounted.step (h : run.Accounted events) (event : Event α) :
    (run.step event).Accounted (events ++ [event]) := by
  have hmem : event ∈ events ++ [event] := List.mem_append_right _ (List.mem_singleton_self _)
  have hmono := h.mono event
  cases event with
  | handler operation =>
    have hsame := apply_outcome run.execution operation
    refine { hmono with told := ?_, records := ?_, failed := ?_, auditedLength := ?_, audits := ?_ }
    · exact hsame ▸ hmono.told
    · exact fun record hrecord => (hmono.records record hrecord).trans hsame.symm
    · exact fun hclosed hsubscribed => (congrArg Option.isSome hsame).trans (hmono.failed hclosed hsubscribed)
    · exact hsame ▸ hmono.auditedLength
    · exact hsame ▸ hmono.audits
  | next value statusCode reading =>
    rw [QrRun.step]
    split
    · next hsubscribed => exact hmono.onNext hsubscribed hmem
    · exact hmono
  | error error reading =>
    rw [QrRun.step]
    split
    · next hsubscribed =>
      obtain ⟨haccounted, hclosed⟩ := hmono.fail_subscribed hsubscribed rfl error reading
      exact haccounted.closeInner hclosed reading
    · exact hmono
  | complete reading =>
    rw [QrRun.step]
    split
    · next hsubscribed => exact hmono.onComplete hsubscribed reading
    · exact hmono
  | returned reading =>
    rw [QrRun.step]
    split
    · exact hmono
    · next hnot => exact hmono.onReturned (Bool.eq_false_iff.mpr hnot) reading
  | timeout reading =>
    rw [QrRun.step]
    split
    · next hset =>
      obtain ⟨hreturned, htimer⟩ := (Bool.and_eq_true _ _).mp hset
      exact @Accounted.fail α run _ hmono (h.open_of_waiting hreturned (.inl htimer))
        (run.execution.abort .requestTimeout) rfl false run.listening (.timeout .requestTimeout) reading
    · exact hmono
  | aborted reading =>
    rw [QrRun.step]
    split
    · next hset =>
      obtain ⟨hreturned, hlistening⟩ := (Bool.and_eq_true _ _).mp hset
      exact hmono.abandon (h.open_of_waiting hreturned (.inr (ne_nil_of_contains hlistening))) _ reading
    · exact hmono
  | close writableFinished reading =>
    rw [QrRun.step]
    split
    · next hset =>
      obtain ⟨hreturned, hlistening⟩ := (Bool.and_eq_true _ _).mp hset
      have hopen := h.open_of_waiting hreturned (.inr (ne_nil_of_contains hlistening))
      cases writableFinished with
      | false => exact hmono.abandon hopen _ reading
      | true =>
        exact { hmono with released := fun _ hclosed => absurd (hopen.symm.trans hclosed) Bool.false_ne_true }
    · exact hmono
  | unsubscribe reading =>
    rw [QrRun.step]
    split
    · next hreturned => exact hmono.onUnsubscribe hreturned reading
    · exact hmono

/-- A request as it is subscribed to is accounted for. -/
theorem interceptQr_accounted (request : QrRequestInfo) (timeouts : QrTimeouts) (qr gone : Bool)
    (reading : QrReading) : (interceptQr request timeouts qr gone reading : QrRun α).Accounted [] := by
  have hgrammatical : Subscriber.Grammatical ({} : Subscriber α QrHandlerError) :=
    ⟨[], none, rfl, List.forall_mem_nil _, fun _ => rfl⟩
  have hfresh : (newQrExecution timeouts qr).outcome = none ∧ (newQrExecution timeouts qr).reason = none := by
    cases qr <;> exact ⟨rfl, rfl⟩
  unfold interceptQr
  cases gone with
  | false =>
    refine
      { grammatical := hgrammatical, told := ?_, recorded := rfl, records := List.forall_mem_nil _, released := nofun,
        observed := fun _ => ⟨rfl, rfl⟩, failed := nofun, registered := rfl, handled := fun _ => rfl,
        auditedLength := rfl, audits := List.forall_mem_nil _ }
    exact hfresh.1 ▸ .nothing
  | true =>
    have hclosed := hgrammatical.close (some (.error (.timeout QrStopReason.clientDisconnected)))
    have hreason : ((newQrExecution timeouts qr).abort .clientDisconnected).reason = some .clientDisconnected :=
      congrArg Deadline.reason (Deadline.abort_of_none hfresh.2 _)
    refine
      { grammatical := hclosed, told := ?_, recorded := rfl, records := List.forall_mem_nil _, released := nofun,
        observed := nofun, failed := nofun, registered := rfl, handled := nofun, auditedLength := rfl,
        audits := List.forall_mem_nil _ }
    change Told [] ((newQrExecution timeouts qr).outcome.or (some _)) [.error (.timeout .clientDisconnected)]
    rw [hfresh.1, Option.none_or]
    refine .failed (source_ne_success ((newQrExecution timeouts qr).abort .clientDisconnected)) (.inr ?_)
    rw [hreason]
    rfl

/-- Any events leave a request accounted for. -/
theorem Accounted.exec (h : run.Accounted events) (more : List (Event α)) :
    (run.exec more).Accounted (events ++ more) := by
  induction more generalizing run events with
  | nil =>
    rw [List.append_nil]
    exact h
  | cons event rest ih =>
    rw [List.append_cons]
    exact ih (h.step event)

/-- The end of the handler records nothing. -/
theorem closeInner_records (run : QrRun α) (reading : QrReading) : (run.closeInner reading).records = run.records := by
  unfold closeInner
  split <;> rfl

/-- Closing the subscriber adds to the records. -/
theorem closed_records (run : QrRun α) (reading : QrReading) (closing : Subscriber α QrHandlerError × Bool) :
    run.records <+: (run.closed reading closing).records := by
  unfold closed tearDown
  simp only
  split
  · split
    · rw [closeInner_records]
      exact List.prefix_append _ _
    · exact List.prefix_append _ _
  · exact List.prefix_refl _

/-- A failure adds to the records. -/
theorem fail_records (run : QrRun α) (execution : QrExecution) (timer : Bool) (listening : List HttpEnd)
    (error : QrHandlerError) (reading : QrReading) :
    run.records <+:
      (({ run with execution := execution, timer := timer, listening := listening }).fail error reading).records := by
  unfold fail
  exact @closed_records α { run with
    timer := timer, listening := listening, execution := execution.finish
      (if execution.reason = some QrStopReason.clientDisconnected then 499 else error.status)
      ((execution.failureSource.map QrFailureSource.text).getD "error") } reading _

/-- An event adds to the records. -/
theorem step_records (run : QrRun α) (event : Event α) : run.records <+: (run.step event).records := by
  cases event with
  | handler operation => exact List.prefix_refl _
  | next value statusCode reading =>
    rw [step]
    split
    · unfold onNext
      simp only
      split
      · exact run.fail_records _ run.timer run.listening _ reading
      · exact List.prefix_refl _
    · exact List.prefix_refl _
  | error error reading =>
    rw [step]
    split
    · rw [closeInner_records]
      exact run.fail_records run.execution run.timer run.listening error reading
    · exact List.prefix_refl _
  | complete reading =>
    rw [step]
    split
    · rw [closeInner_records]
      exact closed_records _ _ _
    · exact List.prefix_refl _
  | returned reading =>
    rw [step]
    split
    · exact List.prefix_refl _
    · exact @closed_records α { run with returned := true } reading _
  | timeout reading =>
    rw [step]
    split
    · exact run.fail_records _ false run.listening _ reading
    · exact List.prefix_refl _
  | aborted reading =>
    rw [step]
    split
    · exact run.fail_records _ run.timer _ _ reading
    · exact List.prefix_refl _
  | close writableFinished reading =>
    rw [step]
    split
    · cases writableFinished with
      | true => exact List.prefix_refl _
      | false => exact run.fail_records _ run.timer _ _ reading
    · exact List.prefix_refl _
  | unsubscribe reading =>
    rw [step]
    split
    · exact closed_records _ _ _
    · exact List.prefix_refl _

/-- Events add to the records. -/
theorem exec_records (run : QrRun α) (events : List (Event α)) : run.records <+: (run.exec events).records := by
  induction events generalizing run with
  | nil => exact List.prefix_refl _
  | cons event rest ih => exact (run.step_records event).trans (ih (run.step event))

/-- The record of a request is final. -/
theorem Accounted.records_exec (h : run.Accounted events) {record : QrRecord} (hrecord : run.records = [record])
    (more : List (Event α)) : (run.exec more).records = [record] := by
  have hprefix := run.exec_records more
  have hlength := (h.exec more).recorded
  rw [hrecord] at hprefix
  obtain ⟨rest, hrest⟩ := hprefix
  have hone := Bool.toNat_le ((run.exec more).returned && (run.exec more).subscriber.closed)
  rw [← hlength, ← hrest, List.length_append, List.length_singleton] at hone
  rw [← hrest, List.eq_nil_of_length_eq_zero (by omega : rest.length = 0), List.append_nil]

/-- Once its subscription has returned, a request is over by its deadline. -/
theorem Accounted.closed_of_timeout (h : run.Accounted events) (hreturned : run.returned = true)
    (reading : QrReading) : (run.step (.timeout reading)).subscriber.closed = true ∧
      (run.step (.timeout reading)).returned = true := by
  rcases Bool.eq_false_or_eq_true run.subscriber.closed with hclosed | hopen
  · rw [QrRun.step, (h.released hreturned hclosed).1, Bool.and_false, if_neg Bool.false_ne_true]
    exact ⟨hclosed, hreturned⟩
  · rw [QrRun.step, hreturned, (h.observed hopen).1, Bool.and_true, if_pos rfl]
    constructor
    · unfold QrRun.onTimeout QrRun.fail
      rw [closed_subscriber]
      exact Subscriber.close_closed _ _
    · unfold QrRun.onTimeout QrRun.fail QrRun.closed QrRun.tearDown QrRun.closeInner
      simp only
      repeat' split
      all_goals exact hreturned

end QrRun

/-- After any events a QR request is accounted for: it is recorded once, at the end of its subscription, with nothing
left to wait for, and audited at most once, at the end of its handler, with the outcome that the client was told
first. Once its subscription has returned, the deadline leaves a record that nothing changes. -/
theorem qr_request_accounted {α : Type} (request : QrRequestInfo) (timeouts : QrTimeouts) (qr gone : Bool)
    (began : QrReading) (events : List (QrRun.Event α)) :
    let run : QrRun α := (QrRun.interceptQr request timeouts qr gone began).exec events
    run.Accounted events ∧ (run.returned = true → ∀ reading, ∃ record, ∀ more,
      ((run.step (.timeout reading)).exec more).records = [record]) := by
  intro run
  have haccounted : run.Accounted events :=
    (QrRun.interceptQr_accounted request timeouts qr gone began).exec events
  refine ⟨haccounted, fun hreturned reading => ?_⟩
  have hstep := haccounted.step (.timeout reading)
  obtain ⟨hclosed, hstill⟩ := haccounted.closed_of_timeout hreturned reading
  have hlength := hstep.recorded
  rw [hclosed, hstill] at hlength
  obtain ⟨record, hrecord⟩ := List.length_eq_one_iff.mp hlength
  exact ⟨record, fun more => hstep.records_exec hrecord more⟩

end ConnectHub
