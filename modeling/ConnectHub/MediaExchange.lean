import ConnectHub.MediaSending

/-!
# Media requests with their handlers

The handler of a media request does nothing to its execution that the interceptor does not expect, so that what
holds of a request under any handler holds of this one. What it has in hand follows from what it waits for: its
timers, its source and its slot are given back by the time its result is given, whichever way it got there, and so is
its file, unless its removal failed. The provider was called once for every value that the client was told, with a
file that was written whole.
-/

namespace ConnectHub

open Store

section Frames

/-- What the interceptor leaves of an execution: it may stop it, and may note that the client left. -/
structure MediaRequestContext.Stays (before after : MediaRequestContext) : Prop where
  deadline : before.toDeadline.Leads after.toDeadline
  providerTimeoutMs : after.providerTimeoutMs = before.providerTimeoutMs
  downloadTimeoutMs : after.downloadTimeoutMs = before.downloadTimeoutMs
  calls : after.calls = before.calls
  mediaBytes : after.mediaBytes = before.mediaBytes
  upstreamStatusCode : after.upstreamStatusCode = before.upstreamStatusCode
  callTimeoutMs : after.callTimeoutMs = before.callTimeoutMs

variable {before middle after execution : MediaRequestContext}

/-- Nothing happens. -/
theorem MediaRequestContext.Stays.refl (execution : MediaRequestContext) : execution.Stays execution :=
  ⟨Deadline.Leads.refl _, rfl, rfl, rfl, rfl, rfl, rfl⟩

/-- One thing happens after another. -/
theorem MediaRequestContext.Stays.trans (h₁ : before.Stays middle) (h₂ : middle.Stays after) : before.Stays after :=
  ⟨h₁.deadline.trans h₂.deadline, h₂.providerTimeoutMs.trans h₁.providerTimeoutMs,
    h₂.downloadTimeoutMs.trans h₁.downloadTimeoutMs, h₂.calls.trans h₁.calls, h₂.mediaBytes.trans h₁.mediaBytes,
    h₂.upstreamStatusCode.trans h₁.upstreamStatusCode, h₂.callTimeoutMs.trans h₁.callTimeoutMs⟩

/-- An execution is stopped. -/
theorem MediaRequestContext.abort_stays (execution : MediaRequestContext) (reason : MediaStopReason) :
    execution.Stays (execution.abort reason) :=
  ⟨Deadline.abort_leads _ _, rfl, rfl, rfl, rfl, rfl, rfl⟩

/-- An execution is checked. -/
theorem MediaRequestContext.assertActive_stays (execution : MediaRequestContext) (elapsed : ℚ) :
    execution.Stays (execution.assertActive elapsed).1 :=
  ⟨Deadline.assertActive_leads _ _ _, rfl, rfl, rfl, rfl, rfl, rfl⟩

/-- An execution is asked for time. -/
theorem MediaRequestContext.callTimeout_stays (execution : MediaRequestContext) (limitMs : ℤ)
    (checkedAt readAt : ℚ) : execution.Stays (execution.callTimeout limitMs checkedAt readAt).1 :=
  ⟨Deadline.callTimeout_leads _ _ _ _ _, rfl, rfl, rfl, rfl, rfl, rfl⟩

/-- The client leaves. -/
theorem MediaRequestContext.disconnect_stays (execution : MediaRequestContext) :
    execution.Stays execution.disconnect := by
  cases h : execution.providerStarted with
  | true =>
    rw [disconnect_of_started h]
    exact ⟨Deadline.Leads.refl _, rfl, rfl, rfl, rfl, rfl, rfl⟩
  | false =>
    rw [disconnect_of_unsent h]
    exact ⟨Deadline.abort_leads _ _, rfl, rfl, rfl, rfl, rfl, rfl⟩

namespace MediaRun

variable {α : Type}

/-- A settling leaves the execution. -/
theorem finish_execution (run : MediaRun α) (statusCode : ℕ) (source : String) (now : ℚ) :
    (run.finish statusCode source now).execution = run.execution := by
  unfold finish
  split <;> rfl

/-- The end of a subscription leaves the execution. -/
theorem unsubscribeInner_execution (run : MediaRun α) : run.unsubscribeInner.execution = run.execution := by
  rw [unsubscribeInner_eq]

/-- Closing the subscriber at most notes that the client left. -/
theorem closed_stays (run : MediaRun α) (now : ℚ) (closing : Subscriber α HandlerError × Bool) :
    run.execution.Stays (run.closed now closing).execution := by
  unfold closed tearDown
  simp only
  split
  · split
    · rw [unsubscribeInner_execution]
      exact .refl _
    · split
      · rw [unsubscribeInner_execution, finish_execution]
        exact run.execution.disconnect_stays
      · exact run.execution.disconnect_stays
  · exact .refl _

/-- A failure at most notes that the client left. -/
theorem fail_stays (run : MediaRun α) (error : HandlerError) (now : ℚ) :
    run.execution.Stays (run.fail error now).execution := by
  unfold fail
  split
  · exact .refl _
  · have hclosed := closed_stays (run.finish error.status
      ((run.execution.failureSource.map MediaFailureSource.text).getD "error") now) now
    simp only [finish_execution] at hclosed
    exact hclosed _

/-- A departure is noted. -/
theorem abandon_stays (run : MediaRun α) (now : ℚ) : run.execution.Stays (run.abandon now).execution := by
  unfold abandon
  split
  · exact .refl _
  · simp only
    split
    · exact run.execution.disconnect_stays.trans
        (@fail_stays α { run with execution := run.execution.disconnect } _ now)
    · exact run.execution.disconnect_stays.trans
        (@closed_stays α { run with execution := run.execution.disconnect } now _)

/-- A value is checked for its time. -/
theorem onNext_stays (run : MediaRun α) (value : α) (statusCode : ℕ) (now : ℚ) :
    run.execution.Stays (run.onNext value statusCode now).execution := by
  unfold onNext
  split
  · exact .refl _
  · refine (run.execution.assertActive_stays now).trans ?_
    simp only
    split
    · exact @fail_stays α { run with execution := (run.execution.assertActive now).1 } _ now
    · have hclosed := closed_stays (({ run with execution := (run.execution.assertActive now).1 } : MediaRun α).finish
        statusCode "upstream_success" now) now
      rw [finish_execution] at hclosed
      exact hclosed _

/-- The completion leaves the execution. -/
theorem onComplete_stays (run : MediaRun α) (statusCode : ℕ) (now : ℚ) :
    run.execution.Stays (run.onComplete statusCode now).execution := by
  unfold onComplete
  simp only
  split
  · have hclosed := closed_stays (run.finish statusCode "completed" now) now
    rw [finish_execution] at hclosed
    exact hclosed _
  · exact closed_stays _ _ _

/-- Whether an event is one of the handler. -/
def Event.isHandler : Event α → Bool
  | .handler _ => true
  | _ => false

/-- Only the handler does more to an execution. -/
theorem step_stays (run : MediaRun α) {event : Event α} (h : event.isHandler = false) :
    run.execution.Stays (run.step event).execution := by
  cases event with
  | handler operation => cases h
  | next value statusCode now =>
    rw [step]
    split
    · exact onNext_stays _ _ _ _
    · exact .refl _
  | error error now =>
    rw [step]
    split
    · exact @fail_stays α { run with subscribed := false } error now
    · exact .refl _
  | complete statusCode now =>
    rw [step]
    split
    · exact @onComplete_stays α { run with subscribed := false } statusCode now
    · exact .refl _
  | returned now =>
    rw [step]
    split
    · exact .refl _
    · exact @closed_stays α { run with returned := true } now _
  | timeout now =>
    rw [step]
    split
    · unfold onTimeout
      rw [unsubscribeInner_execution]
      exact (run.execution.abort_stays _).trans
        (@fail_stays α { run with timer := false, execution := run.execution.abort .requestTimeout } _ now)
    · exact .refl _
  | aborted now =>
    rw [step]
    split
    · exact @abandon_stays α { run with listening := run.listening.erase .aborted } now
    · exact .refl _
  | close writableFinished now =>
    rw [step]
    split
    · cases writableFinished with
      | true => exact .refl _
      | false => exact @abandon_stays α { run with listening := run.listening.erase .close } now
    · exact .refl _
  | unsubscribe now =>
    rw [step]
    split
    · exact closed_stays _ _ _
    · exact .refl _

end MediaRun

end Frames

section Operations

/-- What a handler makes of an execution by its operations. -/
def MediaRequestContext.Operated (before after : MediaRequestContext) : Prop :=
  ∃ operations : List MediaOperation, operations.foldl MediaOperation.apply before = after

variable {before middle after execution : MediaRequestContext}

/-- Nothing is done. -/
theorem MediaRequestContext.Operated.refl (execution : MediaRequestContext) : execution.Operated execution := ⟨[], rfl⟩

/-- One thing is done after another. -/
theorem MediaRequestContext.Operated.trans (h₁ : before.Operated middle) (h₂ : middle.Operated after) :
    before.Operated after := by
  obtain ⟨first, rfl⟩ := h₁
  obtain ⟨second, rfl⟩ := h₂
  exact ⟨first ++ second, List.foldl_append⟩

/-- One operation. -/
theorem MediaOperation.operated (execution : MediaRequestContext) (operation : MediaOperation) :
    execution.Operated (operation.apply execution) := ⟨[operation], rfl⟩

namespace SendingState

variable {maxBytes : ℕ} {state : SendingState} {clock : SendingClock}

/-- A failed preparation is noted. -/
theorem discard_operated (state : SendingState) (error : PreparationError) :
    state.execution.Operated (state.discard error).execution := MediaOperation.operated _ (.note (.failureSource _))

/-- The preparation checks the execution, and asks for time. -/
theorem prepare_operated (state : SendingState) (clock : SendingClock) (value : MediaValue) :
    state.execution.Operated (state.prepare clock value).execution := by
  have hactive := MediaOperation.operated state.execution (.assertActive clock.now)
  unfold prepare
  simp only
  split
  · exact hactive
  · have hgranted := hactive.trans (MediaOperation.operated _ (.callTimeout
      (state.execution.assertActive clock.now).1.downloadTimeoutMs clock.checkedAt clock.readAt))
    split
    · exact hgranted
    · have hnoted := hgranted.trans (MediaOperation.operated _ (.note (.preparationStartedAt clock.startedAt)))
      split
      · exact hnoted.trans (MediaOperation.operated _ (.note (.failureSource .preparationError)))
      · exact hnoted

/-- What is done once the instance was looked up. -/
theorem onFound_operated (state : SendingState) (clock : SendingClock) (resolved : Except HandlerError Unit)
    (value : MediaValue) : state.execution.Operated (state.onFound clock resolved value).execution := by
  have hactive := MediaOperation.operated state.execution (.assertActive clock.now)
  unfold onFound
  split
  · exact .refl _
  · simp only
    split
    · exact hactive
    · exact hactive.trans (prepare_operated { state.under (state.execution.assertActive clock.now).1 with
        sending := { state.sending with sendTimer := true } } clock value)

/-- What is done once the source is open. -/
theorem onOpened_operated (maxBytes : ℕ) (state : SendingState) (clock : SendingClock)
    (source : Except PreparationError (Option ℕ)) :
    state.execution.Operated (state.onOpened maxBytes clock source).execution := by
  have hactive := MediaOperation.operated state.execution (.assertActive clock.now)
  unfold onOpened
  split
  · exact discard_operated _ _
  · simp only
    split
    · exact @discard_operated { state with sending := { state.sending with source := true } } _
    · split
      · exact hactive.trans (MediaOperation.operated _ (.note (.failureSource .preparationError)))
      · exact hactive

/-- What is done once the file is there. -/
theorem onCreated_operated (state : SendingState) (file : Except PreparationError Unit) :
    state.execution.Operated (state.onCreated file).execution := by
  unfold onCreated
  split
  · exact discard_operated _ _
  · exact .refl _

/-- A step that took too long stops the execution. -/
theorem late_operated (execution : MediaRequestContext) (late : Prop) [Decidable late] (reason : MediaTimeoutReason) :
    execution.Operated (if late then execution.abort reason.val else execution) := by
  split
  · exact MediaOperation.operated execution (.abort reason)
  · exact .refl _

/-- What is done once the file is written. -/
theorem onWritten_operated (maxBytes : ℕ) (state : SendingState) (clock : SendingClock)
    (bytes : Except PreparationError ℕ) :
    state.execution.Operated (state.onWritten maxBytes clock bytes).execution := by
  have hactive := (late_operated state.execution (clock.now ≥ state.sending.deadlineAt) state.sending.reason).trans
    (MediaOperation.operated _ (.assertActive clock.checkedAt))
  unfold onWritten
  split
  · exact discard_operated _ _
  · split
    · exact discard_operated _ _
    · simp only
      split
      · exact hactive.trans (MediaOperation.operated _ (.note (.failureSource .preparationError)))
      · split
        · exact hactive.trans (MediaOperation.operated _ (.note (.failureSource .preparationError)))
        · exact (hactive.trans (MediaOperation.operated _ (.note (.mediaBytes _)))).trans
            (MediaOperation.operated _ (.note (.preparationMs _)))

/-- A disposal changes nothing but what became of the file. -/
theorem dispose_frame (sending : MediaSending) (removed : Bool) : ∃ temp disposed cleanupFailed,
    sending.dispose removed = { sending with temp, disposed, cleanupFailed } := by
  unfold MediaSending.dispose
  split
  · exact ⟨_, _, _, rfl⟩
  · exact ⟨sending.temp, sending.disposed, sending.cleanupFailed, rfl⟩

/-- What is done once a failed preparation is disposed of. -/
theorem onDiscarded_operated (state : SendingState) (clock : SendingClock) (error : PreparationError)
    (removed : Bool) : state.execution.Operated (state.onDiscarded clock error removed).execution := by
  have hactive := MediaOperation.operated state.execution (.assertActive clock.now)
  have hended := hactive.trans (MediaOperation.operated _ (.note
    (.preparationMs (roundMs (clock.now - state.sending.startedAt)))))
  obtain ⟨temp, disposed, cleanupFailed, hdispose⟩ := dispose_frame state.sending removed
  unfold onDiscarded
  simp only [hdispose]
  split <;> exact hended

/-- What is done to call the provider. -/
theorem onDispatch_operated (state : SendingState) (clock : SendingClock) (circuitOpen : Bool)
    (body : Except HandlerError Unit) :
    state.execution.Operated (state.onDispatch clock circuitOpen body).execution := by
  have hactive := MediaOperation.operated state.execution (.assertActive clock.now)
  have hstarted := hactive.trans (MediaOperation.operated _ (.startProviderCall clock.checkedAt clock.readAt
    clock.startedAt))
  unfold onDispatch
  simp only
  split
  · exact hactive
  · split
    · exact hactive.trans (MediaOperation.operated _ (.note (.failureSource .circuitOpen)))
    · split
      · exact hactive
      · split <;> exact hstarted

/-- What is done once the call failed. -/
theorem onFailedCall_operated (state : SendingState) (clock : SendingClock) (reply : ProviderReply) :
    state.execution.Operated (state.onFailedCall clock reply).execution := by
  have hstopped : state.execution.Operated (if clock.readAt ≥ state.sending.deadlineAt ∨ reply.timedOut then
      state.under (state.execution.abort state.sending.reason.val) else state).execution := by
    split
    · exact MediaOperation.operated state.execution (.abort state.sending.reason)
    · exact .refl _
  unfold onFailedCall
  simp only
  split
  · exact hstopped.trans (MediaOperation.operated _ (.note (.providerMs _)))
  · split
    · exact ((hstopped.trans (MediaOperation.operated _ (.note (.failureSource _)))).trans
        (MediaOperation.operated _ (.note (.upstreamStatusCode _)))).trans
        (MediaOperation.operated _ (.note (.providerMs _)))
    · exact (hstopped.trans (MediaOperation.operated _ (.note (.failureSource _)))).trans
        (MediaOperation.operated _ (.note (.providerMs _)))

/-- What is done once the provider replied. -/
theorem onReplied_operated (state : SendingState) (clock : SendingClock) (statusCode : ℕ) (reply : ProviderReply) :
    state.execution.Operated (state.onReplied clock statusCode reply).execution := by
  have hactive := (late_operated state.execution (clock.now ≥ state.sending.deadlineAt) state.sending.reason).trans
    (MediaOperation.operated _ (.assertActive clock.checkedAt))
  unfold onReplied
  split
  · simp only
    split
    · exact hactive.trans (onFailedCall_operated (state.under _) clock _)
    · exact (hactive.trans (MediaOperation.operated _ (.note (.upstreamStatusCode _)))).trans
        (MediaOperation.operated _ (.note (.providerMs _)))
  · exact onFailedCall_operated _ _ _

/-- Whatever the handler goes on with is done by its operations. -/
theorem wake_operated (maxBytes : ℕ) (state : SendingState) (clock : SendingClock) (answer : SendingAnswer) :
    state.execution.Operated (state.wake maxBytes clock answer).execution := by
  unfold wake
  split
  · exact onFound_operated _ _ _ _
  · exact onOpened_operated _ _ _ _
  · exact onCreated_operated _ _
  · exact onWritten_operated _ _ _ _
  · exact onDiscarded_operated _ _ _ _
  · exact onDispatch_operated _ _ _ _
  · exact onReplied_operated _ _ _ _
  · exact .refl _
  · exact .refl _

/-- A timer stops the execution. -/
theorem alarm_operated (state : SendingState) (timer : SendingTimer) :
    state.execution.Operated (state.alarm timer).execution := by
  unfold alarm
  split <;> split
  · exact MediaOperation.operated state.execution (.abort requestTimeoutReason)
  · exact .refl _
  · exact MediaOperation.operated state.execution (.abort state.sending.reason)
  · exact .refl _
  · exact MediaOperation.operated state.execution (.abort state.sending.reason)
  · exact .refl _

end SendingState

end Operations

section Soundness

/-- Whether the timer of the sending may be set. -/
def SendingPhase.isTimed : SendingPhase → Bool
  | .opening | .creating | .writing | .discarding _ | .prepared | .calling => true
  | _ => false

/-- Whether the timer of the preparation may be set. -/
def SendingPhase.isPreparing : SendingPhase → Bool
  | .opening | .creating | .writing | .discarding _ => true
  | _ => false

/-- Whether the provider is called. -/
def SendingPhase.isCalling : SendingPhase → Bool
  | .calling => true
  | _ => false

/-- Whether the source may be open. -/
def SendingPhase.hasSource : SendingPhase → Bool
  | .creating | .writing => true
  | _ => false

/-- Whether the file may be there. -/
def SendingPhase.hasFile : SendingPhase → Bool
  | .writing | .discarding _ | .prepared | .calling | .disposing _ => true
  | _ => false

/-- Whether the slot is held. -/
def SendingPhase.hasSlot : SendingPhase → Bool
  | .answering _ | .done => false
  | _ => true

/-- Whether the file is whole. -/
def SendingPhase.isWritten : SendingPhase → Bool
  | .prepared | .calling => true
  | _ => false

/-- Whether the provider was not called yet. -/
def SendingPhase.isUncalled : SendingPhase → Bool
  | .lookup | .opening | .creating | .writing | .discarding _ | .prepared => true
  | _ => false

/-- Whether the handler is done. -/
def SendingPhase.isDone : SendingPhase → Bool
  | .done => true
  | _ => false

/-- The result of the handler. -/
def SendingPhase.result : SendingPhase → Option (Except HandlerError JsValue)
  | .disposing result | .answering result => some result
  | _ => none

/-- The file of an execution was written whole, within the limit. -/
def MediaRequestContext.Written (maxBytes : ℕ) (execution : MediaRequestContext) : Prop :=
  ∃ bytes, execution.mediaBytes = some bytes ∧ 0 < bytes ∧ bytes ≤ maxBytes

/-- The provider was called once, with a file that was written whole, and replied. -/
structure MediaRequestContext.Delivered (maxBytes : ℕ) (execution : MediaRequestContext) : Prop where
  calls : execution.calls = 1
  written : execution.Written maxBytes
  replied : execution.upstreamStatusCode.isSome = true

/-- What the handler has in hand, and what it did, follow from what it waits for. -/
structure SendingState.Sound (maxBytes : ℕ) (state : SendingState) : Prop where
  sendTimer : state.sending.sendTimer = true → state.sending.phase.isTimed = true
  preparationTimer : state.sending.preparationTimer = true → state.sending.phase.isPreparing = true
  providerTimer : state.sending.providerTimer = true → state.sending.phase.isCalling = true
  source : state.sending.source = true → state.sending.phase.hasSource = true
  slot : state.sending.slot = state.sending.phase.hasSlot
  calls : state.execution.calls ≤ 1
  uncalled : state.sending.phase.isUncalled = true → state.execution.calls = 0
  called : state.sending.phase.isCalling = true → state.execution.calls = 1
  written : state.sending.phase.isWritten = true → state.execution.Written maxBytes
  delivered : ∀ data, state.sending.phase.result = some (.ok data) → state.execution.Delivered maxBytes

variable {maxBytes : ℕ} {before after : MediaRequestContext}

/-- A file that was written stays so. -/
theorem MediaRequestContext.Stays.written (h : before.Stays after) (hwritten : before.Written maxBytes) :
    after.Written maxBytes := by
  obtain ⟨bytes, hbytes, hbounds⟩ := hwritten
  exact ⟨bytes, h.mediaBytes.trans hbytes, hbounds⟩

/-- What was delivered stays so. -/
theorem MediaRequestContext.Stays.delivered (h : before.Stays after) (hdelivered : before.Delivered maxBytes) :
    after.Delivered maxBytes :=
  ⟨h.calls.trans hdelivered.calls, h.written hdelivered.written,
    (congrArg Option.isSome h.upstreamStatusCode).trans hdelivered.replied⟩

namespace SendingState

variable {state : SendingState} {clock : SendingClock}

/-- The interceptor changes nothing that the handler relies on. -/
theorem Sound.stays (h : state.Sound maxBytes) {execution : MediaRequestContext}
    (hstays : state.execution.Stays execution) : (state.under execution).Sound maxBytes where
  sendTimer := h.sendTimer
  preparationTimer := h.preparationTimer
  providerTimer := h.providerTimer
  source := h.source
  slot := h.slot
  calls := hstays.calls.trans_le h.calls
  uncalled := fun hphase => hstays.calls.trans (h.uncalled hphase)
  called := fun hphase => hstays.calls.trans (h.called hphase)
  written := fun hphase => hstays.written (h.written hphase)
  delivered := fun data hresult => hstays.delivered (h.delivered data hresult)

/-- What is given back before the handler disposes of its file. -/
def Over (state : SendingState) : Prop :=
  state.sending.preparationTimer = false ∧ state.sending.providerTimer = false ∧ state.sending.source = false ∧
    state.sending.slot = true ∧ state.execution.calls ≤ 1

/-- What a handler has in hand before the provider is called. -/
def Early (state : SendingState) : Prop :=
  state.sending.providerTimer = false ∧ state.sending.slot = true ∧ state.execution.calls = 0

/-- A handler that disposes of its file is sound. -/
theorem settle_sound (h : state.Over) {result : Except HandlerError JsValue}
    (hresult : ∀ data, result = .ok data → state.execution.Delivered maxBytes) :
    (state.settle result).Sound maxBytes := by
  obtain ⟨hpreparation, hprovider, hsource, hslot, hcalls⟩ := h
  exact
    { sendTimer := nofun
      preparationTimer := fun h => absurd (hpreparation.symm.trans h) Bool.false_ne_true
      providerTimer := fun h => absurd (hprovider.symm.trans h) Bool.false_ne_true
      source := fun h => absurd (hsource.symm.trans h) Bool.false_ne_true
      slot := hslot
      calls := hcalls
      uncalled := nofun
      called := nofun
      written := nofun
      delivered := fun data h => hresult data (Option.some.inj h) }

/-- A handler that failed is sound. -/
theorem settle_error_sound (h : state.Over) {error : HandlerError} :
    (state.settle (.error error)).Sound maxBytes := settle_sound h nofun

/-- A handler whose preparation failed is sound. -/
theorem discard_sound (h : state.Early) {error : PreparationError} : (state.discard error).Sound maxBytes := by
  obtain ⟨hprovider, hslot, hcalls⟩ := h
  exact
    { sendTimer := fun _ => rfl
      preparationTimer := fun _ => rfl
      providerTimer := fun h => absurd (hprovider.symm.trans h) Bool.false_ne_true
      source := nofun
      slot := hslot
      calls := hcalls.trans_le (Nat.zero_le 1)
      uncalled := fun _ => hcalls
      called := nofun
      written := nofun
      delivered := nofun }

/-- A handler that has its result is sound. -/
theorem release_sound (hsend : state.sending.sendTimer = false) (h : state.Over) {result : Except HandlerError JsValue}
    (hresult : ∀ data, result = .ok data → state.execution.Delivered maxBytes) :
    (state.release result).Sound maxBytes := by
  obtain ⟨hpreparation, hprovider, hsource, -, hcalls⟩ := h
  exact
    { sendTimer := fun h => absurd (hsend.symm.trans h) Bool.false_ne_true
      preparationTimer := fun h => absurd (hpreparation.symm.trans h) Bool.false_ne_true
      providerTimer := fun h => absurd (hprovider.symm.trans h) Bool.false_ne_true
      source := fun h => absurd (hsource.symm.trans h) Bool.false_ne_true
      slot := rfl
      calls := hcalls
      uncalled := nofun
      called := nofun
      written := nofun
      delivered := fun data h => hresult data (Option.some.inj h) }

/-- A step that took too long stops the execution, and the check of it may. -/
theorem late_active_stays (execution : MediaRequestContext) (late : Prop) [Decidable late]
    (reason : MediaTimeoutReason) (elapsed : ℚ) :
    execution.Stays ((if late then execution.abort reason.val else execution).assertActive elapsed).1 := by
  refine MediaRequestContext.Stays.trans ?_ (MediaRequestContext.assertActive_stays _ elapsed)
  split
  · exact execution.abort_stays _
  · exact .refl _

/-- A flag that only one kind of phase may set is not set in another. -/
theorem flag_off {flag kind : Bool} (h : flag = true → kind = true) (hkind : kind = false) : flag = false := by
  cases flag with
  | false => rfl
  | true => exact absurd ((h rfl).symm.trans hkind) Bool.true_eq_false.mp

/-- A handler that begins to prepare the media is sound. -/
theorem prepare_sound (hover : state.Over) (hearly : state.Early) {value : MediaValue} :
    (state.prepare clock value).Sound maxBytes := by
  unfold prepare
  simp only
  split
  · exact settle_error_sound (by exact hover)
  · split
    · exact settle_error_sound (by exact hover)
    · split
      · exact discard_sound (by exact hearly)
      · obtain ⟨hprovider, hslot, hcalls⟩ := hearly
        exact
          { sendTimer := fun _ => rfl
            preparationTimer := fun _ => rfl
            providerTimer := fun h => absurd (hprovider.symm.trans h) Bool.false_ne_true
            source := fun h => absurd (hover.2.2.1.symm.trans h) Bool.false_ne_true
            slot := hslot
            calls := hover.2.2.2.2
            uncalled := fun _ => hcalls
            called := nofun
            written := nofun
            delivered := nofun }

/-- What a sound handler has in hand before the provider is called. -/
theorem Sound.early (h : state.Sound maxBytes) (huncalled : state.sending.phase.isUncalled = true)
    (hslot : state.sending.phase.hasSlot = true) (hcalling : state.sending.phase.isCalling = false) : state.Early :=
  ⟨flag_off h.providerTimer hcalling, h.slot.trans hslot, h.uncalled huncalled⟩

/-- What a sound handler gave back that prepares nothing and calls nobody. -/
theorem Sound.over (h : state.Sound maxBytes) (hpreparing : state.sending.phase.isPreparing = false)
    (hcalling : state.sending.phase.isCalling = false) (hsource : state.sending.phase.hasSource = false)
    (hslot : state.sending.phase.hasSlot = true) : state.Over :=
  ⟨flag_off h.preparationTimer hpreparing, flag_off h.providerTimer hcalling, flag_off h.source hsource,
    h.slot.trans hslot, h.calls⟩

/-- The instance was looked up. -/
theorem Sound.onFound (h : state.Sound maxBytes) (hphase : state.sending.phase = .lookup)
    (resolved : Except HandlerError Unit) (value : MediaValue) :
    (state.onFound clock resolved value).Sound maxBytes := by
  have hsend := flag_off h.sendTimer (by rw [hphase]; rfl)
  have hover := h.over (by rw [hphase]; rfl) (by rw [hphase]; rfl) (by rw [hphase]; rfl) (by rw [hphase]; rfl)
  have hearly := h.early (by rw [hphase]; rfl) (by rw [hphase]; rfl) (by rw [hphase]; rfl)
  unfold SendingState.onFound
  split
  · exact release_sound hsend hover nofun
  · simp only
    split
    · exact release_sound (by exact hsend) (by exact hover) (by nofun)
    · exact prepare_sound (by exact hover) (by exact hearly)

/-- The source is open, or is not. -/
theorem Sound.onOpened (h : state.Sound maxBytes) (hphase : state.sending.phase = .opening)
    (source : Except PreparationError (Option ℕ)) : (state.onOpened maxBytes clock source).Sound maxBytes := by
  have hearly := h.early (by rw [hphase]; rfl) (by rw [hphase]; rfl) (by rw [hphase]; rfl)
  unfold SendingState.onOpened
  split
  · exact discard_sound hearly
  · simp only
    split
    · exact discard_sound (by exact hearly)
    · split
      · exact discard_sound (by exact hearly)
      · obtain ⟨hprovider, hslot, hcalls⟩ := hearly
        exact
          { sendTimer := fun _ => rfl
            preparationTimer := fun _ => rfl
            providerTimer := fun h => absurd (hprovider.symm.trans h) Bool.false_ne_true
            source := fun _ => rfl
            slot := hslot
            calls := h.calls
            uncalled := fun _ => hcalls
            called := nofun
            written := nofun
            delivered := nofun }

/-- The file is there, or is not. -/
theorem Sound.onCreated (h : state.Sound maxBytes) (hphase : state.sending.phase = .creating)
    (file : Except PreparationError Unit) : (state.onCreated file).Sound maxBytes := by
  have hearly := h.early (by rw [hphase]; rfl) (by rw [hphase]; rfl) (by rw [hphase]; rfl)
  unfold SendingState.onCreated
  split
  · exact discard_sound hearly
  · obtain ⟨hprovider, hslot, hcalls⟩ := hearly
    exact
      { sendTimer := fun _ => rfl
        preparationTimer := fun _ => rfl
        providerTimer := fun h => absurd (hprovider.symm.trans h) Bool.false_ne_true
        source := fun _ => rfl
        slot := hslot
        calls := h.calls
        uncalled := fun _ => hcalls
        called := nofun
        written := nofun
        delivered := nofun }

/-- The file is written, or is not. -/
theorem Sound.onWritten (h : state.Sound maxBytes) (hphase : state.sending.phase = .writing)
    (bytes : Except PreparationError ℕ) : (state.onWritten maxBytes clock bytes).Sound maxBytes := by
  have hearly := h.early (by rw [hphase]; rfl) (by rw [hphase]; rfl) (by rw [hphase]; rfl)
  unfold SendingState.onWritten
  split
  · exact discard_sound hearly
  · next bytes =>
    split
    · exact discard_sound hearly
    · next hbytes =>
      have hstays := late_active_stays state.execution (clock.now ≥ state.sending.deadlineAt) state.sending.reason
        clock.checkedAt
      obtain ⟨hprovider, hslot, hcalls⟩ := hearly
      have hstill := hstays.calls.trans hcalls
      simp only
      split
      · exact discard_sound (by exact ⟨hprovider, hslot, hstill⟩)
      · split
        · exact discard_sound (by exact ⟨hprovider, hslot, hstill⟩)
        · next hempty =>
          exact
            { sendTimer := fun _ => rfl
              preparationTimer := nofun
              providerTimer := fun h => absurd (hprovider.symm.trans h) Bool.false_ne_true
              source := nofun
              slot := hslot
              calls := hstill.trans_le (Nat.zero_le 1)
              uncalled := fun _ => hstill
              called := nofun
              written := fun _ => ⟨bytes, rfl, Nat.pos_of_ne_zero hempty, Nat.le_of_not_gt hbytes⟩
              delivered := nofun }

/-- What failed is disposed of. -/
theorem Sound.onDiscarded (h : state.Sound maxBytes) {error : PreparationError}
    (hphase : state.sending.phase = .discarding error) (removed : Bool) :
    (state.onDiscarded clock error removed).Sound maxBytes := by
  have hprovider := flag_off h.providerTimer (by rw [hphase]; rfl)
  have hsource := flag_off h.source (by rw [hphase]; rfl)
  have hslot : state.sending.slot = true := h.slot.trans (by rw [hphase]; rfl)
  obtain ⟨temp, disposed, cleanupFailed, hdispose⟩ := dispose_frame state.sending removed
  unfold SendingState.onDiscarded
  simp only [hdispose]
  split <;> exact settle_error_sound (by exact ⟨rfl, hprovider, hsource, hslot, h.calls⟩)

/-- The provider is called, if it may be. -/
theorem Sound.onDispatch (h : state.Sound maxBytes) (hphase : state.sending.phase = .prepared) (circuitOpen : Bool)
    (body : Except HandlerError Unit) : (state.onDispatch clock circuitOpen body).Sound maxBytes := by
  have hover := h.over (by rw [hphase]; rfl) (by rw [hphase]; rfl) (by rw [hphase]; rfl) (by rw [hphase]; rfl)
  have ⟨hpreparation, _, hsource, hslot, _⟩ := hover
  have hcalls : state.execution.calls = 0 := h.uncalled (by rw [hphase]; rfl)
  have hwritten : state.execution.Written maxBytes := h.written (by rw [hphase]; rfl)
  unfold SendingState.onDispatch
  simp only
  split
  · exact settle_error_sound (by exact hover)
  · split
    · exact settle_error_sound (by exact hover)
    · split
      · exact settle_error_sound (by exact hover)
      · rcases (state.execution.assertActive clock.now).1.startProviderCall_eq clock.checkedAt clock.readAt
          clock.startedAt with ⟨reason, heq, -⟩ | ⟨granted, -, -, heq⟩
        · simp only [under, heq]
          exact settle_error_sound (by exact hover)
        · simp only [under, heq]
          exact
            { sendTimer := fun _ => rfl
              preparationTimer := fun h => absurd (hpreparation.symm.trans h) Bool.false_ne_true
              providerTimer := fun _ => rfl
              source := fun h => absurd (hsource.symm.trans h) Bool.false_ne_true
              slot := hslot
              calls := (congrArg (· + 1) hcalls).le
              uncalled := nofun
              called := fun _ => congrArg (· + 1) hcalls
              written := fun _ => hwritten
              delivered := nofun }

/-- The call failed. -/
theorem onFailedCall_sound (hpreparation : state.sending.preparationTimer = false)
    (hsource : state.sending.source = false) (hslot : state.sending.slot = true)
    (hcalls : state.execution.calls ≤ 1) (reply : ProviderReply) :
    (state.onFailedCall clock reply).Sound maxBytes := by
  unfold SendingState.onFailedCall
  simp only
  generalize hstopped : (if clock.readAt ≥ state.sending.deadlineAt ∨ reply.timedOut = true then
    state.under (state.execution.abort state.sending.reason.val) else state) = stopped
  have hsame : stopped.sending = state.sending ∧ stopped.execution.calls = state.execution.calls := by
    rw [← hstopped]
    split <;> exact ⟨rfl, rfl⟩
  have hover (reported : Option CallVerdict) : (stopped.endCall clock reported).Over := by
    refine ⟨?_, rfl, ?_, ?_, hsame.2.trans_le hcalls⟩ <;>
      simp only [endCall, note, hsame.1, hpreparation, hsource, hslot]
  split
  · exact settle_error_sound (hover _)
  · split
    · exact settle_error_sound (by exact hover _)
    · exact settle_error_sound (by exact hover _)

/-- The provider replied, or did not. -/
theorem Sound.onReplied (h : state.Sound maxBytes) (hphase : state.sending.phase = .calling) (statusCode : ℕ)
    (reply : ProviderReply) : (state.onReplied clock statusCode reply).Sound maxBytes := by
  have hpreparation := flag_off h.preparationTimer (by rw [hphase]; rfl)
  have hsource := flag_off h.source (by rw [hphase]; rfl)
  have hslot : state.sending.slot = true := h.slot.trans (by rw [hphase]; rfl)
  have hcalled : state.execution.calls = 1 := h.called (by rw [hphase]; rfl)
  have hwritten : state.execution.Written maxBytes := h.written (by rw [hphase]; rfl)
  have hstays := late_active_stays state.execution (clock.now ≥ state.sending.deadlineAt) state.sending.reason
    clock.checkedAt
  unfold SendingState.onReplied
  split
  · simp only
    split
    · exact onFailedCall_sound (by exact hpreparation) (by exact hsource) (by exact hslot)
        (by exact (hstays.calls.trans hcalled).le) _
    · refine settle_sound (by exact ⟨hpreparation, rfl, hsource, hslot, (hstays.calls.trans hcalled).le⟩) ?_
      exact fun _ _ => ⟨hstays.calls.trans hcalled, hstays.written hwritten, rfl⟩
  · exact onFailedCall_sound hpreparation hsource hslot h.calls _

/-- The file is disposed of. -/
theorem Sound.onDisposed (h : state.Sound maxBytes) {result : Except HandlerError JsValue}
    (hphase : state.sending.phase = .disposing result) (removed : Bool) :
    (state.onDisposed result removed).Sound maxBytes := by
  have hsend := flag_off h.sendTimer (by rw [hphase]; rfl)
  have hover := h.over (by rw [hphase]; rfl) (by rw [hphase]; rfl) (by rw [hphase]; rfl) (by rw [hphase]; rfl)
  obtain ⟨temp, disposed, cleanupFailed, hdispose⟩ := dispose_frame state.sending removed
  unfold SendingState.onDisposed
  rw [hdispose]
  refine release_sound (by exact hsend) (by exact hover) fun data hresult => ?_
  exact h.delivered data (by rw [hphase, hresult]; rfl)

/-- A handler that gave its result is sound. -/
theorem Sound.done (h : state.Sound maxBytes) {result : Except HandlerError JsValue}
    (hphase : state.sending.phase = .answering result) : (state.await .done).Sound maxBytes := by
  have hsend := flag_off h.sendTimer (by rw [hphase]; rfl)
  have hpreparation := flag_off h.preparationTimer (by rw [hphase]; rfl)
  have hprovider := flag_off h.providerTimer (by rw [hphase]; rfl)
  have hsource := flag_off h.source (by rw [hphase]; rfl)
  exact
    { sendTimer := fun h => absurd (hsend.symm.trans h) Bool.false_ne_true
      preparationTimer := fun h => absurd (hpreparation.symm.trans h) Bool.false_ne_true
      providerTimer := fun h => absurd (hprovider.symm.trans h) Bool.false_ne_true
      source := fun h => absurd (hsource.symm.trans h) Bool.false_ne_true
      slot := h.slot.trans (by rw [hphase]; rfl)
      calls := h.calls
      uncalled := nofun
      called := nofun
      written := nofun
      delivered := nofun }

/-- Whatever the handler goes on with, it stays sound. -/
theorem Sound.wake (h : state.Sound maxBytes) (clock : SendingClock) (answer : SendingAnswer) :
    (state.wake maxBytes clock answer).Sound maxBytes := by
  unfold SendingState.wake
  split
  · next hphase => exact h.onFound hphase _ _
  · next hphase => exact h.onOpened hphase _
  · next hphase => exact h.onCreated hphase _
  · next hphase => exact h.onWritten hphase _
  · next hphase => exact h.onDiscarded hphase _
  · next hphase => exact h.onDispatch hphase _ _
  · next hphase => exact h.onReplied hphase _ _
  · next hphase => exact h.onDisposed hphase _
  · exact h

/-- A timer leaves a handler sound. -/
theorem Sound.alarm (h : state.Sound maxBytes) (timer : SendingTimer) : (state.alarm timer).Sound maxBytes := by
  unfold SendingState.alarm
  split <;> split
  · exact { h.stays (state.execution.abort_stays .requestTimeout) with sendTimer := nofun }
  · exact h
  · exact { h.stays (state.execution.abort_stays state.sending.reason.val) with preparationTimer := nofun }
  · exact h
  · exact { h.stays (state.execution.abort_stays state.sending.reason.val) with providerTimer := nofun }
  · exact h

end SendingState

end Soundness

section Files

/-- What became of the file of a handler. -/
def MediaSending.file (sending : MediaSending) : Bool × Bool × Bool :=
  (sending.temp, sending.disposed, sending.cleanupFailed)

/-- A file that was not disposed of belongs to what the handler waits for, and one that is there afterwards was
logged. -/
structure MediaSending.Filed (sending : MediaSending) : Prop where
  held : sending.temp = true → sending.disposed = false → sending.phase.hasFile = true
  kept : sending.temp = true → sending.disposed = true → sending.cleanupFailed = true

/-- What going on does with the file: nothing, it is created, or it is disposed of. -/
inductive FileStep (before after : MediaSending) (answer : SendingAnswer) : Prop
  | same (file : after.file = before.file) (phase : before.phase.hasFile = true → after.phase.hasFile = true)
  | created (file : after.file = (true, false, before.cleanupFailed)) (phase : after.phase.hasFile = true)
  | disposed (removed : Bool) (answered : answer.removed = some removed)
      (file : after.file = (before.dispose removed).file)

variable {maxBytes : ℕ} {before after : MediaSending} {answer : SendingAnswer}

/-- A file that was disposed of is gone, or was logged; and only a removal that failed is. -/
theorem MediaSending.Filed.dispose (h : before.Filed) (removed : Bool) :
    (before.dispose removed).temp = true →
      (before.dispose removed).disposed = true ∧ (before.dispose removed).cleanupFailed = true := by
  unfold MediaSending.dispose
  split
  · exact fun hleft => ⟨rfl, hleft⟩
  · next hnot =>
    intro htemp
    have hdisposed : before.disposed = true := by
      rw [htemp, Bool.true_and, Bool.not_eq_true', Bool.not_eq_false] at hnot
      exact hnot
    exact ⟨hdisposed, h.kept htemp hdisposed⟩

/-- So each step keeps that. -/
theorem FileStep.filed (h : FileStep before after answer) (hfiled : before.Filed) : after.Filed := by
  cases h with
  | same file phase =>
    simp only [MediaSending.file, Prod.mk.injEq] at file
    obtain ⟨htemp, hdisposed, hfailed⟩ := file
    refine ⟨fun h h' => phase (hfiled.held (htemp ▸ h) (hdisposed ▸ h')), fun h h' => ?_⟩
    rw [hfailed]
    exact hfiled.kept (htemp ▸ h) (hdisposed ▸ h')
  | created file phase =>
    simp only [MediaSending.file, Prod.mk.injEq] at file
    exact ⟨fun _ _ => phase, fun _ h' => absurd (file.2.1.symm.trans h') Bool.false_ne_true⟩
  | disposed removed answered file =>
    simp only [MediaSending.file, Prod.mk.injEq] at file
    obtain ⟨htemp, hdisposed, hfailed⟩ := file
    have hleft := hfiled.dispose removed
    rw [← htemp, ← hdisposed, ← hfailed] at hleft
    exact ⟨fun h h' => absurd ((hleft h).1.symm.trans h') Bool.true_eq_false.mp, fun h _ => (hleft h).2⟩

/-- Only a removal that failed is logged. -/
theorem FileStep.cleanupFailed (h : FileStep before after answer) (hfailed : after.cleanupFailed = true) :
    before.cleanupFailed = true ∨ answer.removed = some false := by
  cases h with
  | same file phase =>
    simp only [MediaSending.file, Prod.mk.injEq] at file
    exact .inl (file.2.2.symm.trans hfailed)
  | created file phase =>
    simp only [MediaSending.file, Prod.mk.injEq] at file
    exact .inl (file.2.2.symm.trans hfailed)
  | disposed removed answered file =>
    simp only [MediaSending.file, Prod.mk.injEq] at file
    have hlogged := file.2.2.symm.trans hfailed
    unfold MediaSending.dispose at hlogged
    split at hlogged
    · right
      rw [answered, (Bool.not_eq_true' removed).mp hlogged]
    · exact .inl hlogged

/-- What is done with the file before there is one. -/
theorem FileStep.early (hfile : after.file = before.file) (hphase : before.phase.hasFile = false) :
    FileStep before after answer := .same hfile fun h => absurd (hphase.symm.trans h) Bool.false_ne_true

/-- Whatever the handler goes on with is one of these. -/
theorem SendingState.wake_file (state : SendingState) (clock : SendingClock) (answer : SendingAnswer) :
    FileStep state.sending (state.wake maxBytes clock answer).sending answer := by
  unfold wake
  split
  · next hphase =>
    have hearly : state.sending.phase.hasFile = false := by rw [hphase]; rfl
    unfold onFound prepare
    simp only
    repeat' split
    all_goals exact .early rfl hearly
  · next hphase =>
    have hearly : state.sending.phase.hasFile = false := by rw [hphase]; rfl
    unfold onOpened
    simp only
    repeat' split
    all_goals exact .early rfl hearly
  · next hphase =>
    have hearly : state.sending.phase.hasFile = false := by rw [hphase]; rfl
    unfold onCreated
    split
    · exact .early rfl hearly
    · exact .created rfl rfl
  · unfold onWritten
    simp only
    repeat' split
    all_goals exact .same rfl fun _ => rfl
  · next removed _ =>
    unfold onDiscarded
    simp only
    split <;> exact .disposed removed rfl rfl
  · unfold onDispatch
    simp only
    repeat' split
    all_goals exact .same rfl fun _ => rfl
  · unfold onReplied onFailedCall
    simp only
    repeat' split
    all_goals exact .same rfl fun _ => rfl
  · exact .disposed _ rfl rfl
  · exact .same rfl id

/-- A timer has nothing to do with the file. -/
theorem SendingState.alarm_file (state : SendingState) (timer : SendingTimer) (answer : SendingAnswer) :
    FileStep state.sending (state.alarm timer).sending answer := by
  unfold alarm
  split <;> split <;> exact .same rfl id

end Files

section Reports

/-- The reasons of all executions, as the breakers see them. -/
def MediaStopReason.toStopReason : MediaStopReason → StopReason
  | .requestTimeout | .downloadTimeout => .requestTimeout
  | .providerTimeout => .providerTimeout
  | .clientDisconnected => .clientDisconnected

variable {state : SendingState} {clock : SendingClock}

/-- What a stopped call reports depends on whether the time of the provider was over. -/
theorem recordedStop_toStopReason (reason : MediaStopReason) :
    recordedStop reason.toStopReason = if reason = .providerTimeout then some .failure else none := by
  cases reason <;> rfl

/-- An execution that is stopped, if it is not stopped yet. -/
theorem reason_of_late (execution : MediaRequestContext) (late : Prop) [Decidable late] (reason : MediaStopReason) :
    (if late then execution.abort reason else execution).reason =
      execution.reason.or (if late then some reason else none) := by
  split
  · cases h : execution.reason with
    | none =>
      change (execution.toDeadline.abort reason).reason = _
      rw [Deadline.abort_of_none h]
      rfl
    | some first =>
      change (execution.toDeadline.abort reason).reason = _
      rw [Deadline.abort_of_some h, h]
      rfl
  · rw [Option.or_none]

/-- A call that fails reports what the breaker records of it. -/
theorem onFailedCall_reports (state : SendingState) (clock : SendingClock) (reply : ProviderReply) :
    (state.onFailedCall clock reply).sending.reported =
      recordedError ((state.execution.reason.or (if clock.readAt ≥ state.sending.deadlineAt ∨ reply.timedOut = true
        then some state.sending.reason.val else none)).map MediaStopReason.toStopReason) reply := by
  have hreason : (if clock.readAt ≥ state.sending.deadlineAt ∨ reply.timedOut = true then
      state.under (state.execution.abort state.sending.reason.val) else state).execution.reason =
      state.execution.reason.or (if clock.readAt ≥ state.sending.deadlineAt ∨ reply.timedOut = true
        then some state.sending.reason.val else none) := by
    rw [← reason_of_late]
    split <;> rfl
  rw [← hreason]
  unfold SendingState.onFailedCall
  simp only
  generalize (if clock.readAt ≥ state.sending.deadlineAt ∨ reply.timedOut = true then
    state.under (state.execution.abort state.sending.reason.val) else state) = stopped
  cases hstopped : stopped.execution.reason with
  | some reason => exact (recordedStop_toStopReason reason).symm
  | none => cases reply <;> rfl

/-- A call reports what the breaker records of a media call, for some settlement with that reply. -/
theorem onReplied_reports (state : SendingState) (clock : SendingClock) (statusCode : ℕ) (reply : ProviderReply) :
    ∃ settled : Settlement, settled.reply = reply ∧
      settled.stopped = state.execution.reason.map MediaStopReason.toStopReason ∧
      (state.onReplied clock statusCode reply).sending.reported =
        settleMedia state.sending.reason.val.toStopReason settled := by
  have hfailed : ∃ settled : Settlement, settled.reply = reply ∧
      settled.stopped = state.execution.reason.map MediaStopReason.toStopReason ∧
      recordedError ((state.execution.reason.or (if clock.readAt ≥ state.sending.deadlineAt ∨ reply.timedOut = true
        then some state.sending.reason.val else none)).map MediaStopReason.toStopReason) reply =
        recordedError (settled.stopped.or (if settled.overdue || reply.timedOut then
          some state.sending.reason.val.toStopReason else none)) reply := by
    refine ⟨{ reply := reply, stopped := state.execution.reason.map MediaStopReason.toStopReason,
              overdue := decide (clock.readAt ≥ state.sending.deadlineAt) }, rfl, rfl, ?_⟩
    congr 1
    cases state.execution.reason with
    | some reason => rfl
    | none =>
      simp only [Option.none_or, Option.map_none, Bool.or_eq_true, decide_eq_true_eq]
      split <;> rfl
  unfold SendingState.onReplied
  split
  · next data =>
    simp only
    have hlate := reason_of_late state.execution (clock.now ≥ state.sending.deadlineAt) state.sending.reason.val
    generalize (if clock.now ≥ state.sending.deadlineAt then state.execution.abort state.sending.reason.val
      else state.execution) = late at hlate ⊢
    have hstopped : late.reason.map MediaStopReason.toStopReason =
        (state.execution.reason.map MediaStopReason.toStopReason).or
          (if decide (clock.now ≥ state.sending.deadlineAt) = true then
            some state.sending.reason.val.toStopReason else none) := by
      rw [hlate]
      cases state.execution.reason with
      | some reason => rfl
      | none =>
        simp only [Option.none_or, Option.map_none, decide_eq_true_eq]
        split <;> rfl
    refine ⟨{ reply := .response data, stopped := state.execution.reason.map MediaStopReason.toStopReason,
              overdue := decide (clock.now ≥ state.sending.deadlineAt),
              expired := late.reason.isNone && !(late.assertActive clock.checkedAt).2.toBool }, rfl, rfl, ?_⟩
    simp only [settleMedia, Settlement.afterAssert, ← hstopped]
    cases hactive : (late.assertActive clock.checkedAt).2 with
    | ok _ =>
      have hnone : late.reason = none := (Deadline.assertActive_ok hactive).2.1
      rw [hnone]
      rfl
    | error reason =>
      have hreason : (late.assertActive clock.checkedAt).1.reason = some reason := Deadline.assertActive_error hactive
      simp only
      rw [onFailedCall_reports]
      have hunder : (state.under (late.assertActive clock.checkedAt).1).execution.reason = some reason := hreason
      rw [hunder, Option.some_or, Option.map_some]
      cases hfirst : late.reason with
      | some first =>
        have hsame : (late.assertActive clock.checkedAt).1.reason = some first :=
          (Deadline.assertActive_leads _ _ _).reason first hfirst
        cases hreason.symm.trans hsame
        rfl
      | none =>
        rcases Deadline.assertActive_origin hreason with hold | hnew
        · cases hfirst.symm.trans hold
        · cases hnew
          rfl
  · next hnot =>
    obtain ⟨settled, hreply, hstopped, hsame⟩ := hfailed
    refine ⟨settled, hreply, hstopped, ?_⟩
    rw [onFailedCall_reports, hsame, settleMedia, hreply]
    cases reply with
    | response data => exact absurd rfl (hnot data)
    | _ => rfl

end Reports

section Exchanges

/-- Events are met one part after another. -/
theorem MediaRun.exec_append {α : Type} (run : MediaRun α) (events more : List (MediaRun.Event α)) :
    run.exec (events ++ more) = (run.exec events).exec more := List.foldl_append

/-- Only the handler does more to an execution, over any events. -/
theorem MediaRun.exec_stays {α : Type} (run : MediaRun α) {events : List (MediaRun.Event α)}
    (h : ∀ event ∈ events, event.isHandler = false) : run.execution.Stays (run.exec events).execution := by
  induction events generalizing run with
  | nil => exact .refl _
  | cons event rest ih =>
    exact (run.step_stays (h event List.mem_cons_self)).trans
      (ih (run.step event) fun other hother => h other (List.mem_cons_of_mem _ hother))

/-- What a handler does to its execution the interceptor meets as so many events. -/
theorem MediaRun.exec_handler {α : Type} (run : MediaRun α) (operations : List MediaOperation) :
    run.exec (operations.map .handler) =
      { run with execution := operations.foldl MediaOperation.apply run.execution } := by
  induction operations generalizing run with
  | nil => rfl
  | cons operation rest ih => exact ih (run.step (.handler operation))

namespace MediaExchange

variable {maxBytes : ℕ} {request : MediaRequestInfo} {timeouts : MediaTimeouts} {gone : Bool} {began : ℚ}
  {exchange : MediaExchange}

/-- What holds of a media request with its handler: the interceptor met the events of some handler, which gave a value
only after it was delivered; the handler is sound, and so is what it does with its file; and once it is done, the
request is settled. -/
structure Lawful (maxBytes : ℕ) (request : MediaRequestInfo) (timeouts : MediaTimeouts) (gone : Bool) (began : ℚ)
    (exchange : MediaExchange) : Prop where
  met : ∃ events, exchange.run = (MediaRun.interceptMedia request timeouts gone began).exec events ∧
    ∀ data statusCode now, MediaRun.Event.next data statusCode now ∈ events →
      exchange.sending.phase.isDone = true ∧ exchange.run.execution.Delivered maxBytes
  sound : exchange.state.Sound maxBytes
  filed : exchange.sending.Filed
  settled : exchange.sending.phase.isDone = true → exchange.run.settled = true

/-- A lawful request is accounted for. -/
theorem Lawful.accounted (h : exchange.Lawful maxBytes request timeouts gone began) :
    ∃ events, exchange.run.Accounted events := by
  obtain ⟨events, hrun, -⟩ := h.met
  refine ⟨events, ?_⟩
  rw [hrun]
  exact (MediaRun.interceptMedia_accounted request timeouts gone began).exec events

/-- Something happens to the connection. -/
theorem Lawful.connection (h : exchange.Lawful maxBytes request timeouts gone began) (event : ConnectionEvent) :
    (exchange.step maxBytes (.connection event)).Lawful maxBytes request timeouts gone began := by
  have hstays : exchange.run.execution.Stays (exchange.run.step event.toEvent).execution :=
    exchange.run.step_stays (by cases event <;> rfl)
  obtain ⟨met, haccounted⟩ := h.accounted
  obtain ⟨events, hrun, hdelivered⟩ := h.met
  refine ⟨⟨events ++ [event.toEvent], ?_, ?_⟩, h.sound.stays hstays, h.filed, fun hdone => ?_⟩
  · rw [MediaRun.exec_append, ← hrun]
    rfl
  · intro data statusCode now hmem
    rcases List.mem_append.mp hmem with hold | hnew
    · obtain ⟨hdone, hfinal⟩ := hdelivered data statusCode now hold
      exact ⟨hdone, hstays.delivered hfinal⟩
    · have hnext := List.mem_singleton.mp hnew
      cases event <;> cases hnext
  · exact haccounted.settled_exec (h.settled hdone) [event.toEvent]

/-- The handler does something to its execution. -/
theorem Lawful.withState (h : exchange.Lawful maxBytes request timeouts gone began) {state : SendingState}
    (hoperated : exchange.run.execution.Operated state.execution) (hsound : state.Sound maxBytes)
    (hfiled : state.sending.Filed)
    (hdone : exchange.sending.phase.isDone = true →
      state.sending.phase.isDone = true ∧ exchange.run.execution.Stays state.execution)
    (hnot : exchange.sending.phase.isDone = false → state.sending.phase.isDone = false) :
    (exchange.withState state).Lawful maxBytes request timeouts gone began := by
  obtain ⟨operations, hoperations⟩ := hoperated
  obtain ⟨events, hrun, hdelivered⟩ := h.met
  refine ⟨⟨events ++ operations.map .handler, ?_, ?_⟩, hsound, hfiled, fun hafter => ?_⟩
  · rw [MediaRun.exec_append, ← hrun, MediaRun.exec_handler, hoperations]
    rfl
  · intro data statusCode now hmem
    rcases List.mem_append.mp hmem with hold | hnew
    · obtain ⟨hbefore, hfinal⟩ := hdelivered data statusCode now hold
      exact ⟨(hdone hbefore).1, (hdone hbefore).2.delivered hfinal⟩
    · obtain ⟨operation, -, hnext⟩ := List.mem_map.mp hnew
      cases hnext
  · rcases Bool.eq_false_or_eq_true exchange.sending.phase.isDone with hbefore | hbefore
    · exact h.settled hbefore
    · exact absurd ((hnot hbefore).symm.trans hafter) Bool.false_ne_true

/-- The events by which a result is given are not of the handler's operations. -/
theorem resultEvents_isHandler (result : Except HandlerError JsValue) (statusCode : ℕ) (now : ℚ) :
    ∀ event ∈ resultEvents result statusCode now, event.isHandler = false := by
  cases result with
  | error error =>
    intro event hevent
    rw [List.mem_singleton.mp hevent]
    rfl
  | ok data =>
    intro event hevent
    rcases List.mem_cons.mp hevent with hnext | hcomplete
    · rw [hnext]
      rfl
    · rw [List.mem_singleton.mp hcomplete]
      rfl

/-- A result settles a request, unless it was settled before. -/
theorem settled_of_result {run : MediaRun JsValue} {events : List (MediaRun.Event JsValue)}
    (h : run.Accounted events) (result : Except HandlerError JsValue) (statusCode : ℕ) (now : ℚ) :
    (run.exec (resultEvents result statusCode now)).settled = true := by
  cases result with
  | error error => exact h.settled_of_error error now
  | ok data =>
    exact (h.step (.next data statusCode now)).settled_exec (h.settled_of_next data statusCode now)
      [.complete statusCode now]

/-- The result of the handler is given. -/
theorem Lawful.answer (h : exchange.Lawful maxBytes request timeouts gone began) (statusCode : ℕ) (now : ℚ) :
    (exchange.step maxBytes (.answer statusCode now)).Lawful maxBytes request timeouts gone began := by
  rw [MediaExchange.step]
  split
  · next result hphase =>
    obtain ⟨met, haccounted⟩ := h.accounted
    obtain ⟨events, hrun, hdelivered⟩ := h.met
    have hstays := exchange.run.exec_stays (resultEvents_isHandler result statusCode now)
    have hfiled : MediaSending.Filed { exchange.sending with phase := .done } :=
      ⟨fun htemp hheld => absurd (h.filed.held htemp hheld) (by rw [hphase]; exact Bool.false_ne_true), h.filed.kept⟩
    refine ⟨⟨events ++ resultEvents result statusCode now, ?_, ?_⟩, ?_, hfiled,
      fun _ => settled_of_result haccounted _ _ _⟩
    · rw [MediaRun.exec_append, ← hrun]
    · intro data status time hmem
      refine ⟨rfl, hstays.delivered ?_⟩
      rcases List.mem_append.mp hmem with hold | hnew
      · exact (hdelivered data status time hold).2
      · cases result with
        | error error => cases List.mem_singleton.mp hnew
        | ok found => exact h.sound.delivered found (by rw [state, hphase]; rfl)
    · exact (h.sound.stays hstays).done hphase
  · exact h

/-- A handler that is done does not go on. -/
theorem wake_of_done {state : SendingState} (h : state.sending.phase.isDone = true) (clock : SendingClock)
    (answer : SendingAnswer) : state.wake maxBytes clock answer = state := by
  have hphase : state.sending.phase = .done := by
    cases hphase : state.sending.phase with
    | done => rfl
    | _ =>
      rw [hphase] at h
      cases h
  unfold SendingState.wake
  rw [hphase]

/-- A timer stops the execution, and leaves what the handler waits for. -/
theorem alarm_stays (state : SendingState) (timer : SendingTimer) :
    state.execution.Stays (state.alarm timer).execution ∧ (state.alarm timer).sending.phase = state.sending.phase := by
  unfold SendingState.alarm
  split <;> split
  · exact ⟨state.execution.abort_stays _, rfl⟩
  · exact ⟨.refl _, rfl⟩
  · exact ⟨state.execution.abort_stays _, rfl⟩
  · exact ⟨.refl _, rfl⟩
  · exact ⟨state.execution.abort_stays _, rfl⟩
  · exact ⟨.refl _, rfl⟩

/-- A handler that is not done has to give its result first. -/
theorem wake_isDone {state : SendingState} (h : state.sending.phase.isDone = false) (clock : SendingClock)
    (answer : SendingAnswer) : (state.wake maxBytes clock answer).sending.phase.isDone = false := by
  unfold SendingState.wake
  split
  · unfold SendingState.onFound SendingState.prepare
    simp only
    repeat' split
    all_goals rfl
  · unfold SendingState.onOpened
    simp only
    repeat' split
    all_goals rfl
  · unfold SendingState.onCreated
    split <;> rfl
  · unfold SendingState.onWritten
    simp only
    repeat' split
    all_goals rfl
  · unfold SendingState.onDiscarded
    simp only
    split <;> rfl
  · unfold SendingState.onDispatch
    simp only
    repeat' split
    all_goals rfl
  · unfold SendingState.onReplied SendingState.onFailedCall
    simp only
    repeat' split
    all_goals rfl
  · rfl
  · exact h

/-- Whatever happens, a media request stays lawful. -/
theorem Lawful.step (h : exchange.Lawful maxBytes request timeouts gone began) (event : ExchangeEvent) :
    (exchange.step maxBytes event).Lawful maxBytes request timeouts gone began := by
  cases event with
  | connection event => exact h.connection event
  | alarm timer =>
    obtain ⟨hstays, hphase⟩ := alarm_stays exchange.state timer
    refine h.withState (exchange.state.alarm_operated timer) (h.sound.alarm timer)
      ((exchange.state.alarm_file timer (.disposed true)).filed h.filed) (fun hdone => ⟨?_, hstays⟩)
      fun hnot => ?_
    · rw [hphase]
      exact hdone
    · rw [hphase]
      exact hnot
  | wake answer clock =>
    refine h.withState (exchange.state.wake_operated maxBytes clock answer) (h.sound.wake clock answer)
      ((exchange.state.wake_file clock answer).filed h.filed) (fun hdone => ?_)
      fun hnot => wake_isDone (by exact hnot) clock answer
    rw [wake_of_done (by exact hdone)]
    exact ⟨hdone, .refl _⟩
  | answer statusCode now => exact h.answer statusCode now

/-- A media request as it is subscribed to is lawful. -/
theorem start_lawful (maxBytes : ℕ) (request : MediaRequestInfo) (timeouts : MediaTimeouts) (gone : Bool)
    (began : ℚ) : (start request timeouts gone began).Lawful maxBytes request timeouts gone began := by
  have hmet : ∃ events, (start request timeouts gone began).run =
      (MediaRun.interceptMedia request timeouts gone began).exec events ∧
      ∀ data statusCode now, MediaRun.Event.next data statusCode now ∈ events →
        (start request timeouts gone began).sending.phase.isDone = true ∧
          (start request timeouts gone began).run.execution.Delivered maxBytes :=
    ⟨[], rfl, fun _ _ _ hmem => absurd hmem List.not_mem_nil⟩
  cases gone with
  | false =>
    exact ⟨hmet, ⟨nofun, nofun, nofun, nofun, rfl, Nat.zero_le 1, fun _ => rfl, nofun, nofun, nofun⟩, ⟨nofun, nofun⟩,
      nofun⟩
  | true =>
    obtain ⟨record, hsettles, -⟩ := @MediaRun.abandon_settles JsValue
      { request := request, execution := newMediaExecution timeouts } rfl rfl began
    have hcalls : (start request timeouts true began).run.execution.calls = 0 :=
      (@MediaRun.abandon_stays JsValue { request := request, execution := newMediaExecution timeouts } began).calls
    exact ⟨hmet, ⟨nofun, nofun, nofun, nofun, rfl, hcalls.trans_le (Nat.zero_le 1), nofun, nofun, nofun, nofun⟩,
      ⟨nofun, nofun⟩, fun _ => hsettles.settled⟩

/-- Over any events a media request stays lawful. -/
theorem Lawful.exec (h : exchange.Lawful maxBytes request timeouts gone began) (events : List ExchangeEvent) :
    (exchange.exec maxBytes events).Lawful maxBytes request timeouts gone began := by
  induction events generalizing exchange with
  | nil => exact h
  | cons event rest ih => exact ih (h.step event)

/-- A value that the client was told is one that was delivered. -/
theorem Lawful.told (h : exchange.Lawful maxBytes request timeouts gone began) {data : JsValue}
    (htold : .next data ∈ exchange.run.subscriber.sent) : exchange.run.execution.Delivered maxBytes := by
  obtain ⟨events, hrun, hdelivered⟩ := h.met
  have haccounted : exchange.run.Accounted events := by
    rw [hrun]
    exact (MediaRun.interceptMedia_accounted request timeouts gone began).exec events
  have hclosed : exchange.run.subscriber.closed = true := by
    by_contra hopen
    rw [haccounted.sent_nil (Bool.eq_false_iff.mpr hopen)] at htold
    exact List.not_mem_nil htold
  rcases Bool.eq_false_or_eq_true exchange.run.execution.clientDisconnected with hgone | hstayed
  · rcases (haccounted.gone hgone).1 with hnone | hleft
    · rw [hnone] at htold
      exact absurd htold List.not_mem_nil
    · rw [hleft] at htold
      cases List.mem_singleton.mp htold
  · obtain ⟨record, -, -, hsent⟩ := haccounted.stayed hclosed hstayed
    generalize exchange.run.subscriber.sent = sent at hsent htold
    cases hsent with
    | value hevent hsource =>
      rcases List.mem_cons.mp htold with hnext | hcomplete
      · cases hnext
        exact (hdelivered _ _ _ hevent).2
      · cases List.mem_singleton.mp hcomplete
    | completed hevent => cases List.mem_singleton.mp htold
    | failed hevent hstatus => cases List.mem_singleton.mp htold
    | timedOut reason first hstatus hsource => cases List.mem_singleton.mp htold

/-- What a media request gave back whose handler is done: all but a file whose removal failed, and was logged. -/
structure GivenBack (exchange : MediaExchange) : Prop where
  settled : exchange.run.settled = true
  timer : exchange.run.timer = false
  listening : exchange.run.listening = []
  sendTimer : exchange.sending.sendTimer = false
  preparationTimer : exchange.sending.preparationTimer = false
  providerTimer : exchange.sending.providerTimer = false
  source : exchange.sending.source = false
  temp : exchange.sending.temp = true → exchange.sending.cleanupFailed = true
  slot : exchange.sending.slot = false

/-- A lawful request whose handler is done gave everything back. -/
theorem Lawful.givenBack (h : exchange.Lawful maxBytes request timeouts gone began)
    (hdone : exchange.sending.phase.isDone = true) : exchange.GivenBack := by
  have hphase : exchange.sending.phase = .done := by
    cases hphase : exchange.sending.phase with
    | done => rfl
    | _ =>
      rw [hphase] at hdone
      cases hdone
  obtain ⟨events, haccounted⟩ := h.accounted
  obtain ⟨htimer, hlistening, -⟩ := haccounted.released (h.settled hdone)
  exact
    { settled := h.settled hdone
      timer := htimer
      listening := hlistening
      sendTimer := SendingState.flag_off h.sound.sendTimer (by rw [state, hphase]; rfl)
      preparationTimer := SendingState.flag_off h.sound.preparationTimer (by rw [state, hphase]; rfl)
      providerTimer := SendingState.flag_off h.sound.providerTimer (by rw [state, hphase]; rfl)
      source := SendingState.flag_off h.sound.source (by rw [state, hphase]; rfl)
      temp := fun htemp => h.filed.kept htemp (by
        by_contra hheld
        have hwaits := h.filed.held htemp (Bool.eq_false_of_not_eq_true hheld)
        rw [hphase] at hwaits
        cases hwaits)
      slot := h.sound.slot.trans (by rw [state, hphase]; rfl) }

/-- Only a removal that failed is logged. -/
theorem step_cleanupFailed {event : ExchangeEvent}
    (h : (exchange.step maxBytes event).sending.cleanupFailed = true) :
    exchange.sending.cleanupFailed = true ∨ event.removed = some false := by
  cases event with
  | connection event => exact .inl h
  | alarm timer =>
    rcases (exchange.state.alarm_file timer (.disposed true)).cleanupFailed h with hbefore | hremoved
    · exact .inl hbefore
    · cases hremoved
  | wake answer clock => exact (exchange.state.wake_file clock answer).cleanupFailed h
  | answer statusCode now =>
    left
    rw [step] at h
    split at h <;> exact h

/-- So a failure that was logged is one of the events. -/
theorem exec_cleanupFailed {events : List ExchangeEvent}
    (h : (exchange.exec maxBytes events).sending.cleanupFailed = true) :
    exchange.sending.cleanupFailed = true ∨ ∃ event ∈ events, event.removed = some false := by
  induction events generalizing exchange with
  | nil => exact .inl h
  | cons event rest ih =>
    rcases ih h with hbefore | ⟨later, hlater, hfailed⟩
    · rcases step_cleanupFailed hbefore with hstart | hnow
      · exact .inl hstart
      · exact .inr ⟨event, List.mem_cons_self, hnow⟩
    · exact .inr ⟨later, List.mem_cons_of_mem _ hlater, hfailed⟩

/-- What the call reports is what the breaker records of one with that reply. -/
theorem replied_reports (hcalling : exchange.sending.phase = .calling) (clock : SendingClock) (statusCode : ℕ)
    (reply : ProviderReply) : ∃ settled : Settlement, settled.reply = reply ∧
      settled.stopped = exchange.run.execution.reason.map MediaStopReason.toStopReason ∧
      (exchange.step maxBytes (.wake (.replied statusCode reply) clock)).sending.reported =
        settleMedia exchange.sending.reason.val.toStopReason settled := by
  have hwake : exchange.state.wake maxBytes clock (.replied statusCode reply) =
      exchange.state.onReplied clock statusCode reply := by
    unfold SendingState.wake
    rw [state, hcalling]
  rw [step, hwake]
  exact onReplied_reports exchange.state clock statusCode reply

end MediaExchange

end Exchanges

/-- Whatever happens to a media request, to its connection, its timers and what its handler waits for, and in whatever
order: the interceptor meets nothing but the events of a handler, the provider is called at most once and only with
a file that was written whole, a value that the client is told was delivered, what a call reports is what the breaker
records of it, and a handler that is done has left a settled request, and no timer, listener, source or slot, nor a
file but one whose removal failed. -/
theorem media_exchange_lawful (maxBytes : ℕ) (request : MediaRequestInfo) (timeouts : MediaTimeouts) (gone : Bool)
    (began : ℚ) (events : List ExchangeEvent) :
    let exchange := (MediaExchange.start request timeouts gone began).exec maxBytes events
    exchange.Lawful maxBytes request timeouts gone began ∧
      (∀ data, .next data ∈ exchange.run.subscriber.sent → exchange.run.execution.Delivered maxBytes) ∧
      (exchange.sending.phase = .calling → ∀ clock statusCode reply, ∃ settled : Settlement,
        settled.reply = reply ∧ settled.stopped = exchange.run.execution.reason.map MediaStopReason.toStopReason ∧
          (exchange.step maxBytes (.wake (.replied statusCode reply) clock)).sending.reported =
            settleMedia exchange.sending.reason.val.toStopReason settled) ∧
      (exchange.sending.phase.isDone = true → exchange.GivenBack) ∧
      (exchange.sending.cleanupFailed = true → ∃ event ∈ events, event.removed = some false) := by
  intro exchange
  have hlawful : exchange.Lawful maxBytes request timeouts gone began :=
    (MediaExchange.start_lawful maxBytes request timeouts gone began).exec events
  refine ⟨hlawful, fun _ htold => hlawful.told htold, fun hcalling => MediaExchange.replied_reports hcalling,
    fun hdone => hlawful.givenBack hdone, fun hfailed => ?_⟩
  rcases MediaExchange.exec_cleanupFailed hfailed with hstart | hevent
  · unfold MediaExchange.start at hstart
    cases gone <;> cases hstart
  · exact hevent

end ConnectHub
