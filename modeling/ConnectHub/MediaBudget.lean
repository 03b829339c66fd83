import ConnectHub.MediaExchange

/-!
# The time of a media request

The times that are configured for media requests leave room for a download and for a call to the provider before
the margin of a request begins. Every call ends before that margin, one that is asked for early enough has all of
its time, and a request that is stopped has no more time for anything and keeps its reason.
-/

namespace ConnectHub

open Store

section Configuration

/-- What times the configuration accepts. -/
def MediaTimeouts.Accepted (timeouts : MediaTimeouts) : Prop :=
  (0 < timeouts.request ∧ timeouts.request ≤ 2147483647) ∧ (0 < timeouts.provider ∧ timeouts.provider ≤ 2147483647) ∧
    (0 < timeouts.download ∧ timeouts.download ≤ 2147483647) ∧
    timeouts.download + timeouts.provider + 30000 ≤ timeouts.request

instance (timeouts : MediaTimeouts) : Decidable timeouts.Accepted :=
  inferInstanceAs (Decidable (_ ∧ _ ∧ _ ∧ _))

/-- The times that are configured by default are accepted. -/
example : ({} : MediaTimeouts).Accepted := by decide

end Configuration

section Budget

/-- What holds of the times of a request: they are the configured ones, and a call to the provider was granted no
more than its own. -/
structure MediaRequestContext.Budgeted (timeouts : MediaTimeouts) (execution : MediaRequestContext) : Prop where
  timeoutMs : execution.timeoutMs = timeouts.request
  finishMarginMs : execution.finishMarginMs = mediaFinishMarginMs
  providerTimeoutMs : execution.providerTimeoutMs = timeouts.provider
  downloadTimeoutMs : execution.downloadTimeoutMs = timeouts.download
  called : ∀ granted, execution.callTimeoutMs = some granted →
    granted ≤ timeouts.provider ∧ (1 ≤ timeouts.provider → 1 ≤ granted)

variable {timeouts : MediaTimeouts} {before after execution : MediaRequestContext}

/-- A new execution has the configured times. -/
theorem newMediaExecution_budgeted (timeouts : MediaTimeouts) : (newMediaExecution timeouts).Budgeted timeouts :=
  ⟨rfl, rfl, rfl, rfl, nofun⟩

/-- The margin of a request is not negative. -/
theorem mediaFinishMarginMs_nonneg : 0 ≤ mediaFinishMarginMs := by
  rw [mediaFinishMarginMs]
  norm_num

/-- What the interceptor does changes no times. -/
theorem MediaRequestContext.Budgeted.stays (h : before.Budgeted timeouts) (hstays : before.Stays after) :
    after.Budgeted timeouts where
  timeoutMs := hstays.deadline.timeoutMs.trans h.timeoutMs
  finishMarginMs := hstays.deadline.finishMarginMs.trans h.finishMarginMs
  providerTimeoutMs := hstays.providerTimeoutMs.trans h.providerTimeoutMs
  downloadTimeoutMs := hstays.downloadTimeoutMs.trans h.downloadTimeoutMs
  called granted hgranted := h.called granted (hstays.callTimeoutMs.symm.trans hgranted)

/-- What a call is granted. -/
theorem MediaRequestContext.Budgeted.grants (h : execution.Budgeted timeouts) {limitMs granted : ℤ}
    {checkedAt readAt : ℚ} (hgranted : (execution.callTimeout limitMs checkedAt readAt).2 = .ok granted) :
    execution.toDeadline.Grants limitMs readAt granted :=
  Deadline.callTimeout_grants (h.finishMarginMs ▸ mediaFinishMarginMs_nonneg) hgranted

/-- What a handler does changes no times, and its calls to the provider are granted no more than theirs. -/
theorem MediaRequestContext.Budgeted.apply (h : execution.Budgeted timeouts) (operation : MediaOperation) :
    (operation.apply execution).Budgeted timeouts := by
  cases operation with
  | abort reason => exact h.stays (execution.abort_stays reason.val)
  | assertActive elapsed => exact h.stays (execution.assertActive_stays elapsed)
  | callTimeout limitMs checkedAt readAt => exact h.stays (execution.callTimeout_stays limitMs checkedAt readAt)
  | startProviderCall checkedAt readAt startedAt =>
    rw [MediaOperation.apply]
    rcases execution.startProviderCall_eq checkedAt readAt startedAt with ⟨_, heq, -⟩ | ⟨granted, -, hgranted, heq⟩
    · rw [heq]
      exact h.stays (execution.callTimeout_stays _ _ _)
    · have hgrants := h.grants hgranted
      rw [heq]
      refine ⟨h.timeoutMs, h.finishMarginMs, h.providerTimeoutMs, h.downloadTimeoutMs, fun other hother => ?_⟩
      rw [← Option.some.inj hother, ← h.providerTimeoutMs]
      exact ⟨hgrants.limit, hgrants.positive⟩
  | note noted =>
    cases noted <;> exact ⟨h.timeoutMs, h.finishMarginMs, h.providerTimeoutMs, h.downloadTimeoutMs, h.called⟩

/-- A request that is stopped calls nothing more. -/
structure MediaRequestContext.Stopped (reason : MediaStopReason) (calls : ℕ) (execution : MediaRequestContext) :
    Prop where
  reason : execution.reason = some reason
  calls : execution.calls = calls

variable {reason : MediaStopReason} {calls : ℕ}

/-- What the interceptor does to a request that is stopped. -/
theorem MediaRequestContext.Stopped.stays (h : before.Stopped reason calls) (hstays : before.Stays after) :
    after.Stopped reason calls :=
  ⟨hstays.deadline.reason reason h.reason, hstays.calls.trans h.calls⟩

/-- What a handler does to a request that is stopped. -/
theorem MediaRequestContext.Stopped.apply (h : execution.Stopped reason calls) (operation : MediaOperation) :
    (operation.apply execution).Stopped reason calls := by
  cases operation with
  | abort reason => exact h.stays (execution.abort_stays reason.val)
  | assertActive elapsed => exact h.stays (execution.assertActive_stays elapsed)
  | callTimeout limitMs checkedAt readAt => exact h.stays (execution.callTimeout_stays limitMs checkedAt readAt)
  | startProviderCall checkedAt readAt startedAt =>
    rw [MediaOperation.apply]
    rcases execution.startProviderCall_eq checkedAt readAt startedAt with ⟨_, heq, -⟩ | ⟨_, hnone, -⟩
    · rw [heq]
      exact h.stays (execution.callTimeout_stays _ _ _)
    · rw [h.reason] at hnone
      cases hnone
  | note noted => cases noted <;> exact ⟨h.reason, h.calls⟩

/-- A request that is stopped is granted no more time. -/
theorem MediaRequestContext.Stopped.refused (h : execution.Stopped reason calls) (limitMs : ℤ)
    (checkedAt readAt : ℚ) : (execution.callTimeout limitMs checkedAt readAt).2 = .error reason :=
  congrArg Prod.snd (Deadline.callTimeout_of_some h.reason limitMs checkedAt readAt)

/-- A request that is going on is granted all the time that it asks for early enough. -/
theorem MediaRequestContext.Budgeted.full (h : execution.Budgeted timeouts) (hactive : execution.reason = none)
    {limitMs : ℤ} (hpositive : 0 < limitMs) {checkedAt readAt : ℚ} (hread : checkedAt ≤ readAt)
    (hearly : readAt + limitMs ≤ timeouts.request - mediaFinishMarginMs) :
    (execution.callTimeout limitMs checkedAt readAt).2 = .ok limitMs := by
  have hlimit : (0 : ℚ) < limitMs := Int.cast_pos.mpr hpositive
  have hmargin := mediaFinishMarginMs_nonneg
  refine Deadline.callTimeout_full hactive hpositive ?_ ?_
  · rw [h.timeoutMs]
    linarith
  · rw [h.timeoutMs, h.finishMarginMs]
    exact hearly

end Budget

section Runs

namespace MediaRun

variable {α : Type} {run : MediaRun α} {timeouts : MediaTimeouts} {reason : MediaStopReason} {calls : ℕ}

/-- What the interceptor and every operation of a handler keep, a request keeps. -/
theorem exec_keeps {P : MediaRequestContext → Prop} (hstays : ∀ {before after}, P before → before.Stays after → P after)
    (happly : ∀ {execution}, P execution → ∀ operation, P (MediaOperation.apply execution operation))
    (h : P run.execution) (events : List (Event α)) : P (run.exec events).execution := by
  induction events generalizing run with
  | nil => exact h
  | cons event rest ih =>
    refine @ih (run.step event) ?_
    cases hhandler : event.isHandler with
    | false => exact hstays h (run.step_stays hhandler)
    | true =>
      cases event with
      | handler operation => exact happly h operation
      | _ => cases hhandler

/-- A request as it is subscribed to has the configured times. -/
theorem interceptMedia_budgeted (request : MediaRequestInfo) (timeouts : MediaTimeouts) (gone : Bool) (began : ℚ) :
    (interceptMedia request timeouts gone began : MediaRun α).execution.Budgeted timeouts := by
  have hnew := newMediaExecution_budgeted timeouts
  unfold interceptMedia
  cases gone with
  | false => exact hnew
  | true =>
    exact hnew.stays (@abandon_stays α { request, execution := newMediaExecution timeouts } began)

end MediaRun

/-- After any events, a request with times that the configuration accepts has these times still. A call is granted no
more than its limit, and ends before the margin of the request. Unless the request is stopped, the preparation has all
of its time if it is asked for while there is room for it and for the call to the provider, as there is at first, and
the call to the provider has all of its time if there is room for it, as there is at the end of such a preparation. A
request that is stopped keeps its reason, is granted no more time, and calls the provider no more. -/
theorem media_request_times {α : Type} (request : MediaRequestInfo) (timeouts : MediaTimeouts)
    (haccepted : timeouts.Accepted) (gone : Bool) (began : ℚ) (events : List (MediaRun.Event α)) :
    let run : MediaRun α := (MediaRun.interceptMedia request timeouts gone began).exec events
    let latest : ℚ := timeouts.request - 30000 - timeouts.provider - timeouts.download
    run.execution.Budgeted timeouts ∧
      (∀ limitMs checkedAt readAt granted, (run.execution.callTimeout limitMs checkedAt readAt).2 = .ok granted →
        run.execution.reason = none ∧ granted ≤ limitMs ∧ readAt + granted ≤ timeouts.request - 30000) ∧
      (run.execution.reason = none → 0 ≤ latest ∧ ∀ checkedAt readAt, checkedAt ≤ readAt →
        (readAt ≤ latest → (run.execution.callTimeout timeouts.download checkedAt readAt).2 = .ok timeouts.download) ∧
        (readAt ≤ latest + timeouts.download → ∀ startedAt,
          (run.execution.startProviderCall checkedAt readAt startedAt).2 = .ok timeouts.provider)) ∧
      (∀ reason, run.execution.reason = some reason → ∀ more : List (MediaRun.Event α),
        (run.exec more).execution.Stopped reason run.execution.calls ∧
        ∀ limitMs checkedAt readAt,
          ((run.exec more).execution.callTimeout limitMs checkedAt readAt).2 = .error reason) := by
  intro run latest
  obtain ⟨-, ⟨hprovider, -⟩, ⟨hdownload, -⟩, hfits⟩ := haccepted
  have hbudgeted : run.execution.Budgeted timeouts := MediaRun.exec_keeps (fun h hstays => h.stays hstays)
    (fun h operation => h.apply operation) (MediaRun.interceptMedia_budgeted request timeouts gone began) events
  have hroom : (timeouts.download : ℚ) + timeouts.provider + 30000 ≤ timeouts.request := by exact_mod_cast hfits
  have hlatest : latest = timeouts.request - 30000 - timeouts.provider - timeouts.download := rfl
  have hpositive : (0 : ℚ) < timeouts.download := Int.cast_pos.mpr hdownload
  refine ⟨hbudgeted, fun limitMs checkedAt readAt granted hgranted => ?_,
    fun hactive => ⟨by linarith, fun checkedAt readAt hread => ⟨fun hearly => ?_, fun hearly startedAt => ?_⟩⟩,
    fun reason hreason more => ?_⟩
  · have hgrants := hbudgeted.grants hgranted
    have hwithin := hgrants.within
    rw [hbudgeted.timeoutMs, hbudgeted.finishMarginMs] at hwithin
    exact ⟨hgrants.active, hgrants.limit, hwithin⟩
  · have hprovided : (0 : ℚ) < timeouts.provider := Int.cast_pos.mpr hprovider
    refine hbudgeted.full hactive hdownload hread ?_
    rw [mediaFinishMarginMs]
    linarith
  · have hfull : (run.execution.callTimeout run.execution.providerTimeoutMs checkedAt readAt).2 =
        .ok timeouts.provider := by
      rw [hbudgeted.providerTimeoutMs]
      refine hbudgeted.full hactive hprovider hread ?_
      rw [mediaFinishMarginMs]
      linarith
    rcases run.execution.startProviderCall_eq checkedAt readAt startedAt with
      ⟨_, heq, hstopped⟩ | ⟨granted, -, hgranted, heq⟩
    · obtain ⟨hsame, -⟩ := Deadline.callTimeout_ok hfull
      rw [show (run.execution.callTimeout run.execution.providerTimeoutMs checkedAt readAt).1.reason = none from
        (congrArg Deadline.reason hsame).trans hactive] at hstopped
      cases hstopped
    · rw [heq]
      exact hgranted.symm.trans hfull
  · have hstopped : (run.exec more).execution.Stopped reason run.execution.calls :=
      MediaRun.exec_keeps (fun h hstays => h.stays hstays) (fun h operation => h.apply operation) ⟨hreason, rfl⟩ more
    exact ⟨hstopped, hstopped.refused⟩

/-- A handler whose preparation is granted its time and takes nearly all of it. -/
def smallPreparation : List (MediaRun.Event ℕ) :=
  [.returned 0, .handler (.assertActive 1), .handler (.note (.preparationStartedAt 2)),
    .handler (.callTimeout 240000 2 3), .handler (.note (.preparationMs 239997))]

/-- With the default times such a preparation is granted all of its time, the call to the provider that follows all of
its own, and after the end of the request a second call nothing. -/
theorem media_request_times_default :
    let begun : MediaRun ℕ := (MediaRun.interceptMedia ⟨"request", none⟩ {} false 0).exec (smallPreparation.take 3)
    let prepared : MediaRun ℕ := (MediaRun.interceptMedia ⟨"request", none⟩ {} false 0).exec smallPreparation
    let called := prepared.exec [.handler (.startProviderCall 240000 240001 240002)]
    let stopped := called.exec [.timeout 900000]
    (begun.execution.callTimeout 240000 2 3).2 = .ok 240000 ∧
      (prepared.execution.startProviderCall 240000 240001 240002).2 = .ok 600000 ∧
      (called.execution.Budgeted {} ∧ called.execution.callTimeoutMs = some 600000 ∧ called.execution.calls = 1) ∧
      (stopped.exec [.handler (.startProviderCall 900001 900002 900003)]).execution.Stopped .requestTimeout 1 := by
  intro begun prepared called stopped
  have hafter := fun events => media_request_times (α := ℕ) ⟨"request", none⟩ {} (by decide) false 0 events
  have hbegun := ((hafter (smallPreparation.take 3)).2.2.1 (by decide +kernel)).2 2 3 (by norm_num)
  have hprepared := ((hafter smallPreparation).2.2.1 (by decide +kernel)).2 240000 240001 (by norm_num)
  have hcalled := hafter (smallPreparation ++ [.handler (.startProviderCall 240000 240001 240002)])
  have hstopped := hafter (smallPreparation ++ [.handler (.startProviderCall 240000 240001 240002), .timeout 900000])
  refine ⟨hbegun.1 (by norm_num), hprepared.2 (by norm_num) 240002, ⟨hcalled.1, ?_, ?_⟩, ?_⟩
  · decide +kernel
  · decide +kernel
  · have hagain := (hstopped.2.2.2 .requestTimeout (by decide +kernel)
      [.handler (.startProviderCall 900001 900002 900003)]).1
    exact ⟨hagain.reason, hagain.calls.trans (by decide +kernel)⟩

end Runs

end ConnectHub
