import ConnectHub.Batch
import ConnectHub.MediaAdmission
import ConnectHub.MediaSource
import ConnectHub.Store.Deadline
import ConnectHub.Store.Subscriber

/-!
# The execution of a media request

A media request runs under a deadline of its own. A client that disconnects stops it as long as nothing was sent
to the provider; afterwards the answer of the provider is still awaited, until the deadline, because the message
may have been delivered. The interceptor listens to the connection and to the handler, answers the client once,
and writes one record of how the request came out, whatever order all this happens in.
-/

namespace ConnectHub

open Store

section Context

/-- How much of a media request is kept back for its end. -/
def mediaFinishMarginMs : ℚ := 30000

/-- Where a media request failed, if it was not stopped. -/
inductive MediaFailureSource
  | upstreamHttp | transportError | circuitOpen | preparationError | sizeLimit
deriving DecidableEq, Repr

/-- The text of a failure. -/
def MediaFailureSource.text : MediaFailureSource → String
  | .upstreamHttp => "upstream_http"
  | .transportError => "transport_error"
  | .circuitOpen => "circuit_open"
  | .preparationError => "preparation_error"
  | .sizeLimit => "size_limit"

/-- The execution of a media request. Times are milliseconds since it began. -/
structure MediaRequestContext extends Deadline MediaStopReason where
  providerTimeoutMs : ℤ
  downloadTimeoutMs : ℤ
  clientDisconnected : Bool := false
  providerStarted : Bool := false
  calls : ℕ := 0
  callTimeoutMs : Option ℤ := none
  upstreamStatusCode : Option ℕ := none
  failureSource : Option MediaFailureSource := none
  mediaBytes : Option ℕ := none
  preparationMs : Option ℤ := none
  providerMs : Option ℤ := none
  preparationStartedAt : Option ℚ := none
  providerStartedAt : Option ℚ := none
  mediaSource : SourceDiagnostics := {}
deriving DecidableEq, Repr

/-- The times that are configured for media requests. -/
structure MediaTimeouts where
  request : ℤ := 900000
  provider : ℤ := 600000
  download : ℤ := 240000
deriving DecidableEq, Repr

/-- A new execution. -/
def newMediaExecution (timeouts : MediaTimeouts) : MediaRequestContext where
  timeoutMs := timeouts.request
  finishMarginMs := mediaFinishMarginMs
  providerTimeoutMs := timeouts.provider
  downloadTimeoutMs := timeouts.download

/-- Round to the nearest whole number, halves upwards. -/
def roundMs (ms : ℚ) : ℤ := (ms + 1 / 2).floor

namespace MediaRequestContext

variable (execution : MediaRequestContext)

/-- Change the deadline only. -/
def withDeadline (deadline : Deadline MediaStopReason) : MediaRequestContext :=
  { execution with toDeadline := deadline }

/-- Stop the execution. -/
def abort (reason : MediaStopReason) : MediaRequestContext :=
  execution.withDeadline (execution.toDeadline.abort reason)

/-- The client is gone, which stops an execution that has sent nothing. -/
def disconnect : MediaRequestContext :=
  let gone := { execution with clientDisconnected := true }
  if !gone.providerStarted then gone.abort .clientDisconnected else gone

/-- Whether the execution may go on. -/
def assertActive (elapsed : ℚ) : MediaRequestContext × Except MediaStopReason Unit :=
  let checked := execution.toDeadline.assertActive .requestTimeout elapsed
  (execution.withDeadline checked.1, checked.2)

/-- The time that a call is granted. -/
def callTimeout (limitMs : ℤ) (checkedAt readAt : ℚ) : MediaRequestContext × Except MediaStopReason ℤ :=
  let granted := execution.toDeadline.callTimeout .requestTimeout limitMs checkedAt readAt
  (execution.withDeadline granted.1, granted.2)

/-- The time that the call to the provider is granted, which from then on counts as sent. -/
def startProviderCall (checkedAt readAt startedAt : ℚ) : MediaRequestContext × Except MediaStopReason ℤ :=
  match execution.callTimeout execution.providerTimeoutMs checkedAt readAt with
  | (stopped, .error reason) => (stopped, .error reason)
  | (active, .ok timeoutMs) =>
    ({ active with providerStarted := true
                   providerStartedAt := some startedAt
                   calls := active.calls + 1
                   callTimeoutMs := some timeoutMs }, .ok timeoutMs)

end MediaRequestContext

/-- What a handler notes in the execution it is given. -/
inductive MediaNote
  | failureSource (source : MediaFailureSource)
  | upstreamStatusCode (statusCode : ℕ)
  | mediaBytes (bytes : ℕ)
  | preparationStartedAt (startedAt : ℚ)
  | preparationMs (ms : ℤ)
  | providerMs (ms : ℤ)
  | mediaSource (diagnostics : SourceDiagnostics)
deriving DecidableEq, Repr

/-- Note something in an execution. -/
def MediaNote.apply (execution : MediaRequestContext) : MediaNote → MediaRequestContext
  | .failureSource source => { execution with failureSource := some source }
  | .upstreamStatusCode statusCode => { execution with upstreamStatusCode := some statusCode }
  | .mediaBytes bytes => { execution with mediaBytes := some bytes }
  | .preparationStartedAt startedAt => { execution with preparationStartedAt := some startedAt }
  | .preparationMs ms => { execution with preparationMs := some ms }
  | .providerMs ms => { execution with providerMs := some ms }
  | .mediaSource diagnostics => { execution with mediaSource := diagnostics }

/-- Why a handler may stop its execution: a time is over. -/
abbrev MediaTimeoutReason := { reason : MediaStopReason // reason ≠ .clientDisconnected }

/-- The time of the request is over. -/
def requestTimeoutReason : MediaTimeoutReason := ⟨.requestTimeout, by decide⟩

/-- The time of the call to the provider is over. -/
def providerTimeoutReason : MediaTimeoutReason := ⟨.providerTimeout, by decide⟩

/-- The time of the preparation is over. -/
def downloadTimeoutReason : MediaTimeoutReason := ⟨.downloadTimeout, by decide⟩

/-- What a handler does with the execution it is given. -/
inductive MediaOperation
  | abort (reason : MediaTimeoutReason)
  | assertActive (elapsed : ℚ)
  | callTimeout (limitMs : ℤ) (checkedAt readAt : ℚ)
  | startProviderCall (checkedAt readAt startedAt : ℚ)
  | note (noted : MediaNote)
deriving DecidableEq, Repr

/-- What becomes of an execution. -/
def MediaOperation.apply (execution : MediaRequestContext) : MediaOperation → MediaRequestContext
  | .abort reason => execution.abort reason.val
  | .assertActive elapsed => (execution.assertActive elapsed).1
  | .callTimeout limitMs checkedAt readAt => (execution.callTimeout limitMs checkedAt readAt).1
  | .startProviderCall checkedAt readAt startedAt => (execution.startProviderCall checkedAt readAt startedAt).1
  | .note noted => noted.apply execution

/-- What is told about an execution. -/
structure MediaDiagnostics where
  mediaBytes : Option ℕ
  preparationMs : Option ℤ
  providerMs : Option ℤ
  providerTimeoutMs : ℤ
  callTimeoutMs : Option ℤ
  calls : ℕ
  sourceHost : Option String
  sourceStage : Option SourceStage
  sourceStatusCode : Option ℕ
  sourceErrorCode : Option String
deriving DecidableEq, Repr

/-- What is told about an execution at some time. -/
def MediaRequestContext.diagnostics (execution : MediaRequestContext) (now : ℚ) : MediaDiagnostics where
  mediaBytes := execution.mediaBytes
  preparationMs := execution.preparationMs.or (execution.preparationStartedAt.map fun began => roundMs (now - began))
  providerMs := execution.providerMs.or (execution.providerStartedAt.map fun began => roundMs (now - began))
  providerTimeoutMs := execution.providerTimeoutMs
  callTimeoutMs := execution.callTimeoutMs
  calls := execution.calls
  sourceHost := execution.mediaSource.host
  sourceStage := execution.mediaSource.stage
  sourceStatusCode := execution.mediaSource.statusCode
  sourceErrorCode := execution.mediaSource.errorCode

end Context

section Interceptor

/-- What a handler fails with whose execution is stopped for such reasons. -/
inductive RequestError (ρ : Type)
  | timeout (reason : ρ)
  | http (status : ℕ)
  | other
deriving DecidableEq, Repr

/-- The status of a failure. -/
def RequestError.status {ρ : Type} : RequestError ρ → ℕ
  | .timeout _ => 408
  | .http status => status
  | .other => 500

/-- What the handler of a media request fails with. -/
abbrev HandlerError := RequestError MediaStopReason

/-- The request as its record names it. -/
structure MediaRequestInfo where
  requestId : String
  route : Option String
deriving DecidableEq, Repr

/-- The record of a request. -/
structure MediaRequestRecord where
  event : String := "media_request_finished"
  level : String
  requestId : String
  route : Option String
  durationMs : ℤ
  timeoutMs : ℚ
  diagnostics : MediaDiagnostics
  statusCode : ℕ
  upstreamStatusCode : Option ℕ
  clientDisconnected : Bool
  source : String
deriving DecidableEq, Repr

/-- A request under the interceptor: its execution, whether it is settled, whether its timer is set, what is still
listened to, whether the handler is subscribed to, whether that subscription has returned, what the client was
told, and the records written. -/
structure MediaRun (α : Type) where
  request : MediaRequestInfo
  execution : MediaRequestContext
  settled : Bool := false
  timer : Bool := true
  listening : List HttpEnd := [.aborted, .close]
  subscribed : Bool := false
  returned : Bool := false
  subscriber : Subscriber α HandlerError := {}
  records : List MediaRequestRecord := []
deriving DecidableEq, Repr

namespace MediaRun

variable {α : Type} (run : MediaRun α)

/-- The record of a request that comes out with a status and from a source. -/
def record (statusCode : ℕ) (source : String) (now : ℚ) : MediaRequestRecord :=
  let effectiveStatus := if run.execution.clientDisconnected then 499 else statusCode
  { level := if effectiveStatus ≥ 400 then "ERROR" else "INFO"
    requestId := run.request.requestId
    route := run.request.route
    durationMs := roundMs now
    timeoutMs := run.execution.timeoutMs
    diagnostics := run.execution.diagnostics now
    statusCode := effectiveStatus
    upstreamStatusCode := run.execution.upstreamStatusCode
    clientDisconnected := run.execution.clientDisconnected
    source := (run.execution.reason.map MediaStopReason.text).getD source }

/-- Settle a request, once. -/
def finish (statusCode : ℕ) (source : String) (now : ℚ) : MediaRun α :=
  if run.settled then run
  else { run with settled := true, timer := false, listening := [],
                  records := run.records ++ [run.record statusCode source now] }

/-- End the subscription to the handler, if it has returned. -/
def unsubscribeInner : MediaRun α := if run.returned then { run with subscribed := false } else run

/-- What is done when the subscriber is closed. -/
def tearDown (now : ℚ) : MediaRun α :=
  let deaf := { run with listening := [] }
  if deaf.settled then deaf.unsubscribeInner
  else
    let gone := { deaf with execution := deaf.execution.disconnect }
    if !gone.execution.providerStarted then (gone.finish 499 "client_disconnected" now).unsubscribeInner else gone

/-- What closing the subscriber leaves. -/
def closed (now : ℚ) (closing : Subscriber α HandlerError × Bool) : MediaRun α :=
  let changed := { run with subscriber := closing.1 }
  if closing.2 then changed.tearDown now else changed

/-- Settle a request that failed, and tell the client. -/
def fail (error : HandlerError) (now : ℚ) : MediaRun α :=
  if run.settled then run
  else
    let finished := run.finish error.status ((run.execution.failureSource.map MediaFailureSource.text).getD "error") now
    finished.closed now (finished.subscriber.error error)

/-- The client is gone. -/
def abandon (now : ℚ) : MediaRun α :=
  if run.settled then run
  else
    let gone := { run with execution := run.execution.disconnect }
    let error : HandlerError := .timeout .clientDisconnected
    if !gone.execution.providerStarted then gone.fail error now
    else gone.closed now (gone.subscriber.error error)

/-- The connection is closed, after all of the answer was written or before. -/
def onClose (writableFinished : Bool) (now : ℚ) : MediaRun α := if writableFinished then run else run.abandon now

/-- The time of the request is over. -/
def onTimeout (now : ℚ) : MediaRun α :=
  let stopped := { run with timer := false, execution := run.execution.abort .requestTimeout }
  (stopped.fail (.timeout .requestTimeout) now).unsubscribeInner

/-- The handler gives a value. -/
def onNext (value : α) (statusCode : ℕ) (now : ℚ) : MediaRun α :=
  if run.settled then run
  else
    let checked := run.execution.assertActive now
    let active := { run with execution := checked.1 }
    match checked.2 with
    | .error reason => active.fail (.timeout reason) now
    | .ok () =>
      let finished := active.finish statusCode "upstream_success" now
      let told := { finished with subscriber := finished.subscriber.next value }
      told.closed now told.subscriber.complete

/-- The handler completes. -/
def onComplete (statusCode : ℕ) (now : ℚ) : MediaRun α :=
  let finished := if !run.settled then run.finish statusCode "completed" now else run
  finished.closed now finished.subscriber.complete

/-- Something happens to a request: its handler does something with the execution, gives a value, fails or
completes; the subscription returns; the timer fires, the connection is aborted or closed, or the answer is no
longer wanted. Each has the time, and the status of the reply where that is read. -/
inductive Event (α : Type)
  | handler (operation : MediaOperation)
  | next (value : α) (statusCode : ℕ) (now : ℚ)
  | error (error : HandlerError) (now : ℚ)
  | complete (statusCode : ℕ) (now : ℚ)
  | returned (now : ℚ)
  | timeout (now : ℚ)
  | aborted (now : ℚ)
  | close (writableFinished : Bool) (now : ℚ)
  | unsubscribe (now : ℚ)

/-- What happens to a request. A handler that is not subscribed to is not heard, and nothing else is heard before
the subscription has returned. A listener is called once. -/
def step (run : MediaRun α) : Event α → MediaRun α
  | .handler operation => { run with execution := operation.apply run.execution }
  | .next value statusCode now => if run.subscribed then run.onNext value statusCode now else run
  | .error error now => if run.subscribed then ({ run with subscribed := false }).fail error now else run
  | .complete statusCode now =>
    if run.subscribed then ({ run with subscribed := false }).onComplete statusCode now else run
  | .returned now =>
    if run.returned then run
    else
      let back := { run with returned := true }
      back.closed now back.subscriber.add
  | .timeout now => if run.returned && run.timer then run.onTimeout now else run
  | .aborted now =>
    if run.returned && run.listening.contains .aborted then
      ({ run with listening := run.listening.erase .aborted }).abandon now
    else run
  | .close writableFinished now =>
    if run.returned && run.listening.contains .close then
      ({ run with listening := run.listening.erase .close }).onClose writableFinished now
    else run
  | .unsubscribe now => if run.returned then run.closed now run.subscriber.unsubscribe else run

/-- What one event after another does. -/
def exec (run : MediaRun α) (events : List (Event α)) : MediaRun α := events.foldl step run

/-- A request as it is subscribed to: it is over if the client is gone, and else its handler is started. -/
def interceptMedia (request : MediaRequestInfo) (timeouts : MediaTimeouts) (gone : Bool) (now : ℚ) : MediaRun α :=
  let run : MediaRun α := { request, execution := newMediaExecution timeouts }
  if gone then run.abandon now else { run with subscribed := true }

end MediaRun

end Interceptor

end ConnectHub
