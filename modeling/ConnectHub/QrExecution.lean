import ConnectHub.AuditBuffer
import ConnectHub.Draft
import ConnectHub.EvolutionHttp
import ConnectHub.MediaExecution

/-!
# The execution of a QR request

A request that connects or creates an instance runs under a budget of its own, with the audit inside. The first
outcome of the request stays, whatever happens afterwards: it is what the record says that is written at the end of
the subscription, and what the audit says that is written at the end of the handler.
-/

namespace ConnectHub

open Store

section Context

/-- The text of a reason. -/
def QrStopReason.text : QrStopReason → String
  | .requestTimeout => "request_timeout"
  | .providerTimeout => "provider_timeout"
  | .clientDisconnected => "client_disconnected"

/-- Where a QR request failed, if it was not stopped. -/
inductive QrFailureSource
  | upstreamHttp | transportError | circuitOpen
deriving DecidableEq, Repr

/-- The text of a failure. -/
def QrFailureSource.text : QrFailureSource → String
  | .upstreamHttp => "upstream_http"
  | .transportError => "transport_error"
  | .circuitOpen => "circuit_open"

/-- What a QR request asks of the provider. -/
inductive QrOperation
  | lookup | create | connect | webhook | proxy | delete
deriving DecidableEq, Repr

/-- How a request comes out. -/
structure QrOutcome where
  statusCode : ℕ
  source : String
deriving DecidableEq, Repr

/-- The execution of a QR request. Times are milliseconds since it began. -/
structure QrExecution extends Deadline QrStopReason where
  providerTimeoutMs : ℤ
  outcome : Option QrOutcome := none
  failureSource : Option QrFailureSource := none
  providerId : Option String := none
  instanceId : Option String := none
  productId : Option String := none
  calls : ℕ := 0
  lastOperation : Option QrOperation := none
  callTimeoutMs : Option ℤ := none
deriving DecidableEq, Repr

namespace QrExecution

variable (execution : QrExecution)

/-- Change the deadline only. -/
def withDeadline (deadline : Deadline QrStopReason) : QrExecution := { execution with toDeadline := deadline }

/-- Stop the execution. -/
def abort (reason : QrStopReason) : QrExecution := execution.withDeadline (execution.toDeadline.abort reason)

/-- Whether the execution may go on. -/
def assertActive (elapsed : ℚ) : QrExecution × Except QrStopReason Unit :=
  let checked := execution.toDeadline.assertActive .requestTimeout elapsed
  (execution.withDeadline checked.1, checked.2)

/-- The time that a call is granted. -/
def callTimeout (limitMs : ℤ) (checkedAt readAt : ℚ) : QrExecution × Except QrStopReason ℤ :=
  let granted := execution.toDeadline.callTimeout .requestTimeout limitMs checkedAt readAt
  (execution.withDeadline granted.1, granted.2)

/-- Note how the request comes out, unless that was noted before. -/
def finish (statusCode : ℕ) (source : String) : QrExecution :=
  { execution with
    outcome := execution.outcome.or (some ⟨statusCode, (execution.reason.map QrStopReason.text).getD source⟩) }

end QrExecution

/-- What a handler notes in the execution it is given. -/
inductive QrNote
  | failureSource (source : Option QrFailureSource)
  | providerId (id : Option String)
  | instanceId (id : Option String)
  | productId (id : Option String)
  | call (operation : QrOperation) (timeoutMs : ℤ)
deriving DecidableEq, Repr

/-- Note something in an execution. -/
def QrNote.apply (execution : QrExecution) : QrNote → QrExecution
  | .failureSource source => { execution with failureSource := source }
  | .providerId id => { execution with providerId := id }
  | .instanceId id => { execution with instanceId := id }
  | .productId id => { execution with productId := id }
  | .call operation timeoutMs =>
    { execution with calls := execution.calls + 1, lastOperation := some operation, callTimeoutMs := some timeoutMs }

/-- Why a handler may stop its execution: a time is over. -/
abbrev QrTimeoutReason := { reason : QrStopReason // reason ≠ .clientDisconnected }

/-- What a handler does with the execution it is given. -/
inductive QrHandlerOperation
  | abort (reason : QrTimeoutReason)
  | assertActive (elapsed : ℚ)
  | callTimeout (limitMs : ℤ) (checkedAt readAt : ℚ)
  | note (noted : QrNote)
deriving DecidableEq, Repr

/-- What becomes of an execution. -/
def QrHandlerOperation.apply (execution : QrExecution) : QrHandlerOperation → QrExecution
  | .abort reason => execution.abort reason.val
  | .assertActive elapsed => (execution.assertActive elapsed).1
  | .callTimeout limitMs checkedAt readAt => (execution.callTimeout limitMs checkedAt readAt).1
  | .note noted => noted.apply execution

end Context

section Interceptor

/-- The times that are configured for requests. -/
structure QrTimeouts where
  request : ℤ := 60000
  provider : ℤ := 50000
  proxy : ℤ := 15000
deriving DecidableEq, Repr

/-- A new execution, of a request for a QR code or of another one that creates an instance. -/
def newQrExecution (timeouts : QrTimeouts) (qr : Bool) : QrExecution :=
  if qr then
    { timeoutMs := timeouts.request, finishMarginMs := qrFinishMarginMs, providerTimeoutMs := timeouts.provider }
  else
    { timeoutMs := timeouts.proxy, finishMarginMs := (min 1000 (timeouts.proxy / 10) : ℤ),
      providerTimeoutMs := timeouts.proxy }

/-- What the handler of a QR request fails with. -/
abbrev QrHandlerError := RequestError QrStopReason

/-- The request as its record and the audit name it. -/
structure QrRequestInfo where
  requestId : String
  route : Option String
  product : Option String
  url : String
  method : String
  origin : Option String
  ip : String
deriving DecidableEq, Repr

/-- The record of a request. -/
structure QrRecord where
  event : String
  requestId : String
  route : Option String
  profile : String
  durationMs : ℤ
  timeoutMs : ℚ
  providerTimeoutMs : ℤ
  lastOperation : Option QrOperation
  callTimeoutMs : Option ℤ
  calls : ℕ
  productId : Option String
  providerId : Option String
  instanceId : Option String
  outcome : Option QrOutcome
deriving DecidableEq, Repr

/-- The readings of the clocks in a turn: milliseconds since the request began, and the date. -/
structure QrReading where
  elapsed : ℚ
  date : ℤ
deriving DecidableEq, Repr

/-- A request under the interceptor: its execution, when its handler was started, whether its timer is set, what is
still listened to, whether the handler is subscribed to, whether that subscription has returned, what the client was
told, the records written, and what was audited. -/
structure QrRun (α : Type) where
  request : QrRequestInfo
  qr : Bool
  execution : QrExecution
  handledAt : Option ℤ := none
  timer : Bool := true
  listening : List HttpEnd := [.aborted, .close]
  subscribed : Bool := false
  returned : Bool := false
  subscriber : Subscriber α QrHandlerError := {}
  records : List QrRecord := []
  audited : List AuditEntry := []
deriving DecidableEq, Repr

namespace QrRun

variable {α : Type} (run : QrRun α)

/-- The record of a request. -/
def record (reading : QrReading) : QrRecord where
  event := if run.qr then "qr_request_finished" else "instance_request_finished"
  requestId := run.request.requestId
  route := run.request.route
  profile := if run.qr then "qr" else "create"
  durationMs := roundMs reading.elapsed
  timeoutMs := run.execution.timeoutMs
  providerTimeoutMs := run.execution.providerTimeoutMs
  lastOperation := run.execution.lastOperation
  callTimeoutMs := run.execution.callTimeoutMs
  calls := run.execution.calls
  productId := run.execution.productId
  providerId := run.execution.providerId
  instanceId := run.execution.instanceId
  outcome := run.execution.outcome

/-- What is audited of a request with a product that came out. -/
def auditEntry (outcome : QrOutcome) (product : String) (reading : QrReading) : AuditEntry where
  productId := product
  instanceId := run.execution.instanceId
  endpoint := run.request.url
  method := run.request.method
  statusCode := outcome.statusCode
  latencyMs := reading.date - run.handledAt.getD reading.date
  origin := run.request.origin
  ip := run.request.ip
  errorMsg := if outcome.source = "success" then none else some outcome.source

/-- What is audited at the end of the handler. -/
def audit (reading : QrReading) : List AuditEntry :=
  match run.execution.outcome, run.request.product with
  | some outcome, some product => [run.auditEntry outcome product reading]
  | _, _ => []

/-- End the subscription to the handler, if there is one. -/
def closeInner (reading : QrReading) : QrRun α :=
  if run.subscribed then { run with subscribed := false, audited := run.audited ++ run.audit reading } else run

/-- What is done when the subscriber is closed. -/
def tearDown (reading : QrReading) : QrRun α :=
  let deaf := { run with timer := false, listening := [] }
  let ended := if deaf.returned then deaf.closeInner reading else deaf
  { ended with records := ended.records ++ [ended.record reading] }

/-- What closing the subscriber leaves. -/
def closed (reading : QrReading) (closing : Subscriber α QrHandlerError × Bool) : QrRun α :=
  let changed := { run with subscriber := closing.1 }
  if closing.2 then changed.tearDown reading else changed

/-- A request fails. -/
def fail (error : QrHandlerError) (reading : QrReading) : QrRun α :=
  let finished := { run with
    execution := run.execution.finish
      (if run.execution.reason = some QrStopReason.clientDisconnected then 499 else error.status)
      ((run.execution.failureSource.map QrFailureSource.text).getD "error") }
  finished.closed reading (finished.subscriber.error error)

/-- The client is gone. -/
def abandon (reading : QrReading) : QrRun α :=
  ({ run with execution := run.execution.abort .clientDisconnected }).fail (.timeout .clientDisconnected) reading

/-- The connection is closed, after all of the answer was written or before. -/
def onClose (writableFinished : Bool) (reading : QrReading) : QrRun α :=
  if writableFinished then run else run.abandon reading

/-- The time of the request is over. -/
def onTimeout (reading : QrReading) : QrRun α :=
  ({ run with timer := false, execution := run.execution.abort .requestTimeout }).fail
    (.timeout .requestTimeout) reading

/-- The handler gives a value. -/
def onNext (value : α) (statusCode : ℕ) (reading : QrReading) : QrRun α :=
  let checked := run.execution.assertActive reading.elapsed
  let active := { run with execution := checked.1 }
  match checked.2 with
  | .error reason => active.fail (.timeout reason) reading
  | .ok () =>
    { active with
      execution := active.execution.finish statusCode "success"
      subscriber := active.subscriber.next value }

/-- Something happens to a request. -/
inductive Event (α : Type)
  | handler (operation : QrHandlerOperation)
  | next (value : α) (statusCode : ℕ) (reading : QrReading)
  | error (error : QrHandlerError) (reading : QrReading)
  | complete (reading : QrReading)
  | returned (reading : QrReading)
  | timeout (reading : QrReading)
  | aborted (reading : QrReading)
  | close (writableFinished : Bool) (reading : QrReading)
  | unsubscribe (reading : QrReading)

/-- What happens to a request. A handler that is not subscribed to is not heard, and nothing else is heard before
the subscription has returned. A listener is called once. -/
def step (run : QrRun α) : Event α → QrRun α
  | .handler operation => { run with execution := operation.apply run.execution }
  | .next value statusCode reading => if run.subscribed then run.onNext value statusCode reading else run
  | .error error reading => if run.subscribed then (run.fail error reading).closeInner reading else run
  | .complete reading =>
    if run.subscribed then (run.closed reading run.subscriber.complete).closeInner reading else run
  | .returned reading =>
    if run.returned then run
    else
      let back := { run with returned := true }
      back.closed reading back.subscriber.add
  | .timeout reading => if run.returned && run.timer then run.onTimeout reading else run
  | .aborted reading =>
    if run.returned && run.listening.contains .aborted then
      ({ run with listening := run.listening.erase .aborted }).abandon reading
    else run
  | .close writableFinished reading =>
    if run.returned && run.listening.contains .close then
      ({ run with listening := run.listening.erase .close }).onClose writableFinished reading
    else run
  | .unsubscribe reading => if run.returned then run.closed reading run.subscriber.unsubscribe else run

/-- What one event after another does. -/
def exec (run : QrRun α) (events : List (Event α)) : QrRun α := events.foldl step run

/-- A request as it is subscribed to: it is over if the client is gone, and else its handler is started. -/
def interceptQr (request : QrRequestInfo) (timeouts : QrTimeouts) (qr gone : Bool) (reading : QrReading) : QrRun α :=
  let run : QrRun α := { request, qr, execution := newQrExecution timeouts qr }
  if gone then run.abandon reading else { run with subscribed := true, handledAt := some reading.date }

end QrRun

end Interceptor

end ConnectHub
