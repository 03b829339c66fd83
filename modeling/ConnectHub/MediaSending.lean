import ConnectHub.CircuitCalls
import ConnectHub.MediaLifecycle

/-!
# Sending media

The handler of a media request looks up the instance, prepares the media in a file, calls the provider with it and
disposes of the file, under timers of its own. Every wait is an event at which it goes on, with the connection, the
timers and the deadline in between. Whatever they do, the provider is called at most once, only by an execution
that is going on and only with a file that was written whole, and the handler leaves no timer and no slot, and no file
but one whose removal failed, which is logged.
-/

namespace ConnectHub

open Store

section Handler

/-- Why the preparation of media fails. -/
inductive PreparationError
  | tooLarge
  | http (status : ℕ)
  | stopped (reason : MediaStopReason)
  | code (name : String)
  | other
deriving DecidableEq, Repr

/-- Where a failed preparation failed. -/
def PreparationError.failureSource : PreparationError → MediaFailureSource
  | .tooLarge => .sizeLimit
  | _ => .preparationError

/-- The codes of a storage that is not available. -/
def storageCodes : List String := ["ENOSPC", "EACCES", "EROFS", "EMFILE"]

/-- What a failed preparation fails with. -/
def PreparationError.thrown : PreparationError → HandlerError
  | .tooLarge => .http 413
  | .http status => .http status
  | .stopped reason => .timeout reason
  | .code name => if storageCodes.contains name then .http 503 else .http 502
  | .other => .http 502

/-- What the handler waits for: the instance, the source, the file, the bytes in it, its removal after a failure, the
turn at which the provider is called, its reply, the removal of the file, and the turn at which the result is
given. -/
inductive SendingPhase
  | lookup | opening | creating | writing
  | discarding (error : PreparationError)
  | prepared | calling
  | disposing (result : Except HandlerError JsValue)
  | answering (result : Except HandlerError JsValue)
  | done

/-- The handler: what it waits for, its timers, whether its source and its file are there, whether its file was disposed
of and its removal was logged as failed, whether it holds its slot, the reason and the deadline of the step under way
and when that began, and what it reported to the breaker. -/
structure MediaSending where
  phase : SendingPhase := .lookup
  sendTimer : Bool := false
  preparationTimer : Bool := false
  providerTimer : Bool := false
  source : Bool := false
  temp : Bool := false
  disposed : Bool := false
  cleanupFailed : Bool := false
  slot : Bool := true
  reason : MediaTimeoutReason := requestTimeoutReason
  deadlineAt : ℚ := 0
  startedAt : ℚ := 0
  reported : Option CallVerdict := none

/-- Dispose of the file, once: a removal that fails leaves it there, and is logged. -/
def MediaSending.dispose (sending : MediaSending) (removed : Bool) : MediaSending :=
  if sending.temp && !sending.disposed then
    { sending with temp := !removed, disposed := true, cleanupFailed := !removed }
  else sending

/-- The readings of the clock in a turn. -/
structure SendingClock where
  now : ℚ
  checkedAt : ℚ
  readAt : ℚ
  startedAt : ℚ

/-- What the media of a request is given as. -/
inductive MediaValue
  | invalid | url | inline
deriving DecidableEq, Repr

/-- What the handler waited for is there. -/
inductive SendingAnswer
  | found (resolved : Except HandlerError Unit) (value : MediaValue)
  | opened (source : Except PreparationError (Option ℕ))
  | created (file : Except PreparationError Unit)
  | written (bytes : Except PreparationError ℕ)
  | discarded (removed : Bool)
  | dispatch (circuitOpen : Bool) (body : Except HandlerError Unit)
  | replied (statusCode : ℕ) (reply : ProviderReply)
  | disposed (removed : Bool)

/-- Whether a file was removed, if the answer is to its disposal. -/
def SendingAnswer.removed : SendingAnswer → Option Bool
  | .discarded removed | .disposed removed => some removed
  | _ => none

/-- The timers of the handler. -/
inductive SendingTimer
  | send | preparation | provider
deriving DecidableEq, Repr

/-- A handler and its execution. -/
structure SendingState where
  sending : MediaSending
  execution : MediaRequestContext

namespace SendingState

variable (maxBytes : ℕ) (state : SendingState) (clock : SendingClock)

/-- Note something. -/
def note (noted : MediaNote) : SendingState := { state with execution := noted.apply state.execution }

/-- Go on under another execution. -/
def under (execution : MediaRequestContext) : SendingState := { state with execution }

/-- Wait for something else. -/
def await (phase : SendingPhase) : SendingState := { state with sending := { state.sending with phase } }

/-- Give back the slot, and have a result. -/
def release (result : Except HandlerError JsValue) : SendingState :=
  { state with sending := { state.sending with phase := .answering result, slot := false } }

/-- The sending is over but for its file. -/
def settle (result : Except HandlerError JsValue) : SendingState :=
  { state with sending := { state.sending with phase := .disposing result, sendTimer := false } }

/-- The preparation fails. -/
def discard (error : PreparationError) : SendingState :=
  let failed := state.note (.failureSource error.failureSource)
  { failed with sending := { failed.sending with phase := .discarding error, source := false } }

/-- The preparation is over. -/
def endPreparation : SendingState :=
  let noted := state.note (.preparationMs (roundMs (clock.now - state.sending.startedAt)))
  { noted with sending := { noted.sending with preparationTimer := false } }

/-- Begin to prepare the media. -/
def prepare (value : MediaValue) : SendingState :=
  let active := state.execution.assertActive clock.now
  match active.2 with
  | .error reason => (state.under active.1).settle (.error (.timeout reason))
  | .ok () =>
    let granted := active.1.callTimeout active.1.downloadTimeoutMs clock.checkedAt clock.readAt
    match granted.2 with
    | .error reason => (state.under granted.1).settle (.error (.timeout reason))
    | .ok timeoutMs =>
      let noted := (state.under granted.1).note (.preparationStartedAt clock.startedAt)
      let timed : SendingState :=
        { noted with sending :=
          { noted.sending with
            preparationTimer := true
            reason := if timeoutMs < granted.1.downloadTimeoutMs then requestTimeoutReason
              else downloadTimeoutReason
            deadlineAt := clock.startedAt + timeoutMs
            startedAt := clock.startedAt } }
      match value with
      | .invalid => timed.discard (.http 400)
      | _ => timed.await .opening

/-- The instance was looked up. -/
def onFound (resolved : Except HandlerError Unit) (value : MediaValue) : SendingState :=
  match resolved with
  | .error error => state.release (.error error)
  | .ok () =>
    let active := state.execution.assertActive clock.now
    match active.2 with
    | .error reason => (state.under active.1).release (.error (.timeout reason))
    | .ok () =>
      let timed := state.under active.1
      prepare { timed with sending := { timed.sending with sendTimer := true } } clock value

/-- The source is open, or is not. -/
def onOpened (source : Except PreparationError (Option ℕ)) : SendingState :=
  match source with
  | .error error => state.discard error
  | .ok contentLength =>
    let opened : SendingState := { state with sending := { state.sending with source := true } }
    if contentLength.any (· > maxBytes) then opened.discard .tooLarge
    else
      let active := opened.execution.assertActive clock.now
      match active.2 with
      | .error reason => (opened.under active.1).discard (.stopped reason)
      | .ok () => (opened.under active.1).await .creating

/-- The file is there, or is not. -/
def onCreated (file : Except PreparationError Unit) : SendingState :=
  match file with
  | .error error => state.discard error
  | .ok () => { state with sending := { state.sending with phase := .writing, temp := true, disposed := false } }

/-- The file is written, or is not. -/
def onWritten (bytes : Except PreparationError ℕ) : SendingState :=
  match bytes with
  | .error error => state.discard error
  | .ok bytes =>
    if bytes > maxBytes then state.discard .tooLarge
    else
      let drained : SendingState := { state with sending := { state.sending with source := false } }
      let late := if clock.now ≥ drained.sending.deadlineAt then drained.execution.abort drained.sending.reason.val
        else drained.execution
      let active := late.assertActive clock.checkedAt
      match active.2 with
      | .error reason => (drained.under active.1).discard (.stopped reason)
      | .ok () =>
        if bytes = 0 then (drained.under active.1).discard (.http 400)
        else (((drained.under active.1).note (.mediaBytes bytes)).endPreparation clock).await .prepared

/-- What failed is disposed of. -/
def onDiscarded (error : PreparationError) (removed : Bool) : SendingState :=
  let disposed : SendingState := { state with sending := state.sending.dispose removed }
  let active := disposed.execution.assertActive clock.now
  let ended := (disposed.under active.1).endPreparation clock
  match active.2 with
  | .error reason => ended.settle (.error (.timeout reason))
  | .ok () => ended.settle (.error error.thrown)

/-- The provider is called, if it may be. -/
def onDispatch (circuitOpen : Bool) (body : Except HandlerError Unit) : SendingState :=
  let active := state.execution.assertActive clock.now
  let checked := state.under active.1
  match active.2 with
  | .error reason => checked.settle (.error (.timeout reason))
  | .ok () =>
    if circuitOpen then (checked.note (.failureSource .circuitOpen)).settle (.error (.http 503))
    else
      match body with
      | .error error => checked.settle (.error error)
      | .ok () =>
        let started := checked.execution.startProviderCall clock.checkedAt clock.readAt clock.startedAt
        match started.2 with
        | .error reason => (checked.under started.1).settle (.error (.timeout reason))
        | .ok timeoutMs =>
          let called := checked.under started.1
          { called with sending :=
            { called.sending with
              phase := .calling
              providerTimer := true
              reason := if timeoutMs < started.1.providerTimeoutMs then requestTimeoutReason
                else providerTimeoutReason
              deadlineAt := clock.startedAt + timeoutMs
              startedAt := clock.now } }

/-- The call is over. -/
def endCall (reported : Option CallVerdict) : SendingState :=
  let noted := state.note (.providerMs (roundMs (clock.startedAt - state.sending.startedAt)))
  { noted with sending := { noted.sending with providerTimer := false, reported := reported } }

/-- The call failed: because it was stopped, by an answer of the provider, or otherwise. -/
def onFailedCall (reply : ProviderReply) : SendingState :=
  let stopped := if clock.readAt ≥ state.sending.deadlineAt ∨ reply.timedOut then
    state.under (state.execution.abort state.sending.reason.val) else state
  match stopped.execution.reason with
  | some reason =>
    (stopped.endCall clock (if reason = .providerTimeout then some .failure else none)).settle
      (.error (.timeout reason))
  | none =>
    match reply with
    | .httpError status =>
      (((stopped.note (.failureSource .upstreamHttp)).note (.upstreamStatusCode status)).endCall clock none).settle
        (.error (.http status))
    | _ =>
      ((stopped.note (.failureSource .transportError)).endCall clock (some .failure)).settle (.error .other)

/-- The provider replied, or did not. -/
def onReplied (statusCode : ℕ) (reply : ProviderReply) : SendingState :=
  match reply with
  | .response data =>
    let late := if clock.now ≥ state.sending.deadlineAt then state.execution.abort state.sending.reason.val
      else state.execution
    let active := late.assertActive clock.checkedAt
    match active.2 with
    | .error _ => (state.under active.1).onFailedCall clock reply
    | .ok () =>
      (((state.under active.1).note (.upstreamStatusCode statusCode)).endCall clock (some .success)).settle (.ok data)
  | _ => state.onFailedCall clock reply

/-- The file is disposed of. -/
def onDisposed (result : Except HandlerError JsValue) (removed : Bool) : SendingState :=
  ({ state with sending := state.sending.dispose removed } : SendingState).release result

/-- The handler goes on, if what it waits for is there. -/
def wake (answer : SendingAnswer) : SendingState :=
  match state.sending.phase, answer with
  | .lookup, .found resolved value => state.onFound clock resolved value
  | .opening, .opened source => state.onOpened maxBytes clock source
  | .creating, .created file => state.onCreated file
  | .writing, .written bytes => state.onWritten maxBytes clock bytes
  | .discarding error, .discarded removed => state.onDiscarded clock error removed
  | .prepared, .dispatch circuitOpen body => state.onDispatch clock circuitOpen body
  | .calling, .replied statusCode reply => state.onReplied clock statusCode reply
  | .disposing result, .disposed removed => state.onDisposed result removed
  | _, _ => state

/-- A timer of the handler fires, if it is set. -/
def alarm (timer : SendingTimer) : SendingState :=
  match timer with
  | .send =>
    if state.sending.sendTimer then
      { sending := { state.sending with sendTimer := false }, execution := state.execution.abort .requestTimeout }
    else state
  | .preparation =>
    if state.sending.preparationTimer then
      { sending := { state.sending with preparationTimer := false },
        execution := state.execution.abort state.sending.reason.val }
    else state
  | .provider =>
    if state.sending.providerTimer then
      { sending := { state.sending with providerTimer := false },
        execution := state.execution.abort state.sending.reason.val }
    else state

end SendingState

/-- What happens to the connection of a request, or its subscription. -/
inductive ConnectionEvent
  | returned (now : ℚ)
  | timeout (now : ℚ)
  | aborted (now : ℚ)
  | close (writableFinished : Bool) (now : ℚ)
  | unsubscribe (now : ℚ)

/-- As the interceptor meets it. -/
def ConnectionEvent.toEvent : ConnectionEvent → MediaRun.Event JsValue
  | .returned now => .returned now
  | .timeout now => .timeout now
  | .aborted now => .aborted now
  | .close writableFinished now => .close writableFinished now
  | .unsubscribe now => .unsubscribe now

/-- A media request with its handler. -/
structure MediaExchange where
  run : MediaRun JsValue
  sending : MediaSending

/-- Something happens to a media request: to its connection, a timer of its handler fires, the handler goes on, or its
result is given, with the status of the reply. -/
inductive ExchangeEvent
  | connection (event : ConnectionEvent)
  | alarm (timer : SendingTimer)
  | wake (answer : SendingAnswer) (clock : SendingClock)
  | answer (statusCode : ℕ) (now : ℚ)

/-- Whether a file was removed, if something that happens is the end of its disposal. -/
def ExchangeEvent.removed : ExchangeEvent → Option Bool
  | .wake woken _ => woken.removed
  | _ => none

namespace MediaExchange

variable (maxBytes : ℕ) (exchange : MediaExchange)

/-- The handler and its execution. -/
def state : SendingState where
  sending := exchange.sending
  execution := exchange.run.execution

/-- What the handler leaves. -/
def withState (state : SendingState) : MediaExchange where
  run := { exchange.run with execution := state.execution }
  sending := state.sending

/-- The events by which a result is given. -/
def resultEvents (result : Except HandlerError JsValue) (statusCode : ℕ) (now : ℚ) :
    List (MediaRun.Event JsValue) :=
  match result with
  | .ok data => [.next data statusCode now, .complete statusCode now]
  | .error error => [.error error now]

/-- What happens to a media request. -/
def step (exchange : MediaExchange) : ExchangeEvent → MediaExchange
  | .connection event => { exchange with run := exchange.run.step event.toEvent }
  | .alarm timer => exchange.withState (exchange.state.alarm timer)
  | .wake answer clock => exchange.withState (exchange.state.wake maxBytes clock answer)
  | .answer statusCode now =>
    match exchange.sending.phase with
    | .answering result =>
      { run := exchange.run.exec (resultEvents result statusCode now)
        sending := { exchange.sending with phase := .done } }
    | _ => exchange

/-- What one event after another does. -/
def exec (exchange : MediaExchange) (events : List ExchangeEvent) : MediaExchange :=
  events.foldl (step maxBytes) exchange

/-- A media request as it is subscribed to: its handler has taken its slot, unless the client is gone. -/
def start (request : MediaRequestInfo) (timeouts : MediaTimeouts) (gone : Bool) (began : ℚ) : MediaExchange where
  run := MediaRun.interceptMedia request timeouts gone began
  sending := if gone then { phase := .done, slot := false } else {}

end MediaExchange

end Handler

end ConnectHub
