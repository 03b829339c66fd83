import ConnectHub.CanonicalJson
import Mathlib.Data.Rat.Floor

/-!
# Calls to a provider

Each provider has a circuit breaker, which the ordinary calls check before they go out and report to when they
come back. Optional calls share one deadline; they are refused while the circuit is open, but leave it as it is.
-/

namespace ConnectHub

section Circuit

/-- The states of a circuit. -/
inductive CircuitState
  | closed | opened | halfOpen
deriving DecidableEq, Repr

/-- The circuit breaker of a provider. -/
structure CircuitBreaker where
  state : CircuitState := .closed
  failureCount : ℕ := 0
  openedAt : Option ℤ := none
deriving DecidableEq, Repr

/-- The settings of the breakers. -/
structure CircuitConfig where
  threshold : ℕ
  resetMs : ℤ
  maxRetries : ℕ
deriving DecidableEq, Repr

variable (config : CircuitConfig) (now : ℤ)

/-- Check a circuit before a call: an open one refuses it, but lets it through once the time is over. -/
def CircuitBreaker.checkCircuit (breaker : CircuitBreaker) : Option CircuitBreaker :=
  if breaker.state = .opened then
    if now - breaker.openedAt.getD 0 ≥ config.resetMs then some { breaker with state := .halfOpen } else none
  else some breaker

/-- Report a call that succeeded. -/
def CircuitBreaker.recordSuccess (_breaker : CircuitBreaker) : CircuitBreaker where
  failureCount := 0
  state := .closed
  openedAt := none

/-- Report a call that failed. -/
def CircuitBreaker.recordFailure (breaker : CircuitBreaker) : CircuitBreaker :=
  let counted := { breaker with failureCount := breaker.failureCount + 1 }
  if counted.failureCount ≥ config.threshold then { counted with state := .opened, openedAt := some now } else counted

/-- Whether an optional call is refused. -/
def CircuitBreaker.refusesOptional (breaker : CircuitBreaker) : Bool :=
  breaker.state = .opened ∧ now - breaker.openedAt.getD 0 < config.resetMs

end Circuit

section Optional

/-- The execution of the request was stopped. -/
structure ExecutionStopped where
deriving DecidableEq, Repr

/-- How much of the request is left before it is answered. -/
def qrFinishMarginMs : ℚ := 1000

/-- The deadline that the calls of an optional step share. -/
structure OptionalBudget where
  execution : Bool
  deadlineAt : ℚ
  callLimitMs : ℚ
deriving DecidableEq, Repr

/-- The execution of a QR request as a budget reads it. -/
structure ExecutionInput where
  active : Except ExecutionStopped Unit
  now : ℚ
  remainingMs : ℚ
  providerTimeoutMs : ℚ

/-- The budget of an optional step, if a finite deadline is known. -/
def createOptionalBudget (legacyTimeoutMs : ℚ) (execution : Option ExecutionInput) (deadlineAt : Option ℚ) :
    Except ExecutionStopped (Option OptionalBudget) :=
  match execution with
  | some input => do
    input.active
    pure (some ⟨true, input.now + input.remainingMs - qrFinishMarginMs, input.providerTimeoutMs⟩)
  | none => .ok (deadlineAt.map fun deadlineAt => ⟨false, deadlineAt - qrFinishMarginMs, legacyTimeoutMs⟩)

/-- Whether the execution of a budget is still active; a budget without one always is. -/
def OptionalBudget.assertActive (budget : OptionalBudget) (active : Except ExecutionStopped Unit) :
    Except ExecutionStopped Unit :=
  if budget.execution then active else .ok ()

/-- How an optional call fails. -/
inductive OptionalCallFailure
  | timeout | upstreamHttp | transportError | circuitOpen | budgetExhausted
deriving DecidableEq, Repr

/-- What an optional call comes to. -/
inductive OptionalCallResult
  | data (data : JsValue)
  | failure (failure : OptionalCallFailure) (status : Option ℕ)

/-- The methods of optional calls. -/
inductive OptionalMethod
  | get | post
deriving DecidableEq, Repr

/-- A call to a provider. -/
structure OptionalRequest where
  method : OptionalMethod
  url : String
  apiKey : String
  data : Option JsValue

/-- What a provider answers, or why it does not. -/
inductive ProviderReply
  | response (data : JsValue)
  | httpError (status : ℕ)
  | clientError (code : Option String)
  | otherError

/-- What an optional call meets. -/
structure OptionalCallInput where
  active : Except ExecutionStopped Unit
  startedAt : ℚ
  date : ℤ
  breaker : CircuitBreaker
  reply : ProviderReply
  stillActive : Except ExecutionStopped Unit
  aborted : Bool
  settledAt : ℚ

/-- A call that went out. -/
structure IssuedCall where
  request : OptionalRequest
  issuedAt : ℚ
  timeoutMs : ℤ
  reply : ProviderReply

/-- Whether a client gave up waiting. -/
def isClientTimeout (code : Option String) : Bool := code = some "ECONNABORTED" ∨ code = some "ETIMEDOUT"

/-- What a reply comes to, if it came in time. -/
def ProviderReply.settle (reply : ProviderReply) (late : Bool) : OptionalCallResult :=
  match reply with
  | .response data => if late then .failure .timeout none else .data data
  | .httpError status => if late then .failure .timeout none else .failure .upstreamHttp (some status)
  | .clientError code =>
    if late || isClientTimeout code then .failure .timeout none else .failure .transportError none
  | .otherError => if late then .failure .timeout none else .failure .transportError none

variable (config : CircuitConfig)

/-- Call a provider within a budget: the calls that went out, and what the call comes to. -/
def tryOptionalRequest (budget : OptionalBudget) (request : OptionalRequest) (input : OptionalCallInput) :
    List IssuedCall × Except ExecutionStopped OptionalCallResult :=
  match budget.assertActive input.active with
  | .error stopped => ([], .error stopped)
  | .ok () =>
    let callDeadlineAt := min budget.deadlineAt (input.startedAt + budget.callLimitMs)
    let timeoutMs := (callDeadlineAt - input.startedAt).floor
    if timeoutMs ≤ 0 then ([], .ok (.failure .budgetExhausted none))
    else if input.breaker.refusesOptional config input.date then ([], .ok (.failure .circuitOpen none))
    else
      ([⟨request, input.startedAt, timeoutMs, input.reply⟩],
        match budget.assertActive input.stillActive with
        | .error stopped => .error stopped
        | .ok () => .ok (input.reply.settle (input.aborted || decide (input.settledAt ≥ callDeadlineAt))))

/-- What a pause meets. -/
structure PauseInput where
  active : Except ExecutionStopped Unit
  pausedAt : ℚ
  stillActive : Except ExecutionStopped Unit
  resumedAt : ℚ

/-- How much of a budget is left. -/
def OptionalBudget.remainingMs (budget : OptionalBudget) (now : ℚ) : ℤ := max 0 (budget.deadlineAt - now).floor

/-- Pause within a budget, if the pause fits. -/
def waitOptional (budget : OptionalBudget) (delayMs : ℤ) (input : PauseInput) : Except ExecutionStopped Bool := do
  budget.assertActive input.active
  if budget.remainingMs input.pausedAt ≤ delayMs then pure false
  else do
    budget.assertActive input.stillActive
    pure (decide (budget.remainingMs input.resumedAt > 0))

variable {config}

/-- Only a response that came in time comes to data, its own. -/
theorem settle_data {reply : ProviderReply} {late : Bool} {data : JsValue} (h : reply.settle late = .data data) :
    reply = .response data := by
  cases reply with
  | response found =>
    rw [ProviderReply.settle] at h
    split at h
    · cases h
    · cases h
      rfl
  | httpError status =>
    rw [ProviderReply.settle] at h
    split at h <;> cases h
  | clientError code =>
    rw [ProviderReply.settle] at h
    split at h <;> cases h
  | otherError =>
    rw [ProviderReply.settle] at h
    split at h <;> cases h

/-- At most one call goes out, as it is asked for and before the deadline of the budget; data comes from its
reply. -/
theorem tryOptionalRequest_issued {budget : OptionalBudget} {request : OptionalRequest} {input : OptionalCallInput} :
    ((tryOptionalRequest config budget request input).1 = [] ∨
      ∃ call, (tryOptionalRequest config budget request input).1 = [call] ∧ call.request = request ∧
        call.reply = input.reply ∧ call.issuedAt + 1 ≤ budget.deadlineAt) ∧
    ∀ data, (tryOptionalRequest config budget request input).2 = .ok (.data data) →
      ∃ call ∈ (tryOptionalRequest config budget request input).1, call.request = request ∧
        call.reply = .response data := by
  unfold tryOptionalRequest
  cases budget.assertActive input.active with
  | error stopped =>
    constructor
    · exact .inl rfl
    · intro data h
      cases h
  | ok _ =>
    simp only
    by_cases hbudget : (min budget.deadlineAt (input.startedAt + budget.callLimitMs) - input.startedAt).floor ≤ 0
    · rw [if_pos hbudget]
      constructor
      · exact .inl rfl
      · intro data h
        cases h
    · rw [if_neg hbudget]
      by_cases hopen : input.breaker.refusesOptional config input.date = true
      · rw [if_pos hopen]
        constructor
        · exact .inl rfl
        · intro data h
          cases h
      · rw [if_neg hopen]
        constructor
        · right
          refine ⟨_, rfl, rfl, rfl, ?_⟩
          have hone : (1 : ℤ) ≤ (min budget.deadlineAt (input.startedAt + budget.callLimitMs) -
              input.startedAt).floor := by omega
          have hleft := Rat.le_floor_iff.mp hone
          have hmin := min_le_left budget.deadlineAt (input.startedAt + budget.callLimitMs)
          push_cast at hleft
          change input.startedAt + 1 ≤ budget.deadlineAt
          linarith
        · intro data h
          refine ⟨_, List.mem_singleton_self _, rfl, ?_⟩
          change input.reply = .response data
          cases hactive : budget.assertActive input.stillActive with
          | error stopped =>
            rw [hactive] at h
            cases h
          | ok _ =>
            rw [hactive] at h
            exact settle_data (Except.ok.inj h)

/-- So at most one call goes out, and every one that does is the one asked for, before the deadline. -/
theorem tryOptionalRequest_calls (config : CircuitConfig) (budget : OptionalBudget) (request : OptionalRequest)
    (input : OptionalCallInput) :
    (tryOptionalRequest config budget request input).1.length ≤ 1 ∧
      ∀ call ∈ (tryOptionalRequest config budget request input).1,
        call.request = request ∧ call.issuedAt + 1 ≤ budget.deadlineAt := by
  cases (@tryOptionalRequest_issued config budget request input).1 with
  | inl hnone =>
    rw [hnone]
    exact ⟨Nat.zero_le 1, List.forall_mem_nil _⟩
  | inr hone =>
    obtain ⟨call, hcall, hrequest, -, hbefore⟩ := hone
    rw [hcall]
    constructor
    · exact Nat.le_refl 1
    · intro other hother
      rw [List.mem_singleton.mp hother]
      exact ⟨hrequest, hbefore⟩

end Optional

end ConnectHub
