import ConnectHub.ProxyConfirmation
import ConnectHub.RelayConfiguration

/-!
# The default proxy of a new instance

The proxy is set once and then read back at most three times, all within one deadline. It is reported only if a
read confirms what was sent; whatever else the provider answers, the creation goes on without it and says why.
-/

namespace ConnectHub

/-- The proxy that new instances of a product get. -/
structure InstanceDefaultProxyConfig where
  enabled : Option Bool := none
  host : String
  port : String
  protocol : String
  username : Option String := none
  password : Option String := none
deriving DecidableEq, Repr

/-- Why the default proxy is not reported. -/
inductive ProxyFailure
  | call (failure : OptionalCallFailure)
  | budgetUnavailable
  | confirmationInvalid
  | confirmationMismatch
  | confirmationUnavailable
deriving DecidableEq, Repr

/-- Which operation a diagnosis is about. -/
inductive ProxyOperation
  | set | find
deriving DecidableEq, Repr

/-- The diagnosis of a failure. -/
structure ProxyDiagnostics where
  operation : ProxyOperation
  reads : ℕ
  durationMs : ℤ
deriving DecidableEq, Repr

/-- What applying the default proxy reports. -/
structure ApplyInstanceDefaultsResult where
  proxy : Option JsValue := none
  proxyFailure : Option ProxyFailure := none
  proxyDiagnostics : Option ProxyDiagnostics := none

/-- What the calls and pauses meet. -/
structure ProxyWorld where
  execution : Option ExecutionInput
  deadlineAt : Option ℚ
  startedAt : ℚ
  finishedAt : ℚ
  set : OptionalCallInput
  read : ℕ → OptionalCallInput
  pause : ℕ → PauseInput

/-- The pauses between the reads. -/
def proxyConfirmDelaysMs : List ℤ := [100, 250]

/-- The proxy that is sent. -/
def InstanceDefaultProxyConfig.payload (defaults : InstanceDefaultProxyConfig) : SetProxyDto where
  enabled := defaults.enabled.getD true
  host := defaults.host
  port := defaults.port
  protocol := defaults.protocol
  username := defaults.username
  password := defaults.password

/-- A text or undefined. -/
def optionalText (text : Option String) : JsValue :=
  match text with
  | some s => .str s
  | none => .undefined

/-- The proxy as a value. -/
def SetProxyDto.js (dto : SetProxyDto) : JsValue :=
  .obj [("enabled", .bool dto.enabled), ("host", .str dto.host), ("port", .str dto.port),
    ("protocol", .str dto.protocol), ("username", optionalText dto.username),
    ("password", optionalText dto.password)]

section Calls

variable (config : CircuitConfig) (legacyTimeoutMs : ℚ) (ctx : ProviderContext) (instanceName : String)
  (defaults : InstanceDefaultProxyConfig) (world : ProxyWorld)

/-- The call that sets the proxy. -/
def setProxyRequest : OptionalRequest where
  method := .post
  url := ctx.providerUrl ++ "/proxy/set/" ++ instanceName
  apiKey := ctx.providerApiKey
  data := some defaults.payload.js

/-- The call that reads it back. -/
def findProxyRequest : OptionalRequest where
  method := .get
  url := ctx.providerUrl ++ "/proxy/find/" ++ instanceName
  apiKey := ctx.providerApiKey
  data := none

/-- A failure with its diagnosis. -/
def proxyFailed (failure : ProxyFailure) (operation : ProxyOperation) (reads : ℕ) : ApplyInstanceDefaultsResult where
  proxyFailure := some failure
  proxyDiagnostics := some ⟨operation, reads, (world.finishedAt - world.startedAt + 1 / 2).floor⟩

/-- Whether an attempt may be made: the first one may, a later one after a pause that fits. -/
def mayRead (budget : OptionalBudget) (attempt : ℕ) (delayMs : ℤ) : Except ExecutionStopped Bool :=
  if attempt > 0 then waitOptional budget delayMs (world.pause attempt) else .ok true

/-- Read the proxy back until a read settles it, with what it is still pending on. -/
def confirmReads (budget : OptionalBudget) (setData : JsValue) :
    ℕ → ℕ → ProxyFailure → List ℤ → List IssuedCall × Except ExecutionStopped ApplyInstanceDefaultsResult
  | _, reads, pending, [] => ([], .ok (proxyFailed world pending .find reads))
  | attempt, reads, pending, delayMs :: delays =>
    match mayRead world budget attempt delayMs with
    | .error stopped => ([], .error stopped)
    | .ok false => ([], .ok (proxyFailed world pending .find reads))
    | .ok true =>
      let read := tryOptionalRequest config budget (findProxyRequest ctx instanceName) (world.read attempt)
      let goOn (pending : ProxyFailure) :=
        let rest := confirmReads budget setData (attempt + 1) (reads + 1) pending delays
        (read.1 ++ rest.1, rest.2)
      match read.2 with
      | .error stopped => (read.1, .error stopped)
      | .ok (.failure failure status) =>
        if failure = .budgetExhausted then (read.1, .ok (proxyFailed world pending .find reads))
        else if status = some 404 then goOn .confirmationUnavailable
        else (read.1, .ok (proxyFailed world (.call failure) .find (reads + 1)))
      | .ok (.data data) =>
        match classifyProxyRead data instanceName defaults.payload with
        | .confirmed leaf => (read.1, .ok { proxy := buildPublicProxy setData leaf instanceName })
        | .invalid => (read.1, .ok (proxyFailed world .confirmationInvalid .find (reads + 1)))
        | .divergent => goOn .confirmationMismatch
        | .empty => goOn .confirmationUnavailable

/-- Set the default proxy within a budget and read it back. -/
def applyWithin (budget : OptionalBudget) : List IssuedCall × Except ExecutionStopped ApplyInstanceDefaultsResult :=
  let set := tryOptionalRequest config budget (setProxyRequest ctx instanceName defaults) world.set
  match set.2 with
  | .error stopped => (set.1, .error stopped)
  | .ok (.failure failure _) => (set.1, .ok (proxyFailed world (.call failure) .set 0))
  | .ok (.data data) =>
    if !canConfirmProxySet data instanceName then (set.1, .ok (proxyFailed world .confirmationInvalid .set 0))
    else
      let reads := confirmReads config ctx instanceName defaults world budget data 0 0 .confirmationUnavailable
        (0 :: proxyConfirmDelaysMs)
      (set.1 ++ reads.1, reads.2)

/-- Apply the default proxy to a new instance: the calls that went out, and what is reported. -/
def applyDefaultProxy : List IssuedCall × Except ExecutionStopped ApplyInstanceDefaultsResult :=
  match createOptionalBudget legacyTimeoutMs world.execution world.deadlineAt with
  | .error stopped => ([], .error stopped)
  | .ok none => ([], .ok { proxyFailure := some .budgetUnavailable })
  | .ok (some budget) => applyWithin config ctx instanceName defaults world budget

end Calls

section Reports

variable {config : CircuitConfig} {legacyTimeoutMs : ℚ} {ctx : ProviderContext} {instanceName : String}
  {defaults : InstanceDefaultProxyConfig} {world : ProxyWorld} {budget : OptionalBudget}

/-- A report of the proxy that a read among some calls confirms, or of a failure. -/
def Reports (calls : List IssuedCall) (instanceName : String) (sent : SetProxyDto)
    (result : ApplyInstanceDefaultsResult) : Prop :=
  (result.proxyFailure = none ∧ ∃ shown, result.proxy = some shown ∧ shown.PasswordFree ∧
    ∃ call ∈ calls, call.request.method = .get ∧ ∃ body, call.reply = .response body ∧
      Confirms body instanceName sent) ∨
  (result.proxy = none ∧ ∃ failure, result.proxyFailure = some failure)

/-- A report stays one when more calls are counted before it. -/
theorem Reports.mono {calls : List IssuedCall} {sent : SetProxyDto} {result : ApplyInstanceDefaultsResult}
    (h : Reports calls instanceName sent result) (before : List IssuedCall) :
    Reports (before ++ calls) instanceName sent result := by
  cases h with
  | inl hproxy =>
    obtain ⟨hnone, shown, hshown, hfree, call, hcall, hget, body, hbody, hconfirms⟩ := hproxy
    exact .inl ⟨hnone, shown, hshown, hfree, call, List.mem_append_right _ hcall, hget, body, hbody, hconfirms⟩
  | inr hfailure => exact .inr hfailure

/-- Only a budget with an execution can be stopped. -/
theorem assertActive_error {active : Except ExecutionStopped Unit} {stopped : ExecutionStopped}
    (h : budget.assertActive active = .error stopped) : budget.execution = true := by
  unfold OptionalBudget.assertActive at h
  by_cases hexecution : budget.execution = true
  · exact hexecution
  · rw [if_neg hexecution] at h
    cases h

/-- An optional call throws only when the execution was stopped. -/
theorem tryOptionalRequest_error {request : OptionalRequest} {input : OptionalCallInput} {stopped : ExecutionStopped}
    (h : (tryOptionalRequest config budget request input).2 = .error stopped) : budget.execution = true := by
  unfold tryOptionalRequest at h
  cases hactive : budget.assertActive input.active with
  | error other => exact assertActive_error hactive
  | ok _ =>
    rw [hactive] at h
    simp only at h
    by_cases hbudget : (min budget.deadlineAt (input.startedAt + budget.callLimitMs) - input.startedAt).floor ≤ 0
    · rw [if_pos hbudget] at h
      cases h
    · rw [if_neg hbudget] at h
      by_cases hopen : input.breaker.refusesOptional config input.date = true
      · rw [if_pos hopen] at h
        cases h
      · rw [if_neg hopen] at h
        cases hstill : budget.assertActive input.stillActive with
        | error other => exact assertActive_error hstill
        | ok _ =>
          rw [hstill] at h
          cases h

/-- A pause throws only when the execution was stopped. -/
theorem mayRead_error {attempt : ℕ} {delayMs : ℤ} {stopped : ExecutionStopped}
    (h : mayRead world budget attempt delayMs = .error stopped) : budget.execution = true := by
  unfold mayRead waitOptional at h
  by_cases hattempt : attempt > 0
  · rw [if_pos hattempt] at h
    cases hactive : budget.assertActive (world.pause attempt).active with
    | error other => exact assertActive_error hactive
    | ok _ =>
      rw [hactive] at h
      cases hstill : budget.assertActive (world.pause attempt).stillActive with
      | error other => exact assertActive_error hstill
      | ok _ =>
        rw [hstill] at h
        change (if _ then _ else _) = _ at h
        split at h <;> cases h
  · rw [if_neg hattempt] at h
    cases h

/-- What the reads of a proxy come to: at most one call for each, every one a read before the deadline, and a
report that a read confirms or a failure. -/
structure ReadsWithin (budget : OptionalBudget) (ctx : ProviderContext) (instanceName : String) (sent : SetProxyDto)
    (limit : ℕ) (done : List IssuedCall × Except ExecutionStopped ApplyInstanceDefaultsResult) : Prop where
  count : done.1.length ≤ limit
  calls : ∀ call ∈ done.1, call.request = findProxyRequest ctx instanceName ∧ call.issuedAt + 1 ≤ budget.deadlineAt
  stopped : ∀ stopped, done.2 = .error stopped → budget.execution = true
  report : ∀ result, done.2 = .ok result → Reports done.1 instanceName sent result

/-- Calls that are within a limit and come to a failure. -/
theorem ReadsWithin.failed {sent : SetProxyDto} {limit : ℕ} {calls : List IssuedCall} (hcount : calls.length ≤ limit)
    (hcalls : ∀ call ∈ calls, call.request = findProxyRequest ctx instanceName ∧
      call.issuedAt + 1 ≤ budget.deadlineAt) (failure : ProxyFailure) (reads : ℕ) :
    ReadsWithin budget ctx instanceName sent limit (calls, .ok (proxyFailed world failure .find reads)) where
  count := hcount
  calls := hcalls
  stopped := fun stopped h => by cases h
  report := fun result h => by
    cases h
    exact .inr ⟨rfl, failure, rfl⟩

/-- Calls that are within a limit when the execution is stopped. -/
theorem ReadsWithin.halted {sent : SetProxyDto} {limit : ℕ} {calls : List IssuedCall} (hcount : calls.length ≤ limit)
    (hcalls : ∀ call ∈ calls, call.request = findProxyRequest ctx instanceName ∧
      call.issuedAt + 1 ≤ budget.deadlineAt) (hexecution : budget.execution = true) (stopped : ExecutionStopped) :
    ReadsWithin budget ctx instanceName sent limit (calls, .error stopped) where
  count := hcount
  calls := hcalls
  stopped := fun _ _ => hexecution
  report := fun result h => by cases h

/-- One call more before reads within a limit is within the next one. -/
theorem ReadsWithin.after {sent : SetProxyDto} {limit : ℕ}
    {done : List IssuedCall × Except ExecutionStopped ApplyInstanceDefaultsResult}
    (h : ReadsWithin budget ctx instanceName sent limit done) {calls : List IssuedCall} (hcount : calls.length ≤ 1)
    (hcalls : ∀ call ∈ calls, call.request = findProxyRequest ctx instanceName ∧
      call.issuedAt + 1 ≤ budget.deadlineAt) :
    ReadsWithin budget ctx instanceName sent (limit + 1) (calls ++ done.1, done.2) where
  count := by
    rw [List.length_append]
    have hrest := h.count
    omega
  calls := by
    intro call hcall
    cases List.mem_append.mp hcall with
    | inl hhere => exact hcalls call hhere
    | inr hthere => exact h.calls call hthere
  stopped := h.stopped
  report := fun result hresult => (h.report result hresult).mono _

/-- The reads of a proxy are within their limit. -/
theorem confirmReads_within {setData : JsValue} (hset : canConfirmProxySet setData instanceName = true)
    (delays : List ℤ) (attempt reads : ℕ) (pending : ProxyFailure) :
    ReadsWithin budget ctx instanceName defaults.payload delays.length
      (confirmReads config ctx instanceName defaults world budget setData attempt reads pending delays) := by
  induction delays generalizing attempt reads pending with
  | nil => exact .failed (Nat.le_refl 0) (List.forall_mem_nil _) pending reads
  | cons delayMs delays ih =>
    rw [confirmReads]
    cases hmay : mayRead world budget attempt delayMs with
    | error stopped => exact .halted (Nat.zero_le _) (List.forall_mem_nil _) (mayRead_error hmay) stopped
    | ok may =>
      cases may with
      | false => exact .failed (Nat.zero_le _) (List.forall_mem_nil _) pending reads
      | true =>
        simp only
        obtain ⟨hone, hcalls⟩ := tryOptionalRequest_calls config budget (findProxyRequest ctx instanceName)
          (world.read attempt)
        have hlimit : (tryOptionalRequest config budget (findProxyRequest ctx instanceName)
            (world.read attempt)).1.length ≤ (delayMs :: delays).length :=
          Nat.le_trans hone (Nat.succ_le_succ (Nat.zero_le _))
        have hgoOn := fun next : ProxyFailure => (ih (attempt + 1) (reads + 1) next).after hone hcalls
        cases hread : (tryOptionalRequest config budget (findProxyRequest ctx instanceName)
            (world.read attempt)).2 with
        | error stopped => exact .halted hlimit hcalls (tryOptionalRequest_error hread) stopped
        | ok result =>
          cases result with
          | failure failure status =>
            simp only
            by_cases hexhausted : failure = .budgetExhausted
            · rw [if_pos hexhausted]
              exact .failed hlimit hcalls pending reads
            · rw [if_neg hexhausted]
              by_cases hmissing : status = some 404
              · rw [if_pos hmissing]
                exact hgoOn .confirmationUnavailable
              · rw [if_neg hmissing]
                exact .failed hlimit hcalls (.call failure) (reads + 1)
          | data data =>
            simp only
            cases houtcome : classifyProxyRead data instanceName defaults.payload with
            | empty => exact hgoOn .confirmationUnavailable
            | invalid => exact .failed hlimit hcalls .confirmationInvalid (reads + 1)
            | divergent => exact hgoOn .confirmationMismatch
            | confirmed leaf =>
              obtain ⟨call, hcall, hrequest, hreply⟩ := tryOptionalRequest_issued.2 data hread
              obtain ⟨shown, hshown, hfree⟩ := buildPublicProxy_free leaf hset
              have hget : call.request.method = .get := by
                rw [hrequest]
                rfl
              exact {
                count := hlimit
                calls := hcalls
                stopped := fun stopped h => by cases h
                report := fun result h => by
                  cases h
                  exact .inl ⟨rfl, shown, hshown, hfree, call, hcall, hget, data, hreply,
                    confirms_of_classify houtcome⟩ }

end Reports

section Outcome

variable {config : CircuitConfig} {legacyTimeoutMs : ℚ} {ctx : ProviderContext} {instanceName : String}
  {defaults : InstanceDefaultProxyConfig} {world : ProxyWorld} {budget : OptionalBudget}

/-- The calls of one setting and its reads: one call sets the proxy at most, and three read it. -/
structure CallsWithin (budget : OptionalBudget) (ctx : ProviderContext) (instanceName : String)
    (defaults : InstanceDefaultProxyConfig) (calls : List IssuedCall) : Prop where
  posts : (calls.filter fun call => call.request.method = .post).length ≤ 1
  gets : (calls.filter fun call => call.request.method = .get).length ≤ 3
  each : ∀ call ∈ calls, (call.request = setProxyRequest ctx instanceName defaults ∨
    call.request = findProxyRequest ctx instanceName) ∧ call.issuedAt + 1 ≤ budget.deadlineAt

/-- A call that sets the proxy and reads after it are within their limits. -/
theorem callsWithin_append {sets reads : List IssuedCall} (hsets : sets.length ≤ 1) (hreads : reads.length ≤ 3)
    (hset : ∀ call ∈ sets, call.request = setProxyRequest ctx instanceName defaults ∧
      call.issuedAt + 1 ≤ budget.deadlineAt)
    (hread : ∀ call ∈ reads, call.request = findProxyRequest ctx instanceName ∧
      call.issuedAt + 1 ≤ budget.deadlineAt) :
    CallsWithin budget ctx instanceName defaults (sets ++ reads) where
  posts := by
    have hnone : (reads.filter fun call => call.request.method = .post) = [] := by
      apply List.filter_eq_nil_iff.mpr
      intro call hcall
      rw [(hread call hcall).1]
      exact Bool.false_ne_true
    rw [List.filter_append, hnone, List.append_nil]
    exact Nat.le_trans (List.length_filter_le _ _) hsets
  gets := by
    have hnone : (sets.filter fun call => call.request.method = .get) = [] := by
      apply List.filter_eq_nil_iff.mpr
      intro call hcall
      rw [(hset call hcall).1]
      exact Bool.false_ne_true
    rw [List.filter_append, hnone, List.nil_append]
    exact Nat.le_trans (List.length_filter_le _ _) hreads
  each := by
    intro call hcall
    cases List.mem_append.mp hcall with
    | inl hfront => exact ⟨.inl (hset call hfront).1, (hset call hfront).2⟩
    | inr hback => exact ⟨.inr (hread call hback).1, (hread call hback).2⟩

/-- Within a budget the calls are within their limits, and what they come to is a report. -/
theorem applyWithin_outcome :
    CallsWithin budget ctx instanceName defaults (applyWithin config ctx instanceName defaults world budget).1 ∧
      (∀ stopped, (applyWithin config ctx instanceName defaults world budget).2 = .error stopped →
        budget.execution = true) ∧
      ∀ result, (applyWithin config ctx instanceName defaults world budget).2 = .ok result →
        Reports (applyWithin config ctx instanceName defaults world budget).1 instanceName defaults.payload result := by
  obtain ⟨hone, hcalls⟩ := tryOptionalRequest_calls config budget (setProxyRequest ctx instanceName defaults) world.set
  have hset : CallsWithin budget ctx instanceName defaults
      (tryOptionalRequest config budget (setProxyRequest ctx instanceName defaults) world.set).1 := by
    have hnoReads := @callsWithin_append ctx instanceName defaults budget _ [] hone (Nat.zero_le 3) hcalls
      (List.forall_mem_nil _)
    rw [List.append_nil] at hnoReads
    exact hnoReads
  unfold applyWithin
  simp only
  cases hresult : (tryOptionalRequest config budget (setProxyRequest ctx instanceName defaults) world.set).2 with
  | error stopped => exact ⟨hset, fun _ _ => tryOptionalRequest_error hresult, fun result h => by cases h⟩
  | ok result =>
    cases result with
    | failure failure status =>
      refine ⟨hset, (fun stopped h => by cases h), ?_⟩
      intro result h
      cases h
      exact .inr ⟨rfl, _, rfl⟩
    | data data =>
      simp only
      cases hconfirm : canConfirmProxySet data instanceName with
      | false =>
        refine ⟨hset, (fun stopped h => by cases h), ?_⟩
        intro result h
        cases h
        exact .inr ⟨rfl, _, rfl⟩
      | true =>
        have hreads := @confirmReads_within config ctx instanceName defaults world budget data hconfirm
          (0 :: proxyConfirmDelaysMs) 0 0 .confirmationUnavailable
        exact ⟨callsWithin_append hone hreads.count hcalls hreads.calls, hreads.stopped,
          fun result h => (hreads.report result h).mono _⟩

/-- Only a budget of an execution has one. -/
theorem execution_of_budget (h : createOptionalBudget legacyTimeoutMs world.execution world.deadlineAt =
    .ok (some budget)) (hexecution : budget.execution = true) : world.execution.isSome = true := by
  cases hworld : world.execution with
  | some input => rfl
  | none =>
    rw [hworld] at h
    cases hdeadline : world.deadlineAt with
    | none => rw [hdeadline] at h; cases h
    | some deadlineAt =>
      rw [hdeadline] at h
      cases h
      cases hexecution

/-- Whatever the provider answers and the clock shows, the default proxy is set at most once and read at most three
times, always before the deadline; it is reported without passwords when a read confirms it and not otherwise, and
nothing is thrown but the stop of an execution. -/
theorem applyDefaultProxy_outcome (config : CircuitConfig) (legacyTimeoutMs : ℚ) (ctx : ProviderContext)
    (instanceName : String) (defaults : InstanceDefaultProxyConfig) (world : ProxyWorld) :
    let applied := applyDefaultProxy config legacyTimeoutMs ctx instanceName defaults world
    (applied.1.filter fun call => call.request.method = .post).length ≤ 1 ∧
      (applied.1.filter fun call => call.request.method = .get).length ≤ 3 ∧
      (∀ call ∈ applied.1, (call.request = setProxyRequest ctx instanceName defaults ∨
        call.request = findProxyRequest ctx instanceName) ∧
        ∃ budget, createOptionalBudget legacyTimeoutMs world.execution world.deadlineAt = .ok (some budget) ∧
          call.issuedAt + 1 ≤ budget.deadlineAt) ∧
      (∀ stopped, applied.2 = .error stopped → world.execution.isSome = true) ∧
      ∀ result, applied.2 = .ok result → Reports applied.1 instanceName defaults.payload result := by
  intro applied
  cases hbudget : createOptionalBudget legacyTimeoutMs world.execution world.deadlineAt with
  | error stopped =>
    have happlied : applied = ([], .error stopped) := by
      simp only [applied, applyDefaultProxy, hbudget]
    have hexecution : world.execution.isSome = true := by
      cases hworld : world.execution with
      | some input => rfl
      | none =>
        rw [hworld] at hbudget
        cases hbudget
    rw [happlied]
    exact ⟨Nat.zero_le 1, Nat.zero_le 3, List.forall_mem_nil _, fun _ _ => hexecution, fun result h => by cases h⟩
  | ok found =>
    cases found with
    | none =>
      have happlied : applied = ([], .ok { proxyFailure := some .budgetUnavailable }) := by
        simp only [applied, applyDefaultProxy, hbudget]
      rw [happlied]
      refine ⟨Nat.zero_le 1, Nat.zero_le 3, List.forall_mem_nil _, (fun stopped h => by cases h), ?_⟩
      intro result h
      cases h
      exact .inr ⟨rfl, _, rfl⟩
    | some budget =>
      have happlied : applied = applyWithin config ctx instanceName defaults world budget := by
        simp only [applied, applyDefaultProxy, hbudget]
      obtain ⟨hcalls, hstopped, hreport⟩ :=
        @applyWithin_outcome config ctx instanceName defaults world budget
      rw [happlied]
      refine ⟨hcalls.posts, hcalls.gets, ?_, ?_, hreport⟩
      · intro call hcall
        exact ⟨(hcalls.each call hcall).1, budget, rfl, (hcalls.each call hcall).2⟩
      · intro stopped h
        exact execution_of_budget hbudget (hstopped stopped h)

end Outcome

end ConnectHub
