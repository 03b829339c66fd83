import ConnectHub.EvolutionHttp

/-!
# Circuit breakers under overlapping calls

Calls to the providers overlap, and each reports to the breaker of its provider when it comes back, in whatever
state that is by then. Four kinds of calls share a breaker: ordinary ones, which are repeated, those of QR and
media requests, which a deadline may stop, and optional ones, which report nothing. The breaker counts the
failures since the last success, and an open circuit shows when the latest of them was reported.
-/

namespace ConnectHub

/-- Why an execution was stopped. -/
inductive StopReason
  | requestTimeout | providerTimeout | clientDisconnected
deriving DecidableEq, Repr

/-- A call that is under way. -/
inductive InFlight
  | request (url : String) (attempt : ℕ)
  | requestQr (url : String) (reason : StopReason)
  | requestMedia (url : String) (reason : StopReason)
  | optional (url : String)
deriving DecidableEq, Repr

/-- What a call meets when it comes back: the reply, why its execution was stopped before if it was, whether the
time of the request is over, and whether that of the call is. -/
structure Settlement where
  reply : ProviderReply
  stopped : Option StopReason := none
  expired : Bool := false
  overdue : Bool := false

/-- What a call reports to the breaker. -/
inductive CallVerdict
  | success | failure
deriving DecidableEq, Repr

section Paths

variable (config : CircuitConfig)

/-- Whether a client gave up waiting for a reply. -/
def ProviderReply.timedOut : ProviderReply → Bool
  | .clientError code => isClientTimeout code
  | _ => false

/-- What a stopped call reports. -/
def recordedStop (reason : StopReason) : Option CallVerdict :=
  if reason = .providerTimeout then some .failure else none

/-- Why an execution is stopped once it is checked whether it is active. -/
def Settlement.afterAssert (settled : Settlement) (stopped : Option StopReason) : Option StopReason :=
  stopped.or (if settled.expired then some .requestTimeout else none)

/-- What a call reports that was stopped or not, and otherwise failed. -/
def recordedError (stopped : Option StopReason) (reply : ProviderReply) : Option CallVerdict :=
  match stopped with
  | some reason => recordedStop reason
  | none =>
    match reply with
    | .httpError _ => none
    | _ => some .failure

/-- What a call of a QR request reports. -/
def settleQr (reason : StopReason) (settled : Settlement) : Option CallVerdict :=
  match settled.reply with
  | .response _ =>
    match settled.afterAssert settled.stopped with
    | none => some .success
    | some stopped => recordedStop stopped
  | reply =>
    let stopped := settled.stopped.or (if reply.timedOut then some reason else none)
    recordedError stopped reply

/-- What a call of a media request reports. -/
def settleMedia (reason : StopReason) (settled : Settlement) : Option CallVerdict :=
  match settled.reply with
  | .response _ =>
    match settled.afterAssert (settled.stopped.or (if settled.overdue then some reason else none)) with
    | none => some .success
    | some stopped => recordedStop stopped
  | reply =>
    let stopped := settled.stopped.or (if settled.overdue || reply.timedOut then some reason else none)
    recordedError stopped reply

/-- What an ordinary call reports, or the attempt that follows it. -/
def settleRequest (attempt : ℕ) (settled : Settlement) : Option CallVerdict × Option ℕ :=
  match settled.reply with
  | .response _ => (some .success, none)
  | .httpError _ => (none, none)
  | _ => if attempt < config.maxRetries then (none, some (attempt + 1)) else (some .failure, none)

/-- What a call reports that comes back, and the call that follows it. -/
def InFlight.settle (call : InFlight) (settled : Settlement) : Option CallVerdict × Option InFlight :=
  match call with
  | .request url attempt =>
    let done := settleRequest config attempt settled
    (done.1, done.2.map (.request url))
  | .requestQr _ reason => (settleQr reason settled, none)
  | .requestMedia _ reason => (settleMedia reason settled, none)
  | .optional _ => (none, none)

/-- The provider of a call. -/
def InFlight.url : InFlight → String
  | .request url _ => url
  | .requestQr url _ => url
  | .requestMedia url _ => url
  | .optional url => url

end Paths

section Events

/-- What the breakers of all providers and the calls under way are. -/
structure HttpState where
  breakers : String → CircuitBreaker := fun _ => {}
  calls : List InFlight := []

/-- Something happens: a call is made or comes back. A call of an execution is ready unless it was stopped
before, and goes out if it still is not when its body is there. -/
inductive HttpEvent
  | request (url : String)
  | requestQr (url : String) (ready : Bool) (reason : StopReason)
  | requestMedia (url : String) (ready prepared : Bool) (reason : StopReason)
  | optional (url : String) (ready : Bool)
  | settle (index : ℕ) (settled : Settlement)

/-- What comes of it. -/
inductive HttpAnswer
  | started
  | stopped
  | refused (url : String)
  | settled (url : String) (recorded : Option CallVerdict)
  | nothing
deriving DecidableEq, Repr

variable (config : CircuitConfig) (now : ℤ)

/-- Change the breaker of a provider. -/
def HttpState.setBreaker (state : HttpState) (url : String) (breaker : CircuitBreaker) : HttpState :=
  { state with breakers := fun other => if other = url then breaker else state.breakers other }

/-- A call is made that checks the circuit, and is under way if it goes out. -/
def HttpState.checked (state : HttpState) (call : InFlight) (goesOut : Bool) : HttpState × HttpAnswer :=
  match (state.breakers call.url).checkCircuit config now with
  | none => (state, .refused call.url)
  | some breaker =>
    let checked := state.setBreaker call.url breaker
    if goesOut then ({ checked with calls := checked.calls ++ [call] }, .started) else (checked, .stopped)

/-- Report to a breaker. -/
def CircuitBreaker.record (breaker : CircuitBreaker) : Option CallVerdict → CircuitBreaker
  | none => breaker
  | some .success => breaker.recordSuccess
  | some .failure => breaker.recordFailure config now

/-- What happens to the breakers and the calls. -/
def HttpState.step (state : HttpState) : HttpEvent → HttpState × HttpAnswer
  | .request url => state.checked config now (.request url 0) true
  | .requestQr url ready reason =>
    if !ready then (state, .stopped) else state.checked config now (.requestQr url reason) true
  | .requestMedia url ready prepared reason =>
    if !ready then (state, .stopped) else state.checked config now (.requestMedia url reason) prepared
  | .optional url ready =>
    if !ready then (state, .stopped)
    else if (state.breakers url).refusesOptional config now then (state, .refused url)
    else ({ state with calls := state.calls ++ [.optional url] }, .started)
  | .settle index settled =>
    match state.calls[index]? with
    | none => (state, .nothing)
    | some call =>
      let done := call.settle config settled
      let reported := state.setBreaker call.url ((state.breakers call.url).record config now done.1)
      ({ reported with calls := state.calls.eraseIdx index ++ done.2.toList }, .settled call.url done.1)

/-- A report to a breaker. -/
structure Report where
  url : String
  recorded : CallVerdict
  time : ℤ
deriving DecidableEq, Repr

/-- The breakers and the calls, with all reports so far, the latest one first. -/
structure HttpRun where
  state : HttpState := {}
  reports : List Report := []

/-- The report that an answer shows. -/
def HttpAnswer.report (answer : HttpAnswer) : List Report :=
  match answer with
  | .settled url (some recorded) => [⟨url, recorded, now⟩]
  | _ => []

/-- One more thing happens. -/
def HttpRun.next (run : HttpRun) (event : HttpEvent) : HttpRun where
  state := (run.state.step config now event).1
  reports := (run.state.step config now event).2.report now ++ run.reports

/-- One thing happens after another, each at its time. -/
def HttpRun.exec (run : HttpRun) (events : List (ℤ × HttpEvent)) : HttpRun :=
  events.foldl (fun run event => run.next config event.1 event.2) run

end Events

section Counting

/-- The times of the failures since the last success, the latest one first. -/
def failuresSince (url : String) : List Report → List ℤ
  | [] => []
  | report :: reports =>
    if report.url ≠ url then failuresSince url reports
    else
      match report.recorded with
      | .success => []
      | .failure => report.time :: failuresSince url reports

/-- When the latest failure was reported. -/
def lastFailure (url : String) (reports : List Report) : Option ℤ :=
  (reports.find? fun report => report.url = url ∧ report.recorded = .failure).map (·.time)

/-- The latest failure since the last success is the latest one. -/
theorem lastFailure_eq {url : String} {reports : List Report} {latest : ℤ}
    (h : (failuresSince url reports).head? = some latest) : lastFailure url reports = some latest := by
  induction reports with
  | nil => cases h
  | cons report reports ih =>
    rw [failuresSince] at h
    unfold lastFailure
    by_cases hurl : report.url = url
    · rw [if_neg (not_not_intro hurl)] at h
      cases hkind : report.recorded with
      | success =>
        rw [hkind] at h
        cases h
      | failure =>
        rw [hkind] at h
        have hfound : decide (report.url = url ∧ report.recorded = .failure) = true :=
          decide_eq_true ⟨hurl, hkind⟩
        rw [List.find?_cons, hfound]
        exact h
    · rw [if_pos hurl] at h
      have hother : decide (report.url = url ∧ report.recorded = .failure) = false :=
        decide_eq_false fun hboth => hurl hboth.1
      rw [List.find?_cons, hother]
      exact ih h

/-- A breaker counts the failures since the last success. -/
structure BreakerInvariant (threshold : ℕ) (breaker : CircuitBreaker) (failures : List ℤ) : Prop where
  count : breaker.failureCount = failures.length
  closed : breaker.state = .closed → breaker.failureCount < threshold
  opened : breaker.state ≠ .closed → threshold ≤ breaker.failureCount
  openedAt : breaker.state = .opened → breaker.openedAt = failures.head?

variable {config : CircuitConfig} {now : ℤ} {breaker : CircuitBreaker} {failures : List ℤ}

/-- Checking the circuit keeps the count. -/
theorem BreakerInvariant.checkCircuit (h : BreakerInvariant config.threshold breaker failures)
    {checked : CircuitBreaker} (hchecked : breaker.checkCircuit config now = some checked) :
    BreakerInvariant config.threshold checked failures := by
  unfold CircuitBreaker.checkCircuit at hchecked
  by_cases hopened : breaker.state = .opened
  · rw [if_pos hopened] at hchecked
    by_cases helapsed : now - breaker.openedAt.getD 0 ≥ config.resetMs
    · rw [if_pos helapsed] at hchecked
      cases hchecked
      have hnotClosed : breaker.state ≠ .closed := by
        rw [hopened]
        decide
      exact {
        count := h.count
        closed := fun hclosed => by cases hclosed
        opened := fun _ => h.opened hnotClosed
        openedAt := fun hstill => by cases hstill }
    · rw [if_neg helapsed] at hchecked
      cases hchecked
  · rw [if_neg hopened] at hchecked
    cases hchecked
    exact h

/-- A circuit is refused only when it is open and its latest failure is young. -/
theorem BreakerInvariant.refused (h : BreakerInvariant config.threshold breaker failures)
    (hthreshold : 1 ≤ config.threshold) (hopened : breaker.state = .opened)
    (hyoung : now - breaker.openedAt.getD 0 < config.resetMs) :
    config.threshold ≤ failures.length ∧
      ∃ latest, failures.head? = some latest ∧ now - latest < config.resetMs := by
  have hnotClosed : breaker.state ≠ .closed := by
    rw [hopened]
    decide
  have hcount := h.opened hnotClosed
  rw [h.count] at hcount
  refine ⟨hcount, ?_⟩
  cases failures with
  | nil =>
    rw [List.length_nil] at hcount
    omega
  | cons latest failures =>
    have hat := h.openedAt hopened
    rw [List.head?_cons] at hat
    rw [hat, Option.getD_some] at hyoung
    exact ⟨latest, rfl, hyoung⟩

/-- A success starts the count anew. -/
theorem BreakerInvariant.recordSuccess (hthreshold : 1 ≤ config.threshold) :
    BreakerInvariant config.threshold breaker.recordSuccess [] where
  count := rfl
  closed := fun _ => hthreshold
  opened := fun hnot => absurd rfl hnot
  openedAt := fun hopened => by cases hopened

/-- A failure counts. -/
theorem BreakerInvariant.recordFailure (h : BreakerInvariant config.threshold breaker failures) :
    BreakerInvariant config.threshold (breaker.recordFailure config now) (now :: failures) := by
  unfold CircuitBreaker.recordFailure
  simp only
  by_cases hreached : breaker.failureCount + 1 ≥ config.threshold
  · rw [if_pos hreached]
    exact {
      count := congrArg (· + 1) h.count
      closed := fun hclosed => by cases hclosed
      opened := fun _ => hreached
      openedAt := fun _ => rfl }
  · rw [if_neg hreached]
    have hclosed : breaker.state = .closed := by
      by_contra hnot
      have hcount := h.opened hnot
      omega
    exact {
      count := congrArg (· + 1) h.count
      closed := fun _ => Nat.lt_of_not_le hreached
      opened := fun hnot => absurd hclosed hnot
      openedAt := fun hopened => by
        have hboth : CircuitState.closed = .opened := hclosed.symm.trans hopened
        cases hboth }

/-- A failure that is reported when the threshold was reached opens the circuit again. -/
theorem BreakerInvariant.reopens (h : BreakerInvariant config.threshold breaker failures)
    (hreached : config.threshold ≤ failures.length) :
    (breaker.recordFailure config now).state = .opened ∧
      (breaker.recordFailure config now).openedAt = some now := by
  have hcount : breaker.failureCount + 1 ≥ config.threshold := by
    rw [h.count]
    omega
  unfold CircuitBreaker.recordFailure
  simp only
  rw [if_pos hcount]
  exact ⟨rfl, rfl⟩

end Counting

section Effects

variable (config : CircuitConfig) (now : ℤ)

/-- What an event can do to the breakers, by its answer: a call is refused while its circuit is open, the
circuit is left alone or checked without a report, or a call that comes back is reported. -/
inductive BreakerEffect (state : HttpState) (after : HttpState) : HttpAnswer → Prop
  | refused (url : String) (hopened : (state.breakers url).state = .opened)
      (hyoung : now - (state.breakers url).openedAt.getD 0 < config.resetMs)
      (hbreakers : after.breakers = state.breakers) : BreakerEffect state after (.refused url)
  | silent {answer : HttpAnswer} (hquiet : answer.report now = []) (hnot : ∀ url, answer ≠ .refused url)
      (hbreakers : after.breakers = state.breakers) : BreakerEffect state after answer
  | checked {answer : HttpAnswer} (url : String) (breaker : CircuitBreaker)
      (hcheck : (state.breakers url).checkCircuit config now = some breaker)
      (hquiet : answer.report now = []) (hnot : ∀ url, answer ≠ .refused url)
      (hbreakers : after.breakers = (state.setBreaker url breaker).breakers) : BreakerEffect state after answer
  | settled (url : String) (recorded : Option CallVerdict)
      (hbreakers : after.breakers =
        (state.setBreaker url ((state.breakers url).record config now recorded)).breakers) :
      BreakerEffect state after (.settled url recorded)

/-- A call that checks its circuit is refused while it is open. -/
theorem checked_effect (state : HttpState) (call : InFlight) (goesOut : Bool) :
    BreakerEffect config now state (state.checked config now call goesOut).1
      (state.checked config now call goesOut).2 := by
  unfold HttpState.checked
  cases hcheck : (state.breakers call.url).checkCircuit config now with
  | none =>
    unfold CircuitBreaker.checkCircuit at hcheck
    by_cases hopened : (state.breakers call.url).state = .opened
    · rw [if_pos hopened] at hcheck
      by_cases helapsed : now - (state.breakers call.url).openedAt.getD 0 ≥ config.resetMs
      · rw [if_pos helapsed] at hcheck
        cases hcheck
      · exact .refused call.url hopened (Int.not_le.mp helapsed) rfl
    · rw [if_neg hopened] at hcheck
      cases hcheck
  | some breaker =>
    cases goesOut with
    | true => exact .checked call.url breaker hcheck rfl (fun _ h => by cases h) rfl
    | false => exact .checked call.url breaker hcheck rfl (fun _ h => by cases h) rfl

/-- Every event does one of these. -/
theorem step_effect (state : HttpState) (event : HttpEvent) :
    BreakerEffect config now state (state.step config now event).1 (state.step config now event).2 := by
  cases event with
  | request url => exact checked_effect config now state _ _
  | requestQr url ready reason =>
    cases ready with
    | false => exact .silent rfl (fun _ h => by cases h) rfl
    | true => exact checked_effect config now state _ _
  | requestMedia url ready prepared reason =>
    cases ready with
    | false => exact .silent rfl (fun _ h => by cases h) rfl
    | true => exact checked_effect config now state _ _
  | optional url ready =>
    cases ready with
    | false => exact .silent rfl (fun _ h => by cases h) rfl
    | true =>
      simp only [HttpState.step, Bool.not_true, Bool.false_eq_true, if_false]
      cases hrefused : (state.breakers url).refusesOptional config now with
      | true =>
        have hopen := of_decide_eq_true hrefused
        exact .refused url hopen.1 hopen.2 rfl
      | false => exact .silent rfl (fun _ h => by cases h) rfl
  | settle index settled =>
    simp only [HttpState.step]
    cases state.calls[index]? with
    | none => exact .silent rfl (fun _ h => by cases h) rfl
    | some call => exact .settled call.url _ rfl

end Effects

section Runs

variable {config : CircuitConfig} {now : ℤ}

/-- Every breaker counts the failures since the last success of its provider. -/
def HttpRun.Counts (config : CircuitConfig) (run : HttpRun) : Prop :=
  ∀ url, BreakerInvariant config.threshold (run.state.breakers url) (failuresSince url run.reports)

/-- At first no failure was reported. -/
theorem counts_init (hthreshold : 1 ≤ config.threshold) : HttpRun.Counts config {} := by
  intro url
  exact {
    count := rfl
    closed := fun _ => hthreshold
    opened := fun hnot => absurd rfl hnot
    openedAt := fun hopened => by cases hopened }

/-- A report counts for its provider only. -/
theorem record_counts {run : HttpRun} (h : run.Counts config) (hthreshold : 1 ≤ config.threshold) (url : String)
    (recorded : Option CallVerdict) :
    ∀ other, BreakerInvariant config.threshold
      ((run.state.setBreaker url ((run.state.breakers url).record config now recorded)).breakers other)
      (failuresSince other ((HttpAnswer.settled url recorded).report now ++ run.reports)) := by
  intro other
  unfold HttpState.setBreaker
  simp only
  by_cases hother : other = url
  · rw [if_pos hother, hother]
    cases recorded with
    | none => exact h url
    | some kind =>
      cases kind with
      | success =>
        have hreset : failuresSince url (⟨url, .success, now⟩ :: run.reports) = [] := by
          rw [failuresSince, if_neg (not_not_intro rfl)]
        change BreakerInvariant _ _ (failuresSince url (⟨url, .success, now⟩ :: run.reports))
        rw [hreset]
        exact @BreakerInvariant.recordSuccess config (run.state.breakers url) hthreshold
      | failure =>
        have hcounted : failuresSince url (⟨url, .failure, now⟩ :: run.reports) =
            now :: failuresSince url run.reports := by
          rw [failuresSince, if_neg (not_not_intro rfl)]
        change BreakerInvariant _ _ (failuresSince url (⟨url, .failure, now⟩ :: run.reports))
        rw [hcounted]
        exact (h url).recordFailure
  · rw [if_neg hother]
    cases recorded with
    | none => exact h other
    | some kind =>
      have hskip : failuresSince other (⟨url, kind, now⟩ :: run.reports) = failuresSince other run.reports := by
        rw [failuresSince, if_pos (Ne.symm hother)]
      change BreakerInvariant _ _ (failuresSince other (⟨url, kind, now⟩ :: run.reports))
      rw [hskip]
      exact h other

/-- Whatever happens, the breakers keep counting. -/
theorem next_counts {run : HttpRun} (h : run.Counts config) (hthreshold : 1 ≤ config.threshold)
    (event : HttpEvent) :
    (run.next config now event).Counts config := by
  intro other
  have heffect := step_effect config now run.state event
  unfold HttpRun.next
  simp only
  generalize hstep : run.state.step config now event = stepped at heffect
  obtain ⟨state, answer⟩ := stepped
  simp only at heffect ⊢
  cases heffect with
  | refused url hopened hyoung hbreakers =>
    rw [hbreakers]
    exact h other
  | silent hquiet hnot hbreakers =>
    rw [hbreakers, hquiet]
    exact h other
  | checked url breaker hcheck hquiet hnot hbreakers =>
    rw [hbreakers, hquiet]
    change BreakerInvariant _ (if other = url then breaker else run.state.breakers other) _
    by_cases hother : other = url
    · rw [if_pos hother, hother]
      exact (h url).checkCircuit hcheck
    · rw [if_neg hother]
      exact h other
  | settled url recorded hbreakers =>
    rw [hbreakers]
    exact record_counts h hthreshold url recorded other

/-- So they do over any sequence of events. -/
theorem exec_counts {run : HttpRun} (h : run.Counts config) (hthreshold : 1 ≤ config.threshold)
    (events : List (ℤ × HttpEvent)) : (run.exec config events).Counts config := by
  induction events generalizing run with
  | nil => exact h
  | cons event events ih => exact ih (next_counts h hthreshold event.2)

/-- While no success is reported, failures only come on top. -/
theorem failuresSince_append {url : String} {added reports : List Report}
    (hfailures : ∀ report ∈ added, report.url = url → report.recorded = .failure) :
    (failuresSince url reports).length ≤ (failuresSince url (added ++ reports)).length := by
  induction added with
  | nil => exact Nat.le_refl _
  | cons report added ih =>
    have hrest := ih fun other hother => hfailures other (List.mem_cons_of_mem _ hother)
    rw [List.cons_append, failuresSince]
    by_cases hurl : report.url = url
    · have hkind := hfailures report (List.mem_cons_self ..) hurl
      rw [if_neg (not_not_intro hurl), hkind]
      simp only [List.length_cons]
      omega
    · rw [if_pos hurl]
      exact hrest

/-- The reports so far stay. -/
theorem exec_reports (run : HttpRun) (events : List (ℤ × HttpEvent)) :
    ∃ added, (run.exec config events).reports = added ++ run.reports := by
  induction events generalizing run with
  | nil => exact ⟨[], rfl⟩
  | cons event events ih =>
    obtain ⟨added, hadded⟩ := ih (run.next config event.1 event.2)
    refine ⟨added ++ (run.state.step config event.1 event.2).2.report event.1, ?_⟩
    change ((run.next config event.1 event.2).exec config events).reports = _
    rw [hadded, List.append_assoc]
    rfl

/-- A call is refused only after enough failures, the latest of them young. -/
theorem refused_counts {run : HttpRun} (h : run.Counts config) (hthreshold : 1 ≤ config.threshold)
    {event : HttpEvent} {url : String} (hrefused : (run.state.step config now event).2 = .refused url) :
    config.threshold ≤ (failuresSince url run.reports).length ∧
      ∃ latest, lastFailure url run.reports = some latest ∧ now - latest < config.resetMs := by
  have heffect := step_effect config now run.state event
  rw [hrefused] at heffect
  cases heffect with
  | refused _ hopened hyoung _ =>
    have hcount := (h url).refused hthreshold hopened hyoung
    obtain ⟨latest, hlatest, hyounger⟩ := hcount.2
    exact ⟨hcount.1, latest, lastFailure_eq hlatest, hyounger⟩
  | silent _ hnot _ => exact absurd rfl (hnot url)
  | checked _ _ _ _ hnot _ => exact absurd rfl (hnot url)

/-- A failure that is reported once the threshold was reached opens the circuit. -/
theorem failure_opens {run : HttpRun} (h : run.Counts config) {event : HttpEvent} {url : String}
    (hreached : config.threshold ≤ (failuresSince url run.reports).length)
    (hfailure : (run.state.step config now event).2 = .settled url (some .failure)) :
    ((run.next config now event).state.breakers url).state = .opened ∧
      ((run.next config now event).state.breakers url).openedAt = some now := by
  have heffect := step_effect config now run.state event
  rw [hfailure] at heffect
  change (((run.state.step config now event).1.breakers url).state = .opened) ∧
    ((run.state.step config now event).1.breakers url).openedAt = some now
  cases heffect with
  | silent hquiet _ _ => cases hquiet
  | checked _ _ _ hquiet _ _ => cases hquiet
  | settled _ _ hbreakers =>
    have hrecorded : (run.state.step config now event).1.breakers url =
        (run.state.breakers url).recordFailure config now := by
      rw [hbreakers]
      unfold HttpState.setBreaker
      simp only
      rw [if_pos trivial]
      rfl
    rw [hrecorded]
    exact (h url).reopens hreached

/-- Over any sequence of overlapping calls, a closed circuit has seen fewer failures than the threshold and an
open one as many since the last success, the latest of them when it was opened; only then is a call refused, and
until a success is reported the next failure opens the circuit again. -/
theorem exec_circuits (config : CircuitConfig) (hthreshold : 1 ≤ config.threshold)
    (events : List (ℤ × HttpEvent)) (url : String) :
    let run := HttpRun.exec config {} events
    let breaker := run.state.breakers url
    (breaker.state = .closed → breaker.failureCount < config.threshold) ∧
    (breaker.state = .opened ∨ breaker.state = .halfOpen → config.threshold ≤ breaker.failureCount) ∧
    (breaker.state = .opened →
      ∃ latest, lastFailure url run.reports = some latest ∧ breaker.openedAt = some latest) ∧
    (∀ now event, (run.state.step config now event).2 = .refused url →
      config.threshold ≤ (failuresSince url run.reports).length ∧
        ∃ latest, lastFailure url run.reports = some latest ∧ now - latest < config.resetMs) ∧
    (breaker.state = .opened → ∀ later, ∃ added,
      (run.exec config later).reports = added ++ run.reports ∧
      ((∀ report ∈ added, report.url = url → report.recorded = .failure) →
        ∀ now event, ((run.exec config later).state.step config now event).2 = .settled url (some .failure) →
          (((run.exec config later).next config now event).state.breakers url).state = .opened ∧
          (((run.exec config later).next config now event).state.breakers url).openedAt = some now)) := by
  intro run breaker
  have hcounts : run.Counts config := exec_counts (counts_init hthreshold) hthreshold events
  have hbreaker := hcounts url
  have hreached : breaker.state ≠ .closed → config.threshold ≤ (failuresSince url run.reports).length := by
    intro hnot
    have hcount := hbreaker.opened hnot
    rw [hbreaker.count] at hcount
    exact hcount
  have hopen : breaker.state = .opened → breaker.state ≠ .closed := by
    intro hopened hclosed
    rw [hopened] at hclosed
    cases hclosed
  refine ⟨hbreaker.closed, ?_, ?_, fun now event => refused_counts hcounts hthreshold, ?_⟩
  · intro hstate
    apply hbreaker.opened
    intro hclosed
    rw [hclosed] at hstate
    cases hstate with
    | inl hopened => cases hopened
    | inr hhalf => cases hhalf
  · intro hopened
    have hat := hbreaker.openedAt hopened
    have hmany := hreached (hopen hopened)
    cases hfailures : failuresSince url run.reports with
    | nil =>
      rw [hfailures, List.length_nil] at hmany
      omega
    | cons latest failures =>
      have hhead : (failuresSince url run.reports).head? = some latest := by
        rw [hfailures]
        rfl
      exact ⟨latest, lastFailure_eq hhead, hat.trans hhead⟩
  · intro hopened later
    obtain ⟨added, hadded⟩ := @exec_reports config run later
    refine ⟨added, hadded, ?_⟩
    intro hfailures now event hfailure
    have hlater : (run.exec config later).Counts config := exec_counts hcounts hthreshold later
    apply failure_opens hlater _ hfailure
    rw [hadded]
    exact Nat.le_trans (hreached (hopen hopened)) (failuresSince_append hfailures)

/-- Two calls that fail open a breaker, which refuses calls for a while. -/
theorem exec_circuits_small :
    let failed : Settlement := ⟨.otherError, none, false, false⟩
    let run := HttpRun.exec ⟨2, 10, 0⟩ {} [(0, .request "http://evolution"), (0, .request "http://evolution"),
      (1, .settle 0 failed), (2, .settle 0 failed)]
    1 ≤ (⟨2, 10, 0⟩ : CircuitConfig).threshold ∧ (run.state.breakers "http://evolution").state = .opened ∧
      ∀ now event, (run.state.step ⟨2, 10, 0⟩ now event).2 = .refused "http://evolution" → now < 12 := by
  intro failed run
  have hcircuits := exec_circuits ⟨2, 10, 0⟩ (by decide) [(0, .request "http://evolution"),
    (0, .request "http://evolution"), (1, .settle 0 failed), (2, .settle 0 failed)] "http://evolution"
  refine ⟨by decide, by decide +kernel, ?_⟩
  intro now event hrefused
  obtain ⟨latest, hlatest, hyoung⟩ := (hcircuits.2.2.2.1 now event hrefused).2
  have hlast : lastFailure "http://evolution" run.reports = some 2 := by decide +kernel
  have htwo : latest = 2 := (Option.some.inj (hlast.symm.trans hlatest)).symm
  rw [htwo] at hyoung
  change now - 2 < 10 at hyoung
  omega

/-- After a success the first failure that is reported past the reset time leaves the circuit closed. -/
theorem failure_after_reset_closed :
    let config : CircuitConfig := ⟨2, 10, 0⟩
    let failed : Settlement := ⟨.otherError, none, false, false⟩
    let run := HttpRun.exec config {}
      [(0, .request "http://evolution"), (0, .request "http://evolution"), (0, .request "http://evolution"),
        (0, .settle 0 failed), (0, .settle 0 failed)]
    let later := run.exec config
      [(10, .request "http://evolution"), (10, .settle 1 ⟨.response .null, none, false, false⟩),
        (11, .settle 0 failed)]
    1 ≤ config.threshold ∧ (run.state.breakers "http://evolution").state = .opened ∧
      (run.state.breakers "http://evolution").openedAt = some 0 ∧
      later.reports = [⟨"http://evolution", .failure, 11⟩, ⟨"http://evolution", .success, 10⟩] ++ run.reports ∧
      11 - 0 ≥ config.resetMs ∧ (later.state.breakers "http://evolution").state = .closed := by
  decide +kernel

end Runs

end ConnectHub
