import Mathlib.Algebra.GroupWithZero.Nat
import Mathlib.Algebra.Order.BigOperators.Group.List
import Mathlib.Algebra.Order.Group.Nat
import Mathlib.Data.Int.Notation
import Mathlib.Data.List.Flatten
import Mathlib.Data.List.Induction
import Mathlib.Data.List.Infix
import Mathlib.Data.List.InsertIdx
import Mathlib.Data.Nat.Notation

/-!
# The buffer of the audit log

Requests are logged in a buffer that is written in batches. A batch leaves the buffer before it is written, so
that the test that sheds entries does not see those whose write is still under way.
-/

namespace ConnectHub

section Service

/-- What is logged about a request. -/
structure AuditEntry where
  productId : String
  instanceId : Option String := none
  endpoint : String
  method : String
  statusCode : ℕ
  latencyMs : ℤ
  origin : Option String := none
  ip : String
  errorMsg : Option String := none
deriving DecidableEq, Repr

/-- What is written of it. -/
structure AuditLogRow where
  productId : String
  instanceId : Option String
  endpoint : String
  method : String
  statusCode : ℕ
  latencyMs : ℤ
  origin : Option String
  ip : String
  errorMsg : Option String
deriving DecidableEq, Repr

/-- The row of an entry. -/
def AuditEntry.row (e : AuditEntry) : AuditLogRow where
  productId := e.productId
  instanceId := e.instanceId
  endpoint := e.endpoint
  method := e.method
  statusCode := e.statusCode
  latencyMs := e.latencyMs
  origin := e.origin
  ip := e.ip
  errorMsg := e.errorMsg

/-- The settings of the audit log. -/
structure AuditConfig where
  flushBatchSize : ℕ := 100
  maxBufferSize : ℕ := 1000
deriving DecidableEq, Repr

/-- The audit log. -/
structure AuditService where
  buffer : List AuditEntry := []
  isUnderPressure : Bool := false
deriving DecidableEq, Repr

/-- The warning when entries begin to be shed. -/
def pressureWarning (maxBufferSize : ℕ) : String :=
  "Audit buffer cheio (" ++ toString maxBufferSize ++ " registros). " ++
    "Postgres pode estar lento ou indisponível. " ++
    "Novos registros de audit serão descartados até o buffer esvaziar."

/-- The message when entries are accepted again. -/
def pressureRelieved : String := "Audit buffer normalizado — registros voltando a ser aceitos."

/-- The message when a batch could not be written. -/
def flushFailed (size : ℕ) (error : String) : String :=
  "Falha ao persistir " ++ toString size ++ " registros de audit: " ++ error

/-- What a call of the audit log does: whether it takes an entry, the batches that it starts to write, and its
messages. -/
structure AuditEffect where
  service : AuditService
  accepted : Bool := false
  batches : List (List AuditEntry) := []
  messages : List String := []
deriving DecidableEq, Repr

/-- Empty the buffer and start to write what was in it. -/
def AuditService.flush (service : AuditService) : AuditService × List (List AuditEntry) :=
  if service.buffer.length = 0 then (service, [])
  else ({ service with buffer := [] }, [service.buffer])

variable (config : AuditConfig)

/-- Log a request, unless the buffer is full. -/
def AuditService.log (service : AuditService) (entry : AuditEntry) : AuditEffect :=
  if service.buffer.length ≥ config.maxBufferSize then
    { service := { service with isUnderPressure := true }
      messages := if service.isUnderPressure then [] else [pressureWarning config.maxBufferSize] }
  else
    let messages := if service.isUnderPressure then [pressureRelieved] else []
    let pushed : AuditService := { buffer := service.buffer ++ [entry], isUnderPressure := false }
    if pushed.buffer.length ≥ config.flushBatchSize then
      let flushed := pushed.flush
      { service := flushed.1, accepted := true, batches := flushed.2, messages := messages }
    else { service := pushed, accepted := true, messages := messages }

end Service

section Runs

/-- A request is logged, the buffer is flushed by the timer or at the end, or a batch is written or fails. -/
inductive AuditEvent
  | log (entry : AuditEntry)
  | flush
  | settle (index : ℕ) (error : Option String)

/-- The audit log, the batches that are being written, and all that was accepted, handed over and reported. -/
structure AuditRun where
  service : AuditService := {}
  writing : List (List AuditEntry) := []
  accepted : List AuditEntry := []
  handed : List (List AuditLogRow) := []
  messages : List String := []
deriving DecidableEq, Repr

variable (config : AuditConfig)

/-- Start to write batches. -/
def AuditRun.write (run : AuditRun) (batches : List (List AuditEntry)) : AuditRun :=
  { run with
    writing := run.writing ++ batches
    handed := run.handed ++ batches.map (·.map AuditEntry.row) }

/-- One more thing happens. -/
def AuditRun.next (run : AuditRun) : AuditEvent → AuditRun
  | .log entry =>
    let effect := run.service.log config entry
    { run with
      service := effect.service
      accepted := run.accepted ++ (if effect.accepted then [entry] else [])
      messages := run.messages ++ effect.messages }.write effect.batches
  | .flush =>
    let flushed := run.service.flush
    { run with service := flushed.1 }.write flushed.2
  | .settle index error =>
    match run.writing[index]? with
    | none => run
    | some batch =>
      { run with
        writing := run.writing.eraseIdx index
        messages := run.messages ++ (error.map (flushFailed batch.length)).toList }

/-- One thing happens after another. -/
def AuditRun.exec (run : AuditRun) (events : List AuditEvent) : AuditRun := events.foldl (·.next config) run

/-- How many entries are in memory: those in the buffer and those that are being written. -/
def AuditRun.held (run : AuditRun) : ℕ := run.service.buffer.length + (run.writing.map List.length).sum

/-- The load on the log, by the settings, the calls and the settlements alone: how many calls came since the last
flush, and how many calls went into each write that has not settled. -/
structure AuditLoad where
  calls : ℕ := 0
  unsettled : List ℕ := []
deriving DecidableEq, Repr

/-- A call that fills a batch is a flush, if the buffer may hold the batch; a flush writes as many calls as the buffer
may hold. -/
def AuditLoad.next (load : AuditLoad) : AuditEvent → AuditLoad
  | .log _ =>
    if config.flushBatchSize ≤ load.calls + 1 ∧ load.calls + 1 ≤ config.maxBufferSize then
      { calls := 0, unsettled := load.unsettled ++ [load.calls + 1] }
    else { load with calls := load.calls + 1 }
  | .flush =>
    { calls := 0
      unsettled := load.unsettled ++
        if min load.calls config.maxBufferSize = 0 then [] else [min load.calls config.maxBufferSize] }
  | .settle index _ => { load with unsettled := load.unsettled.eraseIdx index }

/-- The load after a sequence of calls, flushes and settlements. -/
def auditLoad (events : List AuditEvent) : AuditLoad := events.foldl (·.next config) {}

/-- Every accepted entry was handed over once, or is still in the buffer. -/
def AuditRun.Accounted (run : AuditRun) : Prop :=
  run.accepted.map AuditEntry.row = run.handed.flatten ++ run.service.buffer.map AuditEntry.row

end Runs

section Steps

variable {config : AuditConfig}

/-- A flush leaves the buffer empty. -/
theorem flush_buffer (service : AuditService) : service.flush.1.buffer = [] := by
  unfold AuditService.flush
  by_cases hempty : service.buffer.length = 0
  · rw [if_pos hempty]
    exact List.eq_nil_of_length_eq_zero hempty
  · rw [if_neg hempty]

/-- It takes all that was there. -/
theorem flush_entries (service : AuditService) :
    service.flush.2.flatten ++ service.flush.1.buffer = service.buffer := by
  unfold AuditService.flush
  by_cases hempty : service.buffer.length = 0
  · rw [if_pos hempty]
    exact List.nil_append _
  · rw [if_neg hempty]
    simp only [List.flatten_cons, List.flatten_nil, List.append_nil]

/-- An entry is taken while the buffer is not full. -/
theorem log_accepts (service : AuditService) (entry : AuditEntry) :
    (service.log config entry).accepted = decide (service.buffer.length < config.maxBufferSize) := by
  unfold AuditService.log
  by_cases hfull : service.buffer.length ≥ config.maxBufferSize
  · rw [if_pos hfull, decide_eq_false (Nat.not_lt.mpr hfull)]
  · rw [if_neg hfull, decide_eq_true (Nat.lt_of_not_le hfull)]
    simp only
    split
    · rfl
    · rfl

/-- One that is taken goes behind the entries that are there, and nothing else changes. -/
theorem log_entries (service : AuditService) (entry : AuditEntry) :
    (service.log config entry).batches.flatten ++ (service.log config entry).service.buffer =
      service.buffer ++ (if (service.log config entry).accepted then [entry] else []) := by
  unfold AuditService.log
  by_cases hfull : service.buffer.length ≥ config.maxBufferSize
  · rw [if_pos hfull]
    exact (List.append_nil _).symm
  · rw [if_neg hfull]
    simp only
    split
    · exact flush_entries _
    · rfl

/-- The entries in memory, counted one by one. -/
theorem held_eq (run : AuditRun) : run.held = run.writing.flatten.length + run.service.buffer.length := by
  unfold AuditRun.held
  rw [List.length_flatten]
  exact Nat.add_comm _ _

/-- What is written was in the buffer, and stays in memory. -/
theorem write_held {run : AuditRun} {service : AuditService} {batches : List (List AuditEntry)}
    {entries : List AuditEntry} (h : batches.flatten ++ service.buffer = entries) :
    ({ run with service := service }.write batches).held = run.writing.flatten.length + entries.length := by
  rw [held_eq, ← h]
  change (run.writing ++ batches).flatten.length + service.buffer.length = _
  rw [List.flatten_append, List.length_append, List.length_append]
  omega

/-- Handing entries over loses none of them. -/
theorem write_handed {run : AuditRun} {service : AuditService} {batches : List (List AuditEntry)}
    {entries : List AuditEntry} (h : batches.flatten ++ service.buffer = entries) :
    ({ run with service := service }.write batches).handed.flatten ++ service.buffer.map AuditEntry.row =
      run.handed.flatten ++ entries.map AuditEntry.row := by
  rw [← h]
  change (run.handed ++ batches.map (·.map AuditEntry.row)).flatten ++ _ = _
  rw [List.flatten_append, ← List.map_flatten, List.map_append, List.append_assoc]

/-- An entry that is taken is one more in memory; one that is shed is not. -/
theorem next_log_held (run : AuditRun) (entry : AuditEntry) :
    (run.next config (.log entry)).held =
      run.held + (if run.service.buffer.length < config.maxBufferSize then 1 else 0) := by
  have hheld := @write_held { run with
    accepted := run.accepted ++ (if (run.service.log config entry).accepted then [entry] else [])
    messages := run.messages ++ (run.service.log config entry).messages } _ _ _
    (@log_entries config run.service entry)
  refine hheld.trans ?_
  rw [held_eq run, List.length_append, log_accepts]
  by_cases hroom : run.service.buffer.length < config.maxBufferSize
  · rw [decide_eq_true hroom, if_pos rfl, if_pos hroom]
    rfl
  · rw [decide_eq_false hroom, if_neg Bool.false_ne_true, if_neg hroom]
    rfl

/-- A flush moves entries, but holds as many. -/
theorem next_flush_held (run : AuditRun) : (run.next config .flush).held = run.held := by
  rw [held_eq run]
  exact write_held (flush_entries run.service)

/-- Once a batch is settled, its entries are let go. -/
theorem next_settle_held (run : AuditRun) (index : ℕ) (error : Option String) :
    (run.next config (.settle index error)).held ≤ run.held := by
  simp only [AuditRun.next]
  cases run.writing[index]? with
  | none => exact Nat.le_refl _
  | some batch =>
    rw [held_eq, held_eq]
    have hsub : (run.writing.eraseIdx index).flatten.Sublist run.writing.flatten :=
      (List.eraseIdx_sublist _ _).flatten
    exact Nat.add_le_add_right hsub.length_le _

/-- Every event keeps the account of the entries. -/
theorem next_accounted {run : AuditRun} (h : run.Accounted) (event : AuditEvent) :
    (run.next config event).Accounted := by
  unfold AuditRun.Accounted at h ⊢
  cases event with
  | log entry =>
    have hhanded := @write_handed { run with
      accepted := run.accepted ++ (if (run.service.log config entry).accepted then [entry] else [])
      messages := run.messages ++ (run.service.log config entry).messages } _ _ _
      (@log_entries config run.service entry)
    refine Eq.trans ?_ hhanded.symm
    rw [List.map_append, ← List.append_assoc, ← h]
    exact List.map_append
  | flush =>
    have hhanded := @write_handed run _ _ _ (flush_entries run.service)
    exact h.trans hhanded.symm
  | settle index error =>
    simp only [AuditRun.next]
    cases run.writing[index]? with
    | none => exact h
    | some batch => exact h

/-- So does any sequence of them. -/
theorem exec_accounted {run : AuditRun} (h : run.Accounted) (events : List AuditEvent) :
    (run.exec config events).Accounted := by
  induction events generalizing run with
  | nil => exact h
  | cons event events ih => exact ih (next_accounted h event)

end Steps

section Shedding

variable {config : AuditConfig}

/-- A buffer that reaches the batch size is flushed, so that it stays below. -/
theorem next_buffer_lt {run : AuditRun} (hbatch : 1 ≤ config.flushBatchSize)
    (h : run.service.buffer.length < config.flushBatchSize) (event : AuditEvent) :
    (run.next config event).service.buffer.length < config.flushBatchSize := by
  cases event with
  | log entry =>
    change (run.service.log config entry).service.buffer.length < _
    unfold AuditService.log
    by_cases hfull : run.service.buffer.length ≥ config.maxBufferSize
    · rw [if_pos hfull]
      exact h
    · rw [if_neg hfull]
      simp only
      split
      · rw [flush_buffer]
        exact hbatch
      · rename_i hbelow
        exact Nat.lt_of_not_le hbelow
  | flush =>
    change run.service.flush.1.buffer.length < _
    rw [flush_buffer]
    exact hbatch
  | settle index error =>
    simp only [AuditRun.next]
    cases run.writing[index]? with
    | none => exact h
    | some batch => exact h

/-- So a buffer that may hold a whole batch sheds nothing, whatever is being written: each entry that is logged
is one more in memory. -/
theorem exec_logs_held (hbatch : 1 ≤ config.flushBatchSize)
    (hmax : config.flushBatchSize ≤ config.maxBufferSize) {run : AuditRun}
    (h : run.service.buffer.length < config.flushBatchSize) (entries : List AuditEntry) :
    (run.exec config (entries.map .log)).held = run.held + entries.length := by
  induction entries generalizing run with
  | nil => rfl
  | cons entry entries ih =>
    have hrest := ih (next_buffer_lt hbatch h (.log entry))
    have hone := @next_log_held config run entry
    rw [if_pos (Nat.lt_of_lt_of_le h hmax)] at hone
    change ((run.next config (.log entry)).exec config (entries.map .log)).held = _
    rw [hrest, hone, List.length_cons]
    omega

/-- If the buffer is flushed after each entry, none is ever shed either. -/
theorem exec_flushed_held (hmax : 1 ≤ config.maxBufferSize) {run : AuditRun} (h : run.service.buffer = [])
    (entries : List AuditEntry) :
    (run.exec config (entries.flatMap fun entry => [.log entry, .flush])).held = run.held + entries.length := by
  induction entries generalizing run with
  | nil => rfl
  | cons entry entries ih =>
    let logged := run.next config (.log entry)
    have hflushed : (logged.next config .flush).service.buffer = [] := flush_buffer logged.service
    have hrest := ih hflushed
    have hone := @next_log_held config run entry
    have hempty : run.service.buffer.length = 0 := by
      rw [h]
      rfl
    rw [if_pos (by omega)] at hone
    change ((logged.next config .flush).exec config
      (entries.flatMap fun entry => [.log entry, .flush])).held = _
    rw [hrest, next_flush_held, hone, List.length_cons]
    omega

/-- The entries in memory stay within the size of the buffer. -/
def HeldWithin (config : AuditConfig) (run : AuditRun) (events : List AuditEvent) : Prop :=
  ∀ before after, events = before ++ after → (run.exec config before).held ≤ config.maxBufferSize

/-- Writes settle in time for the calls: a call that the buffer could hold, with those since the last flush, comes only
while the writes that have not settled leave room for it and for those. -/
def SettledInTime (config : AuditConfig) (events : List AuditEvent) : Prop :=
  ∀ before entry after, events = before ++ .log entry :: after →
    (auditLoad config before).calls < config.maxBufferSize →
    (auditLoad config before).unsettled.sum < config.maxBufferSize - (auditLoad config before).calls

/-- The log has in memory what the load says. -/
structure AuditRun.Loaded (config : AuditConfig) (run : AuditRun) (load : AuditLoad) : Prop where
  buffer : run.service.buffer.length = min load.calls config.maxBufferSize
  writing : run.writing.map List.length = load.unsettled

/-- Writing what was in the buffer, as the load says. -/
theorem AuditRun.Loaded.flush {run : AuditRun} {load : AuditLoad} (h : run.Loaded config load) :
    (run.next config .flush).Loaded config (load.next config .flush) := by
  have hbuffer : (run.next config .flush).service.buffer = [] := flush_buffer run.service
  have hwriting : (run.next config .flush).writing = run.writing ++ run.service.flush.2 := rfl
  constructor
  · rw [hbuffer]
    exact (Nat.zero_min _).symm
  · rw [hwriting, List.map_append, h.writing]
    unfold AuditService.flush AuditLoad.next
    rw [h.buffer]
    split
    · rfl
    · rw [List.map_singleton, h.buffer]

/-- Logging a request, as the load says. -/
theorem AuditRun.Loaded.log {run : AuditRun} {load : AuditLoad} (h : run.Loaded config load) (entry : AuditEntry) :
    (run.next config (.log entry)).Loaded config (load.next config (.log entry)) := by
  have hservice : (run.next config (.log entry)).service = (run.service.log config entry).service := rfl
  have hwriting : (run.next config (.log entry)).writing = run.writing ++ (run.service.log config entry).batches := rfl
  have hbuffer := h.buffer
  by_cases hfull : config.maxBufferSize ≤ load.calls
  · -- the entry is shed
    have hshed : config.maxBufferSize ≤ run.service.buffer.length := by omega
    have hnone : ¬(config.flushBatchSize ≤ load.calls + 1 ∧ load.calls + 1 ≤ config.maxBufferSize) := by omega
    rw [AuditLoad.next, if_neg hnone]
    unfold AuditService.log at hservice hwriting
    rw [if_pos hshed] at hservice hwriting
    constructor
    · rw [hservice]
      dsimp only
      omega
    · rw [hwriting, List.append_nil, h.writing]
  · have htaken : ¬config.maxBufferSize ≤ run.service.buffer.length := by omega
    have hlength : (run.service.buffer ++ [entry]).length = load.calls + 1 := by
      rw [List.length_append, List.length_singleton, hbuffer]
      omega
    unfold AuditService.log at hservice hwriting
    rw [if_neg htaken] at hservice hwriting
    dsimp only at hservice hwriting
    by_cases hbatch : config.flushBatchSize ≤ load.calls + 1
    · rw [if_pos (hlength ▸ hbatch)] at hservice hwriting
      rw [AuditLoad.next, if_pos ⟨hbatch, by omega⟩]
      constructor
      · rw [hservice, flush_buffer]
        exact (Nat.zero_min _).symm
      · rw [hwriting, List.map_append, h.writing]
        unfold AuditService.flush
        rw [if_neg (by rw [hlength]; omega), List.map_singleton, hlength]
    · rw [if_neg (hlength ▸ hbatch)] at hservice hwriting
      rw [AuditLoad.next, if_neg fun hfills => hbatch hfills.1]
      constructor
      · rw [hservice, hlength]
        dsimp only
        omega
      · rw [hwriting, List.append_nil, h.writing]

/-- Whatever happens, the log has in memory what the load says. -/
theorem AuditRun.Loaded.next {run : AuditRun} {load : AuditLoad} (h : run.Loaded config load) (event : AuditEvent) :
    (run.next config event).Loaded config (load.next config event) := by
  cases event with
  | log entry => exact h.log entry
  | flush => exact h.flush
  | settle index error =>
    have hwriting : (run.next config (.settle index error)).writing = run.writing.eraseIdx index := by
      simp only [AuditRun.next]
      cases hindex : run.writing[index]? with
      | none => rw [List.eraseIdx_of_length_le (List.getElem?_eq_none_iff.mp hindex)]
      | some batch => rfl
    have hservice : (run.next config (.settle index error)).service = run.service := by
      simp only [AuditRun.next]
      cases run.writing[index]? with
      | none => rfl
      | some batch => rfl
    constructor
    · rw [hservice]
      exact h.buffer
    · rw [hwriting, ← List.eraseIdx_map, h.writing]
      rfl

/-- So it does after any sequence of events. -/
theorem loaded_exec (config : AuditConfig) (events : List AuditEvent) :
    (AuditRun.exec config {} events).Loaded config (auditLoad config events) := by
  induction events using List.reverseRecOn with
  | nil => exact ⟨(Nat.zero_min _).symm, rfl⟩
  | append_singleton events event ih =>
    unfold AuditRun.exec auditLoad
    rw [List.foldl_append, List.foldl_append]
    exact ih.next event

/-- How much is in memory, by the load. -/
theorem AuditRun.Loaded.held {run : AuditRun} {load : AuditLoad} (h : run.Loaded config load) :
    run.held = min load.calls config.maxBufferSize + load.unsettled.sum := by
  rw [AuditRun.held, h.buffer, h.writing]

/-- An event leaves too much in memory only if it is an entry for which there was no room. -/
theorem next_held_le {run : AuditRun} (h : run.held ≤ config.maxBufferSize) (event : AuditEvent)
    (hroom : ∀ entry, event = .log entry → run.service.buffer.length < config.maxBufferSize →
      run.held < config.maxBufferSize) : (run.next config event).held ≤ config.maxBufferSize := by
  cases event with
  | log entry =>
    rw [next_log_held]
    by_cases haccepted : run.service.buffer.length < config.maxBufferSize
    · rw [if_pos haccepted]
      exact hroom entry rfl haccepted
    · rw [if_neg haccepted]
      exact h
  | flush =>
    rw [next_flush_held]
    exact h
  | settle index error => exact Nat.le_trans (next_settle_held run index error) h

/-- What is in memory stays within the size of the buffer exactly if writes settle in time for the calls. -/
theorem heldWithin_iff (events : List AuditEvent) : HeldWithin config {} events ↔ SettledInTime config events := by
  constructor
  · intro hwithin before entry after hevents hcalls
    have hlater := hwithin (before ++ [.log entry]) after (by rw [hevents, List.append_assoc]; rfl)
    have hload := loaded_exec config before
    have hbuffer := hload.buffer
    have hheld := hload.held
    unfold AuditRun.exec at hlater
    rw [List.foldl_append] at hlater
    change ((AuditRun.exec config {} before).next config (.log entry)).held ≤ _ at hlater
    rw [next_log_held, if_pos (by omega)] at hlater
    omega
  · intro htime before after hevents
    induction before using List.reverseRecOn generalizing after with
    | nil => exact Nat.zero_le _
    | append_singleton before event ih =>
      have hfirst := ih ([event] ++ after) (by rw [hevents, List.append_assoc])
      have hload := loaded_exec config before
      have hbuffer := hload.buffer
      have hheld := hload.held
      unfold AuditRun.exec
      rw [List.foldl_append]
      refine next_held_le hfirst event fun entry hentry haccepted => ?_
      have hroom := htime before entry after (by rw [hevents, hentry, List.append_assoc]; rfl)
      change (AuditRun.exec config {} before).service.buffer.length < _ at haccepted
      change (AuditRun.exec config {} before).held < _
      omega

/-- While a batch fits into the buffer, fewer calls than a batch wait for a flush, and no write is of more than a
batch. -/
theorem auditLoad_batches (hbatch : 1 ≤ config.flushBatchSize) (hmax : config.flushBatchSize ≤ config.maxBufferSize)
    (events : List AuditEvent) : (auditLoad config events).calls < config.flushBatchSize ∧
      ∀ size ∈ (auditLoad config events).unsettled, size ≤ config.flushBatchSize := by
  induction events using List.reverseRecOn with
  | nil => exact ⟨hbatch, fun size hsize => absurd hsize List.not_mem_nil⟩
  | append_singleton events event ih =>
    obtain ⟨hcalls, hsizes⟩ := ih
    unfold auditLoad
    rw [List.foldl_append]
    change (AuditLoad.next config (auditLoad config events) event).calls < _ ∧
      ∀ size ∈ (AuditLoad.next config (auditLoad config events) event).unsettled, _
    cases event with
    | log entry =>
      simp only [AuditLoad.next]
      split
      · refine ⟨hbatch, fun size hsize => ?_⟩
        rcases List.mem_append.mp hsize with hold | hnew
        · exact hsizes size hold
        · rw [List.mem_singleton.mp hnew]
          omega
      · refine ⟨?_, hsizes⟩
        dsimp only
        omega
    | flush =>
      refine ⟨hbatch, fun size hsize => ?_⟩
      rcases List.mem_append.mp hsize with hold | hnew
      · exact hsizes size hold
      · split at hnew
        · exact absurd hnew List.not_mem_nil
        · rw [List.mem_singleton.mp hnew]
          omega
    | settle index error => exact ⟨hcalls, fun size hsize => hsizes size (List.mem_of_mem_eraseIdx hsize)⟩

/-- Where the buffer has room for one batch more than there ever are writes that have not settled, they settle in
time. -/
theorem settledInTime_of_writes {limit : ℕ} (hbatch : 1 ≤ config.flushBatchSize)
    (hmax : (limit + 1) * config.flushBatchSize ≤ config.maxBufferSize) {events : List AuditEvent}
    (hwrites : ∀ before after, events = before ++ after → (auditLoad config before).unsettled.length ≤ limit) :
    SettledInTime config events := by
  intro before entry after hevents _
  have hfits : config.flushBatchSize ≤ config.maxBufferSize :=
    Nat.le_trans (Nat.le_mul_of_pos_left _ (Nat.succ_pos limit)) hmax
  obtain ⟨hcalls, hsizes⟩ := auditLoad_batches hbatch hfits before
  have hsum : (auditLoad config before).unsettled.sum ≤
      (auditLoad config before).unsettled.length * config.flushBatchSize :=
    List.sum_le_card_nsmul _ _ hsizes
  have hlimit := Nat.mul_le_mul_right config.flushBatchSize (hwrites before _ hevents)
  rw [Nat.add_mul, Nat.one_mul] at hmax
  omega

/-- Every accepted entry is handed over once or still in the buffer. What is in memory stays within the size of the
buffer exactly if writes settle in time for the calls: so it does where the buffer has room for one batch more than
there ever are writes that have not settled, and only a log that takes nothing can be sure of it. -/
theorem audit_entries_held (config : AuditConfig) :
    (∀ events : List AuditEvent,
      let run := AuditRun.exec config {} events
      run.accepted.map AuditEntry.row = run.handed.flatten ++ run.service.buffer.map AuditEntry.row) ∧
    (∀ events, HeldWithin config {} events ↔ SettledInTime config events) ∧
    (∀ limit events, 1 ≤ config.flushBatchSize → (limit + 1) * config.flushBatchSize ≤ config.maxBufferSize →
      (∀ before after, events = before ++ after → (auditLoad config before).unsettled.length ≤ limit) →
      HeldWithin config {} events) ∧
    ((∀ events, HeldWithin config {} events) ↔ config.maxBufferSize = 0) := by
  have hnone : AuditRun.Accounted {} := rfl
  refine ⟨fun events => exec_accounted hnone events, heldWithin_iff, fun limit events hbatch hmax hwrites =>
    (heldWithin_iff events).mpr (settledInTime_of_writes hbatch hmax hwrites), ?_⟩
  constructor
  · intro hwithin
    apply Nat.eq_zero_of_not_pos
    intro hpos
    let entry : AuditEntry := ⟨"", none, "", "", 0, 0, none, "", none⟩
    let entries := List.replicate (config.maxBufferSize + 1) entry
    let events : List AuditEvent := entries.flatMap fun entry => [.log entry, .flush]
    have hheld := @exec_flushed_held config hpos {} rfl entries
    have hlimit := hwithin events events [] (List.append_nil events).symm
    rw [hheld, List.length_replicate] at hlimit
    change 0 + (config.maxBufferSize + 1) ≤ config.maxBufferSize at hlimit
    omega
  · intro hzero events
    apply (heldWithin_iff events).mpr
    intro before entry after _ hcalls
    rw [hzero] at hcalls
    exact absurd hcalls (Nat.not_lt_zero _)

/-- With batches of two and room for four, a fifth request is logged once the first write has settled, while the
second has not. -/
theorem audit_entries_held_small :
    let entry : AuditEntry := ⟨"p", none, "/messages", "POST", 200, 5, none, "10.0.0.1", none⟩
    let events : List AuditEvent := [.log entry, .log entry, .settle 0 none, .log entry, .log entry, .log entry]
    HeldWithin { flushBatchSize := 2, maxBufferSize := 4 } {} events ∧
      (AuditRun.exec { flushBatchSize := 2, maxBufferSize := 4 } {} events).held = 3 := by
  intro entry events
  refine ⟨(audit_entries_held { flushBatchSize := 2, maxBufferSize := 4 }).2.2.1 1 events (by decide) (by decide)
    fun before after hevents => ?_, by decide⟩
  have hprefix : before ∈ events.inits := (List.mem_inits _ _).mpr ⟨after, hevents.symm⟩
  have hall : ∀ before ∈ events.inits,
      (auditLoad { flushBatchSize := 2, maxBufferSize := 4 } before).unsettled.length ≤ 1 := by decide
  exact hall before hprefix

/-- With the settings as they are, a thousand and one requests are logged while no write comes back. -/
theorem audit_entries_exceed :
    let entry : AuditEntry := ⟨"p", none, "/messages", "POST", 200, 5, none, "10.0.0.1", none⟩
    (AuditRun.exec {} {} ((List.replicate 1001 entry).map .log)).held = 1001 ∧
      ({} : AuditConfig).maxBufferSize = 1000 ∧
      ¬ HeldWithin {} {} ((List.replicate 1001 entry).map .log) := by
  intro entry
  have hheld := @exec_logs_held {} (by decide) (by decide) {} (by decide) (List.replicate 1001 entry)
  rw [List.length_replicate] at hheld
  refine ⟨hheld, rfl, ?_⟩
  intro hwithin
  have hlimit := hwithin _ [] (List.append_nil _).symm
  rw [hheld] at hlimit
  exact absurd hlimit (by decide)

end Shedding

end ConnectHub
