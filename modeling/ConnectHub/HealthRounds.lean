import ConnectHub.HealthChecks
import ConnectHub.ProvisioningRuns

/-!
# Rounds of health checks

A round that nothing disturbs checks every active provider once, in whatever order its statements run, and leaves
each flag where one more outcome takes it: up after a success, down after the last of enough failures in a row. So
rounds that follow each other move every flag as a level with hysteresis does.
-/

namespace ConnectHub

open Store

/-- The provider that a task is about. -/
def HealthTask.providerId : HealthTask → Uuid
  | .probe _ provider => provider.id
  | .record _ provider _ _ => provider.id
  | .mark _ provider _ => provider.id
  | .cache providerId _ => providerId

/-- The events of a round that nothing disturbs, once it was started. -/
def HealthEvent.ofRound : HealthEvent → Bool
  | .probed | .unreadable | .recorded _ _ _ | .marked _ _ _ | .cached => true
  | .round _ | .published _ | .edited | .expired | .lost => false

/-- A round of a process that runs to its end undisturbed. -/
structure Round (readable : String → Bool) (process : ℕ) (s : HealthShared) (es : List HealthEvent)
    (s' : HealthShared) : Prop where
  undisturbed : ∀ e ∈ es, e.ofRound = true
  run : Run (HealthStep readable) ⟨s, s.checks process⟩ es ⟨s', []⟩

/-- Rounds of a process that follow each other undisturbed. -/
inductive Rounds (readable : String → Bool) (process : ℕ) : HealthShared → List (List HealthEvent) → HealthShared → Prop
  | nil (s : HealthShared) : Rounds readable process s [] s
  | cons {s t u : HealthShared} {es : List HealthEvent} {ess : List (List HealthEvent)}
      (first : Round readable process s es t) (rest : Rounds readable process t ess u) :
      Rounds readable process s (es :: ess) u

/-- The level of a provider for a process: its failures in a row, and its flag. -/
def HealthShared.level (shared : HealthShared) (process : ℕ) (provider : VpsProvider) : Level :=
  ⟨shared.consecutiveFailures process provider.id, provider.isHealthy⟩

/-- Where the check of a provider stands in a round: the tasks about it, the outcomes that were counted, the failures in
a row and the row, from where they started. -/
inductive CheckStage (readable : String → Bool) (process : ℕ) (start : VpsProvider) (failures : ℕ) :
    List HealthTask → List Bool → ℕ → VpsProvider → Prop
  | skipped (passed : ¬(start.isActive = true ∧ readable start.providerApiKey = true)) :
      CheckStage readable process start failures [] [] failures start
  | probing : CheckStage readable process start failures [.probe process start] [] failures start
  | recording (errorMsg : Option String) (responseMs : ℕ) :
      CheckStage readable process start failures [.record process start errorMsg responseMs] [] failures start
  | marking {level : Level} (outcome : Bool)
      (counted : Level.after unhealthyThreshold ⟨failures, start.isHealthy⟩ outcome = level) :
      CheckStage readable process start failures [.mark process start level.up] [outcome] level.failures start
  | caching {level : Level} (outcome : Bool) (now : Instant)
      (counted : Level.after unhealthyThreshold ⟨failures, start.isHealthy⟩ outcome = level) :
      CheckStage readable process start failures [.cache start.id level.up] [outcome] level.failures
        (start.flagged level.up now)
  | done {level : Level} (outcome : Bool) (row : VpsProvider)
      (counted : Level.after unhealthyThreshold ⟨failures, start.isHealthy⟩ outcome = level)
      (left : row = { start with isHealthy := level.up, lastHealthAt := row.lastHealthAt }) :
      CheckStage readable process start failures [] [outcome] level.failures row

section Stages

variable {readable : String → Bool} {shared shared' : HealthShared} {task : HealthTask} {e : HealthEvent}
  {next : Option HealthTask} {process : ℕ} {start row : VpsProvider} {failures : ℕ} {id : Uuid}
  {outcomes : List Bool} {tasks : List HealthTask}

/-- How a task goes on is about the same provider. -/
theorem HealthTask.Runs.providerId_eq (h : task.Runs readable shared e shared' next) :
    ∀ t ∈ next, t.providerId = task.providerId := by
  intro t ht
  cases h with
  | probed | marked => cases ht; rfl
  | unreadable | cached => cases ht
  | @recorded process provider errorMsg responseMs =>
    unfold HealthShared.decided at ht
    split at ht
    · split at ht
      · cases ht
      · cases ht
        rfl
    · split at ht
      · cases ht
        rfl
      · cases ht

/-- The flag of one provider leaves the rows of the others. -/
theorem find?_flag_of_ne {providerId : Uuid} {isHealthy : Bool} {now : Instant} (h : providerId ≠ id) :
    (shared.flag providerId isHealthy now).providers.find? id = shared.providers.find? id := by
  unfold HealthShared.flag
  dsimp only
  rw [Table.find?_modify]
  cases hfound : shared.providers.find? id with
  | none => rfl
  | some p =>
    obtain ⟨-, hid⟩ := Table.find?_eq_some.mp hfound
    have hother : ¬p.id = providerId := fun hsame => h (hsame.symm.trans hid)
    simp only [Option.map_some, hother, decide_false, Bool.false_eq_true, if_false]

/-- A task leaves what is kept of the other providers. -/
theorem HealthTask.Runs.other (h : task.Runs readable shared e shared' next) (hother : task.providerId ≠ id) :
    shared'.providers.find? id = shared.providers.find? id ∧
      shared'.consecutiveFailures process id = shared.consecutiveFailures process id ∧
      e.outcome? process id = none := by
  cases h with
  | probed | unreadable | cached => exact ⟨rfl, rfl, rfl⟩
  | @recorded p provider errorMsg responseMs =>
    have hne : ¬(p = process ∧ provider.id = id) := fun hsame => hother hsame.2
    exact ⟨rfl, by rw [recorded_failures, if_neg hne], by rw [HealthEvent.outcome?, if_neg hne]⟩
  | marked now _ => exact ⟨find?_flag_of_ne hother, rfl, rfl⟩

/-- A check that was counted goes on where the flag it read is not what one more outcome makes of it. -/
theorem decided_eq (hcount : shared.consecutiveFailures process start.id = failures) (healthy : Bool) {level : Level}
    (hlevel : Level.after unhealthyThreshold ⟨failures, start.isHealthy⟩ healthy = level) :
    shared.failuresAfter process start.id healthy = level.failures ∧
      ((level.up = start.isHealthy ∧ shared.decided process start healthy = none) ∨
        shared.decided process start healthy = some (.mark process start level.up)) := by
  subst hlevel
  cases healthy with
  | true =>
    refine ⟨rfl, ?_⟩
    cases hflag : start.isHealthy with
    | true => exact Or.inl ⟨rfl, by simp [HealthShared.decided, hflag]⟩
    | false => exact Or.inr (by simp [HealthShared.decided, hflag, Level.after])
  | false =>
    have hfailures : shared.failuresAfter process start.id false = failures + 1 := by
      rw [HealthShared.failuresAfter, hcount]
      rfl
    refine ⟨hfailures, ?_⟩
    rw [HealthShared.decided, hfailures]
    by_cases hlast : unhealthyThreshold ≤ failures + 1 ∧ start.isHealthy = true
    · refine Or.inr ?_
      have hfewer : ¬failures + 1 < unhealthyThreshold := Nat.not_lt.mpr hlast.1
      simp [hlast, Level.after, hfewer]
    · refine Or.inl ⟨?_, by simp [hlast]⟩
      cases hflag : start.isHealthy with
      | false => rfl
      | true =>
        have hfewer : failures + 1 < unhealthyThreshold := Nat.not_le.mp fun hle => hlast ⟨hle, hflag⟩
        simp [Level.after, hfewer]

/-- The one task about a provider takes its check a stage further. -/
theorem CheckStage.run {count : ℕ} (hstage : CheckStage readable process start failures [task] outcomes count row)
    (hrow : shared.providers.find? start.id = some row) (hcount : shared.consecutiveFailures process start.id = count)
    (h : task.Runs readable shared e shared' next) :
    ∃ row', shared'.providers.find? start.id = some row' ∧
      CheckStage readable process start failures next.toList (outcomes ++ (e.outcome? process start.id).toList)
        (shared'.consecutiveFailures process start.id) row' := by
  cases hstage with
  | probing =>
    cases h with
    | probed errorMsg responseMs _ =>
      rw [hcount]
      exact ⟨start, hrow, .recording errorMsg responseMs⟩
    | unreadable shut =>
      rw [hcount]
      exact ⟨start, hrow, .skipped fun hopen => Bool.false_ne_true (shut.symm.trans hopen.2)⟩
  | recording errorMsg responseMs =>
    cases h with
    | recorded =>
      obtain ⟨hfailures, hdecided⟩ := decided_eq hcount errorMsg.isNone rfl
      refine ⟨start, hrow, ?_⟩
      rw [recorded_failures, if_pos ⟨rfl, rfl⟩, HealthEvent.outcome?, if_pos ⟨rfl, rfl⟩, hfailures]
      rcases hdecided with ⟨hsame, hnone⟩ | hmark
      · rw [hnone]
        refine .done errorMsg.isNone start rfl ?_
        rw [hsame]
      · rw [hmark]
        exact .marking errorMsg.isNone rfl
  | @marking level outcome hcounted =>
    cases h with
    | marked now _ =>
      have hflagged : (shared.flag start.id level.up now).providers.find? start.id =
          some (start.flagged level.up now) := by
        unfold HealthShared.flag
        dsimp only
        rw [Table.find?_modify, hrow, Option.map_some, decide_eq_true rfl, if_pos rfl]
      refine ⟨start.flagged level.up now, hflagged, ?_⟩
      rw [show (shared.flag start.id level.up now).consecutiveFailures process start.id = level.failures from hcount]
      exact .caching outcome now hcounted
  | @caching level outcome now hcounted =>
    cases h with
    | cached =>
      refine ⟨start.flagged level.up now, hrow, ?_⟩
      rw [show (shared.cache start.id level.up).consecutiveFailures process start.id = level.failures from hcount]
      exact .done outcome (start.flagged level.up now) hcounted rfl

/-- Tasks about one provider, where one of all is replaced by how it goes on. -/
theorem filter_about_replaced {before after : List HealthTask} {next : Option HealthTask}
    (hnext : ∀ t ∈ next, t.providerId = task.providerId) (hother : task.providerId ≠ id) :
    (before ++ (next.toList ++ after)).filter (fun t => t.providerId = id) =
      (before ++ task :: after).filter (fun t => t.providerId = id) := by
  have hnone : next.toList.filter (fun t => t.providerId = id) = [] := by
    rw [List.filter_eq_nil_iff]
    intro t ht
    rw [hnext t (Option.mem_toList.mp ht), decide_eq_true_eq]
    exact hother
  rw [List.filter_append, List.filter_append, hnone, List.nil_append, List.filter_append,
    List.filter_cons_of_neg (by rw [decide_eq_true_eq]; exact hother)]

/-- The one task about a provider, replaced by how it goes on. -/
theorem filter_about_one {before after : List HealthTask} {next : Option HealthTask}
    (hnext : ∀ t ∈ next, t.providerId = task.providerId) (hsame : task.providerId = id)
    (hone : ((before ++ task :: after).filter fun t => t.providerId = id).length ≤ 1) :
    (before ++ task :: after).filter (fun t => t.providerId = id) = [task] ∧
      (before ++ (next.toList ++ after)).filter (fun t => t.providerId = id) = next.toList := by
  have hkeeps : next.toList.filter (fun t => t.providerId = id) = next.toList := by
    rw [List.filter_eq_self]
    intro t ht
    rw [hnext t (Option.mem_toList.mp ht), decide_eq_true_eq]
    exact hsame
  have hfirst : (task :: after).filter (fun t => t.providerId = id) = task :: after.filter fun t => t.providerId = id :=
    List.filter_cons_of_pos (decide_eq_true hsame)
  rw [List.filter_append, hfirst, List.length_append, List.length_cons] at hone
  have hbefore : before.filter (fun t => t.providerId = id) = [] := List.length_eq_zero_iff.mp (by omega)
  have hafter : after.filter (fun t => t.providerId = id) = [] := List.length_eq_zero_iff.mp (by omega)
  rw [List.filter_append, hfirst, List.filter_append, List.filter_append, hkeeps, hbefore, hafter]
  exact ⟨rfl, List.append_nil _⟩

/-- Where the check of a provider stands in a state of its round. -/
def CheckedAt (readable : String → Bool) (process : ℕ) (start : VpsProvider) (failures : ℕ) (hist : List HealthEvent)
    (p : Pool HealthShared HealthTask) : Prop :=
  ∃ row, p.shared.providers.find? start.id = some row ∧
    CheckStage readable process start failures (p.tasks.filter fun t => t.providerId = start.id)
      (checkOutcomes process start.id hist) (p.shared.consecutiveFailures process start.id) row

/-- At every stage there is at most one task. -/
theorem CheckStage.tasks_length {count : ℕ} (h : CheckStage readable process start failures tasks outcomes count row) :
    tasks.length ≤ 1 := by
  cases h <;> exact Nat.le_of_ble_eq_true rfl

/-- Every statement of a round takes the check of a provider further, or leaves it. -/
theorem CheckedAt.step {hist : List HealthEvent} {p q : Pool HealthShared HealthTask}
    (h : CheckedAt readable process start failures hist p) (hround : e.ofRound = true)
    (hstep : HealthStep readable p e q) : CheckedAt readable process start failures (hist ++ [e]) q := by
  obtain ⟨row, hrow, hstage⟩ := h
  cases hstep with
  | @ran before after task e s next position run =>
    have hnext := run.providerId_eq
    rw [position] at hstage
    by_cases habout : task.providerId = start.id
    · obtain ⟨hone, hleft⟩ := filter_about_one hnext habout hstage.tasks_length
      rw [hone] at hstage
      obtain ⟨row', hrow', hstage'⟩ := hstage.run hrow rfl run
      refine ⟨row', hrow', ?_⟩
      rw [checkOutcomes_snoc, hleft]
      exact hstage'
    · obtain ⟨hproviders, hfailures, houtcome⟩ := run.other habout
      refine ⟨row, hproviders.trans hrow, ?_⟩
      rw [checkOutcomes_snoc, houtcome, Option.toList_none, List.append_nil, filter_about_replaced hnext habout]
      exact hfailures ▸ hstage
  | came move => cases move <;> cases hround
  | lost _ => cases hround

/-- So does a run of them. -/
theorem CheckedAt.run {hist es : List HealthEvent} {p q : Pool HealthShared HealthTask}
    (h : CheckedAt readable process start failures hist p) (hround : ∀ e ∈ es, e.ofRound = true)
    (hrun : Run (HealthStep readable) p es q) : CheckedAt readable process start failures (hist ++ es) q := by
  induction hrun generalizing hist with
  | nil =>
    rw [List.append_nil]
    exact h
  | cons hstep _ ih =>
    have hrest := ih (h.step (hround _ List.mem_cons_self) hstep) fun e he => hround e (List.mem_cons_of_mem _ he)
    rw [List.append_assoc] at hrest
    exact hrest

/-- A round starts with one check of a provider, if it is active. -/
theorem checks_about (hstart : start ∈ shared.providers) :
    (shared.checks process).filter (fun t => t.providerId = start.id) =
      if start.isActive then [.probe process start] else [] := by
  have hone : ((shared.providers.rows.filter (·.isActive)).filter fun p => decide (p.id = start.id)) =
      if start.isActive then [start] else [] := by
    have hsame : ∀ p ∈ shared.providers.rows.filter (·.isActive), decide (p.id = start.id) = decide (p = start) :=
      fun p hp => by
        rw [decide_eq_decide]
        exact ⟨fun hid => Table.eq_of_key_eq (List.mem_filter.mp hp).1 hstart hid, fun heq => congrArg _ heq⟩
    have hrows : shared.providers.rows.Nodup := shared.providers.nodup.of_map _
    rw [List.filter_congr hsame, List.filter_eq]
    cases hactive : start.isActive with
    | true =>
      have hmem : start ∈ shared.providers.rows.filter (·.isActive) := List.mem_filter.mpr ⟨hstart, hactive⟩
      rw [List.count_eq_one_of_mem (hrows.filter _) hmem]
      rfl
    | false =>
      have hnot : start ∉ shared.providers.rows.filter (·.isActive) := fun hmem =>
        Bool.false_ne_true (hactive.symm.trans (List.mem_filter.mp hmem).2)
      rw [List.count_eq_zero_of_not_mem hnot]
      rfl
  rw [HealthShared.checks, List.filter_map]
  change ((shared.providers.rows.filter (·.isActive)).filter fun p => decide (p.id = start.id)).map
    (HealthTask.probe process) = _
  rw [hone]
  cases start.isActive <;> rfl

end Stages

section Rounds

variable {readable : String → Bool} {s s' t u : HealthShared} {es : List HealthEvent} {ess : List (List HealthEvent)}
  {process : ℕ} {p : VpsProvider}

/-- What a round leaves of a provider: an active one with a key that opens is checked once, and its level moves by the
outcome. -/
theorem Round.level (h : Round readable process s es s') (hp : p ∈ s.providers) (hactive : p.isActive = true)
    (hopens : readable p.providerApiKey = true) :
    ∃ row ∈ s'.providers, row.id = p.id ∧ row.isActive = true ∧ readable row.providerApiKey = true ∧
      ∃ outcome, checkOutcomes process p.id es = [outcome] ∧
        s'.level process row = (s.level process p).after unhealthyThreshold outcome := by
  have hbegin : CheckedAt readable process p (s.consecutiveFailures process p.id) [] ⟨s, s.checks process⟩ := by
    refine ⟨p, Table.find?_key hp, ?_⟩
    rw [checks_about hp, if_pos hactive]
    exact .probing
  obtain ⟨row, hrow, hstage⟩ := hbegin.run h.undisturbed h.run
  obtain ⟨hmem, hid⟩ := Table.find?_eq_some.mp hrow
  rw [List.nil_append] at hstage
  dsimp only [List.filter_nil] at hstage
  generalize houtcomes : checkOutcomes process p.id es = found at hstage
  generalize hcount : s'.consecutiveFailures process p.id = count at hstage
  cases hstage with
  | skipped passed => exact absurd ⟨hactive, hopens⟩ passed
  | @done level outcome row counted left =>
    refine ⟨row, hmem, hid, ?_, ?_, outcome, rfl, ?_⟩
    · rw [left]
      exact hactive
    · rw [left]
      exact hopens
    · have hup : row.isHealthy = level.up := by rw [left]
      have hfailures : s'.consecutiveFailures process row.id = level.failures := by
        rw [show row.id = p.id from hid, hcount]
      rw [HealthShared.level, hfailures, hup]
      exact counted.symm

/-- Rounds that follow each other move the level of an active provider by their outcomes. -/
theorem Rounds.level (h : Rounds readable process s ess s') (hp : p ∈ s.providers) (hactive : p.isActive = true)
    (hopens : readable p.providerApiKey = true) :
    ∃ row ∈ s'.providers, row.id = p.id ∧ (checkOutcomes process p.id ess.flatten).length = ess.length ∧
      s'.level process row =
        (s.level process p).run unhealthyThreshold (checkOutcomes process p.id ess.flatten) := by
  induction h generalizing p with
  | nil s => exact ⟨p, hp, rfl, rfl, rfl⟩
  | @cons s t u es ess first rest ih =>
    obtain ⟨row, hrow, hid, hactive', hopens', outcome, houtcome, hlevel⟩ := first.level hp hactive hopens
    obtain ⟨last, hlast, hlastId, hlength, hrest⟩ := ih hrow hactive' hopens'
    have hflatten : checkOutcomes process p.id (es :: ess).flatten =
        outcome :: checkOutcomes process p.id ess.flatten := by
      rw [List.flatten_cons, checkOutcomes, List.filterMap_append]
      exact congrArg (· ++ checkOutcomes process p.id ess.flatten) houtcome
    rw [hid] at hlastId hlength hrest
    refine ⟨last, hlast, hlastId, ?_, ?_⟩
    · rw [hflatten, List.length_cons, List.length_cons, hlength]
    · rw [hflatten, hrest, hlevel]
      rfl

/-- A flag that is turned was turned by a check that may. -/
theorem HealthStep.marked {hist : List HealthEvent} {a b : Pool HealthShared HealthTask} {id : Uuid} {isHealthy : Bool}
    (h : HealthStep readable a (.marked process id isHealthy) b) (hjustified : ∀ task ∈ a.tasks, task.Justified hist) :
    if isHealthy then true ∈ checkOutcomes process id hist
    else List.replicate unhealthyThreshold false <:+: checkOutcomes process id hist := by
  cases h with
  | ran position run =>
    cases run with
    | marked now _ =>
      have htask := hjustified _ (position ▸ List.mem_append_right _ List.mem_cons_self)
      cases isHealthy with
      | true => exact htask.2
      | false => exact htask.2
  | came move => cases move

/-- Whatever the rounds of any processes do, statement by statement in any order and lost at any point, beside refreshes
and edits: a flag is taken down only after its process counted enough failures in a row, and raised by a check only
after it counted a success; a flag that is down was down at the start, or some process counted that many failures in a
row. From there on, rounds of one process that nothing disturbs check every active provider with a key that opens once
each, and move its flag as a level with hysteresis from what the process had counted; once they saw a success, the flag
is up exactly while fewer failures came after the last one. -/
theorem health_marked {q : Pool HealthShared HealthTask} {events : List HealthEvent}
    (hfresh : ∀ process id, s.consecutiveFailures process id = 0)
    (hrun : Run (HealthStep readable) ⟨s, []⟩ events q) :
    (∀ before process id isHealthy after, events = before ++ .marked process id isHealthy :: after →
        if isHealthy then true ∈ checkOutcomes process id before
        else List.replicate unhealthyThreshold false <:+: checkOutcomes process id before) ∧
      (∀ p ∈ q.shared.providers, p.isHealthy = false →
        (∃ p₀ ∈ s.providers, p₀.id = p.id ∧ p₀.isHealthy = false) ∨
          ∃ process, List.replicate unhealthyThreshold false <:+: checkOutcomes process p.id events) ∧
      ∀ process ess s', Rounds readable process q.shared ess s' → ∀ p ∈ q.shared.providers, p.isActive = true →
        readable p.providerApiKey = true →
        ∃ p' ∈ s'.providers, p'.id = p.id ∧ (checkOutcomes process p.id ess.flatten).length = ess.length ∧
          p'.isHealthy = (Level.run unhealthyThreshold ⟨trailing (checkOutcomes process p.id events), p.isHealthy⟩
            (checkOutcomes process p.id ess.flatten)).up ∧
          (true ∈ checkOutcomes process p.id ess.flatten →
            p'.isHealthy = decide (trailing (checkOutcomes process p.id ess.flatten) < unhealthyThreshold)) := by
  have hstart : Pool.Right (HealthInvariant s) (fun hist _ (task : HealthTask) => task.Justified hist) [] ⟨s, []⟩ :=
    ⟨⟨fun process id => hfresh process id, fun p hp hdown => Or.inl ⟨p, hp, rfl, hdown⟩⟩,
      fun task htask => absurd htask List.not_mem_nil⟩
  have hend := hrun.right (healthDiscipline readable s) hstart
  refine ⟨fun before process id isHealthy after heq => ?_, hend.1.flags,
    fun process ess s' hrounds p hp hactive hopens => ?_⟩
  · rw [heq] at hrun
    obtain ⟨t, t', hbefore, hstep, -⟩ := hrun.exists_step
    exact hstep.marked (hbefore.right (healthDiscipline readable s) hstart).2
  · obtain ⟨p', hp', hid, hlength, hlevel⟩ := hrounds.level hp hactive hopens
    have hcount : q.shared.level process p = ⟨trailing (checkOutcomes process p.id events), p.isHealthy⟩ := by
      rw [HealthShared.level, hend.1.counts]
      rfl
    rw [hcount] at hlevel
    have hup := congrArg Level.up hlevel
    refine ⟨p', hp', hid, hlength, hup, fun hsuccess => hup.trans ?_⟩
    have hpositive : 0 < unhealthyThreshold := Nat.succ_pos 2
    rw [Level.run_of_success hsuccess hpositive]

end Rounds

/-- One active provider whose flag is up, that no process checked yet. -/
def smallHealth : HealthShared where
  providers := smallDatabase.providers
  healthChecks := []
  cached := fun _ => none
  consecutiveFailures := fun _ _ => 0

/-- One more failed check of its is counted by a process. -/
def HealthShared.failing (shared : HealthShared) (process : ℕ) : HealthShared :=
  shared.recorded process smallProvider.id (some "timeout") 5000

/-- What is seen of the checks of two processes, one of which counts three failures in a row. -/
def smallFailures : List HealthEvent :=
  let id := smallProvider.id
  [.round 0, .round 1, .probed, .probed, .recorded 1 id false, .recorded 0 id false, .round 0, .probed,
    .recorded 0 id false, .round 0, .probed, .recorded 0 id false, .marked 0 id false, .cached]

/-- What they leave. -/
def smallDown : HealthShared :=
  (((((smallHealth.failing 1).failing 0).failing 0).failing 0).flag smallProvider.id false 180000).cache
    smallProvider.id false

/-- The checks may go like that. -/
theorem smallFailures_run : Run (HealthStep fun _ => true) ⟨smallHealth, []⟩ smallFailures ⟨smallDown, []⟩ :=
  .cons (.came (.round 0)) <| .cons (.came (.round 1)) <| .cons (.first rfl (.probed (some "timeout") 5000 rfl)) <|
  .cons (.ran (show _ = [HealthTask.record 1 smallProvider (some "timeout") 5000] ++
    .probe 0 smallProvider :: [] from rfl) (.probed (some "timeout") 5000 rfl)) <|
  .cons (.first rfl .recorded) <| .cons (.first rfl .recorded) <| .cons (.came (.round 0)) <|
  .cons (.first rfl (.probed (some "timeout") 5000 rfl)) <| .cons (.first rfl .recorded) <|
  .cons (.came (.round 0)) <| .cons (.first rfl (.probed (some "timeout") 5000 rfl)) <|
  .cons (.first rfl .recorded) <| .cons (.first rfl (.marked 180000 (by decide))) <| .cons (.first rfl .cached) <|
  .nil _

/-- A round that nothing disturbs, in which it answers again. -/
def smallRecovery : List HealthEvent :=
  [.probed, .recorded 0 smallProvider.id true, .marked 0 smallProvider.id true, .cached]

/-- The flag is taken down by three failures in a row of one process, and is up again after the next round, in which the
check succeeds. -/
theorem health_marked_small :
    List.replicate unhealthyThreshold false <:+: checkOutcomes 0 smallProvider.id (smallFailures.take 12) ∧
      (∃ process, List.replicate unhealthyThreshold false <:+: checkOutcomes process smallProvider.id smallFailures) ∧
      ∃ s', Rounds (fun _ => true) 0 smallDown [smallRecovery] s' ∧
        ∃ p ∈ s'.providers, p.id = smallProvider.id ∧ p.isHealthy = true := by
  obtain ⟨hmarked, hdown, hlevels⟩ := health_marked (fun _ _ => rfl) smallFailures_run
  have hrow : smallProvider.flagged false 180000 ∈ smallDown.providers := List.mem_singleton.mpr rfl
  refine ⟨hmarked _ 0 smallProvider.id false [.cached] rfl, (hdown _ hrow rfl).resolve_left ?_, ?_⟩
  · rintro ⟨p, hp, -, hunhealthy⟩
    cases List.mem_singleton.mp hp
    cases hunhealthy
  · have hrounds : Rounds (fun _ => true) 0 smallDown [smallRecovery]
        (((smallDown.recorded 0 smallProvider.id none 20).flag smallProvider.id true 240000).cache
          smallProvider.id true) :=
      .cons ⟨by decide, .cons (.first rfl (.probed none 20 rfl)) <| .cons (.first rfl .recorded) <|
        .cons (.first rfl (.marked 240000 (by decide))) <| .cons (.first rfl .cached) <| .nil _⟩ (.nil _)
    obtain ⟨p, hp, hid, -, -, hup⟩ := hlevels 0 _ _ hrounds _ hrow rfl rfl
    have hsuccess : checkOutcomes 0 smallProvider.id [smallRecovery].flatten = [true] := by decide
    have hsame : (smallProvider.flagged false 180000).id = smallProvider.id := rfl
    rw [hsame, hsuccess] at hup
    exact ⟨_, hrounds, p, hp, hid, hup (List.mem_singleton.mpr rfl)⟩

end ConnectHub
