import ConnectHub.Schema
import ConnectHub.Store.Hysteresis
import ConnectHub.Store.Pool

/-!
# Health checks

Every process of the Hub checks all active providers, in rounds that may overlap with each other and with those of
other processes. Each process counts for itself how often a provider failed in a row; what it knows of the flag of a
provider is what it read when the round started. Refreshes of the inventory raise the flag too.
-/

namespace ConnectHub

open Store

/-- The record of one check. -/
structure HealthCheck where
  vpsProviderId : Uuid
  status : String
  responseMs : ℕ
  errorMsg : Option String
deriving DecidableEq, Repr

/-- How often a check has to fail in a row before its provider is marked as unhealthy. -/
def unhealthyThreshold : ℕ := 3

/-- The tables, the flags in the cache, and what each process counts. -/
structure HealthShared where
  providers : Table VpsProvider
  healthChecks : List HealthCheck
  cached : Uuid → Option Bool
  consecutiveFailures : ℕ → Uuid → ℕ

/-- A check under way, before its next statement, with the row that its round read; a check that failed carries the
text of the failure. -/
inductive HealthTask
  | probe (process : ℕ) (provider : VpsProvider)
  | record (process : ℕ) (provider : VpsProvider) (errorMsg : Option String) (responseMs : ℕ)
  | mark (process : ℕ) (provider : VpsProvider) (isHealthy : Bool)
  | cache (providerId : Uuid) (isHealthy : Bool)
deriving DecidableEq

/-- What is seen of a step. -/
inductive HealthEvent
  | round (process : ℕ)
  | probed
  | unreadable
  | recorded (process : ℕ) (providerId : Uuid) (healthy : Bool)
  | marked (process : ℕ) (providerId : Uuid) (isHealthy : Bool)
  | cached
  | published (providerId : Uuid)
  | edited
  | expired
  | lost
deriving DecidableEq

/-- The row that is kept of a check. -/
def healthCheckOf (providerId : Uuid) (errorMsg : Option String) (responseMs : ℕ) : HealthCheck where
  vpsProviderId := providerId
  status := if errorMsg.isNone then "healthy" else "unhealthy"
  responseMs := responseMs
  errorMsg := errorMsg

/-- The failures in a row, counted with one more outcome. -/
def HealthShared.failuresAfter (shared : HealthShared) (process : ℕ) (providerId : Uuid) (healthy : Bool) : ℕ :=
  if healthy then 0 else shared.consecutiveFailures process providerId + 1

/-- The record is written, and its process counts it. -/
def HealthShared.recorded (shared : HealthShared) (process : ℕ) (providerId : Uuid) (errorMsg : Option String)
    (responseMs : ℕ) : HealthShared :=
  { shared with
    healthChecks := shared.healthChecks ++ [healthCheckOf providerId errorMsg responseMs]
    consecutiveFailures := Function.update shared.consecutiveFailures process
      (Function.update (shared.consecutiveFailures process) providerId
        (shared.failuresAfter process providerId errorMsg.isNone)) }

/-- How a check goes on once it is counted: the flag it read is turned by the last of enough failures, or by a
success. -/
def HealthShared.decided (shared : HealthShared) (process : ℕ) (provider : VpsProvider) (healthy : Bool) :
    Option HealthTask :=
  if healthy then
    if provider.isHealthy then none else some (.mark process provider true)
  else if unhealthyThreshold ≤ shared.failuresAfter process provider.id healthy ∧ provider.isHealthy = true then
    some (.mark process provider false)
  else none

/-- The row of a provider with its flag set. -/
def VpsProvider.flagged (isHealthy : Bool) (now : Instant) (provider : VpsProvider) : VpsProvider :=
  { provider with isHealthy, lastHealthAt := some now }

/-- The flag of a provider is set. -/
def HealthShared.flag (shared : HealthShared) (providerId : Uuid) (isHealthy : Bool) (now : Instant) : HealthShared :=
  { shared with providers := shared.providers.modify (fun p => p.id = providerId) (·.flagged isHealthy now) }

/-- The flag of a provider is written to the cache. -/
def HealthShared.cache (shared : HealthShared) (providerId : Uuid) (isHealthy : Bool) : HealthShared :=
  { shared with cached := Function.update shared.cached providerId (some isHealthy) }

/-- The statements of a check. A key that does not open ends it. -/
inductive HealthTask.Runs (readable : String → Bool) (shared : HealthShared) :
    HealthTask → HealthEvent → HealthShared → Option HealthTask → Prop
  | probed {process provider} (errorMsg : Option String) (responseMs : ℕ)
      (opens : readable provider.providerApiKey = true) :
      Runs readable shared (.probe process provider) .probed shared
        (some (.record process provider errorMsg responseMs))
  | unreadable {process provider} (shut : readable provider.providerApiKey = false) :
      Runs readable shared (.probe process provider) .unreadable shared none
  | recorded {process provider errorMsg responseMs} :
      Runs readable shared (.record process provider errorMsg responseMs)
        (.recorded process provider.id errorMsg.isNone) (shared.recorded process provider.id errorMsg responseMs)
        (shared.decided process provider errorMsg.isNone)
  | marked {process provider isHealthy} (now : Instant) (found : shared.providers.find? provider.id ≠ none) :
      Runs readable shared (.mark process provider isHealthy) (.marked process provider.id isHealthy)
        (shared.flag provider.id isHealthy now) (some (.cache provider.id isHealthy))
  | cached {providerId isHealthy} :
      Runs readable shared (.cache providerId isHealthy) .cached (shared.cache providerId isHealthy) none

/-- The checks that a round starts. -/
def HealthShared.checks (shared : HealthShared) (process : ℕ) : List HealthTask :=
  (shared.providers.rows.filter (·.isActive)).map (.probe process)

/-- What happens besides: a round starts, a refresh of the inventory raises a flag, providers are made and edited
otherwise, and what is in the cache expires. -/
inductive HealthMove (shared : HealthShared) : HealthEvent → HealthShared → List HealthTask → Prop
  | round (process : ℕ) : HealthMove shared (.round process) shared (shared.checks process)
  | published (providerId : Uuid) (now : Instant) :
      HealthMove shared (.published providerId) (shared.flag providerId true now) []
  | edited (providers : Table VpsProvider) (kept : ∀ p ∈ providers, p.isHealthy = false →
      ∃ q ∈ shared.providers, q.id = p.id ∧ q.isHealthy = false) :
      HealthMove shared .edited { shared with providers } []
  | expired (providerId : Uuid) :
      HealthMove shared .expired { shared with cached := Function.update shared.cached providerId none } []

/-- Checks in any number, statement by statement and in any order; one is lost when its process stops or one of its
accesses fails. -/
def HealthStep (readable : String → Bool) :
    Pool HealthShared HealthTask → HealthEvent → Pool HealthShared HealthTask → Prop :=
  PoolStep (HealthTask.Runs readable) HealthMove .lost

/-- The outcome that an event counts for a provider in a process. -/
def HealthEvent.outcome? (process : ℕ) (providerId : Uuid) : HealthEvent → Option Bool
  | .recorded p id healthy => if p = process ∧ id = providerId then some healthy else none
  | _ => none

/-- The outcomes a process counted for a provider, in order. -/
def checkOutcomes (process : ℕ) (providerId : Uuid) (events : List HealthEvent) : List Bool :=
  events.filterMap (·.outcome? process providerId)

section Safety

variable {readable : String → Bool} {shared shared' : HealthShared} {hist : List HealthEvent} {e : HealthEvent}
  {process : ℕ} {id : Uuid}

/-- One more event. -/
theorem checkOutcomes_snoc (process : ℕ) (id : Uuid) (hist : List HealthEvent) (e : HealthEvent) :
    checkOutcomes process id (hist ++ [e]) = checkOutcomes process id hist ++ (e.outcome? process id).toList := by
  rw [checkOutcomes, List.filterMap_append]
  cases houtcome : e.outcome? process id with
  | none => rw [List.filterMap_cons_none houtcome]; rfl
  | some outcome => rw [List.filterMap_cons_some houtcome]; rfl

/-- Every process counts the failures at the end of its outcomes. -/
def CountsTrailing (hist : List HealthEvent) (shared : HealthShared) : Prop :=
  ∀ process id, shared.consecutiveFailures process id = trailing (checkOutcomes process id hist)

/-- What is known of a check: it turns a flag after enough failures in a row, or after a success, and only a flag that
it read the other way. -/
def HealthTask.Justified (hist : List HealthEvent) : HealthTask → Prop
  | .mark process provider true => provider.isHealthy = false ∧ true ∈ checkOutcomes process provider.id hist
  | .mark process provider false => provider.isHealthy = true ∧
      List.replicate unhealthyThreshold false <:+: checkOutcomes process provider.id hist
  | _ => True

/-- What justifies a check stays. -/
theorem HealthTask.Justified.snoc {task : HealthTask} (h : task.Justified hist) (e : HealthEvent) :
    task.Justified (hist ++ [e]) := by
  cases task with
  | mark process provider isHealthy =>
    cases isHealthy with
    | true =>
      refine ⟨h.1, ?_⟩
      rw [checkOutcomes_snoc]
      exact List.mem_append_left _ h.2
    | false =>
      refine ⟨h.1, ?_⟩
      rw [checkOutcomes_snoc]
      exact h.2.trans (List.prefix_append _ _).isInfix
  | probe | record | cache => trivial

/-- What is counted when a record is written. -/
theorem recorded_failures (provider : Uuid) (errorMsg : Option String) (responseMs : ℕ) (p : ℕ) (id : Uuid) :
    (shared.recorded process provider errorMsg responseMs).consecutiveFailures p id =
      if process = p ∧ provider = id then shared.failuresAfter process provider errorMsg.isNone
      else shared.consecutiveFailures p id := by
  unfold HealthShared.recorded
  dsimp only
  by_cases hprocess : process = p
  · subst hprocess
    rw [Function.update_self]
    by_cases hid : provider = id
    · subst hid
      rw [Function.update_self, if_pos ⟨rfl, rfl⟩]
    · rw [Function.update_of_ne (Ne.symm hid), if_neg fun h => hid h.2]
  · rw [Function.update_of_ne (Ne.symm hprocess), if_neg fun h => hprocess h.1]

/-- Events that count nothing leave the counts. -/
theorem CountsTrailing.quiet (h : CountsTrailing hist shared) (hquiet : ∀ process id, e.outcome? process id = none)
    (hsame : shared'.consecutiveFailures = shared.consecutiveFailures) : CountsTrailing (hist ++ [e]) shared' := by
  intro process id
  rw [hsame, checkOutcomes_snoc, hquiet, Option.toList_none, List.append_nil]
  exact h process id

/-- A record is counted. -/
theorem CountsTrailing.recorded (h : CountsTrailing hist shared) (provider : Uuid) (errorMsg : Option String)
    (responseMs : ℕ) : CountsTrailing (hist ++ [.recorded process provider errorMsg.isNone])
      (shared.recorded process provider errorMsg responseMs) := by
  intro p id
  rw [recorded_failures, checkOutcomes_snoc]
  by_cases hsame : process = p ∧ provider = id
  · obtain ⟨rfl, rfl⟩ := hsame
    rw [if_pos ⟨rfl, rfl⟩, HealthEvent.outcome?, if_pos ⟨rfl, rfl⟩, Option.toList_some, trailing_snoc,
      HealthShared.failuresAfter, h]
  · rw [if_neg hsame, HealthEvent.outcome?, if_neg hsame, Option.toList_none, List.append_nil]
    exact h p id

/-- Where a flag is down, it was down at the start, or some process counted enough failures in a row. -/
def FlagsJustified (start : HealthShared) (hist : List HealthEvent) (shared : HealthShared) : Prop :=
  ∀ p ∈ shared.providers, p.isHealthy = false →
    (∃ q ∈ start.providers, q.id = p.id ∧ q.isHealthy = false) ∨
      ∃ process, List.replicate unhealthyThreshold false <:+: checkOutcomes process p.id hist

variable {start : HealthShared}

/-- What justifies the flags stays while no flag is taken down. -/
theorem FlagsJustified.snoc (h : FlagsJustified start hist shared) (e : HealthEvent)
    (hkept : ∀ p ∈ shared'.providers, p.isHealthy = false →
      ∃ q ∈ shared.providers, q.id = p.id ∧ q.isHealthy = false) : FlagsJustified start (hist ++ [e]) shared' := by
  intro p hp hdown
  obtain ⟨q, hq, hid, hqdown⟩ := hkept p hp hdown
  rcases h q hq hqdown with ⟨q₀, hq₀, hid₀, hdown₀⟩ | ⟨process, hrow⟩
  · exact Or.inl ⟨q₀, hq₀, hid₀.trans hid, hdown₀⟩
  · refine Or.inr ⟨process, ?_⟩
    rw [← hid, checkOutcomes_snoc]
    exact hrow.trans (List.prefix_append _ _).isInfix

/-- A provider after a flag was set. -/
theorem mem_flag {providerId : Uuid} {isHealthy : Bool} {now : Instant} {p : VpsProvider} :
    p ∈ (shared.flag providerId isHealthy now).providers ↔
      ∃ q ∈ shared.providers, (if q.id = providerId then q.flagged isHealthy now else q) = p := by
  unfold HealthShared.flag
  dsimp only
  rw [Table.mem_modify]
  simp only [decide_eq_true_eq]

/-- Raising a flag takes none down. -/
theorem flag_up_kept {providerId : Uuid} {now : Instant} {p : VpsProvider}
    (hp : p ∈ (shared.flag providerId true now).providers) (hdown : p.isHealthy = false) :
    ∃ q ∈ shared.providers, q.id = p.id ∧ q.isHealthy = false := by
  obtain ⟨q, hq, rfl⟩ := mem_flag.mp hp
  by_cases hid : q.id = providerId
  · rw [if_pos hid] at hdown
    cases hdown
  · rw [if_neg hid] at hdown ⊢
    exact ⟨q, hq, rfl, hdown⟩

/-- How a check goes on once it was counted is justified by what was counted. -/
theorem decided_justified (hcounts : CountsTrailing hist shared) (provider : VpsProvider) (errorMsg : Option String) :
    ∀ t ∈ shared.decided process provider errorMsg.isNone,
      t.Justified (hist ++ [.recorded process provider.id errorMsg.isNone]) := by
  intro t ht
  have houtcomes : checkOutcomes process provider.id (hist ++ [.recorded process provider.id errorMsg.isNone]) =
      checkOutcomes process provider.id hist ++ [errorMsg.isNone] := by
    rw [checkOutcomes_snoc, HealthEvent.outcome?, if_pos ⟨rfl, rfl⟩, Option.toList_some]
  unfold HealthShared.decided at ht
  cases hhealthy : errorMsg.isNone with
  | true =>
    rw [hhealthy] at ht houtcomes
    cases hflag : provider.isHealthy with
    | true => simp [hflag] at ht
    | false =>
      simp only [hflag, if_true, Bool.false_eq_true, if_false, Option.mem_some_iff] at ht
      subst ht
      refine ⟨hflag, ?_⟩
      rw [houtcomes]
      exact List.mem_append_right _ (List.mem_singleton.mpr rfl)
  | false =>
    rw [hhealthy] at ht houtcomes
    simp only [Bool.false_eq_true, if_false] at ht
    split at ht
    · next hlast =>
      obtain rfl := Option.mem_some_iff.mp ht
      refine ⟨hlast.2, ?_⟩
      rw [houtcomes]
      refine replicate_infix_of_le_trailing ?_
      rw [trailing_snoc, ← hcounts]
      exact hlast.1
    · cases ht

/-- What holds of the counts and the flags in every state. -/
structure HealthInvariant (start : HealthShared) (hist : List HealthEvent) (shared : HealthShared) : Prop where
  counts : CountsTrailing hist shared
  flags : FlagsJustified start hist shared

/-- Events that count nothing and touch no provider keep the invariant. -/
theorem HealthInvariant.quiet (h : HealthInvariant start hist shared)
    (hquiet : ∀ process id, e.outcome? process id = none)
    (hfailures : shared'.consecutiveFailures = shared.consecutiveFailures)
    (hproviders : shared'.providers = shared.providers) : HealthInvariant start (hist ++ [e]) shared' :=
  ⟨h.counts.quiet hquiet hfailures, h.flags.snoc e fun p hp hdown => ⟨p, hproviders ▸ hp, rfl, hdown⟩⟩

/-- Raising a flag keeps the invariant. -/
theorem HealthInvariant.raised (h : HealthInvariant start hist shared)
    (hquiet : ∀ process id, e.outcome? process id = none) (providerId : Uuid) (now : Instant) :
    HealthInvariant start (hist ++ [e]) (shared.flag providerId true now) :=
  ⟨h.counts.quiet hquiet rfl, h.flags.snoc e fun _ hp hdown => flag_up_kept hp hdown⟩

/-- Taking a flag down keeps the invariant after enough failures in a row. -/
theorem HealthInvariant.lowered (h : HealthInvariant start hist shared)
    (hquiet : ∀ process id, e.outcome? process id = none) {providerId : Uuid} (now : Instant)
    (hrow : List.replicate unhealthyThreshold false <:+: checkOutcomes process providerId hist) :
    HealthInvariant start (hist ++ [e]) (shared.flag providerId false now) := by
  refine ⟨h.counts.quiet hquiet rfl, fun p hp hdown => ?_⟩
  obtain ⟨q, hq, rfl⟩ := mem_flag.mp hp
  by_cases hid : q.id = providerId
  · right
    refine ⟨process, ?_⟩
    rw [if_pos hid, show (q.flagged false now).id = providerId from hid, checkOutcomes_snoc]
    exact hrow.trans (List.prefix_append _ _).isInfix
  · rw [if_neg hid] at hdown ⊢
    exact h.flags.snoc e (fun p hp hdown => ⟨p, hp, rfl, hdown⟩) q hq hdown

/-- Checks count the failures at the end of their outcomes, turn flags only when they may, and leave flags down only for
a reason. -/
theorem healthDiscipline (readable : String → Bool) (start : HealthShared) :
    Discipline (HealthTask.Runs readable) HealthMove .lost (HealthInvariant start)
      (fun hist _ task => task.Justified hist) fun _ _ _ _ => True where
  statement_ok := by
    rintro hist s task e s' next hholds hjustified hrun
    cases hrun with
    | probed errorMsg responseMs _ =>
      refine ⟨hholds.quiet (fun _ _ => rfl) rfl rfl, trivial, ?_⟩
      rintro t ⟨⟩
      trivial
    | unreadable _ => exact ⟨hholds.quiet (fun _ _ => rfl) rfl rfl, trivial, fun t ht => by cases ht⟩
    | @recorded process provider errorMsg responseMs =>
      refine ⟨⟨hholds.counts.recorded provider.id errorMsg responseMs, ?_⟩, trivial,
        decided_justified hholds.counts provider errorMsg⟩
      exact hholds.flags.snoc _ fun p hp hdown => ⟨p, hp, rfl, hdown⟩
    | @marked process provider isHealthy now _ =>
      refine ⟨?_, trivial, ?_⟩
      · cases isHealthy with
        | true => exact hholds.raised (fun _ _ => rfl) provider.id now
        | false => exact hholds.lowered (fun _ _ => rfl) now hjustified.2
      · rintro t ⟨⟩
        trivial
    | cached => exact ⟨hholds.quiet (fun _ _ => rfl) rfl rfl, trivial, fun t ht => by cases ht⟩
  environment_ok := by
    rintro hist s e s' new hholds hmove
    cases hmove with
    | round process =>
      refine ⟨hholds.quiet (fun _ _ => rfl) rfl rfl, trivial, fun t ht => ?_⟩
      obtain ⟨provider, -, rfl⟩ := List.mem_map.mp ht
      trivial
    | published providerId now =>
      exact ⟨hholds.raised (fun _ _ => rfl) providerId now, trivial, fun t ht => absurd ht List.not_mem_nil⟩
    | edited providers kept =>
      exact ⟨⟨hholds.counts.quiet (fun _ _ => rfl) rfl, hholds.flags.snoc _ kept⟩, trivial,
        fun t ht => absurd ht List.not_mem_nil⟩
    | expired providerId =>
      exact ⟨hholds.quiet (fun _ _ => rfl) rfl rfl, trivial, fun t ht => absurd ht List.not_mem_nil⟩
  lost_ok := fun hholds => ⟨hholds.quiet (fun _ _ => rfl) rfl rfl, trivial⟩
  stable := fun hjustified _ => hjustified.snoc _

end Safety

end ConnectHub
