import ConnectHub.Batch
import ConnectHub.Store.Run
import Mathlib.Data.List.Count

/-!
# The end of a batch

An execution counts its message as sent or failed before it counts it as done, so whoever counts the last
one reads final counters, and the counter of messages done hands out every number once, so exactly one
execution is the last. Resolving the adapter stands outside of this protocol: where the adapter type is
unknown, no message is counted and no execution is ever the last.
-/

namespace ConnectHub

open Store

namespace BatchPhase

/-- How the message was attempted, if it was. -/
def outcome : BatchPhase → Option Bool
  | .queued | .sending _ | .rejected => none
  | .delivered => some true
  | .refused _ => some false
  | .attempted deliveryError => some deliveryError.isNone
  | .announced success | .counted success _ | .last success | .tallying success _ | .finishing success _ _
  | .ended success | .written success => some success

/-- How the message was counted, if it was. -/
def recorded : BatchPhase → Option Bool
  | .delivered | .refused _ => none
  | phase => phase.outcome

/-- Whether the message was counted as done. -/
def isDone : BatchPhase → Bool
  | .counted _ _ | .last _ | .tallying _ _ | .finishing _ _ _ | .ended _ | .written _ => true
  | _ => false

/-- Whether an execution is the last one of a number. -/
def isLast (total : Nat) : BatchPhase → Bool
  | .counted _ done => done = total
  | .last _ | .tallying _ _ | .finishing _ _ _ | .written _ => true
  | _ => false

/-- Whether an execution wrote the row. -/
def isWritten : BatchPhase → Bool
  | .written _ => true
  | _ => false

/-- The counter that the next step of an execution raises. -/
def raises (id : Uuid) : BatchPhase → Option BatchKey
  | .delivered => some (.sent id)
  | .refused _ => some (.failed id)
  | .announced _ => some (.done id)
  | _ => none

/-- What an execution remembers of the counters is what they say. -/
def Remembers (sent failed : Nat) : BatchPhase → Prop
  | .tallying _ sent' => sent' = sent
  | .finishing _ sent' failed' => sent' = sent ∧ failed' = failed
  | _ => True

/-- An execution that wrote the row is the last. -/
theorem isLast_of_isWritten {total : Nat} {phase : BatchPhase} (h : phase.isWritten = true) :
    phase.isLast total = true := by
  cases phase <;> first | rfl | cases h

/-- An execution that is done raises no counter. -/
theorem raises_of_isDone {id : Uuid} {phase : BatchPhase} (h : phase.isDone = true) :
    phase.raises id = none := by
  cases phase <;> first | rfl | cases h

/-- An execution that raises a counter is not done. -/
theorem isDone_of_raises {id : Uuid} {key : BatchKey} {phase : BatchPhase} (h : phase.raises id = some key) :
    phase.isDone = false := by
  cases hdone : phase.isDone with
  | false => rfl
  | true =>
    rw [raises_of_isDone hdone] at h
    cases h

/-- A message that is counted as done was attempted. -/
theorem exists_outcome_of_isDone {phase : BatchPhase} (h : phase.isDone = true) :
    ∃ success, phase.outcome = some success := by
  cases phase <;> first | exact ⟨_, rfl⟩ | cases h

/-- A message that is counted as done was counted with its outcome. -/
theorem recorded_of_isDone {phase : BatchPhase} (h : phase.isDone = true) :
    phase.recorded = phase.outcome := by
  cases phase <;> first | rfl | cases h

end BatchPhase

section Step

variable {registry : List String} {input : BatchInput} {shared : BatchShared} {execution : BatchExecution}
  {key : BatchKey} {id : Uuid} {total : Nat}

/-- A counter after it was raised, and the others. -/
theorem Cache.read_increment (cache : Cache) (raised key : BatchKey) :
    (cache.increment raised).read key = cache.read key + if raised = key then 1 else 0 := by
  unfold Cache.increment Cache.setWithTTL Cache.read
  by_cases hkey : raised = key
  · subst hkey
    simp
  · simp [hkey, Function.update_of_ne (Ne.symm hkey)]

/-- Announcing a message touches neither the counters nor the rows. -/
theorem announce_kept (deliveryError : Option String) :
    (execution.announce input deliveryError shared).cache = shared.cache ∧
      (execution.announce input deliveryError shared).batchJobs = shared.batchJobs := by
  unfold BatchExecution.announce
  split
  · split <;> exact ⟨rfl, rfl⟩
  · exact ⟨rfl, rfl⟩

/-- The counters after a step. -/
theorem effect_cache : (execution.effect input shared).cache =
    match execution.phase.raises execution.payload.batchJobId with
    | some key => shared.cache.increment key
    | none => shared.cache := by
  unfold BatchExecution.effect
  cases execution.phase with
  | attempted deliveryError => exact (announce_kept deliveryError).1
  | _ => rfl

/-- The value of a counter after a step. -/
theorem read_effect : (execution.effect input shared).cache.read key =
    shared.cache.read key +
      if execution.phase.raises execution.payload.batchJobId = some key then 1 else 0 := by
  rw [effect_cache]
  cases hraised : execution.phase.raises execution.payload.batchJobId with
  | none => simp
  | some raised => simp [Cache.read_increment]

/-- The total of a batch does not change. -/
theorem total_effect : (execution.effect input shared).cache (.total id) = shared.cache (.total id) := by
  rw [effect_cache]
  cases execution.phase <;> rfl

/-- The rows after a step that is not the one that writes. -/
theorem effect_batchJobs (h : ∀ success sent failed, execution.phase ≠ .finishing success sent failed) :
    (execution.effect input shared).batchJobs = shared.batchJobs := by
  unfold BatchExecution.effect
  cases hphase : execution.phase with
  | attempted deliveryError => exact (announce_kept deliveryError).2
  | finishing success sent failed => exact absurd hphase (h success sent failed)
  | _ => rfl

/-- An execution that finishes completes the row of its batch. -/
theorem effect_finishing {id : Uuid} {found : BatchJob} {success : Bool} {sent failed : Nat}
    (hid : execution.payload.batchJobId = id) (hfound : shared.batchJobs.find? id = some found)
    (hphase : execution.phase = .finishing success sent failed) :
    (execution.effect input shared).batchJobs.find? id = some (found.completed input.now sent failed) := by
  have hfoundId : found.id = id := (Table.find?_eq_some.mp hfound).2
  unfold BatchExecution.effect
  rw [hphase, hid]
  simp only [Table.find?_modify, hfound, Option.map_some, hfoundId, decide_true, if_true]

/-- What a step can do to the phase of an execution. -/
inductive BatchPhase.Next (known : Bool) (shared : BatchShared) (id : Uuid) : BatchPhase → BatchPhase → Prop
  | resolved {method} (h : known = true) : Next known shared id .queued (.sending method)
  | rejected (h : known = false) : Next known shared id .queued .rejected
  | delivered {method} : Next known shared id (.sending method) .delivered
  | refused {method deliveryError} : Next known shared id (.sending method) (.refused deliveryError)
  | sent : Next known shared id .delivered (.attempted none)
  | failed {deliveryError} : Next known shared id (.refused deliveryError) (.attempted (some deliveryError))
  | announced {deliveryError} :
      Next known shared id (.attempted deliveryError) (.announced deliveryError.isNone)
  | counted {success} :
      Next known shared id (.announced success) (.counted success (shared.cache.read (.done id) + 1))
  | last {success done} (h : shared.cache (.total id) = some done) :
      Next known shared id (.counted success done) (.last success)
  | ended {success done} (h : shared.cache (.total id) ≠ some done) :
      Next known shared id (.counted success done) (.ended success)
  | tallied {success} :
      Next known shared id (.last success) (.tallying success (shared.cache.read (.sent id)))
  | compared {success sent} :
      Next known shared id (.tallying success sent) (.finishing success sent (shared.cache.read (.failed id)))
  | written {success sent failed} (h : shared.batchJobs.find? id ≠ none) :
      Next known shared id (.finishing success sent failed) (.written success)
  | lost {success sent failed} (h : shared.batchJobs.find? id = none) :
      Next known shared id (.finishing success sent failed) (.ended success)

/-- An execution that is not over takes one of these steps. -/
theorem next_spec (running : execution.phase.over = false) :
    BatchPhase.Next (registry.contains execution.payload.adapterType) shared execution.payload.batchJobId
      execution.phase (execution.next registry input shared) := by
  unfold BatchExecution.next
  cases hphase : execution.phase with
  | queued =>
    dsimp only
    split
    · next hknown => exact .resolved hknown
    · next hunknown => exact .rejected (Bool.eq_false_iff.mpr hunknown)
  | sending method =>
    dsimp only
    split
    · exact .delivered
    · exact .refused
  | delivered => exact .sent
  | refused deliveryError => exact .failed
  | attempted deliveryError => exact .announced
  | announced success => exact .counted
  | counted success done =>
    dsimp only
    split
    · next htotal => exact .last htotal
    · next htotal => exact .ended htotal
  | last success => exact .tallied
  | tallying success sent => exact .compared
  | finishing success sent failed =>
    dsimp only
    split
    · next hfound => exact .written (Option.isSome_iff_ne_none.mp hfound)
    · next hfound => exact .lost (Option.not_isSome_iff_eq_none.mp hfound)
  | ended | written | rejected =>
    rw [hphase] at running
    cases running

end Step

namespace BatchPhase.Next

variable {known : Bool} {shared : BatchShared} {id : Uuid} {a b : BatchPhase} {total : Nat}

/-- A message is attempted once, and keeps its outcome. -/
theorem outcome_kept (h : Next known shared id a b) {success : Bool} (ha : a.outcome = some success) :
    b.outcome = some success := by
  cases h <;> first | exact ha | cases ha

/-- An execution that wrote the row takes no step. -/
theorem not_isWritten (h : Next known shared id a b) : a.isWritten = false := by
  cases h <;> rfl

/-- A message is counted as sent or as failed in the step that raises that counter. -/
theorem recorded_iff (h : Next known shared id a b) (success : Bool) :
    b.recorded = some success ↔
      a.recorded = some success ∨ a.raises id = some (if success then .sent id else .failed id) := by
  cases h <;> cases success <;> simp [recorded, outcome, raises]

/-- A message is counted as done in the step that raises that counter. -/
theorem isDone_iff (h : Next known shared id a b) :
    b.isDone = true ↔ a.isDone = true ∨ a.raises id = some (.done id) := by
  cases h <;> simp [isDone, raises]

/-- An execution becomes the last one in the step in which it counts the last message as done. -/
theorem isLast_iff (h : Next known shared id a b) (htotal : shared.cache (.total id) = some total)
    (hrow : shared.batchJobs.find? id ≠ none) :
    b.isLast total = true ↔ a.isLast total = true ∨
      a.raises id = some (.done id) ∧ shared.cache.read (.done id) + 1 = total := by
  cases h with
  | last hdone =>
    rw [htotal, Option.some.injEq] at hdone
    simp [isLast, raises, hdone]
  | ended hdone =>
    rw [htotal, ne_eq, Option.some.injEq, eq_comm] at hdone
    simp [isLast, raises, hdone]
  | lost hlost => exact absurd hlost hrow
  | _ => simp [isLast, raises]

/-- An execution that is not done is not the last. -/
theorem isLast_of_raises (h : a.raises id = some (.done id)) : a.isLast total = false := by
  cases a <;> first | rfl | cases h

/-- An execution whose adapter type is known is not rejected. -/
theorem ne_rejected (h : Next true shared id a b) : b ≠ .rejected := by
  cases h with
  | rejected hunknown => cases hunknown
  | _ => nofun

/-- Only the last execution remembers any counter. -/
theorem remembers_of_not_isLast {sent failed : Nat} (h : a.isLast total = false) :
    a.Remembers sent failed := by
  cases a <;> trivial

/-- What an execution remembers after a step is what it read in it, or remembered before. -/
theorem remembers (h : Next known shared id a b)
    (ha : a.Remembers (shared.cache.read (.sent id)) (shared.cache.read (.failed id))) :
    b.Remembers (shared.cache.read (.sent id)) (shared.cache.read (.failed id)) := by
  cases h with
  | tallied => rfl
  | compared => exact ⟨ha, rfl⟩
  | _ => trivial

/-- An execution that starts to remember counters is the last already. -/
theorem remembers_of_early {sent failed : Nat} (h : Next known shared id a b) (ha : a.isLast total = false) :
    b.Remembers sent failed := by
  cases h with
  | tallied | compared => cases ha
  | _ => trivial

/-- The row is written in one step only. -/
theorem isWritten_eq_false (h : Next known shared id a b)
    (ha : ∀ success sent failed, a ≠ .finishing success sent failed) :
    b.isWritten = false := by
  cases h with
  | written => exact absurd rfl (ha _ _ _)
  | _ => rfl

/-- No counter is raised twice for one message. -/
theorem recorded_of_raises (success : Bool)
    (h : a.raises id = some (if success then .sent id else .failed id)) :
    a.recorded ≠ some success := by
  cases a <;> cases success <;> first | (simp [raises] at h; done) | simp [recorded]

end BatchPhase.Next

/-- The number of executions in a phase of a kind. -/
def BatchSystem.count (s : BatchSystem) (p : BatchPhase → Bool) : Nat :=
  s.executions.countP fun execution => p execution.phase

/-- What an event brings an execution to that it was not at before. -/
def BatchEvent.enters (p : BatchPhase → Bool) : BatchEvent → Bool
  | .moved before after => !p before && p after
  | .elsewhere => false

/-- What holds of a batch of a number of messages, whose adapter type is known, between any two steps. -/
structure BatchSystem.Consistent (s : BatchSystem) (registry : List String) (id : Uuid)
    (total : Nat) : Prop where
  members : s.executions.length = total
  own : ∀ execution ∈ s.executions, execution.payload.batchJobId = id
  known : ∀ execution ∈ s.executions, registry.contains execution.payload.adapterType = true
  resolved : ∀ execution ∈ s.executions, execution.phase ≠ .rejected
  announced : s.shared.cache (.total id) = some total
  sent : s.shared.cache.read (.sent id) = s.count (·.recorded = some true)
  failed : s.shared.cache.read (.failed id) = s.count (·.recorded = some false)
  done : s.shared.cache.read (.done id) = s.count (·.isDone)
  last : s.count (·.isLast total) = if s.count (·.isDone) = total then 1 else 0
  remembers : ∀ execution ∈ s.executions,
    execution.phase.Remembers (s.shared.cache.read (.sent id)) (s.shared.cache.read (.failed id))
  row : ∃ row, s.shared.batchJobs.find? id = some row ∧ row.totalMessages = total ∧
    (0 < s.count (·.isWritten) → row.status = .completed ∧
      row.sentCount = s.shared.cache.read (.sent id) ∧ row.failedCount = s.shared.cache.read (.failed id))

section Consistent

variable {registry : List String} {id : Uuid} {total : Nat} {s s' : BatchSystem} {e : BatchEvent}
  {before after : List BatchExecution} {execution execution' : BatchExecution} {p : BatchPhase → Bool}

/-- The count of a kind of phases once one execution moved. -/
theorem count_moved {shared : BatchShared} (position : s.executions = before ++ execution :: after) :
    BatchSystem.count ⟨before ++ execution' :: after, shared⟩ p + (p execution.phase).toNat =
      s.count p + (p execution'.phase).toNat := by
  unfold BatchSystem.count
  rw [position]
  cases hp : p execution.phase <;> cases hp' : p execution'.phase <;>
    simp [List.countP_append, hp, hp'] <;> omega

/-- One message more is done when its counter is raised, and this one was not done before. -/
theorem count_done_moved {known : Bool} {input : BatchInput} (position : s.executions = before ++ execution :: after)
    (hnext : BatchPhase.Next known s.shared id execution.phase (execution.next registry input s.shared)) :
    BatchSystem.count ⟨before ++ execution.advance registry input s.shared :: after,
        execution.effect input s.shared⟩ (·.isDone) =
      s.count (·.isDone) + (decide (execution.phase.raises id = some (.done id))).toNat ∧
    (execution.phase.raises id = some (.done id) → s.count (·.isDone) < s.executions.length) := by
  have hcount := @count_moved s before after execution (execution.advance registry input s.shared) (·.isDone)
    (execution.effect input s.shared) position
  have hphase : (execution.advance registry input s.shared).phase =
    execution.next registry input s.shared := rfl
  rw [hphase] at hcount
  by_cases hraises : execution.phase.raises id = some (.done id)
  · have hold : execution.phase.isDone = false := BatchPhase.isDone_of_raises hraises
    have hexecution : execution ∈ s.executions := position ▸ List.mem_append_right _ List.mem_cons_self
    rw [hnext.isDone_iff.mpr (Or.inr hraises), hold] at hcount
    rw [decide_eq_true hraises]
    constructor
    · exact hcount
    · intro _
      exact List.countP_lt_length_iff.mpr ⟨execution, hexecution, by simp [hold]⟩
  · have hsame : (execution.next registry input s.shared).isDone = execution.phase.isDone := by
      rw [Bool.eq_iff_iff, hnext.isDone_iff]
      exact or_iff_left hraises
    rw [hsame] at hcount
    rw [decide_eq_false hraises]
    constructor
    · exact Nat.add_right_cancel hcount
    · intro h
      exact absurd h hraises

/-- A kind that a step enters but never leaves is counted by the events that enter it. -/
theorem BatchStep.count_enters
    (hkept : ∀ known shared k a b, BatchPhase.Next known shared k a b → p a = true → p b = true)
    (h : BatchStep registry id s e s') : s'.count p = s.count p + (e.enters p).toNat := by
  cases h with
  | elsewhere => rfl
  | @moved before after execution input position running =>
    have hcount := @count_moved s before after execution (execution.advance registry input s.shared) p
      (execution.effect input s.shared) position
    have hnext := hkept _ _ _ _ _ (@next_spec registry input s.shared execution running)
    have hphase : (execution.advance registry input s.shared).phase =
      execution.next registry input s.shared := rfl
    rw [hphase] at hcount
    unfold BatchEvent.enters
    cases ha : p execution.phase with
    | false =>
      simp only [ha, Bool.toNat_false, Nat.add_zero, Bool.not_false, Bool.true_and] at hcount ⊢
      exact hcount
    | true =>
      simp only [ha, hnext ha, Bool.toNat_true, Bool.not_true, Bool.false_and, Bool.toNat_false] at hcount ⊢
      omega

namespace BatchSystem.Consistent

/-- Once some execution is the last, all messages are counted as done. -/
theorem all_done (h : s.Consistent registry id total) (hexecution : execution ∈ s.executions)
    (hlast : execution.phase.isLast total = true) :
    s.count (·.isDone) = total ∧ ∀ other ∈ s.executions, other.phase.isDone = true := by
  have hpos : 0 < s.count (·.isLast total) := List.countP_pos_iff.mpr ⟨execution, hexecution, hlast⟩
  have hdone : s.count (·.isDone) = total := by
    by_contra hne
    rw [h.last, if_neg hne] at hpos
    exact absurd hpos (Nat.lt_irrefl 0)
  refine ⟨hdone, List.countP_eq_length.mp ?_⟩
  rw [h.members]
  exact hdone

/-- A count of messages after a step: it grew exactly if the step raised the counter. -/
theorem count_raised {input : BatchInput} {key : BatchKey}
    (position : s.executions = before ++ execution :: after)
    (hid : execution.payload.batchJobId = id)
    (hnext : p (execution.next registry input s.shared) = true ↔
      p execution.phase = true ∨ execution.phase.raises id = some key)
    (honce : execution.phase.raises id = some key → p execution.phase = false)
    (hread : s.shared.cache.read key = s.count p) :
    (execution.effect input s.shared).cache.read key =
      BatchSystem.count ⟨before ++ execution.advance registry input s.shared :: after,
        execution.effect input s.shared⟩ p := by
  have hcount := @count_moved s before after execution (execution.advance registry input s.shared) p
    (execution.effect input s.shared) position
  have hphase : (execution.advance registry input s.shared).phase =
    execution.next registry input s.shared := rfl
  rw [hphase] at hcount
  rw [read_effect, hid, hread]
  by_cases hraises : execution.phase.raises id = some key
  · rw [honce hraises, hnext.mpr (Or.inr hraises)] at hcount
    rw [if_pos hraises]
    exact hcount.symm
  · have hsame : p (execution.next registry input s.shared) = p execution.phase := by
      rw [Bool.eq_iff_iff, hnext]
      exact or_iff_left hraises
    rw [hsame] at hcount
    rw [if_neg hraises]
    omega

/-- Between two steps of which the second is taken by an execution that is the last, or comes after the last
one, no counter changes. -/
theorem read_kept {input : BatchInput} (h : s.Consistent registry id total)
    (position : s.executions = before ++ execution :: after) (hexecution' : execution' ∈ s.executions)
    (hlast : execution'.phase.isLast total = true) (key : BatchKey) :
    (execution.effect input s.shared).cache.read key = s.shared.cache.read key := by
  have hexecution : execution ∈ s.executions := position ▸ List.mem_append_right _ List.mem_cons_self
  rw [read_effect, BatchPhase.raises_of_isDone ((h.all_done hexecution' hlast).2 _ hexecution)]
  simp

end BatchSystem.Consistent

/-- What holds of all executions and of the one that moved holds of all that are there then. -/
theorem forall_moved {P : BatchExecution → Prop} (position : s.executions = before ++ execution :: after)
    (h : ∀ x ∈ s.executions, P x) (hmoved : P execution') : ∀ x ∈ before ++ execution' :: after, P x := by
  intro x hx
  rcases List.mem_append.mp hx with hx | hx
  · exact h x (position ▸ List.mem_append_left _ hx)
  · rcases List.mem_cons.mp hx with rfl | hx
    · exact hmoved
    · exact h x (position ▸ List.mem_append_right _ (List.mem_cons_of_mem _ hx))

/-- A step keeps a batch consistent. -/
theorem BatchStep.consistent (hstep : BatchStep registry id s e s') (h : s.Consistent registry id total) :
    s'.Consistent registry id total := by
  cases hstep with
  | @elsewhere shared counters row =>
    have hread : ∀ key : BatchKey, key.batch = id → shared.cache.read key = s.shared.cache.read key := by
      intro key hkey
      unfold Cache.read
      rw [counters key hkey]
    obtain ⟨found, hfound, htotal, hwritten⟩ := h.row
    refine ⟨h.members, h.own, h.known, h.resolved, (counters _ rfl).trans h.announced,
      (hread _ rfl).trans h.sent, (hread _ rfl).trans h.failed, (hread _ rfl).trans h.done, h.last, ?_,
      found, row.trans hfound, htotal, ?_⟩
    · rw [hread _ rfl, hread _ rfl]
      exact h.remembers
    · rw [hread _ rfl, hread _ rfl]
      exact hwritten
  | @moved before after execution input position running =>
    have hexecution : execution ∈ s.executions := position ▸ List.mem_append_right _ List.mem_cons_self
    have hid := h.own execution hexecution
    obtain ⟨found, hfound, htotal, hwritten⟩ := h.row
    have hnext := @next_spec registry input s.shared execution running
    rw [hid, h.known execution hexecution] at hnext
    have hphase : (execution.advance registry input s.shared).phase =
      execution.next registry input s.shared := rfl
    have hcount : ∀ p, _ := fun p => @count_moved s before after execution
      (execution.advance registry input s.shared) p (execution.effect input s.shared) position
    rw [hphase] at hcount
    refine ⟨?_, forall_moved position h.own hid, forall_moved position h.known (h.known execution hexecution),
      forall_moved position h.resolved hnext.ne_rejected, total_effect.trans h.announced, ?_, ?_, ?_,
        ?_, ?_, ?_⟩
    · have hmembers := h.members
      rw [position] at hmembers
      simpa using hmembers
    · refine BatchSystem.Consistent.count_raised position hid ?_ (fun hraises => ?_) h.sent
      · simpa using hnext.recorded_iff true
      · exact decide_eq_false (BatchPhase.Next.recorded_of_raises true hraises)
    · refine BatchSystem.Consistent.count_raised position hid ?_ (fun hraises => ?_) h.failed
      · simpa using hnext.recorded_iff false
      · exact decide_eq_false (BatchPhase.Next.recorded_of_raises false hraises)
    · refine BatchSystem.Consistent.count_raised position hid hnext.isDone_iff (fun hraises => ?_) h.done
      exact BatchPhase.isDone_of_raises hraises
    · -- the last execution appears exactly when the counter of messages done reaches their number
      have hlast := hcount (·.isLast total)
      obtain ⟨hdone, hroom⟩ := count_done_moved position hnext
      have hlastIff := hnext.isLast_iff h.announced (by simp [hfound])
      by_cases hraises : execution.phase.raises id = some (.done id)
      · have hbelow : s.count (·.isDone) < total := h.members ▸ hroom hraises
        rw [BatchPhase.Next.isLast_of_raises hraises, h.last, if_neg (Nat.ne_of_lt hbelow)] at hlast
        rw [BatchPhase.Next.isLast_of_raises hraises, h.done] at hlastIff
        rw [decide_eq_true hraises] at hdone
        simp only [Bool.toNat_true, Bool.toNat_false, Nat.add_zero, Nat.zero_add] at hdone hlast
        rw [hlast, hdone]
        split
        · next heq => rw [hlastIff.mpr (Or.inr ⟨hraises, heq⟩), Bool.toNat_true]
        · next hne =>
          rw [Bool.toNat_eq_zero, ← Bool.not_eq_true, hlastIff]
          simp [hne]
      · have hsame : (execution.next registry input s.shared).isLast total =
          execution.phase.isLast total := by
          rw [Bool.eq_iff_iff, hlastIff]
          exact or_iff_left fun hboth => hraises hboth.1
        rw [hsame] at hlast
        rw [Nat.add_right_cancel hlast, hdone, decide_eq_false hraises]
        exact h.last
    · by_cases hany : ∃ x ∈ s.executions, x.phase.isLast total = true
      · obtain ⟨x, hx, hlast⟩ := hany
        rw [h.read_kept position hx hlast, h.read_kept position hx hlast]
        exact forall_moved position h.remembers (hnext.remembers (h.remembers execution hexecution))
      · have hnone : ∀ x ∈ s.executions, x.phase.isLast total = false := fun x hx =>
          Bool.eq_false_iff.mpr fun hlast => hany ⟨x, hx, hlast⟩
        exact forall_moved position (fun x hx => BatchPhase.Next.remembers_of_not_isLast (hnone x hx))
          (hnext.remembers_of_early (hnone execution hexecution))
    · by_cases hfinishing : ∃ success sent failed, execution.phase = .finishing success sent failed
      · obtain ⟨success, sent, failed, hphase⟩ := hfinishing
        have hlast : execution.phase.isLast total = true := by rw [hphase]; rfl
        have hremembers := h.remembers execution hexecution
        rw [hphase] at hremembers
        refine ⟨found.completed input.now sent failed, ?_, htotal, fun _ => ⟨rfl, ?_, ?_⟩⟩
        · exact effect_finishing hid hfound hphase
        · rw [h.read_kept position hexecution hlast]
          exact hremembers.1
        · rw [h.read_kept position hexecution hlast]
          exact hremembers.2
      · have hother : ∀ success sent failed, execution.phase ≠ .finishing success sent failed :=
          fun success sent failed hphase => hfinishing ⟨success, sent, failed, hphase⟩
        refine ⟨found, ?_, htotal, fun hpos => ?_⟩
        · rw [effect_batchJobs hother]
          exact hfound
        · have hwrote := hcount (·.isWritten)
          rw [hnext.not_isWritten, hnext.isWritten_eq_false hother] at hwrote
          have hpos' : 0 < s.count (·.isWritten) := Nat.add_right_cancel hwrote ▸ hpos
          obtain ⟨x, hx, hxWritten⟩ := List.countP_pos_iff.mp hpos'
          have hlast := @BatchPhase.isLast_of_isWritten total _ hxWritten
          rw [h.read_kept position hx hlast, h.read_kept position hx hlast]
          exact hwritten hpos'

end Consistent

/-- What a batch that went well leaves: its row was written once, after every message was attempted, with the
numbers of messages sent and failed, which make up the whole batch. -/
structure BatchSettled (total : Nat) (es : List BatchEvent) (row : BatchJob) : Prop where
  once : es.countP (·.enters (·.isWritten)) = 1
  afterAll : ∀ pre e post, es = pre ++ e :: post → e.enters (·.isWritten) = true →
    pre.countP (·.enters (·.outcome.isSome)) = total
  status : row.status = .completed
  sent : row.sentCount = es.countP (·.enters (·.outcome = some true))
  failed : row.failedCount = es.countP (·.enters (·.outcome = some false))
  whole : row.sentCount + row.failedCount = row.totalMessages

section Runs

variable {registry : List String} {id : Uuid} {total : Nat} {s t : BatchSystem} {es : List BatchEvent}
  {shared : BatchShared} {request : BatchRequest} {row : BatchJob} {p : BatchPhase → Bool}

/-- The executions of a batch that was just queued. -/
theorem mem_start {execution : BatchExecution}
    (h : execution ∈ (BatchSystem.start shared request).executions) :
    execution.phase = .queued ∧ execution.payload.batchJobId = request.batchJobId ∧
      execution.payload.adapterType = request.adapterType := by
  obtain ⟨job, hjob, rfl⟩ := List.mem_map.mp h
  obtain ⟨index, _, rfl⟩ := List.mem_mapIdx.mp hjob
  exact ⟨rfl, rfl, rfl⟩

/-- No execution of a batch that was just queued is further than that. -/
theorem count_start (hp : p .queued = false) : (BatchSystem.start shared request).count p = 0 := by
  refine List.countP_eq_zero.mpr fun execution hexecution => ?_
  rw [(mem_start hexecution).1, hp]
  decide

/-- The executions that came to a kind of phases no execution leaves are those the run brought there. -/
theorem count_run (hkept : ∀ known shared k a b, BatchPhase.Next known shared k a b → p a = true → p b = true)
    (hp : p .queued = false) (h : Run (BatchStep registry id) (.start shared request) es t) :
    t.count p = es.countP (·.enters p) := by
  have hcount := h.count_eq (f := (·.count p)) fun _ _ _ hstep => hstep.count_enters hkept
  rw [count_start hp, Nat.zero_add] at hcount
  exact hcount

/-- A batch of some messages is consistent once it is queued, if its adapter type is known. -/
theorem start_consistent (hknown : registry.contains request.adapterType = true)
    (hmessages : request.messages ≠ [])
    (hfresh : ∀ key : BatchKey, key.batch = request.batchJobId → shared.cache key = none)
    (hrow : shared.batchJobs.find? request.batchJobId = some row)
    (htotal : row.totalMessages = request.messages.length) :
    (BatchSystem.start shared request).Consistent registry request.batchJobId request.messages.length := by
  have hread : ∀ key : BatchKey, key.batch = request.batchJobId → key ≠ .total request.batchJobId →
      (BatchSystem.start shared request).shared.cache.read key = 0 := by
    intro key hkey hne
    unfold BatchSystem.start addJobs Cache.setWithTTL Cache.read
    simp [Function.update_of_ne hne, hfresh key hkey]
  have hlength : 0 < request.messages.length := List.length_pos_iff.mpr hmessages
  refine ⟨?_, fun _ hexecution => (mem_start hexecution).2.1, fun _ hexecution => ?_,
    fun _ hexecution => ?_, ?_, ?_, ?_, ?_, ?_, fun _ hexecution => ?_, row, hrow, htotal, fun hpos => ?_⟩
  · simp [BatchSystem.start, addJobs, BatchRequest.jobs]
  · rw [(mem_start hexecution).2.2]
    exact hknown
  · rw [(mem_start hexecution).1]
    decide
  · simp [BatchSystem.start, addJobs, Cache.setWithTTL]
  · rw [hread _ rfl (by simp), count_start rfl]
  · rw [hread _ rfl (by simp), count_start rfl]
  · rw [hread _ rfl (by simp), count_start rfl]
  · rw [count_start rfl, count_start rfl, if_neg (Nat.ne_of_lt hlength)]
  · rw [(mem_start hexecution).1]
    trivial
  · rw [count_start rfl] at hpos
    exact absurd hpos (Nat.lt_irrefl 0)

/-- Where the adapter type is unknown, no execution gets further than to be rejected. -/
theorem unknown_run (hunknown : registry.contains request.adapterType = false)
    (h : Run (BatchStep registry id) (.start shared request) es t) :
    ∀ execution ∈ t.executions, execution.payload.adapterType = request.adapterType ∧
      (execution.phase = .queued ∨ execution.phase = .rejected) := by
  refine h.invariant (I := fun s => ∀ execution ∈ s.executions,
    execution.payload.adapterType = request.adapterType ∧
    (execution.phase = .queued ∨ execution.phase = .rejected))
    (fun s e t hs hstep => ?_) fun execution hexecution => ?_
  · cases hstep with
    | elsewhere => exact hs
    | @moved before after execution input position running =>
      obtain ⟨hadapter, hphase⟩ := hs execution (position ▸ List.mem_append_right _ List.mem_cons_self)
      refine forall_moved position hs ⟨hadapter, Or.inr ?_⟩
      have hqueued : execution.phase = .queued := by
        rcases hphase with hphase | hphase
        · exact hphase
        · rw [hphase] at running
          cases running
      have hnext := @next_spec registry input s.shared execution running
      rw [hqueued, hadapter, hunknown] at hnext
      change execution.next registry input s.shared = _
      generalize execution.next registry input s.shared = phase at hnext
      cases hnext with
      | resolved hknown => cases hknown
      | rejected => rfl
  · exact ⟨(mem_start hexecution).2.2, Or.inl (mem_start hexecution).1⟩

/-- A batch whose executions are all over, each with its adapter resolved, counted every message as done, and
the one execution that was the last wrote the row. -/
theorem BatchSystem.Consistent.complete (h : s.Consistent registry id total)
    (hover : ∀ execution ∈ s.executions, execution.phase.over = true) :
    s.count (·.isWritten) = 1 ∧ ∀ execution ∈ s.executions, execution.phase.isDone = true := by
  have hall : ∀ execution ∈ s.executions,
      execution.phase.isDone = true ∧
        (execution.phase.isWritten = true ↔ execution.phase.isLast total = true) := by
    intro execution hexecution
    have hphase := hover execution hexecution
    have hresolved := h.resolved execution hexecution
    cases hcase : execution.phase with
    | ended success => simp [BatchPhase.isDone, BatchPhase.isWritten, BatchPhase.isLast]
    | written success => simp [BatchPhase.isDone, BatchPhase.isWritten, BatchPhase.isLast]
    | rejected => exact absurd hcase hresolved
    | _ =>
      rw [hcase] at hphase
      cases hphase
  have hdone : s.count (·.isDone) = total := by
    rw [← h.members]
    exact List.countP_eq_length.mpr fun execution hexecution => (hall execution hexecution).1
  refine ⟨?_, fun execution hexecution => (hall execution hexecution).1⟩
  have hlast := h.last
  rw [if_pos hdone] at hlast
  rw [← hlast]
  exact List.countP_congr fun execution hexecution => (hall execution hexecution).2

/-- Where every message is counted as done, those that were sent and those that failed are all there are. -/
theorem BatchSystem.Consistent.whole (h : s.Consistent registry id total)
    (hdone : ∀ execution ∈ s.executions, execution.phase.isDone = true) :
    s.count (·.outcome = some true) + s.count (·.outcome = some false) = total := by
  have hsplit := List.length_eq_countP_add_countP (fun execution : BatchExecution =>
    decide (execution.phase.outcome = some true)) (l := s.executions)
  rw [h.members] at hsplit
  have hfailed : s.count (·.outcome = some false) = s.executions.countP fun execution =>
      decide (¬decide (execution.phase.outcome = some true) = true) := by
    refine List.countP_congr fun execution hexecution => ?_
    obtain ⟨success, hsuccess⟩ := BatchPhase.exists_outcome_of_isDone (hdone execution hexecution)
    dsimp only
    rw [hsuccess]
    cases success <;> decide
  rw [hfailed]
  exact hsplit.symm

/-- When the row is written, every message was attempted. -/
theorem BatchStep.attempted_of_writes {e : BatchEvent} (h : s.Consistent registry id total)
    (hstep : BatchStep registry id s e t) (he : e.enters (·.isWritten) = true) :
    s.count (·.outcome.isSome) = total := by
  cases hstep with
  | elsewhere => cases he
  | @moved before after execution input position running =>
    have hexecution : execution ∈ s.executions := position ▸ List.mem_append_right _ List.mem_cons_self
    have hnext := @next_spec registry input s.shared execution running
    have hwritten : (execution.next registry input s.shared).isWritten = true := by
      unfold BatchEvent.enters at he
      exact (Bool.and_eq_true_iff.mp he).2
    have hlast : execution.phase.isLast total = true := by
      generalize execution.phase = a at hnext
      generalize execution.next registry input s.shared = b at hnext hwritten
      cases hnext <;> first | rfl | cases hwritten
    rw [← h.members]
    refine List.countP_eq_length.mpr fun other hother => ?_
    obtain ⟨success, hsuccess⟩ := BatchPhase.exists_outcome_of_isDone
      ((h.all_done hexecution hlast).2 other hother)
    dsimp only
    rw [hsuccess]
    rfl

/-- A message that was attempted stays so. -/
theorem outcome_isSome_kept (known : Bool) (shared : BatchShared) (k : Uuid) (a b : BatchPhase)
    (h : BatchPhase.Next known shared k a b) (ha : a.outcome.isSome = true) : b.outcome.isSome = true := by
  obtain ⟨success, hsuccess⟩ := Option.isSome_iff_exists.mp ha
  rw [h.outcome_kept hsuccess]
  rfl

/-- Once all executions of a batch are over, its row was written once, after all messages were attempted, with
the numbers of messages sent and failed, if and only if its adapter type is known. -/
theorem batch_settled_iff (hmessages : request.messages ≠ [])
    (hfresh : ∀ key : BatchKey, key.batch = request.batchJobId → shared.cache key = none)
    (hrow : shared.batchJobs.find? request.batchJobId = some row)
    (htotal : row.totalMessages = request.messages.length)
    (h : Run (BatchStep registry request.batchJobId) (.start shared request) es t)
    (hover : ∀ execution ∈ t.executions, execution.phase.over = true) :
    (∃ row, t.shared.batchJobs.find? request.batchJobId = some row ∧
        BatchSettled request.messages.length es row) ↔ registry.contains request.adapterType = true := by
  have hwrittenKept : ∀ known shared k a b, BatchPhase.Next known shared k a b →
      a.isWritten = true → b.isWritten = true := fun _ _ _ _ _ hnext ha =>
    absurd ha (by rw [hnext.not_isWritten]; decide)
  have houtcomeKept : ∀ (success : Bool) known shared k a b, BatchPhase.Next known shared k a b →
      decide (a.outcome = some success) = true → decide (b.outcome = some success) = true :=
    fun success _ _ _ _ _ hnext ha => decide_eq_true (hnext.outcome_kept (of_decide_eq_true ha))
  constructor
  · rintro ⟨row, -, hsettled⟩
    by_contra hunknown
    have honce := hsettled.once
    rw [← count_run hwrittenKept rfl h] at honce
    have hnone : t.count (·.isWritten) = 0 := by
      refine List.countP_eq_zero.mpr fun execution hexecution => ?_
      rcases (unknown_run (Bool.eq_false_iff.mpr hunknown) h execution hexecution).2 with hphase | hphase <;>
        rw [hphase] <;> decide
    rw [hnone] at honce
    exact absurd honce (by decide)
  · intro hknown
    have hstart := start_consistent hknown hmessages hfresh hrow htotal
    have hconsistent : ∀ {es s}, Run (BatchStep registry request.batchJobId) (.start shared request) es s →
        s.Consistent registry request.batchJobId request.messages.length := fun hrun =>
      hrun.invariant (I := fun s => s.Consistent registry request.batchJobId request.messages.length)
        (fun _ _ _ hs hstep => hstep.consistent hs) hstart
    have hend := hconsistent h
    obtain ⟨hwritten, hdone⟩ := hend.complete hover
    obtain ⟨row, hrow, hwhole, hcounts⟩ := hend.row
    obtain ⟨hstatus, hsent, hfailed⟩ := hcounts (by omega)
    have hrecorded : ∀ success : Bool,
        t.count (·.recorded = some success) = t.count (·.outcome = some success) := by
      intro success
      refine List.countP_congr fun execution hexecution => ?_
      dsimp only
      rw [BatchPhase.recorded_of_isDone (hdone execution hexecution)]
    have htally := hend.whole hdone
    rw [hend.sent, hrecorded true] at hsent
    rw [hend.failed, hrecorded false] at hfailed
    refine ⟨row, hrow, ?_, ?_, hstatus, ?_, ?_, ?_⟩
    · rw [← count_run hwrittenKept rfl h]
      exact hwritten
    · intro pre e post hes he
      subst hes
      obtain ⟨u, u', hpre, hstep, -⟩ := h.exists_step
      rw [← count_run outcome_isSome_kept rfl hpre]
      exact hstep.attempted_of_writes (hconsistent hpre) he
    · rw [← count_run (houtcomeKept true) rfl h]
      exact hsent
    · rw [← count_run (houtcomeKept false) rfl h]
      exact hfailed
    · rw [hsent, hfailed, hwhole]
      exact htally

end Runs

/-- Executions take turns: at each turn the one at some place takes its next step, unless it is over. -/
def takingTurns (registry : List String) : List (Nat × BatchInput) → BatchSystem → List BatchEvent × BatchSystem
  | [], s => ([], s)
  | (place, input) :: turns, s =>
    match s.executions[place]? with
    | none => takingTurns registry turns s
    | some execution =>
      if execution.phase.over then takingTurns registry turns s
      else
        let rest := takingTurns registry turns
          { executions := s.executions.take place ++
              execution.advance registry input s.shared :: s.executions.drop (place + 1)
            shared := execution.effect input s.shared }
        (.moved execution.phase (execution.next registry input s.shared) :: rest.1, rest.2)

/-- What stands at a place stands between those before and those after it. -/
theorem executions_at {s : BatchSystem} {place : Nat} {execution : BatchExecution}
    (h : s.executions[place]? = some execution) :
    s.executions = s.executions.take place ++ execution :: s.executions.drop (place + 1) := by
  obtain ⟨hplace, hget⟩ := List.getElem?_eq_some_iff.mp h
  rw [← hget, List.getElem_cons_drop, List.take_append_drop]

/-- Taking turns is a run. -/
theorem takingTurns_run (registry : List String) (id : Uuid) (turns : List (Nat × BatchInput)) (s : BatchSystem) :
    Run (BatchStep registry id) s (takingTurns registry turns s).1 (takingTurns registry turns s).2 := by
  induction turns generalizing s with
  | nil => exact .nil s
  | cons turn turns ih =>
    obtain ⟨place, input⟩ := turn
    unfold takingTurns
    split
    · exact ih s
    · next execution hexecution =>
      split
      · exact ih s
      · next running =>
        exact .cons (.moved input (executions_at hexecution) (Bool.eq_false_iff.mpr running)) (ih _)

/-- A batch of two messages, over an adapter of the given type. -/
def smallBatch (adapterType : String) : BatchRequest where
  batchJobId := ⟨"batch", by decide⟩
  productId := ⟨"batch-product", by decide⟩
  apiKeyHash := "hash"
  instanceId := ⟨"batch-instance", by decide⟩
  adapterType := adapterType
  instanceName := "support"
  providerUrl := "https://provider"
  providerApiKey := "key"
  messages := [.str "hello", .str "goodbye"]

/-- The row of that batch, and no counters yet. -/
def smallShared : BatchShared where
  cache := fun _ => none
  batchJobs := ⟨[{ id := ⟨"batch", by decide⟩, productId := ⟨"batch-product", by decide⟩, totalMessages := 2 }],
    by decide⟩

/-- The two executions by turns, of which the second one is refused, until it has counted and written. -/
def smallTurns : List (Nat × BatchInput) :=
  let refused : BatchInput := { now := 0, delivery := some (.error "refused") }
  (List.replicate 6 [(0, { now := 0 }), (1, refused)]).flatten ++ List.replicate 3 (1, refused)

/-- Where the adapter of that batch is known, one message is sent and one fails, and the row says so. -/
theorem batch_settled_iff_small : ∃ es t, Run (BatchStep ["evolution"] (smallBatch "evolution").batchJobId)
      (.start smallShared (smallBatch "evolution")) es t ∧
    ∃ row, t.shared.batchJobs.find? (smallBatch "evolution").batchJobId = some row ∧
      BatchSettled 2 es row ∧ row.sentCount = 1 ∧ row.failedCount = 1 := by
  have hrun := takingTurns_run ["evolution"] (smallBatch "evolution").batchJobId smallTurns
    (.start smallShared (smallBatch "evolution"))
  obtain ⟨row, hrow, hsettled⟩ := (batch_settled_iff (by decide) (fun _ _ => rfl) rfl rfl hrun (by decide)).mpr rfl
  refine ⟨_, _, hrun, row, hrow, hsettled, ?_, ?_⟩
  · rw [hsettled.sent]
    decide
  · rw [hsettled.failed]
    decide

/-- Where the adapter of that batch is unknown, its executions are over without being counted, and the row is never
written. -/
theorem unknown_adapter_never_settles :
    ∃ es t, Run (BatchStep ["evolution"] (smallBatch "meta-cloud").batchJobId)
      (.start smallShared (smallBatch "meta-cloud")) es t ∧
    (∀ execution ∈ t.executions, execution.phase.over = true) ∧
    ∀ row, t.shared.batchJobs.find? (smallBatch "meta-cloud").batchJobId = some row →
      row.status = .processing ∧ ¬BatchSettled 2 es row := by
  have hrun := takingTurns_run ["evolution"] (smallBatch "meta-cloud").batchJobId smallTurns
    (.start smallShared (smallBatch "meta-cloud"))
  refine ⟨_, _, hrun, by decide, fun row hrow => ?_⟩
  cases hrow
  exact ⟨rfl, fun hsettled => absurd hsettled.once (by decide)⟩

end ConnectHub
