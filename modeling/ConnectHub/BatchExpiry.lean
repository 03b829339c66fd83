import ConnectHub.BatchFinalization
import Mathlib.Algebra.Order.Ring.Rat
import Mathlib.Data.Rat.Cast.Order
import Mathlib.Tactic.Linarith

/-!
# Batches in time

The number of messages of a batch is noted for a day, while its jobs are spread over as long as their delays
ask for. The last message counted finds nothing to compare with once the day is over, and nobody looks at the
batch again. A batch of no messages has no job that could look at it at all.
-/

namespace ConnectHub

open Store

/-- How long the number of messages of a batch is kept, in milliseconds. -/
def batchTotalTtlMs : Int := 86400 * 1000

/-- The times of a batch: the number of its messages is noted before its jobs are queued. -/
structure BatchClock where
  noted : Instant
  queued : Instant
  inOrder : noted ≤ queued

/-- When the number of messages is dropped. -/
def BatchClock.expires (clock : BatchClock) : Instant :=
  clock.noted + batchTotalTtlMs

/-- The delay of the job with the given index. -/
def BatchRequest.delayOf (request : BatchRequest) (index : Nat) : Rat :=
  ((request.jobs[index]?).bind (·.delay)).getD 0

/-- What is shared once the number of messages of a batch was dropped, if it is time. -/
def BatchShared.expired (shared : BatchShared) (id : Uuid) (clock : BatchClock) (now : Instant) :
    BatchShared :=
  if clock.expires ≤ now then
    { shared with cache := Function.update shared.cache (.total id) none }
  else shared

/-- A batch at some time. -/
structure TimedBatch where
  batch : BatchSystem
  now : Instant

/-- What happens in a step, and when. -/
inductive TimedEvent
  | moved (moment : Instant) (before after : BatchPhase)
  | elsewhere
  | waited
deriving DecidableEq, Repr

/-- One step in time. No job starts before it is due; the number of messages is gone once its time is up. -/
inductive TimedStep (registry : List String) (request : BatchRequest) (clock : BatchClock) (s : TimedBatch) :
    TimedEvent → TimedBatch → Prop
  | moved {before after execution} (input : BatchInput) (clocked : input.now = s.now)
      (position : s.batch.executions = before ++ execution :: after)
      (running : execution.phase.over = false)
      (due : execution.phase = .queued → clock.queued ≤ s.now ∧
        (clock.queued : Rat) + request.delayOf before.length ≤ (s.now : Rat)) :
      TimedStep registry request clock s
        (.moved s.now execution.phase (execution.next registry input s.batch.shared))
        { batch :=
            { executions := before ++ execution.advance registry input s.batch.shared :: after
              shared := execution.effect input s.batch.shared }
          now := s.now }
  | elsewhere {shared : BatchShared}
      (counters : ∀ key : BatchKey, key.batch = request.batchJobId →
        shared.cache key = s.batch.shared.cache key)
      (row : shared.batchJobs.find? request.batchJobId = s.batch.shared.batchJobs.find? request.batchJobId) :
      TimedStep registry request clock s .elsewhere { s with batch := { s.batch with shared := shared } }
  | waited (now : Instant) (later : s.now ≤ now) :
      TimedStep registry request clock s .waited
        { batch := { s.batch with shared := s.batch.shared.expired request.batchJobId clock now }
          now := now }

/-- Whether an execution that counted the last message of a batch compares too late. -/
def TimedEvent.tooLate (total : Nat) (expires : Instant) : TimedEvent → Bool
  | .moved moment (.counted _ done) _ => decide (done = total ∧ expires ≤ moment)
  | _ => false

/-- Whether an execution that counted the last message finds no number to compare with. -/
def BatchPhase.misses (total : Nat) (shared : BatchShared) (id : Uuid) : BatchPhase → Bool
  | .counted _ done => decide (done = total ∧ shared.cache (.total id) ≠ some total)
  | _ => false

/-- What holds of a batch between any two steps, of which some were too late to compare the last message. -/
structure TimedBatch.Consistent (s : TimedBatch) (registry : List String) (request : BatchRequest)
    (clock : BatchClock) (late : Nat) : Prop where
  members : s.batch.executions.length = request.messages.length
  own : ∀ execution ∈ s.batch.executions, execution.payload.batchJobId = request.batchJobId
  adapter : ∀ execution ∈ s.batch.executions, execution.payload.adapterType = request.adapterType
  resolved : ∀ execution ∈ s.batch.executions, execution.phase = .rejected →
    registry.contains request.adapterType = false
  unresolved : registry.contains request.adapterType = false → ∀ execution ∈ s.batch.executions,
    execution.phase = .queued ∨ execution.phase = .rejected
  announced : s.batch.shared.cache (.total request.batchJobId) =
    if s.now < clock.expires then some request.messages.length else none
  done : s.batch.shared.cache.read (.done request.batchJobId) = s.batch.count (·.isDone)
  last : s.batch.count (·.isLast request.messages.length) + late =
    if 0 < request.messages.length ∧ s.batch.count (·.isDone) = request.messages.length then 1 else 0
  row : ∃ row, s.batch.shared.batchJobs.find? request.batchJobId = some row ∧
    (row.status = .completed ↔ 0 < s.batch.count (·.isWritten))

section Step

variable {registry : List String} {request : BatchRequest} {clock : BatchClock} {s t : TimedBatch}
  {e : TimedEvent} {late : Nat}

/-- An execution either becomes the last one as it counts the last message, or is and stays it, unless it
finds no number to compare with. -/
theorem BatchPhase.Next.isLast_add {known : Bool} {shared : BatchShared} {id : Uuid} {a b : BatchPhase}
    {total : Nat} (h : Next known shared id a b)
    (hannounced : ∀ n, shared.cache (.total id) = some n → n = total)
    (hrow : shared.batchJobs.find? id ≠ none) :
    (b.isLast total).toNat + (a.misses total shared id).toNat = (a.isLast total).toNat +
      (decide (a.raises id = some (.done id) ∧ shared.cache.read (.done id) + 1 = total)).toNat := by
  cases h with
  | @last success done hdone =>
    have htotal := hannounced done hdone
    subst htotal
    simp [isLast, misses, raises, hdone]
  | @ended success done hdone =>
    by_cases htotal : done = total
    · subst htotal
      simp [isLast, misses, raises, hdone]
    · simp [isLast, misses, raises, htotal]
  | lost hlost => exact absurd hlost hrow
  | _ => simp [isLast, misses, raises]

/-- The comparison of the last message is missed exactly by an execution that is too late for it. -/
theorem TimedBatch.Consistent.misses_eq (h : s.Consistent registry request clock late) {a b : BatchPhase} :
    a.misses request.messages.length s.batch.shared request.batchJobId =
      TimedEvent.tooLate request.messages.length clock.expires (.moved s.now a b) := by
  cases a with
  | counted success done =>
    unfold BatchPhase.misses TimedEvent.tooLate
    rw [h.announced]
    by_cases hnow : s.now < clock.expires
    · simp [hnow]
    · simp [hnow, Int.not_lt.mp hnow]
  | _ => rfl

/-- A step keeps a batch consistent, as it counts the comparisons that are too late. -/
theorem TimedStep.consistent (hstep : TimedStep registry request clock s e t)
    (h : s.Consistent registry request clock late) :
    t.Consistent registry request clock
      (late + (e.tooLate request.messages.length clock.expires).toNat) := by
  obtain ⟨found, hfound, hcompleted⟩ := h.row
  cases hstep with
  | @elsewhere shared counters row =>
    have hdone : shared.cache.read (.done request.batchJobId) =
        s.batch.shared.cache.read (.done request.batchJobId) := by
      unfold Cache.read
      rw [counters _ rfl]
    exact ⟨h.members, h.own, h.adapter, h.resolved, h.unresolved, (counters _ rfl).trans h.announced,
      hdone.trans h.done, h.last, found, row.trans hfound, hcompleted⟩
  | waited now later =>
    have hdone : (s.batch.shared.expired request.batchJobId clock now).cache.read (.done request.batchJobId) =
        s.batch.shared.cache.read (.done request.batchJobId) := by
      unfold BatchShared.expired Cache.read
      split
      · simp
      · rfl
    have hrows : (s.batch.shared.expired request.batchJobId clock now).batchJobs =
        s.batch.shared.batchJobs := by
      unfold BatchShared.expired
      split <;> rfl
    refine ⟨h.members, h.own, h.adapter, h.resolved, h.unresolved, ?_, hdone.trans h.done, h.last, found, ?_,
      hcompleted⟩
    · have hannounced := h.announced
      unfold BatchShared.expired
      by_cases hexpired : clock.expires ≤ now
      · simp [hexpired, Int.not_lt.mpr hexpired]
      · have hnow : s.now < clock.expires := lt_of_le_of_lt later (Int.not_le.mp hexpired)
        rw [if_pos hnow] at hannounced
        simp [hexpired, Int.not_le.mp hexpired, hannounced]
    · rw [hrows]
      exact hfound
  | @moved before after execution input clocked position running due =>
    have hexecution : execution ∈ s.batch.executions :=
      position ▸ List.mem_append_right _ List.mem_cons_self
    have hid := h.own execution hexecution
    have hnext := @next_spec registry input s.batch.shared execution running
    rw [hid, h.adapter execution hexecution] at hnext
    have hcount : ∀ p, _ := fun p => @count_moved s.batch before after execution
      (execution.advance registry input s.batch.shared) p (execution.effect input s.batch.shared) position
    have hphase : (execution.advance registry input s.batch.shared).phase =
      execution.next registry input s.batch.shared := rfl
    rw [hphase] at hcount
    refine ⟨?_, forall_moved position h.own hid,
      forall_moved position h.adapter (h.adapter execution hexecution),
      forall_moved position h.resolved ?_, fun hunknown => forall_moved position (h.unresolved hunknown) ?_,
      total_effect.trans h.announced, ?_, ?_, ?_⟩
    · have hmembers := h.members
      rw [position] at hmembers
      simpa using hmembers
    · intro hrejected
      rw [hphase] at hrejected
      rw [hrejected] at hnext
      generalize execution.phase = a at hnext
      cases hnext with
      | rejected hunknown => exact hunknown
    · rw [hunknown] at hnext
      rw [hphase]
      rcases h.unresolved hunknown execution hexecution with hold | hold
      · rw [hold] at hnext
        generalize execution.next registry input s.batch.shared = b at hnext ⊢
        cases hnext with
        | resolved hknown => cases hknown
        | rejected => exact Or.inr rfl
      · rw [hold] at running
        cases running
    · refine BatchSystem.Consistent.count_raised position hid hnext.isDone_iff (fun hraises => ?_) h.done
      exact BatchPhase.isDone_of_raises hraises
    · -- the last message counted is compared with the number, or missed
      have hannounced : ∀ n, s.batch.shared.cache (.total request.batchJobId) = some n →
          n = request.messages.length := by
        intro n hn
        rw [h.announced] at hn
        split at hn
        · exact (Option.some.inj hn).symm
        · cases hn
      have hadd := hnext.isLast_add hannounced (by simp [hfound])
      rw [h.misses_eq (b := execution.next registry input s.batch.shared)] at hadd
      have hlast := hcount (·.isLast request.messages.length)
      obtain ⟨hdone, hroom⟩ := count_done_moved position hnext
      have hbefore := h.last
      beta_reduce at hlast
      dsimp only
      rw [hdone]
      by_cases hraises : execution.phase.raises request.batchJobId = some (.done request.batchJobId)
      · have hbelow : s.batch.count (·.isDone) < request.messages.length := h.members ▸ hroom hraises
        rw [if_neg fun hfull => Nat.ne_of_lt hbelow hfull.2] at hbefore
        rw [decide_eq_true hraises, Bool.toNat_true]
        simp only [hraises, true_and, h.done] at hadd
        by_cases hfull : s.batch.count (·.isDone) + 1 = request.messages.length
        · rw [if_pos ⟨by omega, hfull⟩]
          simp only [hfull, decide_true, Bool.toNat_true] at hadd
          omega
        · rw [if_neg fun hboth => hfull hboth.2]
          simp only [hfull, decide_false, Bool.toNat_false] at hadd
          omega
      · rw [decide_eq_false hraises, Bool.toNat_false, Nat.add_zero]
        simp only [hraises, false_and, decide_false, Bool.toNat_false] at hadd
        omega
    · have hwrote := hcount (·.isWritten)
      beta_reduce at hwrote
      rw [hnext.not_isWritten, Bool.toNat_false, Nat.add_zero] at hwrote
      by_cases hfinishing : ∃ success sent failed, execution.phase = .finishing success sent failed
      · obtain ⟨success, sent, failed, hfinish⟩ := hfinishing
        refine ⟨found.completed input.now sent failed, ?_, fun _ => ?_, fun _ => rfl⟩
        · exact effect_finishing hid hfound hfinish
        · rw [hfinish] at hnext
          generalize execution.next registry input s.batch.shared = b at hnext hwrote
          dsimp only
          rw [hwrote]
          cases hnext with
          | written => exact Nat.succ_pos _
          | lost hlost =>
            rw [hfound] at hlost
            cases hlost
      · have hother : ∀ success sent failed, execution.phase ≠ .finishing success sent failed :=
          fun success sent failed hphase => hfinishing ⟨success, sent, failed, hphase⟩
        refine ⟨found, ?_, ?_⟩
        · rw [effect_batchJobs hother]
          exact hfound
        · rw [hnext.isWritten_eq_false hother, Bool.toNat_false, Nat.add_zero] at hwrote
          dsimp only
          rw [hwrote]
          exact hcompleted

end Step

section Runs

variable {registry : List String} {messageType : BatchMessageType} {product : AuthCachePayload}
  {resolved : ResolvedInstance} {id : Uuid} {messages : List Json} {delayMs : Option Rat}
  {shared : BatchShared} {batch : BatchSystem} {request : BatchRequest} {clock : BatchClock}
  {t : TimedBatch} {es : List TimedEvent} {late : Nat}

/-- A batch that was just sent is consistent. -/
theorem sent_consistent (hfresh : ∀ key : BatchKey, key.batch = id → shared.cache key = none)
    (hsend : sendBatchOf messageType product resolved id messages delayMs shared = some batch) :
    TimedBatch.Consistent ⟨batch, clock.noted⟩ registry
      (batchRequest messageType product resolved id messages delayMs) clock 0 := by
  unfold sendBatchOf at hsend
  obtain ⟨batchJobs, hinsert, rfl⟩ := Option.map_eq_some_iff.mp hsend
  refine ⟨?_, fun _ hexecution => (mem_start hexecution).2.1, fun _ hexecution => (mem_start hexecution).2.2,
    fun _ hexecution hrejected => ?_, fun _ _ hexecution => Or.inl (mem_start hexecution).1, ?_, ?_, ?_, ?_⟩
  · simp [BatchSystem.start, addJobs, BatchRequest.jobs]
  · rw [(mem_start hexecution).1] at hrejected
    cases hrejected
  · have hnow : clock.noted < clock.expires := Int.lt_add_of_pos_right _ (by decide)
    rw [if_pos hnow]
    simp [BatchSystem.start, addJobs, Cache.setWithTTL]
  · rw [count_start rfl]
    simp [BatchSystem.start, addJobs, Cache.setWithTTL, Cache.read, batchRequest, hfresh (.done id) rfl]
  · rw [count_start rfl, count_start rfl, if_neg fun hboth => Nat.ne_of_lt hboth.1 hboth.2]
  · refine ⟨_, (Table.find?_insert? hinsert).trans (if_pos rfl), ?_⟩
    rw [count_start rfl]
    simp

/-- A batch stays consistent, and counts the comparisons that were too late. -/
theorem run_consistent (hfresh : ∀ key : BatchKey, key.batch = id → shared.cache key = none)
    (hsend : sendBatchOf messageType product resolved id messages delayMs shared = some batch)
    (h : Run (TimedStep registry (batchRequest messageType product resolved id messages delayMs) clock)
      ⟨batch, clock.noted⟩ es t) :
    t.Consistent registry (batchRequest messageType product resolved id messages delayMs) clock
      (es.countP (·.tooLate messages.length clock.expires)) := by
  have hrun := h.accumulates (n := 0)
    (I := fun s late => s.Consistent registry (batchRequest messageType product resolved id messages delayMs)
      clock late)
    (E := fun e => e.tooLate messages.length clock.expires)
    (fun s e t late hs hstep => hstep.consistent hs) (sent_consistent hfresh hsend)
  rw [Nat.zero_add] at hrun
  exact hrun

/-- The row of a batch says that it is completed as soon as an execution wrote it. -/
theorem TimedBatch.Consistent.completed_iff (h : t.Consistent registry request clock late) :
    (∃ row, t.batch.shared.batchJobs.find? request.batchJobId = some row ∧ row.status = .completed) ↔
      0 < t.batch.count (·.isWritten) := by
  obtain ⟨found, hfound, hcompleted⟩ := h.row
  rw [← hcompleted]
  constructor
  · intro hrow
    obtain ⟨row, hrow, hstatus⟩ := hrow
    rw [hfound] at hrow
    rw [Option.some.inj hrow]
    exact hstatus
  · intro hstatus
    exact ⟨found, hfound, hstatus⟩

/-- Where an execution wrote the row, the batch has a message, its adapter type is known, and no comparison
was too late. -/
theorem TimedBatch.Consistent.of_written (h : t.Consistent registry request clock late)
    (hwritten : 0 < t.batch.count (·.isWritten)) :
    0 < request.messages.length ∧ registry.contains request.adapterType = true ∧ late = 0 := by
  obtain ⟨execution, hexecution, hphase⟩ := List.countP_pos_iff.mp hwritten
  have hlast : 0 < t.batch.count (·.isLast request.messages.length) :=
    List.countP_pos_iff.mpr ⟨execution, hexecution, BatchPhase.isLast_of_isWritten hphase⟩
  have hsum := h.last
  refine ⟨?_, ?_, ?_⟩
  · rw [← h.members]
    exact List.length_pos_of_mem hexecution
  · by_contra hunknown
    rcases h.unresolved (Bool.eq_false_iff.mpr hunknown) execution hexecution with hcase | hcase
    · rw [hcase] at hphase
      cases hphase
    · rw [hcase] at hphase
      cases hphase
  · split at hsum <;> omega

/-- A batch of some messages whose executions are all over, with its adapter resolved and no comparison too
late, was written. -/
theorem TimedBatch.Consistent.written (h : t.Consistent registry request clock 0)
    (hmessages : 0 < request.messages.length) (hknown : registry.contains request.adapterType = true)
    (hover : ∀ execution ∈ t.batch.executions, execution.phase.over = true) :
    0 < t.batch.count (·.isWritten) := by
  have hphase : ∀ execution ∈ t.batch.executions,
      ∃ success, execution.phase = .ended success ∨ execution.phase = .written success := by
    intro execution hexecution
    have hend := hover execution hexecution
    have hresolved := h.resolved execution hexecution
    rw [hknown] at hresolved
    cases hcase : execution.phase with
    | ended success => exact ⟨success, Or.inl rfl⟩
    | written success => exact ⟨success, Or.inr rfl⟩
    | rejected => cases hresolved hcase
    | _ =>
      rw [hcase] at hend
      cases hend
  have hdone : t.batch.count (·.isDone) = request.messages.length := by
    rw [← h.members]
    refine List.countP_eq_length.mpr fun execution hexecution => ?_
    obtain ⟨success, hcase | hcase⟩ := hphase execution hexecution
    · rw [hcase]
      rfl
    · rw [hcase]
      rfl
  have hlast := h.last
  rw [if_pos ⟨hmessages, hdone⟩] at hlast
  have hpos : 0 < t.batch.count (·.isLast request.messages.length) := by omega
  obtain ⟨execution, hexecution, hisLast⟩ := List.countP_pos_iff.mp hpos
  refine List.countP_pos_iff.mpr ⟨execution, hexecution, ?_⟩
  obtain ⟨success, hcase | hcase⟩ := hphase execution hexecution
  · rw [hcase] at hisLast
    cases hisLast
  · rw [hcase]
    rfl

/-- Once all executions of a batch are over, its row says that it is completed if and only if it has some
message, its adapter type is known, and the last message counted was compared before the number of messages
was dropped. -/
theorem batch_completes_iff (hfresh : ∀ key : BatchKey, key.batch = id → shared.cache key = none)
    (hsend : sendBatchOf messageType product resolved id messages delayMs shared = some batch)
    (h : Run (TimedStep registry (batchRequest messageType product resolved id messages delayMs) clock)
      ⟨batch, clock.noted⟩ es t)
    (hover : ∀ execution ∈ t.batch.executions, execution.phase.over = true) :
    (∃ row, t.batch.shared.batchJobs.find? id = some row ∧ row.status = .completed) ↔
      messages ≠ [] ∧ registry.contains resolved.adapterType = true ∧
        ∀ e ∈ es, e.tooLate messages.length clock.expires = false := by
  have hend := run_consistent hfresh hsend h
  have hintime : es.countP (·.tooLate messages.length clock.expires) = 0 ↔
      ∀ e ∈ es, e.tooLate messages.length clock.expires = false := by
    rw [List.countP_eq_zero]
    simp only [Bool.not_eq_true]
  rw [← hintime]
  constructor
  · intro hcompleted
    obtain ⟨hmessages, hknown, hlate⟩ := hend.of_written (hend.completed_iff.mp hcompleted)
    exact ⟨List.length_pos_iff.mp hmessages, hknown, hlate⟩
  · intro hgood
    obtain ⟨hmessages, hknown, hlate⟩ := hgood
    rw [hlate] at hend
    exact hend.completed_iff.mpr (hend.written (List.length_pos_iff.mpr hmessages) hknown hover)

/-- Once some execution is the last, every message was counted as done. -/
theorem TimedBatch.Consistent.all_done (h : t.Consistent registry request clock late)
    {execution : BatchExecution} (hexecution : execution ∈ t.batch.executions)
    (hlast : execution.phase.isLast request.messages.length = true) :
    ∀ other ∈ t.batch.executions, other.phase.isDone = true := by
  have hpos : 0 < t.batch.count (·.isLast request.messages.length) :=
    List.countP_pos_iff.mpr ⟨execution, hexecution, hlast⟩
  have hsum := h.last
  have hdone : t.batch.count (·.isDone) = request.messages.length := by
    by_contra hne
    rw [if_neg fun hboth => hne hboth.2] at hsum
    omega
  refine List.countP_eq_length.mp ?_
  rw [h.members]
  exact hdone

/-- Without a delay there is none. -/
theorem delayOf_batchRequest_none (index : Nat) :
    (batchRequest messageType product resolved id messages none).delayOf index = 0 := by
  unfold BatchRequest.delayOf BatchRequest.jobs
  rw [List.getElem?_mapIdx]
  cases (batchRequest messageType product resolved id messages none).messages[index]? <;> rfl

/-- The delay of a job grows with its index. -/
theorem delayOf_batchRequest {delay : Rat} {index : Nat} (hindex : index < messages.length)
    (hdelay : delay ≠ 0) :
    (batchRequest messageType product resolved id messages (some delay)).delayOf index = index * delay := by
  unfold BatchRequest.delayOf BatchRequest.jobs
  simp [batchRequest, hindex, Option.filter, hdelay]

/-- A job of a batch is due only when the number of messages is gone, and nobody got as far as to compare. -/
structure TimedBatch.Overdue (s : TimedBatch) (request : BatchRequest) (clock : BatchClock)
    (index : Nat) : Prop where
  waits : ∀ execution, s.batch.executions[index]? = some execution → execution.phase ≠ .queued →
    clock.expires ≤ s.now
  unwritten : ∀ execution ∈ s.batch.executions,
    execution.phase.isLast request.messages.length = true →
      ∃ success done, execution.phase = .counted success done

/-- A batch with an overdue job stays so. -/
theorem TimedStep.overdue {s : TimedBatch} {e : TimedEvent} {index : Nat}
    (hindex : index < request.messages.length)
    (hdelay : (clock.expires : Rat) ≤ clock.queued + request.delayOf index)
    (hconsistent : s.Consistent registry request clock late) (h : s.Overdue request clock index)
    (hstep : TimedStep registry request clock s e t) : t.Overdue request clock index := by
  cases hstep with
  | elsewhere => exact ⟨h.waits, h.unwritten⟩
  | waited now later =>
    exact ⟨fun execution hexecution hphase => le_trans (h.waits execution hexecution hphase) later,
      h.unwritten⟩
  | @moved before after execution input clocked position running due =>
    have hexecution : execution ∈ s.batch.executions :=
      position ▸ List.mem_append_right _ List.mem_cons_self
    have hnext := @next_spec registry input s.batch.shared execution running
    have hid := hconsistent.own execution hexecution
    rw [hid] at hnext
    have hnow : execution.phase = .queued → before.length = index → clock.expires ≤ s.now := by
      intro hqueued hlength
      have hdue := (due hqueued).2
      rw [hlength] at hdue
      exact Rat.intCast_le_intCast.mp (le_trans hdelay hdue)
    refine ⟨?_, forall_moved position h.unwritten ?_⟩
    · intro other hother hphase
      have hold := h.waits
      rw [position] at hold
      by_cases hlength : before.length = index
      · subst hlength
        by_cases hqueued : execution.phase = .queued
        · exact hnow hqueued rfl
        · exact hold execution (by simp) hqueued
      · refine hold other ?_ hphase
        rw [← hother, List.getElem?_append, List.getElem?_append, List.getElem?_cons, List.getElem?_cons]
        by_cases hbefore : index < before.length
        · rw [if_pos hbefore, if_pos hbefore]
        · have hne : index - before.length ≠ 0 := by omega
          rw [if_neg hbefore, if_neg hbefore, if_neg hne, if_neg hne]
    · intro hlast
      have hold := h.unwritten execution hexecution
      have hphase : (execution.advance registry input s.batch.shared).phase =
        execution.next registry input s.batch.shared := rfl
      have hdone := hconsistent.all_done hexecution
      rw [hphase] at hlast ⊢
      generalize execution.next registry input s.batch.shared = b at hnext hlast ⊢
      generalize execution.phase = a at hnext hold hdone
      cases hnext with
      | counted => exact ⟨_, _, rfl⟩
      | @last success done htotal =>
        rw [hconsistent.announced] at htotal
        split at htotal
        · next hearly =>
          obtain rfl := Option.some.inj htotal
          have hmember : index < s.batch.executions.length := hconsistent.members ▸ hindex
          have hcounted := hdone (decide_eq_true rfl) _ (List.getElem_mem hmember)
          have hexpired := h.waits _ (List.getElem?_eq_getElem hmember) (by
            intro hqueued
            rw [hqueued] at hcounted
            cases hcounted)
          exact absurd hexpired (Int.not_le.mpr hearly)
        · cases htotal
      | tallied | compared | written =>
        obtain ⟨_, _, hcounted⟩ := hold rfl
        cases hcounted
      | _ => cases hlast

/-- A batch whose delay puts some job off for longer than the number of messages is kept is never
completed. -/
theorem overdue_batch_never_completes {delay : Rat} {index : Nat}
    (hfresh : ∀ key : BatchKey, key.batch = id → shared.cache key = none)
    (hsend : sendBatchOf messageType product resolved id messages (some delay) shared = some batch)
    (hindex : index < messages.length) (hdelay : (batchTotalTtlMs : Rat) ≤ index * delay)
    (h : Run (TimedStep registry (batchRequest messageType product resolved id messages (some delay)) clock)
      ⟨batch, clock.noted⟩ es t) :
    ¬∃ row, t.batch.shared.batchJobs.find? id = some row ∧ row.status = .completed := by
  have hnonzero : delay ≠ 0 := by
    intro hzero
    rw [hzero, mul_zero] at hdelay
    exact absurd hdelay (by decide)
  have hdue : (clock.expires : Rat) ≤ clock.queued +
      (batchRequest messageType product resolved id messages (some delay)).delayOf index := by
    rw [delayOf_batchRequest hindex hnonzero]
    unfold BatchClock.expires
    have hqueued : (clock.noted : Rat) ≤ clock.queued := Rat.intCast_le_intCast.mpr clock.inOrder
    rw [Rat.intCast_add]
    linarith
  have hstart : TimedBatch.Overdue ⟨batch, clock.noted⟩
      (batchRequest messageType product resolved id messages (some delay)) clock index := by
    unfold sendBatchOf at hsend
    obtain ⟨batchJobs, hinsert, rfl⟩ := Option.map_eq_some_iff.mp hsend
    refine ⟨fun execution hexecution hphase => ?_, fun execution hexecution hlast => ?_⟩
    · exact absurd (mem_start (List.mem_of_getElem? hexecution)).1 hphase
    · rw [(mem_start hexecution).1] at hlast
      cases hlast
  have hend := h.accumulates (n := 0)
    (I := fun s late =>
      s.Consistent registry (batchRequest messageType product resolved id messages (some delay)) clock late ∧
        s.Overdue (batchRequest messageType product resolved id messages (some delay)) clock index)
    (E := fun e => e.tooLate messages.length clock.expires)
    (fun s e t late hs hstep => ⟨hstep.consistent hs.1, hstep.overdue hindex hdue hs.1 hs.2⟩)
    ⟨sent_consistent hfresh hsend, hstart⟩
  intro hcompleted
  obtain ⟨execution, hexecution, hwritten⟩ :=
    List.countP_pos_iff.mp (hend.1.completed_iff.mp hcompleted)
  obtain ⟨_, _, hcounted⟩ :=
    hend.2.unwritten execution hexecution (BatchPhase.isLast_of_isWritten hwritten)
  rw [hcounted] at hwritten
  cases hwritten

end Runs

/-- The product of the small batch, as its API key stands for it. -/
def smallCaller : AuthCachePayload where
  productId := (smallBatch "evolution").productId
  apiKeyHash := "hash"
  isActive := true
  origins := []
  hubRelay := false
  adapterType := "evolution"
  vpsProviderId := none
  batchWebhookEnabled := false
  batchWebhookUrl := none

/-- The instance of the small batch. -/
def smallTarget : ResolvedInstance where
  instanceId := (smallBatch "evolution").instanceId
  adapterType := "evolution"
  instanceName := "support"
  providerUrl := "https://provider"
  providerApiKey := "key"

/-- Nothing was sent yet. -/
def smallIdle : BatchShared where
  cache := fun _ => none
  batchJobs := .empty

/-- The small batch of some messages, without delay. -/
def smallRequest (messages : List Json) : BatchRequest :=
  batchRequest .text smallCaller smallTarget (smallBatch "evolution").batchJobId messages none

/-- The small batch once it was sent. -/
def smallSentBatch (messages : List Json) : BatchSystem :=
  .start
    { smallIdle with
      batchJobs := ⟨[{ id := (smallBatch "evolution").batchJobId
                       productId := smallCaller.productId
                       instanceId := some smallTarget.instanceId
                       totalMessages := messages.length }], List.nodup_singleton _⟩ }
    (smallRequest messages)

/-- A batch that is noted and queued at once. -/
def smallClock : BatchClock where
  noted := 0
  queued := 0
  inOrder := le_refl _

/-- A step of the system at some moment. -/
def BatchEvent.timed (moment : Instant) : BatchEvent → TimedEvent
  | .moved before after => .moved moment before after
  | .elsewhere => .elsewhere

/-- Taking turns at a moment at which all jobs are due is a run in time. -/
theorem takingTurns_timed (registry : List String) (request : BatchRequest) (clock : BatchClock)
    (turns : List (Nat × BatchInput)) (now : Instant) (hclocked : ∀ turn ∈ turns, turn.2.now = now)
    (hqueued : clock.queued ≤ now) (hdue : ∀ place, (clock.queued : Rat) + request.delayOf place ≤ (now : Rat))
    (s : BatchSystem) :
    Run (TimedStep registry request clock) ⟨s, now⟩ ((takingTurns registry turns s).1.map (·.timed now))
      ⟨(takingTurns registry turns s).2, now⟩ := by
  induction turns generalizing s with
  | nil => exact .nil _
  | cons turn turns ih =>
    obtain ⟨place, input⟩ := turn
    have hrest := ih fun later hlater => hclocked later (List.mem_cons_of_mem _ hlater)
    unfold takingTurns
    split
    · exact hrest s
    · next execution hexecution =>
      split
      · exact hrest s
      · next running =>
        exact .cons (.moved input (hclocked _ List.mem_cons_self) (executions_at hexecution)
          (Bool.eq_false_iff.mpr running) fun _ => ⟨hqueued, hdue _⟩) (hrest _)

/-- A batch of two messages of which one is sent and one fails in time is completed. -/
theorem batch_completes_iff_small : ∃ batch es t,
    sendBatch smallCaller smallTarget (smallBatch "evolution").batchJobId (smallBatch "evolution").messages none
      smallIdle = some batch ∧
    Run (TimedStep ["evolution"] (smallRequest (smallBatch "evolution").messages) smallClock) ⟨batch, 0⟩ es t ∧
    ∃ row, t.batch.shared.batchJobs.find? (smallBatch "evolution").batchJobId = some row ∧
      row.status = .completed := by
  have hsend : sendBatch smallCaller smallTarget (smallBatch "evolution").batchJobId
      (smallBatch "evolution").messages none smallIdle = some (smallSentBatch (smallBatch "evolution").messages) := rfl
  have hdue : ∀ place, (smallClock.queued : Rat) +
      (smallRequest (smallBatch "evolution").messages).delayOf place ≤ ((0 : Instant) : Rat) := fun place => by
    rw [smallRequest, delayOf_batchRequest_none, add_zero]
    exact le_refl _
  have hrun := takingTurns_timed ["evolution"] (smallRequest (smallBatch "evolution").messages) smallClock
    smallTurns 0 (by decide) (le_refl _) hdue (smallSentBatch (smallBatch "evolution").messages)
  exact ⟨_, _, _, hsend, hrun, (batch_completes_iff (fun _ _ => rfl) hsend hrun (by decide)).mpr (by decide)⟩

/-- A batch of no messages is accepted, has no job that is still to be executed, and stays as it is. -/
theorem empty_batch_never_completes : ∃ batch t,
    sendBatch smallCaller smallTarget (smallBatch "evolution").batchJobId [] none smallIdle = some batch ∧
    Run (TimedStep ["evolution"] (smallRequest []) smallClock) ⟨batch, 0⟩ [] t ∧
    (∀ execution ∈ t.batch.executions, execution.phase.over = true) ∧
    ∃ row, t.batch.shared.batchJobs.find? (smallBatch "evolution").batchJobId = some row ∧
      row.status = .processing := by
  refine ⟨_, _, rfl, .nil _, ?_, _, rfl, rfl⟩
  intro execution hexecution
  cases hexecution

end ConnectHub
