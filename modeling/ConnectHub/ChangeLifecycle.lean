import ConnectHub.CapacityChanges

/-!
# The life of a change under concurrent replicas

Three operations hold the product lock from their first read to their commit and write the change
without conditions. Every other writer is a single conditional statement that takes no product lock, so
it may fall between the two. None of these moves a change that is applied or cancelled, and none moves
one there, so what a holder of the lock found open is still open when it commits.
-/

namespace ConnectHub

open Store

/-- The states no operation leaves. -/
def EvolutionChange.settled (row : EvolutionChange) : Bool :=
  row.status = .applied || row.status = .cancelled

/-- The states an evaluated change goes through while nobody holds its product's lock. -/
def EvolutionChange.inReview (row : EvolutionChange) : Bool :=
  row.status = .ready || row.status = .actionRequired || row.status = .expired

/-- A statement that takes no product lock. What it saw and what it writes may be out of date. -/
inductive ChangeWrite
  | expiry (now : Instant) (seen : EvolutionChange)
  | evaluation (seen : EvolutionChange) (diagnostics : ChangeDiagnostics)
  | claim (now : Instant) (id owner : Uuid)
  | renewal (now : Instant) (id : Uuid) (owner : Option Uuid) (executionDeadline : Instant)
  | syncing (id : Uuid) (owner : Option Uuid) (work : CallbackWork)
  | completion (id : Uuid) (owner : Option Uuid) (diagnostics : ChangeDiagnostics)
      (callback : Option CallbackWork)
  | failure (now : Instant) (id : Uuid) (owner : Option Uuid) (aborted conflict : Bool)
      (callback : Option CallbackWork)
deriving DecidableEq, Repr

/-- Run such a statement. -/
def ChangeWrite.perform : ChangeWrite → Tx Unit
  | .expiry now seen => expire now seen
  | .evaluation seen diagnostics => noteEvaluation seen diagnostics
  | .claim now id owner => claimChange now id owner
  | .renewal now id owner executionDeadline => extendLease now id owner executionDeadline
  | .syncing id owner work => noteSyncing id owner work
  | .completion id owner diagnostics callback => completeChange id owner diagnostics callback
  | .failure now id owner aborted conflict callback => failChange now id owner aborted conflict callback

/-- A request served under the product lock. -/
inductive LockedRequest
  | cancel (revision : Nat) (actor : String)
  | callbackCheck (now : Instant) (dto : CallbackCheckDto) (actor : String)
  | apply (now : Instant) (revision : Nat) (actor : String)
deriving DecidableEq, Repr

/-- What such a request is about to write. -/
inductive LockedWrite
  | cancel
  | callbackCheck (work : CallbackWork)
  | apply (plan : ApplyPlan) (actor : String)
deriving DecidableEq, Repr

/-- Read and judge under the lock; nothing is left to write for a change that is there already. -/
def LockedRequest.read (env : Env) (productId id : Uuid) : LockedRequest → Tx (Option LockedWrite)
  | .cancel revision _ => do
    let pending ← cancelRead productId id revision
    pure (if pending then some .cancel else none)
  | .callbackCheck now dto actor => do
    let work ← callbackRead now productId id dto actor
    pure (some (.callbackCheck work))
  | .apply now revision actor => do
    let plan ← applyRead env now productId id revision
    pure (plan.map (.apply · actor))

/-- Write what was read and judged. -/
def LockedWrite.perform (env : Env) (id : Uuid) : LockedWrite → Tx Unit
  | .cancel => cancelWrite id
  | .callbackCheck work => callbackWrite id work
  | .apply plan actor => applyWrite env plan actor

/-- A transaction that holds a product lock: its request, the row it read and what it will write. -/
structure LockedWork where
  request : LockedRequest
  current : EvolutionChange
  write : LockedWrite
deriving DecidableEq, Repr

/-- The database, and the transaction that holds the lock of each product. -/
structure ChangeSystem where
  db : Database
  working : Uuid → Option LockedWork

/-- The system in which nobody holds a lock. -/
def ChangeSystem.idle (db : Database) : ChangeSystem :=
  ⟨db, fun _ => none⟩

/-- The system once a transaction holds the lock of a product. -/
def ChangeSystem.locked (s : ChangeSystem) (productId : Uuid) (work : LockedWork) : ChangeSystem :=
  { s with working := Function.update s.working productId (some work) }

/-- The system once nobody holds the lock of a product. -/
def ChangeSystem.unlocked (s : ChangeSystem) (productId : Uuid) : ChangeSystem :=
  { s with working := Function.update s.working productId none }

/-- Who holds a lock once one was taken. -/
theorem working_locked {s : ChangeSystem} {p q : Uuid} {w w' : LockedWork} :
    (s.locked p w).working q = some w' ↔ q = p ∧ w = w' ∨ q ≠ p ∧ s.working q = some w' := by
  unfold ChangeSystem.locked
  dsimp only
  by_cases hq : q = p
  · subst hq
    simp
  · simp [hq]

/-- Who holds a lock once one was given back. -/
theorem working_unlocked {s : ChangeSystem} {p q : Uuid} {w : LockedWork} :
    (s.unlocked p).working q = some w ↔ q ≠ p ∧ s.working q = some w := by
  unfold ChangeSystem.unlocked
  dsimp only
  by_cases hq : q = p
  · subst hq
    simp
  · simp [hq]

/-- What happens in one step. -/
inductive ChangeEvent
  | began (productId : Uuid) (work : LockedWork)
  | committed (productId : Uuid) (work : LockedWork)
  | rolledBack (productId : Uuid)
  | wrote (write : ChangeWrite)
  | created (id : Uuid)
  | elsewhere
deriving DecidableEq, Repr

/-- Whether an event commits the policy effects of a change. -/
def ChangeEvent.applies (id : Uuid) : ChangeEvent → Bool
  | .committed _ ⟨_, current, .apply _ _⟩ => current.id = id
  | _ => false

/-- One step of the system. A transaction that began shows nothing until it commits; one that crashed, or
was refused, is rolled back. Whatever happens outside the changes is arbitrary. -/
inductive ChangeStep (env : Env) (s : ChangeSystem) : ChangeEvent → ChangeSystem → Prop
  | began {productId request current write db'} (free : s.working productId = none)
      (found : s.db.changes.find? current.id = some current)
      (run : (request.read env productId current.id).run s.db = .ok (some write, db')) :
      ChangeStep env s (.began productId ⟨request, current, write⟩)
        (s.locked productId ⟨request, current, write⟩)
  | committed {productId work db'} (held : s.working productId = some work)
      (run : (work.write.perform env work.current.id).run s.db = .ok ((), db')) :
      ChangeStep env s (.committed productId work) ({ s with db := db' }.unlocked productId)
  | rolledBack {productId} : ChangeStep env s (.rolledBack productId) (s.unlocked productId)
  | wrote {write : ChangeWrite} {db'} (run : write.perform.run s.db = .ok ((), db')) :
      ChangeStep env s (.wrote write) { s with db := db' }
  | created {now productId input id row db'} (free : s.working productId = none)
      (run : (create now productId input id).run s.db = .ok (row, db')) :
      ChangeStep env s (.created id) { s with db := db' }
  | elsewhere {db'} (kept : db'.changes = s.db.changes) : ChangeStep env s .elsewhere { s with db := db' }

section Moves

variable {env : Env} {now : Instant} {db db' db'' : Database} {row row' row'' : EvolutionChange}

/-- A change that moved without being settled: a settled one stays, no other becomes settled, and one in
review stays there, at a later revision if it moved at all. -/
structure EvolutionChange.Moved (row row' : EvolutionChange) : Prop where
  productId : row'.productId = row.productId
  settled : row.settled = true → row' = row
  unsettled : row.settled = false → row'.settled = false
  inReview : row.inReview = true → row'.inReview = true ∧ (row' = row ∨ row.revision < row'.revision)

/-- A change that stays. -/
theorem EvolutionChange.Moved.refl (row : EvolutionChange) : row.Moved row :=
  ⟨rfl, fun _ => rfl, fun h => h, fun h => ⟨h, Or.inl rfl⟩⟩

/-- Moves compose. -/
theorem EvolutionChange.Moved.trans (h : row.Moved row') (h' : row'.Moved row'') : row.Moved row'' where
  productId := h'.productId.trans h.productId
  settled hs := by
    obtain rfl := h.settled hs
    exact h'.settled hs
  unsettled hs := h'.unsettled (h.unsettled hs)
  inReview hr := by
    obtain ⟨hr', hmoved⟩ := h.inReview hr
    obtain ⟨hr'', hmoved'⟩ := h'.inReview hr'
    refine ⟨hr'', ?_⟩
    rcases hmoved with rfl | hlt
    · exact hmoved'
    · rcases hmoved' with rfl | hlt'
      · exact Or.inr hlt
      · exact Or.inr (hlt.trans hlt')

/-- Every change is still there, and moved without being settled. -/
def Database.ChangesMoved (db db' : Database) : Prop :=
  ∀ id row, db.changes.find? id = some row → ∃ row', db'.changes.find? id = some row' ∧ row.Moved row'

/-- Moves of all changes compose. -/
theorem ChangesMoved.trans (h : db.ChangesMoved db') (h' : db'.ChangesMoved db'') : db.ChangesMoved db'' := by
  intro id row hrow
  obtain ⟨row', hrow', hmoved⟩ := h id row hrow
  obtain ⟨row'', hrow'', hmoved'⟩ := h' id row' hrow'
  exact ⟨row'', hrow'', hmoved.trans hmoved'⟩

/-- A statement moves the changes when it moves each one it hits. -/
theorem changesMoved_updateChanges {p : EvolutionChange → Bool} {f : EvolutionChange → EvolutionChange}
    (hf : ∀ c, (f c).id = c.id) (h : ∀ c, p c = true → c.Moved (f c)) :
    db.ChangesMoved (db.updateChanges p f hf) := by
  intro id row hrow
  refine ⟨if p row then f row else row, ?_, ?_⟩
  · change (db.changes.modify p f hf).find? id = _
    rw [Table.find?_modify, hrow, Option.map_some]
  · split
    · next hp => exact h row hp
    · exact .refl row

/-- A statement that no change in review or settled meets moves the changes it hits, as long as it does
not settle them. -/
theorem EvolutionChange.Moved.of_working (hproduct : row'.productId = row.productId)
    (hworking : row.status = .queued ∨ row.status = .running)
    (hopen : row'.settled = false) : row.Moved row' := by
  refine ⟨hproduct, fun hs => ?_, fun _ => hopen, fun hr => ?_⟩
  · rcases hworking with hw | hw <;> simp [EvolutionChange.settled, hw] at hs
  · rcases hworking with hw | hw <;> simp [EvolutionChange.inReview, hw] at hr

/-- A change that can be claimed is queued or running. -/
theorem EvolutionChange.working_of_claimable (h : row.claimable now = true) :
    row.status = .queued ∨ row.status = .running := by
  simp only [EvolutionChange.claimable, Bool.and_eq_true, List.contains_iff_mem, List.mem_cons,
    List.not_mem_nil, or_false] at h
  exact h.1

/-- A change that an executor holds is running. -/
theorem EvolutionChange.running_of_heldBy {id : Uuid} {owner : Option Uuid} (h : row.heldBy id owner = true) :
    row.status = .running := by
  simp only [EvolutionChange.heldBy, Bool.and_eq_true, decide_eq_true_eq] at h
  exact h.2

/-- Expiring a change that still is as it was seen, in a state it can leave. -/
theorem EvolutionChange.Moved.expired (h : terminal.contains row.status = false) : row.Moved row.expired := by
  refine ⟨rfl, fun hs => ?_, fun _ => rfl, fun _ => ⟨rfl, Or.inr (Nat.lt_succ_self _)⟩⟩
  simp only [EvolutionChange.settled, Bool.or_eq_true, decide_eq_true_eq] at hs
  rcases hs with hs | hs <;> rw [hs] at h <;> cases h

/-- Noting the evaluation of a change that awaits review. -/
theorem EvolutionChange.Moved.evaluated {diagnostics : ChangeDiagnostics}
    (h : row.status = .ready ∨ row.status = .actionRequired) : row.Moved (row.evaluated diagnostics) := by
  refine ⟨rfl, fun hs => ?_, fun _ => ?_, fun _ => ⟨?_, Or.inr (Nat.lt_succ_self _)⟩⟩
  · rcases h with h | h <;> simp [EvolutionChange.settled, h] at hs
  · cases hready : diagnostics.ready <;> simp [EvolutionChange.settled, EvolutionChange.evaluated, hready]
  · cases hready : diagnostics.ready <;> simp [EvolutionChange.inReview, EvolutionChange.evaluated, hready]

/-- The statements that take no product lock move changes without settling them. -/
theorem ChangeWrite.changesMoved {write : ChangeWrite} (h : write.perform.run db = .ok ((), db')) :
    db.ChangesMoved db' := by
  cases write with
  | expiry now seen =>
    rw [ChangeWrite.perform, expire, doWhen_ok, modify_ok] at h
    rcases h with ⟨⟨hseen, -⟩, h⟩ | ⟨-, h⟩ <;> cases h
    · refine changesMoved_updateChanges _ fun c hc => .expired ?_
      simp only [Bool.and_eq_true, decide_eq_true_eq] at hc
      rw [hc.2]
      exact hseen
    · exact fun _ row hrow => ⟨row, hrow, .refl row⟩
  | evaluation seen diagnostics =>
    rw [ChangeWrite.perform, noteEvaluation, doWhen_ok, modify_ok] at h
    rcases h with ⟨⟨hseen, -⟩, h⟩ | ⟨-, h⟩ <;> cases h
    · refine changesMoved_updateChanges _ fun c hc => .evaluated ?_
      simp only [Bool.and_eq_true, decide_eq_true_eq] at hc
      rw [hc.2]
      exact hseen
    · exact fun _ row hrow => ⟨row, hrow, .refl row⟩
  | claim now id owner =>
    rw [ChangeWrite.perform, claimChange, modify_ok] at h
    cases h
    refine ChangesMoved.trans (changesMoved_updateChanges _ fun c hc => ?_)
      (changesMoved_updateChanges _ fun c hc => ?_)
    · exact .of_working rfl (EvolutionChange.working_of_claimable (Bool.and_eq_true_iff.mp
        (Bool.and_eq_true_iff.mp hc).1).2) rfl
    · exact .of_working rfl (EvolutionChange.working_of_claimable (Bool.and_eq_true_iff.mp
        (Bool.and_eq_true_iff.mp hc).1).2) rfl
  | renewal now id owner executionDeadline =>
    rw [ChangeWrite.perform, extendLease, modify_ok] at h
    cases h
    refine changesMoved_updateChanges _ fun c hc => ?_
    have hrunning := EvolutionChange.running_of_heldBy (Bool.and_eq_true_iff.mp hc).1
    exact .of_working rfl (Or.inr hrunning) (by simp [EvolutionChange.settled, hrunning])
  | syncing id owner work =>
    rw [ChangeWrite.perform, noteSyncing, modify_ok] at h
    cases h
    refine changesMoved_updateChanges _ fun c hc => ?_
    have hrunning := EvolutionChange.running_of_heldBy hc
    exact .of_working rfl (Or.inr hrunning) (by simp [EvolutionChange.settled, hrunning])
  | completion id owner diagnostics callback =>
    rw [ChangeWrite.perform, completeChange, modify_ok] at h
    cases h
    refine changesMoved_updateChanges _ fun c hc => .of_working rfl
      (Or.inr (EvolutionChange.running_of_heldBy hc)) ?_
    cases hready : diagnostics.ready <;>
      simp [EvolutionChange.settled, EvolutionChange.collected, EvolutionChange.evaluated, hready]
  | failure now id owner aborted conflict callback =>
    rw [ChangeWrite.perform, failChange, modify_ok] at h
    cases h
    refine changesMoved_updateChanges _ fun c hc => .of_working rfl
      (Or.inr (EvolutionChange.running_of_heldBy hc)) ?_
    cases aborted <;> rfl

/-- Preparing a change leaves those that exist as they are. -/
theorem changesMoved_create {productId id : Uuid} {input : EvolutionChangeInput}
    (h : (create now productId input id).run db = .ok (row, db')) : db.ChangesMoved db' := by
  intro k found hfound
  refine ⟨found, ?_, .refl found⟩
  rcases create_ok h with rfl | ⟨-, changes, hchanges, rfl⟩
  · exact hfound
  · change changes.find? k = some found
    rw [Table.find?_insert? hchanges, if_neg ?_]
    · exact hfound
    · rintro rfl
      exact (Table.insert?_eq_some hchanges).1 found (Table.find?_eq_some.mp hfound).1
        (Table.find?_eq_some.mp hfound).2

end Moves

section Locked

variable {env : Env} {now : Instant} {db db' : Database} {row : EvolutionChange} {productId id : Uuid}

/-- What a transaction that applies a change found before it goes on to write. -/
structure ReadReady (request : LockedRequest) (current : EvolutionChange) (plan : ApplyPlan)
    (actor : String) :
    Prop where
  planned : plan.id = current.id
  ready : current.status = .ready
  named : ∃ now, request = .apply now current.revision actor ∧ now < current.expiresAt

/-- A transaction goes on to write only where it read an open change of its product, and to apply only
where it read a ready one, at the revision it was asked for and before it expires. -/
theorem LockedRequest.read_ok {request : LockedRequest} {write : LockedWrite}
    (hrow : db.changes.find? id = some row)
    (h : (request.read env productId id).run db = .ok (some write, db')) :
    row.productId = productId ∧ row.settled = false ∧
      ∀ plan actor, write = .apply plan actor → ReadReady request row plan actor := by
  have hid : row.id = id := (Table.find?_eq_some.mp hrow).2
  cases request with
  | cancel revision actor =>
    obtain ⟨pending, db₁, hread, hwrite⟩ := bind_ok.mp h
    rw [pure_ok] at hwrite
    cases pending with
    | false => cases hwrite
    | true =>
      cases hwrite
      simp only [cancelRead, lockProduct_bind_ok, changeRow_bind_ok] at hread
      obtain ⟨_, -, current, hcurrent, hproduct, hread⟩ := hread
      obtain rfl : row = current := Option.some.inj (hrow.symm.trans hcurrent)
      refine ⟨hproduct, ?_, fun _ _ hwrite => by cases hwrite⟩
      split at hread
      · rw [pure_ok] at hread
        cases hread
      · rw [throw_ok] at hread
        exact hread.elim
      · next hcancelled happlied =>
        unfold EvolutionChange.settled
        rw [Bool.or_eq_false_iff, decide_eq_false_iff_not, decide_eq_false_iff_not]
        exact ⟨happlied, hcancelled⟩
  | callbackCheck now dto actor =>
    obtain ⟨work, db₁, hread, hwrite⟩ := bind_ok.mp h
    rw [pure_ok] at hwrite
    cases hwrite
    simp only [callbackRead, assertRevision, lockProduct_bind_ok, changeRow_bind_ok,
      throwWhen_bind_ok] at hread
    obtain ⟨_, -, current, hcurrent, hproduct, -, hallowed, -⟩ := hread
    obtain rfl : row = current := Option.some.inj (hrow.symm.trans hcurrent)
    refine ⟨hproduct, ?_, fun _ _ hwrite => by cases hwrite⟩
    have hstatus : row.status = .actionRequired := by
      by_contra hne
      exact hallowed (Or.inr (Or.inr (Or.inl hne)))
    simp [EvolutionChange.settled, hstatus]
  | apply now revision actor =>
    obtain ⟨plan, db₁, hread, hwrite⟩ := bind_ok.mp h
    rw [pure_ok, Prod.mk.injEq] at hwrite
    obtain ⟨plan, rfl, rfl⟩ := Option.map_eq_some_iff.mp hwrite.1.symm
    obtain ⟨-, current, hplanned⟩ := applyRead_ok hread
    obtain rfl : row = current := Option.some.inj (hrow.symm.trans hplanned.found)
    refine ⟨hplanned.ofProduct, by simp [EvolutionChange.settled, hplanned.status], fun plan' actor' hwrite => ?_⟩
    cases hwrite
    exact ⟨hplanned.planned.1.trans hid.symm, hplanned.status, now, by rw [hplanned.revision],
      hplanned.unexpired⟩

/-- The state a transaction leaves its change in. -/
def LockedWrite.leaves : LockedWrite → ChangeStatus
  | .cancel => .cancelled
  | .callbackCheck _ => .queued
  | .apply _ _ => .applied

/-- A transaction that commits writes its own change, which it leaves in the state it was to reach, and no
other one. -/
theorem LockedWrite.perform_ok {write : LockedWrite}
    (hplan : ∀ plan actor, write = .apply plan actor → plan.id = id)
    (h : (write.perform env id).run db = .ok ((), db')) :
    (∀ k, k ≠ id → db'.changes.find? k = db.changes.find? k) ∧
      ∀ row, db.changes.find? id = some row →
        ∃ row', db'.changes.find? id = some row' ∧ row'.status = write.leaves := by
  have hupdate : ∀ (changes : Table EvolutionChange) (f : EvolutionChange → EvolutionChange)
      (hf : ∀ c, (f c).id = c.id), (∀ c, (f c).status = write.leaves) →
      (∀ k, k ≠ id → (changes.modify (fun c => c.id = id) f hf).find? k = changes.find? k) ∧
        ∀ row, changes.find? id = some row →
          ∃ row', (changes.modify (fun c => c.id = id) f hf).find? id = some row' ∧
            row'.status = write.leaves := by
    intro changes f hf hstatus
    refine ⟨fun k hk => ?_, fun row hrow => ⟨f row, ?_, hstatus row⟩⟩
    · rw [Table.find?_modify]
      cases hrow : changes.find? k with
      | none => rfl
      | some row =>
        have hid : row.id ≠ id := fun hid => hk ((Table.find?_eq_some.mp hrow).2.symm.trans hid)
        simp [hid]
    · have hid : row.id = id := (Table.find?_eq_some.mp hrow).2
      rw [Table.find?_modify, hrow]
      simp [hid]
  cases write with
  | cancel =>
    rw [LockedWrite.perform, cancelWrite, modify_ok] at h
    cases h
    exact hupdate _ (·.cancelled) (fun _ => rfl) fun _ => rfl
  | callbackCheck work =>
    rw [LockedWrite.perform, callbackWrite, modify_ok] at h
    cases h
    exact hupdate _ (·.callbackQueued work) (fun _ => rfl) fun _ => rfl
  | apply plan actor =>
    obtain ⟨db₁, audit, heffects, rfl⟩ := applyWrite_ok h
    have hchanges := (applyEffects_kept heffects).changes
    rw [← hchanges, hplan plan actor rfl]
    exact hupdate _ (·.applied audit plan.diagnostics) (fun _ => rfl) fun _ => rfl

end Locked

section System

variable {env : Env} {db : Database} {s s' t u : ChangeSystem} {e : ChangeEvent} {es fs : List ChangeEvent}
  {productId id : Uuid} {work : LockedWork} {row : EvolutionChange}

/-- What a transaction holding the lock of a product relies on: it read an open change of that product,
which nobody has settled since. -/
structure LockedWork.Sound (work : LockedWork) (productId : Uuid) (db : Database) : Prop where
  productId : work.current.productId = productId
  unsettled : work.current.settled = false
  ready : ∀ plan actor, work.write = .apply plan actor → ReadReady work.request work.current plan actor
  moved : ∃ row, db.changes.find? work.current.id = some row ∧ work.current.Moved row

/-- Every transaction that holds a lock may rely on what it read. -/
def ChangeSystem.Sound (s : ChangeSystem) : Prop :=
  ∀ productId work, s.working productId = some work → work.Sound productId s.db

/-- Moves of the changes keep what a transaction relies on. -/
theorem LockedWork.Sound.mono {db db' : Database} (h : work.Sound productId db)
    (hmoved : db.ChangesMoved db') :
    work.Sound productId db' := by
  obtain ⟨row, hrow, hrowMoved⟩ := h.moved
  obtain ⟨row', hrow', hrowMoved'⟩ := hmoved _ row hrow
  exact ⟨h.productId, h.unsettled, h.ready, row', hrow', hrowMoved.trans hrowMoved'⟩

/-- The plan of a transaction that applies a change is about that change. -/
theorem LockedWork.Sound.planned {db : Database} (h : work.Sound productId db) :
    ∀ plan actor, work.write = .apply plan actor → plan.id = work.current.id :=
  fun plan actor hwrite => (h.ready plan actor hwrite).planned

/-- A step that commits no transaction moves the changes without settling them. -/
theorem ChangeStep.changesMoved (h : ChangeStep env s e s') (he : ∀ p w, e ≠ .committed p w) :
    s.db.ChangesMoved s'.db := by
  cases h with
  | began | rolledBack => exact fun _ row hrow => ⟨row, hrow, .refl row⟩
  | @committed p w => exact absurd rfl (he p w)
  | wrote hrun => exact ChangeWrite.changesMoved hrun
  | created _ hrun => exact changesMoved_create hrun
  | elsewhere hkept => exact fun _ row hrow => ⟨row, hkept ▸ hrow, .refl row⟩

/-- A step keeps what the holders of locks rely on. -/
theorem ChangeStep.sound (hsound : s.Sound) (h : ChangeStep env s e s') : s'.Sound := by
  intro p w hw
  cases h with
  | @began productId request current write db' hfree hfound hrun =>
    rcases working_locked.mp hw with ⟨rfl, rfl⟩ | ⟨-, hw⟩
    · obtain ⟨hproduct, hopen, hready⟩ := LockedRequest.read_ok hfound hrun
      exact ⟨hproduct, hopen, hready, current, hfound, .refl current⟩
    · exact hsound p w hw
  | @committed productId work db' hheld hrun =>
    obtain ⟨hp, hw⟩ := working_unlocked.mp hw
    have hown := hsound _ _ hheld
    have hother := hsound p w hw
    obtain ⟨row, hrow, hmoved⟩ := hother.moved
    -- the two transactions hold the locks of different products, so they are about different changes
    have hne : w.current.id ≠ work.current.id := by
      intro heq
      obtain ⟨row₂, hrow₂, hmoved₂⟩ := hown.moved
      rw [← heq, hrow, Option.some.injEq] at hrow₂
      subst hrow₂
      exact hp ((hother.productId.symm.trans hmoved.productId.symm).trans
        (hmoved₂.productId.trans hown.productId))
    refine ⟨hother.productId, hother.unsettled, hother.ready, row, ?_, hmoved⟩
    exact ((LockedWrite.perform_ok hown.planned hrun).1 _ hne).trans hrow
  | rolledBack => exact hsound p w (working_unlocked.mp hw).2
  | wrote hrun => exact (hsound p w hw).mono (ChangeWrite.changesMoved hrun)
  | created _ hrun => exact (hsound p w hw).mono (changesMoved_create hrun)
  | elsewhere hkept => exact (hsound p w hw).mono fun _ row hrow => ⟨row, hkept ▸ hrow, .refl row⟩

/-- No step changes a change that is applied or cancelled. -/
theorem ChangeStep.settled_kept (hsound : s.Sound) (h : ChangeStep env s e s')
    (hrow : s.db.changes.find? id = some row) (hsettled : row.settled = true) :
    s'.db.changes.find? id = some row := by
  by_cases he : ∃ p w, e = .committed p w
  · obtain ⟨p, w, rfl⟩ := he
    cases h with
    | committed hheld hrun =>
      have hown := hsound _ _ hheld
      obtain ⟨row', hrow', hmoved⟩ := hown.moved
      have hne : id ≠ w.current.id := by
        rintro rfl
        obtain rfl : row = row' := Option.some.inj (hrow.symm.trans hrow')
        exact absurd hsettled (by rw [hmoved.unsettled hown.unsettled]; decide)
      exact ((LockedWrite.perform_ok hown.planned hrun).1 id hne).trans hrow
  · obtain ⟨row', hrow', hmoved⟩ := h.changesMoved (fun p w hc => he ⟨p, w, hc⟩) id row hrow
    rw [hrow', hmoved.settled hsettled]

/-- The change with the given id is applied. -/
def ChangeSystem.Applied (id : Uuid) (s : ChangeSystem) : Prop :=
  ∃ row, s.db.changes.find? id = some row ∧ row.status = .applied

/-- The change with the given id is there and neither applied nor cancelled. -/
def ChangeSystem.Open (id : Uuid) (s : ChangeSystem) : Prop :=
  ∃ row, s.db.changes.find? id = some row ∧ row.settled = false

/-- A step that commits the effects of a change finds it open and leaves it applied. -/
theorem ChangeStep.applies (hsound : s.Sound) (h : ChangeStep env s e s') (he : e.applies id = true) :
    s.Open id ∧ s'.Applied id := by
  cases h with
  | @committed productId work db' hheld hrun =>
    obtain ⟨request, current, write⟩ := work
    cases write with
    | cancel | callbackCheck => cases he
    | apply plan actor =>
      obtain rfl : current.id = id := of_decide_eq_true he
      have hown := hsound _ _ hheld
      obtain ⟨row, hrow, hmoved⟩ := hown.moved
      obtain ⟨row', hrow', hstatus⟩ := (LockedWrite.perform_ok hown.planned hrun).2 row hrow
      exact ⟨⟨row, hrow, hmoved.unsettled hown.unsettled⟩, row', hrow', hstatus⟩
  | began | rolledBack | wrote | created | elsewhere => cases he

/-- An applied change stays applied. -/
theorem ChangeStep.applied_kept (hsound : s.Sound) (h : ChangeStep env s e s') (happlied : s.Applied id) :
    s'.Applied id := by
  obtain ⟨row, hrow, hstatus⟩ := happlied
  exact ⟨row, h.settled_kept hsound hrow (by simp [EvolutionChange.settled, hstatus]), hstatus⟩

/-- A transaction that holds a lock began in the run, where it read the change it is about. -/
theorem began_of_working (h : Run (ChangeStep env) s es t) (hwork : t.working productId = some work) :
    s.working productId = some work ∨ ∃ pre mid v, es = pre ++ .began productId work :: mid ∧
      Run (ChangeStep env) s pre v ∧ v.db.changes.find? work.current.id = some work.current := by
  induction h with
  | nil => exact Or.inl hwork
  | @cons s s' t e es hstep hrest ih =>
    rcases ih hwork with hheld | ⟨pre, mid, v, rfl, hpre, hfound⟩
    · cases hstep with
      | @began p request current write db' hfree hfound hrun =>
        rcases working_locked.mp hheld with ⟨rfl, rfl⟩ | ⟨-, hheld⟩
        · exact Or.inr ⟨[], es, s, rfl, .nil s, hfound⟩
        · exact Or.inl hheld
      | committed | rolledBack => exact Or.inl (working_unlocked.mp hheld).2
      | wrote | created | elsewhere => exact Or.inl hheld
    · exact Or.inr ⟨e :: pre, mid, v, rfl, .cons hstep hpre, hfound⟩

/-- In the idle system nobody relies on anything. -/
theorem sound_idle (db : Database) : (ChangeSystem.idle db).Sound :=
  fun _ _ hwork => nomatch hwork

/-- Every state of a run from the idle system is sound. -/
theorem Run.changeSound (h : Run (ChangeStep env) (.idle db) es s) : s.Sound :=
  h.invariant (fun _ _ _ hsound hstep => hstep.sound hsound) (sound_idle db)

/-- A change that is applied or cancelled stays as it is for the rest of a run. -/
theorem settled_kept (hsound : s.Sound) (h : Run (ChangeStep env) s es t)
    (hrow : s.db.changes.find? id = some row)
    (hsettled : row.settled = true) : t.db.changes.find? id = some row :=
  ((h.under (I := ChangeSystem.Sound) (fun _ _ _ hs hstep => hstep.sound hs) hsound).invariant
    (I := fun s => s.db.changes.find? id = some row)
    (fun _ _ _ hrow hstep => hstep.2.settled_kept hstep.1 hrow hsettled) hrow)

/-- The effects of a change are committed at most once, by a transaction that read the change under the lock
of its product, ready, at the revision it was asked for and before it expires; a change that is applied or
cancelled stays as it is; and the effects of a cancelled one are never committed, before or after. -/
theorem change_applied_once (h : Run (ChangeStep env) (.idle db) es s)
    (h' : Run (ChangeStep env) s fs t) (id : Uuid) :
    (es ++ fs).countP (·.applies id) ≤ 1 ∧
      (∀ productId work s', ChangeStep env s (.committed productId work) s' →
        (ChangeEvent.committed productId work).applies id = true →
        (∃ pre mid u, es = pre ++ .began productId work :: mid ∧ Run (ChangeStep env) (.idle db) pre u ∧
          u.db.changes.find? id = some work.current ∧ work.current.status = .ready ∧
          ∃ now actor, work.request = .apply now work.current.revision actor ∧ now < work.current.expiresAt) ∧
        ∃ row, s.db.changes.find? id = some row ∧
          (row = work.current ∨ work.current.revision < row.revision ∧ row.inReview = true)) ∧
      (∀ row, s.db.changes.find? id = some row → row.settled = true → t.db.changes.find? id = some row) ∧
      ∀ row, s.db.changes.find? id = some row → row.status = .cancelled →
        (es ++ fs).countP (·.applies id) = 0 := by
  have hsound : s.Sound := Run.changeSound h
  have hunder := (h.append h').under (I := ChangeSystem.Sound) (fun _ _ _ hs hstep => hstep.sound hs)
    (sound_idle db)
  refine ⟨?_, fun p w s' hstep happlies => ?_, fun row hrow hsettled => settled_kept hsound h' hrow hsettled,
    fun row hrow hcancelled => ?_⟩
  · refine hunder.atMostOnce (P := ChangeSystem.Open id) (Q := ChangeSystem.Applied id)
      (fun _ _ _ he hstep => (hstep.2.applies hstep.1 he).1)
      (fun _ _ _ he hstep => (hstep.2.applies hstep.1 he).2)
      (fun _ _ _ happlied hstep => hstep.2.applied_kept hstep.1 happlied) ?_
    rintro u ⟨row, hrow, happlied⟩ ⟨row', hrow', hopen⟩
    obtain rfl : row = row' := Option.some.inj (hrow.symm.trans hrow')
    simp [EvolutionChange.settled, happlied] at hopen
  · obtain ⟨request, current, write⟩ := w
    cases write with
    | cancel | callbackCheck => cases happlies
    | apply plan actor =>
      obtain rfl : current.id = id := of_decide_eq_true happlies
      cases hstep with
      | committed hheld hrun =>
        have hown := hsound _ _ hheld
        obtain ⟨-, hstatus, now, hrequest, hexpires⟩ := hown.ready plan actor rfl
        have hready : current.status = .ready := hstatus
        obtain ⟨row, hrow, hmoved⟩ := hown.moved
        refine ⟨?_, row, hrow, ?_⟩
        · rcases began_of_working h hheld with hidle | ⟨pre, mid, u, hes, hpre, hfound⟩
          · cases hidle
          · exact ⟨pre, mid, u, hes, hpre, hfound, hready, now, actor, hrequest, hexpires⟩
        · obtain ⟨hreview, hsame⟩ := hmoved.inReview (by simp [EvolutionChange.inReview, hready])
          exact hsame.imp id fun hlt => ⟨hlt, hreview⟩
  · rw [List.countP_eq_zero]
    intro e he happlies
    have happlied : t.Applied id := hunder.holds_of_mem (E := (·.applies id))
      (fun _ _ _ he hstep => (hstep.2.applies hstep.1 he).2)
      (fun _ _ _ happlied hstep => hstep.2.applied_kept hstep.1 happlied) he happlies
    obtain ⟨row', hrow', hstatus⟩ := happlied
    have hkept := settled_kept hsound h' hrow (by simp [EvolutionChange.settled, hcancelled])
    obtain rfl : row' = row := Option.some.inj (hrow'.symm.trans hkept)
    rw [hstatus] at hcancelled
    cases hcancelled

end System

/-- The application of the small installation's change, at the given time. -/
def smallWork (now : Instant) : LockedWork where
  request := .apply now 0 "admin"
  current := smallChange
  write := .apply
    { id := smallChange.id
      product := smallProduct
      draft := smallDraft
      before := smallReady.changeSnapshot smallProduct smallDraft
      diagnostics := ⟨[check now .verified smallProvider.id false], [], [smallProduct.id], true⟩ } "admin"

/-- In the small installation the change is applied once, and stays as it was left. -/
theorem change_applied_once_small : ∃ s row, Run (ChangeStep smallEnv) (.idle smallReady)
      [.began smallProduct.id (smallWork 0), .committed smallProduct.id (smallWork 0)] s ∧
    s.db.changes.find? smallChange.id = some row ∧ row.status = .applied ∧
    ∀ fs t, Run (ChangeStep smallEnv) s fs t → fs.countP (·.applies smallChange.id) = 0 ∧
      t.db.changes.find? smallChange.id = some row := by
  refine ⟨_, _, .cons (.began rfl rfl rfl) (.single (.committed rfl rfl)), rfl, rfl, fun fs t h => ?_⟩
  obtain ⟨honce, -, hkept, -⟩ := change_applied_once
    (.cons (.began rfl rfl rfl) (.single (.committed rfl rfl))) h smallChange.id
  refine ⟨?_, hkept _ rfl rfl⟩
  rw [List.countP_append] at honce
  change 1 + fs.countP _ ≤ 1 at honce
  omega

/-- A poll that expires a ready change after an application read it, and before that commits, does not stop
it: the change is applied out of the state expired. -/
theorem applied_after_expiry : ∃ s t, Run (ChangeStep smallEnv) (.idle smallReady)
      [.began smallProduct.id (smallWork 1999), .wrote (.expiry smallChange.expiresAt smallChange)] s ∧
    ChangeStep smallEnv s (.committed smallProduct.id (smallWork 1999)) t ∧
    (ChangeEvent.committed smallProduct.id (smallWork 1999)).applies smallChange.id = true ∧
    ∃ row, s.db.changes.find? smallChange.id = some row ∧ row.status = .expired :=
  ⟨_, _, .cons (.began rfl rfl rfl) (.single (.wrote rfl)), .committed rfl rfl, rfl, _, rfl, rfl⟩

end ConnectHub
