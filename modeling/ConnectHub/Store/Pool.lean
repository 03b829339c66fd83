import ConnectHub.Store.Run

/-!
# Tasks that interleave over a shared state

Tasks run statement by statement, in any order, next to an environment that changes the shared state and
starts new tasks; a task may be lost at any point. The rule here is the one of rely and guarantee: if
every statement and every move of the environment guarantees what all tasks rely on, each task's own
assertion survives the others. Assertions may speak of what happened so far.
-/

namespace Store

variable {σ τ ε : Type}

/-- A shared state and the tasks under way. -/
structure Pool (σ τ : Type) where
  shared : σ
  tasks : List τ

/-- One step: a task runs its next statement and goes on as at most one task, the environment moves, or a task
is lost. -/
inductive PoolStep (statement : σ → τ → ε → σ → Option τ → Prop) (environment : σ → ε → σ → List τ → Prop)
    (lost : ε) (p : Pool σ τ) : ε → Pool σ τ → Prop
  | ran {before after task e s next} (position : p.tasks = before ++ task :: after)
      (run : statement p.shared task e s next) :
      PoolStep statement environment lost p e ⟨s, before ++ (next.toList ++ after)⟩
  | came {e s new} (move : environment p.shared e s new) :
      PoolStep statement environment lost p e ⟨s, new ++ p.tasks⟩
  | lost {before after task} (position : p.tasks = before ++ task :: after) :
      PoolStep statement environment lost p lost ⟨p.shared, before ++ after⟩

/-- Where one of several is replaced, a count changes by what those two count. -/
theorem countP_set_add {tasks : List τ} {index : ℕ} {task : τ} (h : tasks[index]? = some task) (next : τ)
    (counts : τ → Bool) :
    (tasks.set index next).countP counts + (counts task).toNat = tasks.countP counts + (counts next).toNat := by
  obtain ⟨hlt, hget⟩ := List.getElem?_eq_some_iff.mp h
  have hle : (counts task).toNat ≤ tasks.countP counts := by
    cases hcounts : counts task with
    | false => exact Nat.zero_le _
    | true => exact List.countP_pos_iff.mpr ⟨task, List.mem_of_getElem? h, hcounts⟩
  rw [List.countP_set hlt, hget]
  cases hcounts : counts task <;> cases counts next <;>
    simp only [hcounts, Bool.toNat_true, Bool.toNat_false, Bool.false_eq_true, if_true, if_false] at hle ⊢ <;>
    omega

/-- The first task under way may run. -/
theorem PoolStep.first {statement : σ → τ → ε → σ → Option τ → Prop}
    {environment : σ → ε → σ → List τ → Prop} {lost : ε} {p : Pool σ τ} {task : τ} {rest : List τ} {e : ε}
    {s : σ} {next : Option τ} (h : p.tasks = task :: rest) (run : statement p.shared task e s next) :
    PoolStep statement environment lost p e ⟨s, next.toList ++ rest⟩ :=
  .ran (show p.tasks = [] ++ task :: rest from h) run

/-- An assertion on each task that survives the steps of the others, that a statement establishes for how its
task goes on, and the environment for the tasks it starts, holds of every task after a step. -/
theorem PoolStep.asserts {statement : σ → τ → ε → σ → Option τ → Prop}
    {environment : σ → ε → σ → List τ → Prop} {lost : ε} {p q : Pool σ τ} {e : ε} {A : σ → τ → Prop}
    (h : PoolStep statement environment lost p e q)
    (hran : ∀ task ∈ p.tasks, ∀ next, statement p.shared task e q.shared next → ∀ t ∈ next, A q.shared t)
    (hcame : ∀ new, environment p.shared e q.shared new → ∀ t ∈ new, A q.shared t)
    (hstable : ∀ task ∈ p.tasks, A q.shared task) : ∀ task ∈ q.tasks, A q.shared task := by
  cases h with
  | ran position run =>
    rw [position] at hran hstable
    intro other hother
    rcases List.mem_append.mp hother with hother | hother
    · exact hstable other (List.mem_append_left _ hother)
    · rcases List.mem_append.mp hother with hother | hother
      · exact hran _ (List.mem_append_right _ List.mem_cons_self) _ run other (Option.mem_toList.mp hother)
      · exact hstable other (List.mem_append_right _ (List.mem_cons_of_mem _ hother))
  | came move =>
    intro other hother
    rcases List.mem_append.mp hother with hother | hother
    · exact hcame _ move other hother
    · exact hstable other hother
  | lost position =>
    rw [position] at hstable
    intro other hother
    refine hstable other ?_
    rcases List.mem_append.mp hother with hother | hother
    · exact List.mem_append_left _ hother
    · exact List.mem_append_right _ (List.mem_cons_of_mem _ hother)

/-- What one task guarantees to the others, and what it establishes for itself. -/
structure Discipline (statement : σ → τ → ε → σ → Option τ → Prop) (environment : σ → ε → σ → List τ → Prop)
    (lost : ε) (holds : List ε → σ → Prop) (asserts : List ε → σ → τ → Prop)
    (guarantee : List ε → σ → ε → σ → Prop) : Prop where
  statement_ok : ∀ {hist s task e s' next}, holds hist s → asserts hist s task → statement s task e s' next →
    holds (hist ++ [e]) s' ∧ guarantee hist s e s' ∧ ∀ t ∈ next, asserts (hist ++ [e]) s' t
  environment_ok : ∀ {hist s e s' new}, holds hist s → environment s e s' new →
    holds (hist ++ [e]) s' ∧ guarantee hist s e s' ∧ ∀ t ∈ new, asserts (hist ++ [e]) s' t
  lost_ok : ∀ {hist s}, holds hist s → holds (hist ++ [lost]) s ∧ guarantee hist s lost s
  stable : ∀ {hist s e s' task}, asserts hist s task → guarantee hist s e s' → asserts (hist ++ [e]) s' task

variable {statement : σ → τ → ε → σ → Option τ → Prop} {environment : σ → ε → σ → List τ → Prop} {lost : ε}
  {holds : List ε → σ → Prop} {asserts : List ε → σ → τ → Prop} {guarantee : List ε → σ → ε → σ → Prop}
  {hist : List ε} {p p' : Pool σ τ} {e : ε}

/-- The shared invariant holds, and so does the assertion of every task under way. -/
def Pool.Right (holds : List ε → σ → Prop) (asserts : List ε → σ → τ → Prop) (hist : List ε)
    (p : Pool σ τ) : Prop :=
  holds hist p.shared ∧ ∀ task ∈ p.tasks, asserts hist p.shared task

/-- A step under a discipline keeps the invariant and every assertion. -/
theorem PoolStep.right (discipline : Discipline statement environment lost holds asserts guarantee)
    (hright : p.Right holds asserts hist) (h : PoolStep statement environment lost p e p') :
    p'.Right holds asserts (hist ++ [e]) := by
  obtain ⟨hholds, hasserts⟩ := hright
  cases h with
  | @ran before after task e s next position run =>
    have htask : task ∈ p.tasks := position ▸ List.mem_append_right _ List.mem_cons_self
    obtain ⟨hholds', hguarantee, hnext⟩ := discipline.statement_ok hholds (hasserts task htask) run
    refine ⟨hholds', fun other hother => ?_⟩
    have hold : ∀ t ∈ p.tasks, asserts (hist ++ [e]) s t := fun t ht =>
      discipline.stable (hasserts t ht) hguarantee
    rw [position] at hold
    rcases List.mem_append.mp hother with hother | hother
    · exact hold other (List.mem_append_left _ hother)
    · rcases List.mem_append.mp hother with hother | hother
      · exact hnext other (Option.mem_toList.mp hother)
      · exact hold other (List.mem_append_right _ (List.mem_cons_of_mem _ hother))
  | came move =>
    obtain ⟨hholds', hguarantee, hnew⟩ := discipline.environment_ok hholds move
    refine ⟨hholds', fun other hother => ?_⟩
    rcases List.mem_append.mp hother with hother | hother
    · exact hnew other hother
    · exact discipline.stable (hasserts other hother) hguarantee
  | @lost before after task position =>
    obtain ⟨hholds', hguarantee⟩ := discipline.lost_ok hholds
    refine ⟨hholds', fun other hother => discipline.stable (hasserts other ?_) hguarantee⟩
    rw [position]
    rcases List.mem_append.mp hother with hother | hother
    · exact List.mem_append_left _ hother
    · exact List.mem_append_right _ (List.mem_cons_of_mem _ hother)

/-- So does a run, which adds its labels to what happened before. -/
theorem Run.right {es : List ε} (discipline : Discipline statement environment lost holds asserts guarantee)
    (h : Run (PoolStep statement environment lost) p es p') (hright : p.Right holds asserts hist) :
    p'.Right holds asserts (hist ++ es) := by
  induction h generalizing hist with
  | nil =>
    rw [List.append_nil]
    exact hright
  | cons h₁ _ ih =>
    have hrest := ih (h₁.right discipline hright)
    rw [List.append_assoc] at hrest
    exact hrest

end Store
