import Mathlib.Logic.Basic

/-!
# Atomic transactions over a store

A transaction reads and rewrites a store, or fails. Failure is a rollback: `commit` leaves the
store as it was before the transaction began. The inversion lemmas take a transaction that
succeeded apart, one statement at a time, so that a proof about a long body never unfolds the
monad.
-/

namespace Store

/-- A body that runs against a store and either returns a value or fails. -/
abbrev Transaction (σ ε α : Type) := StateT σ (Except ε) α

variable {σ ε α β : Type}

/-- Fail with `e` when the condition holds, and otherwise go on. -/
def throwWhen (c : Prop) [Decidable c] (e : ε) : Transaction σ ε Unit :=
  if c then throw e else pure ()

/-- Run a body only when the condition holds. -/
def doWhen (c : Prop) [Decidable c] (tx : Transaction σ ε Unit) : Transaction σ ε Unit :=
  if c then tx else pure ()

/-- Run a body on the value of an option, if there is one. -/
def whenSome (o : Option α) (f : α → Transaction σ ε Unit) : Transaction σ ε Unit :=
  match o with
  | some a => f a
  | none => pure ()

/-- The value of an option, failing with `e` when there is none. -/
def orThrow (e : ε) : Option α → Transaction σ ε α
  | some a => pure a
  | none => throw e

/-- The store after the transaction: its result when it succeeded, the old store otherwise. -/
def commit (tx : Transaction σ ε α) (s : σ) : σ :=
  match tx.run s with
  | .ok (_, s') => s'
  | .error _ => s

/-- A computation that may fail and what follows it succeed when both do. -/
theorem except_bind_ok {x : Except ε α} {f : α → Except ε β} {r : β} :
    (x >>= f) = .ok r ↔ ∃ a, x = .ok a ∧ f a = .ok r := by
  cases x with
  | error failure =>
    constructor
    · intro h
      cases h
    · intro h
      obtain ⟨_, h, _⟩ := h
      cases h
  | ok a =>
    constructor
    · intro h
      exact ⟨a, rfl, h⟩
    · intro h
      obtain ⟨_, hsame, h⟩ := h
      cases hsame
      exact h

/-- A sequence succeeded exactly when both of its halves did, one after the other. -/
theorem bind_ok {x : Transaction σ ε α} {f : α → Transaction σ ε β} {s : σ} {r : β × σ} :
    (x >>= f).run s = .ok r ↔ ∃ a s₁, x.run s = .ok (a, s₁) ∧ (f a).run s₁ = .ok r := by
  rw [StateT.run_bind]
  cases hx : x.run s with
  | error e => simp [bind, Except.bind]
  | ok p =>
    obtain ⟨a, s₁⟩ := p
    constructor
    · intro h
      exact ⟨a, s₁, rfl, h⟩
    · rintro ⟨a', s₁', h, hr⟩
      cases h
      exact hr

/-- Returning a value leaves the store alone. -/
theorem pure_ok {a : α} {s : σ} {r : α × σ} :
    (pure a : Transaction σ ε α).run s = .ok r ↔ r = (a, s) := by
  rw [StateT.run_pure]
  exact ⟨fun h => (Except.ok.inj h).symm, fun h => h ▸ rfl⟩

/-- A thrown error is not a success. -/
theorem throw_ok {e : ε} {s : σ} {r : α × σ} :
    (throw e : Transaction σ ε α).run s = .ok r ↔ False := by
  simp [throw, throwThe, MonadExceptOf.throw, StateT.run, StateT.lift, bind, Except.bind]

/-- Reading returns the store itself. -/
theorem get_ok {s : σ} {r : σ × σ} :
    (get : Transaction σ ε σ).run s = .ok r ↔ r = (s, s) := by
  rw [StateT.run_get]
  exact ⟨fun h => (Except.ok.inj h).symm, fun h => h ▸ rfl⟩

/-- Writing replaces the store. -/
theorem set_ok {s₁ s : σ} {r : PUnit × σ} :
    (set s₁ : Transaction σ ε PUnit).run s = .ok r ↔ r = (⟨⟩, s₁) := by
  rw [StateT.run_set]
  exact ⟨fun h => (Except.ok.inj h).symm, fun h => h ▸ rfl⟩

/-- An update applies its function to the store. -/
theorem modify_ok {f : σ → σ} {s : σ} {r : PUnit × σ} :
    (modify f : Transaction σ ε PUnit).run s = .ok r ↔ r = (⟨⟩, f s) := by
  rw [StateT.run_modify]
  exact ⟨fun h => (Except.ok.inj h).symm, fun h => h ▸ rfl⟩

/-- A guard succeeded exactly when its condition failed, and it changes nothing. -/
theorem throwWhen_ok {c : Prop} [Decidable c] {e : ε} {s : σ} {r : Unit × σ} :
    (throwWhen c e : Transaction σ ε Unit).run s = .ok r ↔ ¬c ∧ r = ((), s) := by
  unfold throwWhen
  split
  · next hc => simp only [throw_ok, hc, not_true_eq_false, false_and]
  · next hc => simp only [pure_ok, hc, not_false_eq_true, true_and]

/-- An optional body succeeded exactly when it ran and succeeded, or was left out. -/
theorem doWhen_ok {c : Prop} [Decidable c] {tx : Transaction σ ε Unit} {s : σ} {r : Unit × σ} :
    (doWhen c tx).run s = .ok r ↔ (c ∧ tx.run s = .ok r) ∨ (¬c ∧ r = ((), s)) := by
  unfold doWhen
  split
  · next hc => simp [hc]
  · next hc => simp only [pure_ok, hc, false_and, false_or, not_false_eq_true, true_and]

/-- A required value was there, and reading it changes nothing. -/
theorem orThrow_ok {o : Option α} {e : ε} {s : σ} {r : α × σ} :
    (orThrow e o : Transaction σ ε α).run s = .ok r ↔ ∃ a, o = some a ∧ r = (a, s) := by
  cases o with
  | none => simp only [orThrow, throw_ok, reduceCtorEq, false_and, exists_false]
  | some a => simp only [orThrow, pure_ok, Option.some.injEq, exists_eq_left']

section Leading

variable {x : Transaction σ ε α} {f : α → Transaction σ ε β} {s s₁ : σ} {r : β × σ}

/-- After a statement that succeeded, the rest runs on what it left. -/
theorem run_bind_of_ok {a : α} (h : x.run s = .ok (a, s₁)) : (x >>= f).run s = (f a).run s₁ := by
  rw [StateT.run_bind, h]
  rfl

/-- A body that reads first goes on with the store it is in. -/
theorem get_bind_ok {f : σ → Transaction σ ε β} :
    (get >>= f).run s = .ok r ↔ (f s).run s = .ok r := by
  rw [run_bind_of_ok (get_ok.mpr rfl)]

/-- A body that writes first goes on in the store written. -/
theorem set_bind_ok {f : PUnit → Transaction σ ε β} :
    ((set s₁ : Transaction σ ε PUnit) >>= f).run s = .ok r ↔ (f ⟨⟩).run s₁ = .ok r := by
  rw [run_bind_of_ok (set_ok.mpr rfl)]

/-- A body that updates first goes on in the store updated. -/
theorem modify_bind_ok {g : σ → σ} {f : PUnit → Transaction σ ε β} :
    ((modify g : Transaction σ ε PUnit) >>= f).run s = .ok r ↔ (f ⟨⟩).run (g s) = .ok r := by
  rw [run_bind_of_ok (modify_ok.mpr rfl)]

/-- A body that fails first does not succeed. -/
theorem throw_bind_ok {e : ε} : ((throw e : Transaction σ ε α) >>= f).run s = .ok r ↔ False := by
  simp only [bind_ok, throw_ok, false_and, exists_false]

/-- A guarded body succeeded exactly when its guard held off and the rest succeeded. -/
theorem throwWhen_bind_ok {c : Prop} [Decidable c] {e : ε} {f : Unit → Transaction σ ε β} :
    (throwWhen c e >>= f).run s = .ok r ↔ ¬c ∧ (f ()).run s = .ok r := by
  by_cases hc : c
  · simp only [bind_ok, throwWhen_ok, hc, not_true_eq_false, false_and, exists_false]
  · rw [run_bind_of_ok (throwWhen_ok.mpr ⟨hc, rfl⟩)]
    simp only [hc, not_false_eq_true, true_and]

/-- A body that requires a value succeeded exactly when it had one and the rest succeeded. -/
theorem orThrow_bind_ok {o : Option α} {e : ε} :
    (orThrow e o >>= f).run s = .ok r ↔ ∃ a, o = some a ∧ (f a).run s = .ok r := by
  cases o with
  | none => simp only [bind_ok, orThrow_ok, reduceCtorEq, false_and, exists_false]
  | some a =>
    rw [run_bind_of_ok (orThrow_ok.mpr ⟨a, rfl, rfl⟩)]
    simp only [Option.some.injEq, exists_eq_left']

end Leading

section Equations

variable {s s₁ : σ}

/-- A body that reads first runs on with the store it is in. -/
theorem get_bind_run {f : σ → Transaction σ ε β} : (get >>= f).run s = (f s).run s :=
  run_bind_of_ok (get_ok.mpr rfl)

/-- A body that writes first runs on in the store written. -/
theorem set_bind_run {f : PUnit → Transaction σ ε β} :
    ((set s₁ : Transaction σ ε PUnit) >>= f).run s = (f ⟨⟩).run s₁ :=
  run_bind_of_ok (set_ok.mpr rfl)

/-- A guarded body fails or runs on. -/
theorem throwWhen_bind_run {c : Prop} [Decidable c] {e : ε} {f : Unit → Transaction σ ε β} :
    (throwWhen c e >>= f).run s = if c then .error e else (f ()).run s := by
  by_cases hc : c
  · rw [if_pos hc, throwWhen, if_pos hc]
    rfl
  · rw [if_neg hc, throwWhen, if_neg hc]
    rfl

/-- A body that requires a value fails or runs on with it. -/
theorem orThrow_bind_run {o : Option α} {e : ε} {f : α → Transaction σ ε β} :
    (orThrow e o >>= f).run s =
      match o with
      | none => .error e
      | some a => (f a).run s := by
  cases o with
  | none => rfl
  | some a => rfl

end Equations

/-- A body that only reads: whatever it returns, it leaves the store alone. -/
def ReadOnly (tx : Transaction σ ε α) : Prop :=
  ∀ s r, tx.run s = .ok r → r.2 = s

section ReadOnly

variable {x : Transaction σ ε α} {f : α → Transaction σ ε β} {s : σ} {r : β × σ}

/-- A body that reads first goes on in the store it started from. -/
theorem ReadOnly.bind_ok (hx : ReadOnly x) (h : (x >>= f).run s = .ok r) : ∃ a, (f a).run s = .ok r := by
  obtain ⟨a, s₁, h₁, h₂⟩ := Store.bind_ok.mp h
  obtain rfl : s₁ = s := hx s (a, s₁) h₁
  exact ⟨a, h₂⟩

/-- Reading in sequence is reading. -/
theorem ReadOnly.bind (hx : ReadOnly x) (hf : ∀ a, ReadOnly (f a)) : ReadOnly (x >>= f) := by
  intro s r h
  obtain ⟨a, ha⟩ := hx.bind_ok h
  exact hf a s r ha

/-- Returning a value only reads. -/
theorem ReadOnly.pure (a : α) : ReadOnly (Pure.pure a : Transaction σ ε α) := by
  intro s r h
  rw [pure_ok.mp h]

/-- Reading the store only reads. -/
theorem ReadOnly.get : ReadOnly (MonadState.get : Transaction σ ε σ) := by
  intro s r h
  rw [get_ok.mp h]

/-- A guard only reads. -/
theorem ReadOnly.throwWhen {c : Prop} [Decidable c] {e : ε} :
    ReadOnly (Store.throwWhen c e : Transaction σ ε Unit) := by
  intro s r h
  rw [(throwWhen_ok.mp h).2]

/-- Requiring a value only reads. -/
theorem ReadOnly.orThrow {o : Option α} {e : ε} : ReadOnly (Store.orThrow e o : Transaction σ ε α) := by
  intro s r h
  obtain ⟨a, -, rfl⟩ := orThrow_ok.mp h
  rfl

/-- An optional body only reads when the body does. -/
theorem ReadOnly.doWhen {c : Prop} [Decidable c] {tx : Transaction σ ε Unit} (htx : ReadOnly tx) :
    ReadOnly (Store.doWhen c tx) := by
  intro s r h
  rcases doWhen_ok.mp h with ⟨-, h⟩ | ⟨-, rfl⟩
  · exact htx s r h
  · rfl

/-- A body on an optional value only reads when the body does. -/
theorem ReadOnly.whenSome {o : Option α} {g : α → Transaction σ ε Unit} (hg : ∀ a, ReadOnly (g a)) :
    ReadOnly (Store.whenSome o g) := by
  cases o with
  | none => exact ReadOnly.pure ()
  | some a => exact hg a

end ReadOnly

/-- A successful transaction commits the store it ended in. -/
theorem commit_of_ok {tx : Transaction σ ε α} {s s' : σ} {a : α} (h : tx.run s = .ok (a, s')) :
    commit tx s = s' := by
  rw [commit, h]

/-- A failed transaction is rolled back. -/
theorem commit_of_error {tx : Transaction σ ε α} {s : σ} {e : ε} (h : tx.run s = .error e) :
    commit tx s = s := by
  rw [commit, h]

/-- A property that a transaction establishes whenever it succeeds, and the store had, holds of what is
committed. -/
theorem commit_induction {P : σ → Prop} {tx : Transaction σ ε α} {s : σ} (hs : P s)
    (hok : ∀ a s', tx.run s = .ok (a, s') → P s') : P (commit tx s) := by
  cases h : tx.run s with
  | error e =>
    rw [commit_of_error h]
    exact hs
  | ok r =>
    rw [commit_of_ok h]
    exact hok r.1 r.2 h

end Store
