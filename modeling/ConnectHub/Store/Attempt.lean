import Mathlib.Logic.Basic

/-!
# Attempts whose effects survive their failure

A body that talks to several systems is not a transaction: what it did before it failed stays done. An
attempt is such a body, and `after` is the state it leaves either way.
-/

namespace Store

/-- A body that runs against a state and either returns a value or fails, keeping what it did. -/
abbrev Attempt (σ ε α : Type) := EStateM ε σ α

variable {σ ε α β : Type}

/-- The state an attempt leaves, whether or not it failed. -/
def Attempt.after (x : Attempt σ ε α) (s : σ) : σ :=
  match x.run s with
  | .ok _ s' => s'
  | .error _ s' => s'

/-- The state left by an attempt that succeeded. -/
theorem Attempt.after_of_ok {x : Attempt σ ε α} {s s' : σ} {a : α} (h : x.run s = .ok a s') :
    x.after s = s' := by
  unfold Attempt.after
  rw [h]

/-- The state left by one that failed. -/
theorem Attempt.after_of_error {x : Attempt σ ε α} {s s' : σ} {e : ε} (h : x.run s = .error e s') :
    x.after s = s' := by
  unfold Attempt.after
  rw [h]

/-- After two steps stands what the second leaves, unless the first failed. -/
theorem Attempt.after_bind (x : Attempt σ ε α) (f : α → Attempt σ ε β) (s : σ) :
    Attempt.after (x >>= f) s =
      match x.run s with
      | .ok a s' => Attempt.after (f a) s'
      | .error _ s' => s' := by
  unfold Attempt.after
  rw [EStateM.run_bind]
  cases x.run s with
  | ok a s' => rfl
  | error e s' => rfl

/-- A sequence succeeded exactly when both of its halves did, one after the other. -/
theorem Attempt.bind_ok {x : Attempt σ ε α} {f : α → Attempt σ ε β} {s s' : σ} {b : β} :
    EStateM.run (x >>= f) s = .ok b s' ↔ ∃ a s₁, x.run s = .ok a s₁ ∧ (f a).run s₁ = .ok b s' := by
  rw [EStateM.run_bind]
  cases hrun : x.run s with
  | ok a s₁ =>
    constructor
    · intro h
      exact ⟨a, s₁, rfl, h⟩
    · intro h
      obtain ⟨a', s₁', hfirst, hsecond⟩ := h
      cases hfirst
      exact hsecond
  | error e s₁ =>
    constructor
    · intro h
      cases h
    · intro h
      obtain ⟨a', s₁', hfirst, -⟩ := h
      cases hfirst

/-- Returning a value succeeds with it. -/
theorem Attempt.pure_ok {a b : α} {s s' : σ} :
    EStateM.run (pure a : Attempt σ ε α) s = .ok b s' ↔ a = b ∧ s = s' := by
  rw [EStateM.run_pure, EStateM.Result.ok.injEq]

/-- Failing does not succeed. -/
theorem Attempt.throw_ok {e : ε} {b : α} {s s' : σ} :
    EStateM.run (throw e : Attempt σ ε α) s = .ok b s' ↔ False := by
  constructor
  · intro h
    cases h
  · exact False.elim

/-- A relation between the states before and after an attempt. -/
def Attempt.Guarantees (x : Attempt σ ε α) (G : σ → σ → Prop) : Prop :=
  ∀ s, G s (x.after s)

/-- A transitive relation that two steps guarantee is guaranteed by both together. -/
theorem Attempt.Guarantees.bind {x : Attempt σ ε α} {f : α → Attempt σ ε β} {G : σ → σ → Prop}
    (htrans : ∀ {s s' s''}, G s s' → G s' s'' → G s s'') (hx : x.Guarantees G)
    (hf : ∀ a, (f a).Guarantees G) : Attempt.Guarantees (x >>= f) G := by
  intro s
  have hfirst := hx s
  rw [Attempt.after_bind]
  cases hrun : x.run s with
  | ok a s' =>
    rw [Attempt.after_of_ok hrun] at hfirst
    exact htrans hfirst (hf a s')
  | error e s' =>
    rw [Attempt.after_of_error hrun] at hfirst
    exact hfirst

/-- Returning a value leaves the state alone. -/
theorem Attempt.Guarantees.pure {G : σ → σ → Prop} (hrefl : ∀ s, G s s) (a : α) :
    Attempt.Guarantees (Pure.pure a : Attempt σ ε α) G := hrefl

/-- Failing does too. -/
theorem Attempt.Guarantees.throw {G : σ → σ → Prop} (hrefl : ∀ s, G s s) (e : ε) :
    Attempt.Guarantees (MonadExcept.throw e : Attempt σ ε α) G := hrefl

/-- Reading the state first leaves what follows to be guaranteed from each state. -/
theorem Attempt.Guarantees.get_bind {f : σ → Attempt σ ε β} {G : σ → σ → Prop}
    (h : ∀ s, G s ((f s).after s)) : Attempt.Guarantees (get >>= f) G := h

end Store
