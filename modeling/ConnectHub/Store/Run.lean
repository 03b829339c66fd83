import Mathlib.Data.List.Basic
import Mathlib.Order.Basic

/-!
# Runs of a labelled transition system

A run records the label of every step. The rules here turn facts about one step into facts
about a run: invariants, steps restricted by a condition, labels that occur at most once, labels
that never occur again, quantities that only grow, and views guarded by a version counter.
-/

namespace Store

variable {σ ε : Type}

/-- The states joined by a sequence of labelled steps. -/
inductive Run (step : σ → ε → σ → Prop) : σ → List ε → σ → Prop
  | nil (s : σ) : Run step s [] s
  | cons {s t u : σ} {e : ε} {es : List ε} : step s e t → Run step t es u → Run step s (e :: es) u

namespace Run

variable {step : σ → ε → σ → Prop} {s t u : σ} {e : ε} {es fs : List ε}

/-- A single step is a run. -/
theorem single (h : step s e t) : Run step s [e] t := cons h (nil t)

/-- Runs compose. -/
theorem append (h₁ : Run step s es t) (h₂ : Run step t fs u) : Run step s (es ++ fs) u := by
  induction h₁ with
  | nil => exact h₂
  | cons hstep _ ih => exact cons hstep (ih h₂)

/-- A run over a concatenation passes through a state between its two parts. -/
theorem split (h : Run step s (es ++ fs) u) : ∃ t, Run step s es t ∧ Run step t fs u := by
  induction es generalizing s with
  | nil => exact ⟨s, nil s, h⟩
  | cons e es ih =>
    cases h with
    | cons hstep hrest =>
      obtain ⟨t, h₁, h₂⟩ := ih hrest
      exact ⟨t, cons hstep h₁, h₂⟩

/-- Every label of a run belongs to one of its steps. -/
theorem exists_step (h : Run step s (es ++ e :: fs) u) :
    ∃ t t', Run step s es t ∧ step t e t' ∧ Run step t' fs u := by
  obtain ⟨t, h₁, h₂⟩ := h.split
  cases h₂ with
  | cons hstep hrest => exact ⟨t, _, h₁, hstep, hrest⟩

/-- A run whose labels all satisfy a condition is a run of the steps that satisfy it. -/
theorem restrict {P : ε → Prop} (h : Run step s es t) (hP : ∀ e ∈ es, P e) :
    Run (fun s e t => step s e t ∧ P e) s es t := by
  induction h with
  | nil s => exact nil s
  | cons h₁ _ ih =>
    exact cons ⟨h₁, hP _ List.mem_cons_self⟩ (ih fun e he => hP e (List.mem_cons_of_mem _ he))

/-- A property that every step keeps holds at the end of a run that started with it. -/
theorem invariant {I : σ → Prop} (hstep : ∀ s e t, I s → step s e t → I t)
    (h : Run step s es t) (hs : I s) : I t := by
  induction h with
  | nil => exact hs
  | cons h₁ _ ih => exact ih (hstep _ _ _ hs h₁)

/-- A run that starts with an invariant takes all its steps under it. -/
theorem under {I : σ → Prop} (hstep : ∀ s e t, I s → step s e t → I t) (h : Run step s es t) (hs : I s) :
    Run (fun s e t => I s ∧ step s e t) s es t := by
  induction h with
  | nil s => exact nil s
  | cons h₁ _ ih => exact cons ⟨hs, h₁⟩ (ih (hstep _ _ _ hs h₁))

/-- A relation that every step implies relates the two ends of a run. -/
theorem relates {R : σ → σ → Prop} (hrefl : ∀ s, R s s) (htrans : ∀ s t u, R s t → R t u → R s u)
    (hstep : ∀ s e t, step s e t → R s t) (h : Run step s es t) : R s t := by
  induction h with
  | nil s => exact hrefl s
  | cons h₁ _ ih => exact htrans _ _ _ (hstep _ _ _ h₁) ih

/-- A run of some steps is a run of any steps that include them. -/
theorem mono {step' : σ → ε → σ → Prop} (hstep : ∀ s e t, step s e t → step' s e t)
    (h : Run step s es t) : Run step' s es t := by
  induction h with
  | nil s => exact nil s
  | cons h₁ _ ih => exact cons (hstep _ _ _ h₁) ih

/-- What a step leaves, and every step keeps, holds at the end of a run that takes the step. -/
theorem holds_of_mem {E : ε → Bool} {Q : σ → Prop} (hleaves : ∀ s e t, E e = true → step s e t → Q t)
    (hlasts : ∀ s e t, Q s → step s e t → Q t) (h : Run step s es t) (hmem : e ∈ es) (he : E e = true) :
    Q t := by
  induction h with
  | nil => exact absurd hmem List.not_mem_nil
  | cons h₁ hrest ih =>
    rcases List.mem_cons.mp hmem with rfl | hmem
    · exact hrest.invariant hlasts (hleaves _ _ _ he h₁)
    · exact ih hmem

/-- A step that needs `P` is not taken any more once a lasting `Q` excludes `P`. -/
theorem never_of_excluded {E : ε → Bool} {P Q : σ → Prop}
    (hneeds : ∀ s e t, E e = true → step s e t → P s) (hlasts : ∀ s e t, Q s → step s e t → Q t)
    (hexcl : ∀ s, Q s → ¬P s) (h : Run step s es t) (hs : Q s) : es.countP E = 0 := by
  induction h with
  | nil => rfl
  | @cons s _ _ e _ h₁ _ ih =>
    have hE : ¬E e = true := fun he => hexcl s hs (hneeds _ _ _ he h₁)
    rw [List.countP_cons_of_neg hE]
    exact ih (hlasts _ _ _ hs h₁)

/-- A step that needs `P` and leaves a lasting `Q` excluding `P` is taken at most once. -/
theorem atMostOnce {E : ε → Bool} {P Q : σ → Prop}
    (hneeds : ∀ s e t, E e = true → step s e t → P s) (hleaves : ∀ s e t, E e = true → step s e t → Q t)
    (hlasts : ∀ s e t, Q s → step s e t → Q t) (hexcl : ∀ s, Q s → ¬P s)
    (h : Run step s es t) : es.countP E ≤ 1 := by
  induction h with
  | nil => exact Nat.zero_le _
  | @cons _ _ _ e _ h₁ hrest ih =>
    by_cases he : E e = true
    · have hnone := never_of_excluded hneeds hlasts hexcl hrest (hleaves _ _ _ he h₁)
      rw [List.countP_cons_of_pos he]
      omega
    · rw [List.countP_cons_of_neg he]
      exact ih

/-- A quantity that no step lowers is at least as large at the end. -/
theorem monotone {α : Type} [Preorder α] {f : σ → α} (hstep : ∀ s e t, step s e t → f s ≤ f t)
    (h : Run step s es t) : f s ≤ f t :=
  h.relates (R := fun s t => f s ≤ f t) (fun s => le_refl (f s)) (fun _ _ _ => le_trans) hstep

/-- A quantity that grows by one exactly at the labels of a kind counts them. -/
theorem count_eq {f : σ → Nat} {E : ε → Bool} (hstep : ∀ s e t, step s e t → f t = f s + (E e).toNat)
    (h : Run step s es t) : f t = f s + es.countP E := by
  induction h with
  | nil => rfl
  | @cons s t u e es h₁ _ ih =>
    have hfirst := hstep s e t h₁
    rw [List.countP_cons]
    cases he : E e <;> simp only [he, Bool.toNat_true, Bool.toNat_false, Bool.false_eq_true, if_true,
      if_false] at * <;>
      omega

/-- A property of a state and of the number of labels of a kind so far, which every step keeps as it counts
its own label, holds at the end of a run for all labels of that kind. -/
theorem accumulates {I : σ → Nat → Prop} {E : ε → Bool}
    (hstep : ∀ s e t n, I s n → step s e t → I t (n + (E e).toNat))
    {n : Nat} (h : Run step s es t) (hs : I s n) : I t (n + es.countP E) := by
  induction h generalizing n with
  | nil => exact hs
  | @cons s t u e es h₁ _ ih =>
    have hrest := ih (hstep _ _ _ _ hs h₁)
    have hsum : n + (E e).toNat + es.countP E = n + (e :: es).countP E := by
      rw [List.countP_cons]
      cases E e <;> simp only [Bool.toNat_true, Bool.toNat_false, Bool.false_eq_true, if_true, if_false] <;>
        omega
    rw [← hsum]
    exact hrest

/-- A view that may change only when its version counter grows is the same at two states of a
run with the same version. -/
theorem view_eq_of_version_eq {α β : Type} [PartialOrder α] (version : σ → α) (view : σ → β)
    (hstep : ∀ s e t, step s e t → (version t = version s ∧ view t = view s) ∨ version s < version t)
    (h : Run step s es t) (hv : version t = version s) : view t = view s := by
  induction h with
  | nil => rfl
  | @cons s t u _ _ h₁ hrest ih =>
    have hmono : version t ≤ version u := hrest.monotone fun s e t hst =>
      (hstep s e t hst).elim (fun hsame => hsame.1.ge) le_of_lt
    rcases hstep _ _ _ h₁ with ⟨hver, hview⟩ | hgrow
    · rw [ih (hv.trans hver.symm), hview]
    · exact absurd (hgrow.trans_le hmono) (hv ▸ lt_irrefl _)

/-- Numbers drawn strictly above a counter that never falls are drawn in increasing order. -/
theorem pairwise_lt_of_counter {α : Type} [Preorder α] (counter : σ → α) {drawn : ε → Option α}
    (hmono : ∀ s e t, step s e t → counter s ≤ counter t)
    (hdraw : ∀ s e t n, step s e t → drawn e = some n → counter s < n ∧ n ≤ counter t)
    (h : Run step s es t) :
    (es.filterMap drawn).Pairwise (· < ·) ∧ ∀ n ∈ es.filterMap drawn, counter s < n := by
  induction h with
  | nil => simp
  | @cons s t _ e es h₁ _ ih =>
    obtain ⟨hpair, habove⟩ := ih
    have hst := hmono _ _ _ h₁
    cases hd : drawn e with
    | none =>
      rw [List.filterMap_cons_none hd]
      exact ⟨hpair, fun n hn => lt_of_le_of_lt hst (habove n hn)⟩
    | some n =>
      obtain ⟨hlt, hle⟩ := hdraw _ _ _ n h₁ hd
      rw [List.filterMap_cons_some hd, List.pairwise_cons]
      refine ⟨⟨fun m hm => lt_of_le_of_lt hle (habove m hm), hpair⟩, fun m hm => ?_⟩
      rcases List.mem_cons.mp hm with rfl | hm
      · exact hlt
      · exact lt_of_le_of_lt hst (habove m hm)

end Run

end Store
