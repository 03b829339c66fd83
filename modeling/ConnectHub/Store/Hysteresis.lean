import Mathlib.Data.List.Basic
import Mathlib.Data.List.Infix

/-!
# Levels with hysteresis

A level falls when a number of failures came in a row, and rises with one success. Once a success was seen, the level
tells whether fewer failures than the threshold came after the last one; and a level that fell did so after that many
failures in a row.
-/

namespace Store

/-- A level, and how many failures came since the last success. -/
structure Level where
  failures : ℕ
  up : Bool
deriving DecidableEq, Repr

/-- The level after one more outcome. -/
def Level.after (threshold : ℕ) (level : Level) : Bool → Level
  | true => ⟨0, true⟩
  | false => ⟨level.failures + 1, level.up && decide (level.failures + 1 < threshold)⟩

/-- The level after several outcomes. -/
def Level.run (threshold : ℕ) (level : Level) (outcomes : List Bool) : Level :=
  outcomes.foldl (Level.after threshold) level

/-- How many failures the outcomes end with. -/
def trailing (outcomes : List Bool) : ℕ := outcomes.foldl (fun count success => if success then 0 else count + 1) 0

variable {threshold : ℕ} {level : Level} {outcomes : List Bool}

/-- One more outcome. -/
theorem Level.run_snoc (outcome : Bool) :
    level.run threshold (outcomes ++ [outcome]) = (level.run threshold outcomes).after threshold outcome := by
  rw [Level.run, List.foldl_append]
  rfl

/-- One more outcome at the end. -/
theorem trailing_snoc (outcome : Bool) :
    trailing (outcomes ++ [outcome]) = if outcome then 0 else trailing outcomes + 1 := by
  rw [trailing, List.foldl_append]
  rfl

/-- Once there was a success, the level counts the failures after the last one, and tells whether they are fewer than
the threshold. -/
theorem Level.run_of_success (hsuccess : true ∈ outcomes) (hpositive : 0 < threshold) :
    level.run threshold outcomes = ⟨trailing outcomes, decide (trailing outcomes < threshold)⟩ := by
  induction outcomes using List.reverseRecOn with
  | nil => exact absurd hsuccess List.not_mem_nil
  | append_singleton outcomes outcome ih =>
    rw [run_snoc, trailing_snoc]
    cases outcome with
    | true => simp [Level.after, hpositive]
    | false =>
      have hearlier : true ∈ outcomes := by simpa using hsuccess
      rw [ih hearlier]
      have hfewer : trailing outcomes + 1 < threshold → trailing outcomes < threshold := Nat.lt_of_succ_lt
      simp only [Level.after, Bool.false_eq_true, if_false, Level.mk.injEq, true_and, Bool.and_eq_decide,
        decide_eq_true_eq, decide_eq_decide, and_iff_right_iff_imp]
      exact hfewer

/-- Outcomes end with as many failures as are counted at their end. -/
theorem replicate_trailing_suffix (outcomes : List Bool) : List.replicate (trailing outcomes) false <:+ outcomes := by
  induction outcomes using List.reverseRecOn with
  | nil => exact List.nil_suffix
  | append_singleton outcomes outcome ih =>
    rw [trailing_snoc]
    cases outcome with
    | true => exact List.nil_suffix
    | false =>
      obtain ⟨before, hbefore⟩ := ih
      refine ⟨before, ?_⟩
      simp only [Bool.false_eq_true, if_false, List.replicate_succ']
      rw [← List.append_assoc, hbefore]

/-- Where enough failures are counted at the end, as many came in a row. -/
theorem replicate_infix_of_le_trailing (h : threshold ≤ trailing outcomes) :
    List.replicate threshold false <:+: outcomes := by
  have hshorter : List.replicate threshold false <:+ List.replicate (trailing outcomes) false :=
    ⟨List.replicate (trailing outcomes - threshold) false, by
      rw [List.replicate_append_replicate, Nat.sub_add_cancel h]⟩
  exact (hshorter.trans (replicate_trailing_suffix outcomes)).isInfix

end Store
