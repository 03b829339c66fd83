import Mathlib.Data.List.Basic
import Mathlib.Tactic.Linarith

/-!
# Numbers handed out in windows

A counter hands out one number after the other and starts again at one, but only when more than a span of time
has gone by since it last did. What it hands out up to a limit is then bounded over any stretch of time: every
start begins a window, a window holds each number once, and a stretch holds few starts.
-/

namespace Store

/-- The instants and numbers that a counter handed out, oldest first. -/
inductive Handed (span : ℕ) : List (ℕ × ℕ) → Prop
  | none : Handed span []
  | first {given now} (h : Handed span given) (hlater : ∀ a ∈ given, a.1 ≤ now)
      (hstarts : ∀ a ∈ given, a.2 = 1 → a.1 + span < now) : Handed span (given ++ [(now, 1)])
  | next {given before number now} (h : Handed span (given ++ [(before, number)]))
      (hlater : ∀ a ∈ given ++ [(before, number)], a.1 ≤ now) :
      Handed span ((given ++ [(before, number)]) ++ [(now, number + 1)])

/-- Whether a number was handed out within a stretch of time, and is within the limit. -/
def inStretch (limit start length : ℕ) (a : ℕ × ℕ) : Bool := start ≤ a.1 && a.1 ≤ start + length && a.2 ≤ limit

/-- Whether a window was started within a stretch of time. -/
def startsIn (start length : ℕ) (a : ℕ × ℕ) : Bool := start ≤ a.1 && a.1 ≤ start + length && a.2 = 1

variable {span : ℕ} {given : List (ℕ × ℕ)}

/-- One more number, counted. -/
theorem countP_snoc {α : Type} (p : α → Bool) (given : List α) (a : α) :
    (given ++ [a]).countP p = given.countP p + (p a).toNat := by
  rw [List.countP_append, List.countP_singleton]
  cases p a <;> rfl

/-- A number that was handed out is not zero. -/
theorem Handed.positive (h : Handed span given) : ∀ a ∈ given, 1 ≤ a.2 := by
  induction h with
  | none => exact fun a ha => absurd ha List.not_mem_nil
  | first h hlater hstarts ih =>
    intro a ha
    rcases List.mem_append.mp ha with hold | hnew
    · exact ih a hold
    · rw [List.mem_singleton.mp hnew]
  | next h hlater ih =>
    intro a ha
    rcases List.mem_append.mp ha with hold | hnew
    · exact ih a hold
    · rw [List.mem_singleton.mp hnew]
      exact Nat.succ_pos _

/-- Before a stretch nothing is handed out in it. -/
theorem countP_before {now start limit length : ℕ} (hlater : ∀ a ∈ given, a.1 ≤ now) (hbefore : now < start) :
    given.countP (inStretch limit start length) = 0 := by
  refine List.countP_eq_zero.mpr fun a ha => ?_
  have hle := hlater a ha
  simp only [inStretch, Bool.and_eq_true, decide_eq_true_eq]
  omega

/-- Within a stretch, a window is counted by its start, and the last one by the last number. -/
theorem Handed.counted (h : Handed span given) (limit start length : ℕ) :
    given.countP (inStretch limit start length) ≤ (given.countP (startsIn start length) + 1) * limit ∧
      ∀ a, given.getLast? = some a → a.1 ≤ start + length →
        given.countP (inStretch limit start length) ≤
          given.countP (startsIn start length) * limit + min a.2 limit := by
  induction h with
  | none => exact ⟨Nat.zero_le _, fun a ha => by cases ha⟩
  | @first given now h hlater hstarts ih =>
    obtain ⟨hall, -⟩ := ih
    have hwithin : now ≤ start + length →
        (given ++ [(now, 1)]).countP (inStretch limit start length) ≤
          (given ++ [(now, 1)]).countP (startsIn start length) * limit + min 1 limit := by
      intro hend
      rw [countP_snoc, countP_snoc]
      by_cases hbefore : now < start
      · have hnone : inStretch limit start length (now, 1) = false := by
          simp only [inStretch, Bool.and_eq_false_iff, decide_eq_false_iff_not]
          omega
        rw [countP_before hlater hbefore, hnone]
        exact Nat.zero_le _
      · have hstart : startsIn start length (now, 1) = true := by
          simp only [startsIn, Bool.and_eq_true, decide_eq_true_eq]
          exact ⟨⟨Nat.le_of_not_lt hbefore, hend⟩, trivial⟩
        have hcount : (inStretch limit start length (now, 1)).toNat ≤ min 1 limit := by
          by_cases hlimit : 1 ≤ limit
          · exact (Bool.toNat_le _).trans (le_min le_rfl hlimit)
          · have hnone : inStretch limit start length (now, 1) = false := by
              simp only [inStretch, Bool.and_eq_false_iff, decide_eq_false_iff_not]
              omega
            rw [hnone]
            exact Nat.zero_le _
        rw [hstart]
        exact Nat.add_le_add hall hcount
    refine ⟨?_, fun a ha hend => ?_⟩
    · by_cases hend : now ≤ start + length
      · have hle : min 1 limit ≤ limit := min_le_right _ _
        have hcount := hwithin hend
        rw [Nat.add_mul, Nat.one_mul]
        omega
      · have hnone : inStretch limit start length (now, 1) = false := by
          simp only [inStretch, Bool.and_eq_false_iff, decide_eq_false_iff_not]
          omega
        have hmore : (given.countP (startsIn start length) + 1) * limit ≤
            ((given ++ [(now, 1)]).countP (startsIn start length) + 1) * limit := by
          rw [countP_snoc]
          exact Nat.mul_le_mul_right _ (by omega)
        rw [countP_snoc, hnone]
        exact hall.trans hmore
    · rw [List.getLast?_concat, Option.some.injEq] at ha
      rw [← ha] at hend ⊢
      exact hwithin hend
  | @next given before number now h hlater ih =>
    obtain ⟨hall, hlast⟩ := ih
    have hmore : (given ++ [(before, number)]).countP (startsIn start length) * limit ≤
        ((given ++ [(before, number)]) ++ [(now, number + 1)]).countP (startsIn start length) * limit := by
      rw [countP_snoc _ (given ++ [(before, number)])]
      exact Nat.mul_le_mul_right _ (Nat.le_add_right _ _)
    have hwithin : now ≤ start + length →
        ((given ++ [(before, number)]) ++ [(now, number + 1)]).countP (inStretch limit start length) ≤
          ((given ++ [(before, number)]) ++ [(now, number + 1)]).countP (startsIn start length) * limit +
            min (number + 1) limit := by
      intro hend
      have hbefore : before ≤ now := hlater (before, number) (List.mem_append_right _ List.mem_cons_self)
      have hcount := hlast (before, number) List.getLast?_concat (hbefore.trans hend)
      have hone : min number limit + (inStretch limit start length (now, number + 1)).toNat ≤
          min (number + 1) limit := by
        by_cases hlimit : number + 1 ≤ limit
        · rw [min_eq_left hlimit, min_eq_left (by omega)]
          exact Nat.add_le_add_left (Bool.toNat_le _) _
        · have hnone : inStretch limit start length (now, number + 1) = false := by
            simp only [inStretch, Bool.and_eq_false_iff, decide_eq_false_iff_not]
            omega
          rw [hnone]
          exact min_le_min_right _ (Nat.le_succ _)
      rw [countP_snoc (inStretch limit start length)]
      simp only at hcount
      omega
    refine ⟨?_, fun a ha hend => ?_⟩
    · by_cases hend : now ≤ start + length
      · have hle : min (number + 1) limit ≤ limit := min_le_right _ _
        have hcount := hwithin hend
        rw [Nat.add_mul, Nat.one_mul]
        omega
      · have hnone : inStretch limit start length (now, number + 1) = false := by
          simp only [inStretch, Bool.and_eq_false_iff, decide_eq_false_iff_not]
          omega
        rw [countP_snoc (inStretch limit start length), hnone, Nat.add_mul, Nat.one_mul]
        rw [Nat.add_mul, Nat.one_mul] at hall
        exact hall.trans (Nat.add_le_add_right hmore _)
    · rw [List.getLast?_concat, Option.some.injEq] at ha
      rw [← ha] at hend ⊢
      exact hwithin hend

/-- The starts of a stretch are apart from each other. -/
theorem Handed.starts (h : Handed span given) (start length : ℕ) :
    given.countP (startsIn start length) = 0 ∨ ∃ a ∈ given, a.2 = 1 ∧ a.1 ≤ start + length ∧
      start + (given.countP (startsIn start length) - 1) * (span + 1) ≤ a.1 := by
  induction h with
  | none => exact .inl rfl
  | @first given now h hlater hstarts ih =>
    by_cases hin : start ≤ now ∧ now ≤ start + length
    · have hstart : startsIn start length (now, 1) = true := by
        simp only [startsIn, Bool.and_eq_true, decide_eq_true_eq]
        exact ⟨hin, trivial⟩
      rw [countP_snoc, hstart]
      refine .inr ⟨(now, 1), List.mem_append_right _ List.mem_cons_self, rfl, hin.2, ?_⟩
      rcases ih with hnone | ⟨a, ha, hone, -, hspaced⟩
      · rw [hnone]
        simpa using hin.1
      · have hgap := hstarts a ha hone
        simp only [Bool.toNat_true, Nat.add_sub_cancel]
        cases hcount : given.countP (startsIn start length) with
        | zero => omega
        | succ n =>
          rw [hcount, Nat.add_sub_cancel] at hspaced
          rw [Nat.add_mul, Nat.one_mul]
          omega
    · have hnot : startsIn start length (now, 1) = false := by
        simp only [startsIn, Bool.and_eq_false_iff, decide_eq_false_iff_not]
        omega
      rw [countP_snoc, hnot, Bool.toNat_false, Nat.add_zero]
      exact ih.imp_right fun ⟨a, ha, hrest⟩ => ⟨a, List.mem_append_left _ ha, hrest⟩
  | @next given before number now h hlater ih =>
    have hpositive := h.positive (before, number) (List.mem_append_right _ List.mem_cons_self)
    have hnot : startsIn start length (now, number + 1) = false := by
      simp only [startsIn, Bool.and_eq_false_iff, decide_eq_false_iff_not]
      omega
    rw [countP_snoc _ (given ++ [(before, number)]), hnot, Bool.toNat_false, Nat.add_zero]
    exact ih.imp_right fun ⟨a, ha, hrest⟩ => ⟨a, List.mem_append_left _ ha, hrest⟩

/-- Over any stretch of time no more is handed out, up to a limit, than the limit for each span, and for two more. -/
theorem Handed.bounded (h : Handed span given) (limit start length : ℕ) :
    given.countP (inStretch limit start length) ≤ (length / (span + 1) + 2) * limit := by
  have hstarts : given.countP (startsIn start length) ≤ length / (span + 1) + 1 := by
    rcases h.starts start length with hnone | ⟨a, -, -, hend, hspaced⟩
    · rw [hnone]
      exact Nat.zero_le _
    · have hle : (given.countP (startsIn start length) - 1) * (span + 1) ≤ length := by omega
      have hdiv := (Nat.le_div_iff_mul_le (show 0 < span + 1 from Nat.succ_pos span)).mpr hle
      omega
  exact (h.counted limit start length).1.trans (Nat.mul_le_mul_right _ (by omega))

end Store
