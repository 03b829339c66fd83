import Mathlib.Algebra.Order.Floor.Ring
import Mathlib.Data.Int.Log
import Mathlib.Data.List.TakeWhile
import Mathlib.Data.Rat.Floor
import Mathlib.Tactic.Linarith
import Mathlib.Tactic.NormNum

/-!
# Decimal numerals as doubles

The number that a decimal numeral stands for, and the double that it is read as: the nearest one, and the even one
of two that are equally near. Numbers beyond the range of doubles are left as they are, since no whole number among
them is safe. A safe whole number in decimal notation is read as itself.
-/

namespace Store

section Numerals

/-- The number that the digits of an exponent stand for, with their sign. -/
def exponentValue : List Char → ℤ
  | '-' :: digits => -(Nat.ofDigitChars 10 digits 0 : ℤ)
  | '+' :: digits => (Nat.ofDigitChars 10 digits 0 : ℤ)
  | digits => (Nat.ofDigitChars 10 digits 0 : ℤ)

/-- The number that a numeral without a sign stands for. -/
def magnitude (numeral : List Char) : ℚ :=
  let mantissa := numeral.takeWhile fun c => c != 'e' && c != 'E'
  let whole := mantissa.takeWhile (· != '.')
  let fraction := (mantissa.drop whole.length).drop 1
  Nat.ofDigitChars 10 (whole ++ fraction) 0 *
    (10 : ℚ) ^ (exponentValue ((numeral.drop mantissa.length).drop 1) - fraction.length)

/-- The number that a numeral stands for. -/
def numeralValue : List Char → ℚ
  | '-' :: numeral => -magnitude numeral
  | numeral => magnitude numeral

/-- A text without points and exponents stands for the number of its digits. -/
theorem magnitude_digits {digits : List Char} (h : ∀ c ∈ digits, c.isDigit = true) :
    magnitude digits = Nat.ofDigitChars 10 digits 0 := by
  have hmantissa : (digits.takeWhile fun c => c != 'e' && c != 'E') = digits := by
    refine List.takeWhile_eq_self_iff.mpr fun c hc => ?_
    have hdigit := h c hc
    rw [Bool.and_eq_true, bne_iff_ne, bne_iff_ne]
    constructor <;> rintro rfl <;> cases hdigit
  have hwhole : digits.takeWhile (· != '.') = digits := by
    refine List.takeWhile_eq_self_iff.mpr fun c hc => ?_
    have hdigit := h c hc
    rw [bne_iff_ne]
    rintro rfl
    cases hdigit
  unfold magnitude
  simp only [hmantissa, hwhole, List.drop_length, List.drop_nil, List.append_nil, List.length_nil]
  rw [exponentValue, Nat.ofDigitChars_nil]
  · norm_num
  all_goals nofun

/-- The decimal notation of a number stands for it. -/
theorem numeralValue_repr (n : ℕ) : numeralValue (Nat.repr n).toList = n := by
  have hdigits : ∀ c ∈ (Nat.repr n).toList, c.isDigit = true := fun c hc =>
    Nat.isDigit_of_mem_toDigits (by decide) (by decide) (Nat.toList_repr ▸ hc)
  rw [numeralValue, magnitude_digits hdigits, Nat.toList_repr, Nat.ofDigitChars_toDigits (by decide) (by decide)]
  rintro digits hminus
  have hdigit := hdigits '-' (hminus ▸ List.mem_cons_self)
  cases hdigit

end Numerals

section Doubles

/-- The nearest whole number, and the even one of two. -/
def roundEven (q : ℚ) : ℤ :=
  if q - q.floor < 1 / 2 then q.floor
  else if 1 / 2 < q - q.floor then q.floor + 1
  else if q.floor % 2 = 0 then q.floor else q.floor + 1

/-- How far apart the doubles are around a number. -/
def doubleStep (q : ℚ) : ℚ := 2 ^ max (Int.log 2 |q| - 52) (-1074)

/-- The double that is nearest to a number. -/
def toDouble (q : ℚ) : ℚ := roundEven (q / doubleStep q) * doubleStep q

/-- The largest whole number below which all are doubles, and none is read as another. -/
def maxSafeInteger : ℕ := 9007199254740991

/-- A whole number is nearest to itself. -/
theorem roundEven_intCast (n : ℤ) : roundEven n = n := by
  unfold roundEven
  rw [Rat.floor_intCast, sub_self, if_pos (by norm_num)]

/-- A safe whole number is a double. -/
theorem toDouble_natCast {n : ℕ} (h : n ≤ maxSafeInteger) : toDouble n = n := by
  have hlog : Int.log 2 |(n : ℚ)| ≤ 52 := by
    rw [abs_of_nonneg (Nat.cast_nonneg n), Int.log_natCast]
    exact_mod_cast Nat.lt_succ_iff.mp (Nat.log_lt_of_lt_pow' (by decide) (lt_of_le_of_lt h (by decide)))
  have hnonneg : 0 ≤ Int.log 2 |(n : ℚ)| := by
    rw [abs_of_nonneg (Nat.cast_nonneg n), Int.log_natCast]
    exact Int.natCast_nonneg _
  obtain ⟨k, hk⟩ : ∃ k : ℕ, max (Int.log 2 |(n : ℚ)| - 52) (-1074) = -(k : ℤ) :=
    ⟨(52 - Int.log 2 |(n : ℚ)|).toNat, by omega⟩
  have hstep : doubleStep n = ((2 : ℚ) ^ k)⁻¹ := by
    rw [doubleStep, hk, zpow_neg, zpow_natCast]
  have hwhole : (n : ℚ) / doubleStep n = ((n * 2 ^ k : ℕ) : ℤ) := by
    rw [hstep, div_inv_eq_mul]
    push_cast
    rfl
  rw [toDouble, hwhole, roundEven_intCast, ← hwhole, div_mul_cancel₀]
  rw [hstep]
  exact inv_ne_zero (pow_ne_zero k two_ne_zero)

end Doubles

end Store
