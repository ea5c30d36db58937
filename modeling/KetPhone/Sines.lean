/-
This file computes sines of whole numbers to many places. The number `exp i` is
taken from a few terms of its series, rounded to a fraction inside of the unit
circle; its powers are then exact, and they stray from those of `exp i` by no more
than the rounding times the exponent.
-/

import Mathlib.Analysis.Complex.Exponential
import Mathlib.Analysis.Complex.Trigonometric
import Mathlib.Analysis.Complex.Basic
import Mathlib.Tactic.LinearCombination
import Mathlib.Tactic.NormNum.BigOperators

namespace KetPhone

open Complex

/-- The denominator of the fraction. -/
def sineScale : Nat := 10 ^ 20

def nearCosine : Int := 54030230586813971740

def nearSine : Int := 84147098480789650665

/-- The real and the imaginary part of a power, but for the denominator. -/
def nearPower : Nat → Int × Int
  | 0 => (1, 0)
  | exponent + 1 =>
    let (real, imaginary) := nearPower exponent
    (real * nearCosine - imaginary * nearSine, real * nearSine + imaginary * nearCosine)

noncomputable def nearExp : ℂ := (nearCosine + nearSine * I) / sineScale

theorem nearExp_pow (exponent : Nat) :
    nearExp ^ exponent =
      ((nearPower exponent).1 + (nearPower exponent).2 * I) / (sineScale : ℂ) ^ exponent := by
  induction exponent with
  | zero => simp [nearPower]
  | succ exponent hypothesis =>
    rw [pow_succ, hypothesis, nearExp, div_mul_div_comm, ← pow_succ]
    congr 1
    simp only [nearPower]
    push_cast
    linear_combination (nearPower exponent).2 * nearSine * I_mul_I

theorem norm_nearExp_le : ‖nearExp‖ ≤ 1 := by
  rw [nearExp, norm_div, div_le_one (by simp [sineScale]), Complex.norm_natCast]
  have square : ‖(nearCosine + nearSine * I : ℂ)‖ ^ 2 ≤ (sineScale : ℝ) ^ 2 := by
    have parts : (nearCosine + nearSine * I : ℂ) = ⟨nearCosine, nearSine⟩ := by
      apply Complex.ext <;> simp
    rw [parts, ← Complex.normSq_eq_norm_sq, Complex.normSq_mk]
    norm_num [nearCosine, nearSine, sineScale]
  exact le_of_sq_le_sq square (by positivity)

theorem sum_exp_I (count : Nat) :
    ∑ term ∈ Finset.range (2 * count), I ^ term / (term.factorial : ℂ) =
      ((∑ term ∈ Finset.range count, (-1) ^ term / ((2 * term).factorial : ℝ) : ℝ) : ℂ) +
        ((∑ term ∈ Finset.range count, (-1) ^ term / ((2 * term + 1).factorial : ℝ) : ℝ) : ℂ) *
          I := by
  induction count with
  | zero => simp
  | succ count hypothesis =>
    rw [show 2 * (count + 1) = 2 * count + 1 + 1 by ring, Finset.sum_range_succ,
      Finset.sum_range_succ, hypothesis, Finset.sum_range_succ, Finset.sum_range_succ, pow_succ,
      pow_mul, I_sq]
    push_cast
    ring

theorem norm_exp_I_sub_le : ‖exp I - nearExp‖ ≤ 1 / 10 ^ 18 := by
  have series := Complex.exp_bound (x := I) (by simp) (n := 2 * 11) (by decide)
  rw [sum_exp_I, Complex.norm_I, one_pow, one_mul] at series
  generalize cosineSum : (∑ term ∈ Finset.range 11, (-1) ^ term / ((2 * term).factorial : ℝ) : ℝ) =
    cosine at series
  generalize sineSum :
    (∑ term ∈ Finset.range 11, (-1) ^ term / ((2 * term + 1).factorial : ℝ) : ℝ) = sine at series
  have rounded : ‖((cosine : ℂ) + sine * I) - nearExp‖ ≤ 2 / 10 ^ 19 := by
    have parts : ((cosine : ℂ) + sine * I) - nearExp =
        ((cosine - nearCosine / sineScale : ℝ) : ℂ) +
          ((sine - nearSine / sineScale : ℝ) : ℂ) * I := by
      rw [nearExp]
      push_cast
      ring
    have near : |cosine - nearCosine / sineScale| ≤ 1 / 10 ^ 19 ∧
        |sine - nearSine / sineScale| ≤ 1 / 10 ^ 19 := by
      rw [← cosineSum, ← sineSum, abs_le, abs_le]
      norm_num [Finset.sum_range_succ, Nat.factorial, nearCosine, nearSine, sineScale]
    rw [parts]
    refine (norm_add_le _ _).trans ?_
    rw [norm_mul, Complex.norm_I, mul_one, Complex.norm_real, Complex.norm_real, Real.norm_eq_abs,
      Real.norm_eq_abs]
    linarith [near.1, near.2]
  have remainder :
      ((Nat.succ (2 * 11) : ℕ) : ℝ) * (((2 * 11).factorial : ℝ) * ((2 * 11 : ℕ) : ℝ))⁻¹ ≤
      8 / 10 ^ 19 := by
    norm_num [Nat.factorial]
  calc ‖exp I - nearExp‖
      = ‖(exp I - ((cosine : ℂ) + sine * I)) + (((cosine : ℂ) + sine * I) - nearExp)‖ := by
        rw [sub_add_sub_cancel]
    _ ≤ 8 / 10 ^ 19 + 2 / 10 ^ 19 := (norm_add_le _ _).trans
        (add_le_add (series.trans remainder) rounded)
    _ = 1 / 10 ^ 18 := by norm_num

theorem norm_pow_sub_le (exponent : Nat) :
    ‖exp I ^ exponent - nearExp ^ exponent‖ ≤ exponent / 10 ^ 18 := by
  induction exponent with
  | zero => simp
  | succ exponent hypothesis =>
    have split : exp I ^ (exponent + 1) - nearExp ^ (exponent + 1) =
        nearExp * (exp I ^ exponent - nearExp ^ exponent) +
          (exp I - nearExp) * exp I ^ exponent := by
      ring
    have unit : ‖exp I ^ exponent‖ = 1 := by
      rw [norm_pow]
      simpa using congrArg (· ^ exponent) (Complex.norm_exp_ofReal_mul_I 1)
    rw [split]
    calc ‖nearExp * (exp I ^ exponent - nearExp ^ exponent) + (exp I - nearExp) * exp I ^ exponent‖
        ≤ ‖nearExp‖ * ‖exp I ^ exponent - nearExp ^ exponent‖ + ‖exp I - nearExp‖ := by
          refine (norm_add_le _ _).trans_eq ?_
          rw [norm_mul, norm_mul, unit, mul_one]
      _ ≤ exponent / 10 ^ 18 + 1 / 10 ^ 18 :=
          add_le_add ((mul_le_of_le_one_left (norm_nonneg _) norm_nearExp_le).trans hypothesis)
            norm_exp_I_sub_le
      _ = ((exponent + 1 : ℕ) : ℝ) / 10 ^ 18 := by
          push_cast
          ring

theorem abs_sin_sub_le (number : Nat) :
    |Real.sin number - (nearPower number).2 / (sineScale : ℝ) ^ number| ≤ number / 10 ^ 18 := by
  have power : exp I ^ number = exp ((number : ℝ) * I) := by
    rw [← Complex.exp_nat_mul]
    simp
  have imaginary : (exp I ^ number - nearExp ^ number).im =
      Real.sin number - (nearPower number).2 / (sineScale : ℝ) ^ number := by
    have scale :
        (sineScale : ℂ) ^ number = (((sineScale : ℝ) ^ number : ℝ) : ℂ) := by push_cast; rfl
    rw [power, nearExp_pow, Complex.sub_im, Complex.exp_ofReal_mul_I_im, scale,
      Complex.div_ofReal_im]
    simp
  rw [← imaginary]
  exact (Complex.abs_im_le_norm _).trans (norm_pow_sub_le number)

/-- The whole part of a multiple of a sine, read off the power. -/
theorem floor_sin {number scale value : Nat}
    (low : (value * 10 ^ 18 + scale * number) * sineScale ^ number ≤
      scale * 10 ^ 18 * (nearPower number).2.natAbs)
    (high : scale * 10 ^ 18 * (nearPower number).2.natAbs + scale * number * sineScale ^ number <
      (value + 1) * 10 ^ 18 * sineScale ^ number) :
    ⌊(scale : ℝ) * |Real.sin number|⌋₊ = value := by
  have positive : (0 : ℝ) < (sineScale : ℝ) ^ number := by
    simp [sineScale]
  have near := abs_sin_sub_le number
  have size : |((nearPower number).2 : ℝ) / (sineScale : ℝ) ^ number| =
      ((nearPower number).2.natAbs : ℝ) / (sineScale : ℝ) ^ number := by
    rw [abs_div, abs_of_pos positive, Nat.cast_natAbs, Int.cast_abs]
  have bounds := abs_le.mp ((abs_abs_sub_abs_le _ _).trans near)
  rw [size] at bounds
  have lowReal : ((value : ℝ) * 10 ^ 18 + scale * number) * (sineScale : ℝ) ^ number ≤
      scale * 10 ^ 18 * (nearPower number).2.natAbs := by exact_mod_cast low
  have highReal : (scale : ℝ) * 10 ^ 18 * (nearPower number).2.natAbs +
      scale * number * (sineScale : ℝ) ^ number <
        (value + 1) * 10 ^ 18 * (sineScale : ℝ) ^ number := by exact_mod_cast high
  have below := mul_le_mul_of_nonneg_left bounds.1 (Nat.cast_nonneg (α := ℝ) scale)
  have above := mul_le_mul_of_nonneg_left bounds.2 (Nat.cast_nonneg (α := ℝ) scale)
  generalize ((nearPower number).2.natAbs : ℝ) = part at *
  obtain ⟨quotient, rfl⟩ : ∃ quotient, part = quotient * (sineScale : ℝ) ^ number :=
    ⟨part / (sineScale : ℝ) ^ number, (div_mul_cancel₀ _ positive.ne').symm⟩
  rw [mul_div_cancel_right₀ _ positive.ne'] at below above
  rw [← mul_assoc, mul_le_mul_iff_left₀ positive] at lowReal
  rw [← mul_assoc, ← add_mul, mul_lt_mul_iff_left₀ positive] at highReal
  rw [Nat.floor_eq_iff (by positivity)]
  constructor
  · linarith
  · linarith

end KetPhone
