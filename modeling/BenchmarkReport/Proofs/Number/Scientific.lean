/-
This file says what double a whole number with a power of ten becomes, and how far the result of an
operation lies from its exact value.
-/

import Mathlib.Tactic.LinearCombination
import BenchmarkReport.Proofs.Number.Distance
import BenchmarkReport.Proofs.Number.Infinities
import BenchmarkReport.Proofs.Number.Wholes

namespace BenchmarkReport.Number

open Float.Model Float.Model.UnpackedFloat

section Scientific

variable (mantissa : ℕ)

/-- Shifted to the left a whole number has enough bits for each product with a power of ten. -/
theorem denotes_product (positive : 0 < mantissa) (power : ℕ) (sign : Sign) :
    Denotes (nearest (signFactor sign * (mantissa * 10 ^ power)))
      (roundWithAccuracy .binary64 sign (mantissa <<< 53 * 10 ^ power) (-53) .exact) := by
  have value : ((mantissa <<< 53 * 10 ^ power : ℕ) : ℚ) * 2 ^ (-53 : ℤ) =
      mantissa * 10 ^ power := by
    rw [Nat.shiftLeft_eq]
    push_cast
    have unit : (2 : ℚ) ^ 53 * 2 ^ (-53 : ℤ) = 1 := by norm_num
    linear_combination (mantissa * 10 ^ power : ℚ) * unit
  have present : 0 < mantissa <<< 53 * 10 ^ power := by
    rw [Nat.shiftLeft_eq]
    positivity
  have whole : (1 : ℚ) ≤ mantissa * 10 ^ power := by
    exact_mod_cast Nat.mul_pos positive (by positivity)
  have low : -53 ≤ place (mantissa * 10 ^ power : ℚ) := by
    apply le_place
    rw [abs_of_nonneg (zero_le_one.trans whole)]
    exact le_trans (by norm_num) whole
  have rounded := denotes_roundWithAccuracy_exact sign present (by rwa [value])
  rwa [value] at rounded

/-- A whole number with a power of ten is rounded once. -/
theorem denotes_ofScientific {exponent : ℤ} (least : -2 ^ 11 ≤ exponent)
    (greatest : exponent ≤ 2 ^ 11) :
    Denotes (nearest (mantissa * 10 ^ exponent))
      (UnpackedFloat.ofScientific .binary64 mantissa exponent) := by
  unfold UnpackedFloat.ofScientific
  rcases Nat.eq_zero_or_pos mantissa with rfl | positive
  · rw [dif_pos rfl, Nat.cast_zero, zero_mul, nearest_zero]
    exact .zero _ rfl
  · have exponentBits : (2 : ℤ) ^ Format.binary64.exponentBits = 2 ^ 11 := rfl
    rw [dif_neg positive.ne', exponentBits, if_neg (by omega), if_neg (by omega)]
    by_cases nonnegative : 0 ≤ exponent
    · have same : (10 : ℚ) ^ exponent = 10 ^ exponent.toNat := by
        rw [← zpow_natCast, Int.toNat_of_nonneg nonnegative]
      rw [if_pos nonnegative, same, ← one_mul (_ * _)]
      exact denotes_product mantissa positive exponent.toNat .positive
    · have same : (10 : ℚ) ^ exponent = 1 / 10 ^ (-exponent).toNat := by
        rw [one_div, ← zpow_natCast, Int.toNat_of_nonneg (by omega), zpow_neg, inv_inv]
      have quotient := denotes_divCore .positive positive
        (by positivity : 0 < 10 ^ (-exponent).toNat) 0 0
      rw [signFactor, zpow_zero, mul_one, mul_one, one_mul, Nat.cast_pow] at quotient
      rw [if_neg nonnegative, same, mul_one_div]
      exact quotient

/-- The fields of a power of ten in the table are those of the exact power. -/
theorem ofFloat_tablePower : ∀ index : Fin Float.exactlyRepresentablePowersOfTen.size,
    Extended.ofFloat Float.exactlyRepresentablePowersOfTen[index] =
      .finite ⟨false, 10 ^ index.val * 2 ^ 52 / 2 ^ (10 ^ index.val).log2,
        (10 ^ index.val).log2 - 52⟩ ∧
    2 ^ (10 ^ index.val).log2 ∣ 10 ^ index.val * 2 ^ 52 := by
  decide +kernel

theorem hasValue_tablePower {power : ℕ}
    (bound : power < Float.exactlyRepresentablePowersOfTen.size) :
    HasValue Float.exactlyRepresentablePowersOfTen[power] (10 ^ power) := by
  obtain ⟨read, count, whole⟩ := ofFloat_tablePower ⟨power, bound⟩
  refine ⟨_, read, ?_⟩
  dsimp only at whole ⊢
  have unit : (2 : ℚ) ^ (10 ^ power).log2 ≠ 0 := by positivity
  have exact : (10 ^ power * 2 ^ 52 : ℚ) = 2 ^ (10 ^ power).log2 * count := by exact_mod_cast whole
  rw [whole, Nat.mul_div_cancel_left _ (by positivity), Binary.value, if_neg Bool.false_ne_true,
    Binary.magnitude, zpow_sub₀ (by norm_num), zpow_natCast]
  dsimp only
  rw [← mul_div_assoc, mul_comm, ← exact]
  exact mul_div_cancel_right₀ _ (by norm_num)

/-- A whole number with a power of ten becomes the nearest double. -/
theorem isRounded_ofScientific {power : ℕ} (least : power ≤ 2 ^ 11) :
    IsRounded (mantissa * 10 ^ power) (Float.ofScientific mantissa false power) ∧
      IsRounded (mantissa / 10 ^ power) (Float.ofScientific mantissa true power) := by
  unfold Float.ofScientific
  split
  · rename_i small
    have factor := hasValue_tablePower (by exact Nat.lt_succ_of_le small.2)
    have whole := hasValue_toFloat small.1
    exact ⟨whole.mul factor, whole.div factor (by positivity)⟩
  · have product := (denotes_ofScientific mantissa (by omega : -2 ^ 11 ≤ (power : ℤ))
      (by omega)).isRounded
    have quotient := (denotes_ofScientific mantissa (by omega : -2 ^ 11 ≤ -(power : ℤ))
      (by omega)).isRounded
    rw [zpow_natCast] at product
    rw [zpow_neg, zpow_natCast, ← div_eq_mul_inv] at quotient
    exact ⟨product, quotient⟩

theorem isRounded_ofNat (count : ℕ) : IsRounded count (Float.ofNat count) := by
  have rounded := (isRounded_ofScientific count (Nat.zero_le _)).1
  rwa [pow_zero, mul_one] at rounded

end Scientific

section Errors

theorem leastNormal_le_inv : leastNormal ≤ 1 / 2 ^ 100 := by
  have least : leastNormal ≤ 2 ^ (-100 : ℤ) := zpow_le_zpow_right₀ (by norm_num) (by decide)
  norm_num at least ⊢
  exact least

theorem leastNormal_le_pow (bits : ℕ) : leastNormal ≤ 2 ^ bits :=
  (zpow_le_one_of_nonpos₀ (by norm_num) (by decide)).trans (one_le_pow₀ (by norm_num))

theorem pow_le_overflow {bits : ℕ} (few : bits ≤ 1023) : (2 : ℚ) ^ bits ≤ overflow / 2 ^ 1 := by
  have half : overflow / 2 ^ 1 = 2 ^ 1023 := by
    rw [overflow_eq 1 1023 rfl, mul_div_cancel_left₀ _ (by norm_num), ← zpow_natCast]
    rfl
  rw [half]
  exact pow_le_pow_right₀ (by norm_num) few

variable {number : Float} {exact bound : ℚ}

/-- A number with a bound that is neither too small nor too great becomes a double that is close to
it. -/
theorem IsRounded.near (rounded : IsRounded exact number) (within : |exact| ≤ bound)
    (normal : leastNormal ≤ bound) (small : bound ≤ overflow / 2 ^ 1) :
    ∃ value, HasValue number value ∧ |value - exact| ≤ bound / 2 ^ 53 :=
  ⟨nearest exact, rounded.finite (abs_nearest_lt (within.trans small)),
    abs_nearest_sub_le within normal⟩

theorem wholeNearest_eq (binary : Binary) :
    (binary.wholeNearest : ℤ) = ⌊binary.magnitude + 1 / 2⌋ := by
  have positive : (0 : ℚ) < binary.denominator := by exact_mod_cast binary.denominator_pos
  have sum : binary.magnitude + 1 / 2 =
      (2 * binary.numerator + binary.denominator : ℕ) / (2 * binary.denominator : ℕ) := by
    rw [magnitude_eq_div]
    push_cast
    field_simp
  rw [sum, Rat.floor_natCast_div_natCast]
  rfl

/-- Rounding to a whole number moves a double by a half at most. -/
theorem exists_hasValue_round (valued : HasValue number exact) (small : |exact| < 2 ^ 52) :
    ∃ whole : ℤ, HasValue (round number) whole ∧ |(whole : ℚ) - exact| ≤ 1 / 2 := by
  obtain ⟨binary, read, rfl⟩ := valued
  have whole := wholeNearest_eq binary
  have below := Int.floor_le (binary.magnitude + 1 / 2)
  have above := Int.lt_floor_add_one (binary.magnitude + 1 / 2)
  rw [abs_value] at small
  rw [← whole, Int.cast_natCast] at below above
  have bits : binary.wholeNearest < 2 ^ 53 := by
    have bound : (binary.wholeNearest : ℚ) < 2 ^ 53 := by linarith
    exact_mod_cast bound
  unfold round Binary.value
  rw [read]
  dsimp only
  cases binary.negative with
  | false =>
      refine ⟨binary.wholeNearest, hasValue_ofNat bits, ?_⟩
      rw [if_neg Bool.false_ne_true, Int.cast_natCast, abs_le]
      constructor <;> linarith
  | true =>
      refine ⟨-binary.wholeNearest, ?_, ?_⟩
      · rw [Int.cast_neg, Int.cast_natCast]
        exact (hasValue_ofNat bits).neg
      · rw [if_pos rfl, Int.cast_neg, Int.cast_natCast, abs_le]
        constructor <;> linarith

/-- The count of a whole double is cut to the limits of a count. -/
theorem toCount_whole {whole : ℤ} (valued : HasValue number whole) :
    (toCount number : ℤ) = max 0 (min (2 ^ 64 - 1) whole) := by
  have limit : ((twoPower 64 : ℕ) : ℤ) = 2 ^ 64 := rfl
  unfold toCount
  rw [truncateBetween_whole valued, limit]
  omega

end Errors

end BenchmarkReport.Number
