/-
This file finds the doubles of whole numbers and the whole numbers around doubles.
-/

import BenchmarkReport.Proofs.Number.Values

namespace BenchmarkReport.Number

open Float.Model Float.Model.UnpackedFloat

theorem isDouble_whole {whole : ℤ} (bits : |whole| < 2 ^ 53) : IsDouble whole :=
  ⟨whole, 0, bits, by decide, by rw [zpow_zero, mul_one]⟩

/-- Whole numbers without too many bits are far from the infinities. -/
theorem abs_whole_lt {whole : ℤ} (bits : |whole| < 2 ^ 53) : |(whole : ℚ)| < overflow :=
  calc |(whole : ℚ)|
      < 2 ^ 53 := by exact_mod_cast bits
    _ ≤ 2 ^ 53 * 2 ^ (971 : ℤ) := le_mul_of_one_le_right (by norm_num) (one_le_zpow₀ (by norm_num)
        (by norm_num))
    _ = overflow := (overflow_eq 53 971 rfl).symm

theorem IsRounded.hasValue_whole {number : Float} {whole : ℤ} (rounded : IsRounded whole number)
    (bits : |whole| < 2 ^ 53) : HasValue number whole :=
  rounded.hasValue (isDouble_whole bits) (abs_whole_lt bits)

section Conversion

theorem hasValue_zero : HasValue 0 0 :=
  ⟨⟨false, 0, leastExponent⟩, by decide +kernel, value_zero _ _⟩

theorem hasValue_one : HasValue Float.exactlyRepresentablePowersOfTen[0] 1 :=
  ⟨⟨false, 2 ^ 52, -52⟩, by decide +kernel, by norm_num [Binary.value, Binary.magnitude]⟩

theorem hasValue_toFloat {count : ℕ} (bits : count < 2 ^ 53) :
    HasValue count.toUInt64.toFloat count := by
  have word : count.toUInt64.toNat = count := by
    rw [Nat.toUInt64, UInt64.toNat_ofNat']
    omega
  have denotes := denotes_normalize count.toUInt64.toNat 0 .positive
  rw [zpow_zero, mul_one] at denotes
  have rounded : IsRounded count.toUInt64.toNat count.toUInt64.toFloat := denotes.isRounded
  rw [word] at rounded
  have within : |(count : ℤ)| < 2 ^ 53 := by
    rw [abs_of_nonneg (by omega)]
    omega
  exact rounded.hasValue_whole within

/-- A small count is a double. -/
theorem hasValue_ofNat {count : ℕ} (bits : count < 2 ^ 53) :
    HasValue (Float.ofNat count) count := by
  have number : Float.ofNat count = count.toUInt64.toFloat *
      Float.exactlyRepresentablePowersOfTen[0] := by
    change Float.ofScientific count false 0 = _
    unfold Float.ofScientific
    rw [dif_pos ⟨bits, Nat.zero_le 22⟩]
    rfl
  have product := (hasValue_toFloat bits).mul hasValue_one
  rw [← number, mul_one] at product
  have within : |(count : ℤ)| < 2 ^ 53 := by
    rw [abs_of_nonneg (by omega)]
    omega
  exact product.hasValue_whole within

theorem hasValue_unit : HasValue 1 1 := by
  exact_mod_cast hasValue_ofNat (by decide : 1 < 2 ^ 53)

theorem hasValue_literal (count : ℕ) [count.AtLeastTwo] (bits : count < 2 ^ 53) :
    HasValue (OfNat.ofNat count) (OfNat.ofNat count) := by
  exact_mod_cast hasValue_ofNat bits

theorem hasValue_ofInt {whole : ℤ} (bits : |whole| < 2 ^ 53) :
    HasValue (Float.ofInt whole) whole := by
  cases whole with
  | ofNat count =>
      have within : count < 2 ^ 53 := by
        rw [Int.ofNat_eq_natCast, abs_of_nonneg (by omega)] at bits
        omega
      exact hasValue_ofNat within
  | negSucc count =>
      have within : count + 1 < 2 ^ 53 := by
        rw [Int.negSucc_eq, abs_neg, abs_of_nonneg (by omega)] at bits
        omega
      have valued := (hasValue_ofNat within).neg
      rwa [← Int.cast_negSucc] at valued

end Conversion

section Fractions

variable (binary : Binary)

theorem cast_twoPower (exponent : ℕ) : ((twoPower exponent : ℕ) : ℚ) = 2 ^ exponent :=
  Nat.cast_pow 2 exponent

theorem magnitude_eq_div : binary.magnitude = binary.numerator / binary.denominator := by
  rw [Binary.magnitude, Binary.numerator, Binary.denominator, Nat.cast_mul, cast_twoPower,
    cast_twoPower, mul_div_assoc]
  congr 1
  rcases le_total 0 binary.exponent with above | below
  · have same : binary.exponent = binary.exponent.toNat := by omega
    have none : (-binary.exponent).toNat = 0 := by omega
    rw [none, pow_zero, div_one, ← zpow_natCast, ← same]
  · have same : binary.exponent = -(-binary.exponent).toNat := by omega
    have none : binary.exponent.toNat = 0 := by omega
    rw [none, pow_zero, one_div, ← zpow_natCast, ← zpow_neg, ← same]

theorem floor_magnitude : ⌊binary.magnitude⌋ = binary.whole := by
  rw [magnitude_eq_div, Rat.floor_natCast_div_natCast]
  rfl

theorem ceil_magnitude : ⌈binary.magnitude⌉ = binary.wholeUp := by
  have parts := quotient_eq binary.numerator binary.denominator_pos
  have bounds := quotient_bounds binary.numerator binary.denominator_pos
  have whole : binary.whole = binary.numerator / binary.denominator := rfl
  rw [magnitude_eq_div, Binary.wholeUp, whole]
  split
  · rename_i isWhole
    have none : binary.numerator % binary.denominator = 0 := eq_of_beq isWhole
    rw [parts, none, Nat.cast_zero, zero_div, add_zero, Int.ceil_natCast]
  · rename_i isFraction
    have some : binary.numerator % binary.denominator ≠ 0 :=
      fun none => isFraction (beq_iff_eq.mpr none)
    have part : (0 : ℚ) < (binary.numerator % binary.denominator : ℕ) / binary.denominator :=
      div_pos (by exact_mod_cast Nat.pos_of_ne_zero some)
        (by exact_mod_cast binary.denominator_pos)
    rw [Int.ceil_eq_iff, Int.cast_natCast]
    refine ⟨?_, bounds.2.le⟩
    rw [Nat.cast_add_one, add_sub_cancel_right, parts]
    exact lt_add_of_pos_right _ part

end Fractions

section Pixels

variable {number : Float} {exact : ℚ}

/-- The whole numbers around a number that is not too great have few bits. -/
theorem wholeUp_lt {binary : Binary} (small : |binary.value| < 2 ^ 52) :
    binary.wholeUp < 2 ^ 53 := by
  have near := Int.ceil_lt_add_one binary.magnitude
  rw [abs_value] at small
  rw [ceil_magnitude, Int.cast_natCast] at near
  have bound : (binary.wholeUp : ℚ) < 2 ^ 53 := by linarith
  exact_mod_cast bound

theorem hasValue_floor (valued : HasValue number exact) (small : |exact| < 2 ^ 52) :
    HasValue (floor number) ⌊exact⌋ := by
  obtain ⟨binary, read, rfl⟩ := valued
  have bits := wholeUp_lt small
  have below := binary.whole_le_wholeUp
  unfold floor Binary.value
  rw [read]
  dsimp only
  cases binary.negative with
  | false =>
      rw [if_neg Bool.false_ne_true, if_neg Bool.false_ne_true, floor_magnitude]
      exact hasValue_ofNat (below.trans_lt bits)
  | true =>
      rw [if_pos rfl, if_pos rfl, Int.floor_neg, ceil_magnitude, Int.cast_neg]
      exact (hasValue_ofNat bits).neg

theorem hasValue_ceil (valued : HasValue number exact) (small : |exact| < 2 ^ 52) :
    HasValue (ceil number) ⌈exact⌉ := by
  obtain ⟨binary, read, rfl⟩ := valued
  have bits := wholeUp_lt small
  have below := binary.whole_le_wholeUp
  unfold ceil Binary.value
  rw [read]
  dsimp only
  cases binary.negative with
  | false =>
      rw [if_neg Bool.false_ne_true, if_neg Bool.false_ne_true, ceil_magnitude]
      exact hasValue_ofNat bits
  | true =>
      rw [if_pos rfl, if_pos rfl, Int.ceil_neg, floor_magnitude, Int.cast_neg]
      exact (hasValue_ofNat (below.trans_lt bits)).neg

/-- Nothing is cut off from a whole number. -/
theorem truncated_whole {whole : ℤ} {binary : Binary} (value : binary.value = whole) :
    binary.truncated = whole := by
  unfold Binary.value at value
  unfold Binary.truncated
  split
  · rename_i negative
    rw [if_pos negative] at value
    have opposite : binary.magnitude = (-whole : ℤ) := by
      rw [Int.cast_neg, ← value, neg_neg]
    rw [← floor_magnitude, opposite, Int.floor_intCast, neg_neg]
  · rename_i positive
    rw [if_neg positive] at value
    rw [← floor_magnitude, value, Int.floor_intCast]

/-- A whole double is cut to the limits. -/
theorem truncateBetween_whole {whole : ℤ} (valued : HasValue number whole) (least greatest : ℤ) :
    truncateBetween least greatest number = max least (min greatest whole) := by
  obtain ⟨binary, read, value⟩ := valued
  unfold truncateBetween
  rw [read, ← truncated_whole value]

/-- A pixel coordinate has thirty-one bits beside its sign. -/
theorem coordinate_limit : ((twoPower 31 : ℕ) : ℤ) = 2 ^ 31 := rfl

/-- A whole double within the limits of a pixel coordinate is kept. -/
theorem toPixel_whole {whole : ℤ} (valued : HasValue number whole) (least : -2 ^ 31 ≤ whole)
    (greatest : whole < 2 ^ 31) : toPixel number = whole := by
  unfold toPixel
  rw [truncateBetween_whole valued, coordinate_limit]
  omega

/-- No number has no position. -/
theorem toPixel_nan (none : Extended.ofFloat number = .nan) : toPixel number = 0 := by
  unfold toPixel truncateBetween
  rw [none]

theorem floor_nan (none : Extended.ofFloat number = .nan) : floor number = number := by
  unfold floor
  rw [none]

theorem ceil_nan (none : Extended.ofFloat number = .nan) : ceil number = number := by
  unfold ceil
  rw [none]

theorem round_nan (none : Extended.ofFloat number = .nan) : round number = number := by
  unfold round
  rw [none]

theorem toCount_nan (none : Extended.ofFloat number = .nan) : toCount number = 0 := by
  unfold toCount truncateBetween
  rw [none]
  rfl

theorem floor_infinity {negative : Bool} (infinite : Extended.ofFloat number = .infinity negative) :
    floor number = number := by
  unfold floor
  rw [infinite]

end Pixels

end BenchmarkReport.Number
