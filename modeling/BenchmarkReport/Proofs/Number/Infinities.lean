/-
This file computes with infinities and with what is no number.
-/

import BenchmarkReport.Proofs.Number.Values

namespace BenchmarkReport.Number

open Float.Model Float.Model.UnpackedFloat

section Unpacking

variable {number : Float}

/-- The sign of an infinity, or of a zero, that is negative or not. -/
def signOf (negative : Bool) : Sign :=
  if negative then .negative else .positive

theorem signOf_beq (negative : Bool) : (signOf negative == .negative) = negative := by
  cases negative <;> rfl

theorem signOf_not (negative : Bool) : signOf (!negative) = -signOf negative := by
  cases negative <;> rfl

theorem unpack_of_infinity {negative : Bool}
    (infinite : Extended.ofFloat number = .infinity negative) :
    number.toModel.unpack = .infinity (signOf negative) := by
  rw [ofFloat_eq_ofUnpacked] at infinite
  cases unpacked : number.toModel.unpack with
  | infinity sign =>
      rw [unpacked, Extended.ofUnpacked_infinity, Extended.infinity.injEq] at infinite
      rw [← infinite]
      cases sign <;> rfl
  | notANumber | zero | finite =>
      rw [unpacked] at infinite
      exact Extended.noConfusion infinite

theorem unpack_of_nan (none : Extended.ofFloat number = .nan) :
    number.toModel.unpack = .notANumber := by
  rw [ofFloat_eq_ofUnpacked] at none
  cases unpacked : number.toModel.unpack with
  | notANumber => rfl
  | infinity | zero | finite =>
      rw [unpacked] at none
      exact Extended.noConfusion none

theorem ofFloat_packed_signOf (negative : Bool) :
    Extended.ofFloat (packed (.infinity (signOf negative))) = .infinity negative := by
  rw [ofFloat_packed_infinity, signOf_beq]

end Unpacking

section Infinities

variable {first second : Float} {exact : ℚ} {negative : Bool}

theorem neg_infinity (infinite : Extended.ofFloat first = .infinity negative) :
    Extended.ofFloat (-first) = .infinity (!negative) := by
  have opposite : -first = packed (.infinity (signOf (!negative))) := by
    change packed (UnpackedFloat.neg _) = _
    rw [unpack_of_infinity infinite, signOf_not]
    rfl
  rw [opposite, ofFloat_packed_signOf]

/-- A finite summand does not count beside an infinity. -/
theorem HasValue.add_infinity (valued : HasValue first exact)
    (infinite : Extended.ofFloat second = .infinity negative) :
    Extended.ofFloat (first + second) = .infinity negative := by
  have sum : first + second = packed (.infinity (signOf negative)) := by
    change packed (UnpackedFloat.add _ _ _) = _
    rw [unpack_of_infinity infinite]
    have denotes := hasValue_iff_denotes.mp valued
    generalize first.toModel.unpack = unpacked at denotes
    cases denotes <;> rfl
  rw [sum, ofFloat_packed_signOf]

theorem infinity_add (infinite : Extended.ofFloat first = .infinity negative)
    (valued : HasValue second exact) : Extended.ofFloat (first + second) = .infinity negative := by
  have sum : first + second = packed (.infinity (signOf negative)) := by
    change packed (UnpackedFloat.add _ _ _) = _
    rw [unpack_of_infinity infinite]
    have denotes := hasValue_iff_denotes.mp valued
    generalize second.toModel.unpack = unpacked at denotes
    cases denotes <;> rfl
  rw [sum, ofFloat_packed_signOf]

/-- Two infinities on different sides have no sum. -/
theorem infinity_add_infinity (infinite : Extended.ofFloat first = .infinity negative)
    (opposite : Extended.ofFloat second = .infinity (!negative)) :
    Extended.ofFloat (first + second) = .nan := by
  have sum : first + second = packed .notANumber := by
    change packed (UnpackedFloat.add _ _ _) = _
    rw [unpack_of_infinity infinite, unpack_of_infinity opposite]
    cases negative <;> rfl
  rw [sum, ofFloat_packed_nan]

theorem HasValue.sub_infinity (valued : HasValue first exact)
    (infinite : Extended.ofFloat second = .infinity negative) :
    Extended.ofFloat (first - second) = .infinity (!negative) := by
  have difference : first - second = packed (.infinity (signOf (!negative))) := by
    change packed (UnpackedFloat.sub _ _ _) = _
    rw [unpack_of_infinity infinite, signOf_not]
    have denotes := hasValue_iff_denotes.mp valued
    generalize first.toModel.unpack = unpacked at denotes
    cases denotes <;> rfl
  rw [difference, ofFloat_packed_signOf]

theorem infinity_sub (infinite : Extended.ofFloat first = .infinity negative)
    (valued : HasValue second exact) : Extended.ofFloat (first - second) = .infinity negative := by
  have difference : first - second = packed (.infinity (signOf negative)) := by
    change packed (UnpackedFloat.sub _ _ _) = _
    rw [unpack_of_infinity infinite]
    have denotes := hasValue_iff_denotes.mp valued
    generalize second.toModel.unpack = unpacked at denotes
    cases denotes <;> rfl
  rw [difference, ofFloat_packed_signOf]

/-- Two infinities on different sides are infinitely far apart. -/
theorem infinity_sub_infinity (infinite : Extended.ofFloat first = .infinity negative)
    (opposite : Extended.ofFloat second = .infinity (!negative)) :
    Extended.ofFloat (first - second) = .infinity negative := by
  have difference : first - second = packed (.infinity (signOf negative)) := by
    change packed (UnpackedFloat.sub _ _ _) = _
    rw [unpack_of_infinity infinite, unpack_of_infinity opposite]
    cases negative <;> rfl
  rw [difference, ofFloat_packed_signOf]

theorem HasValue.unpack_of_pos (valued : HasValue first exact) (positive : 0 < exact) :
    ∃ mantissa exponent, ∃ some : 0 < mantissa,
      first.toModel.unpack = .finite .positive mantissa exponent some := by
  have denotes := hasValue_iff_denotes.mp valued
  generalize first.toModel.unpack = unpacked at denotes
  cases denotes with
  | zero sign vanishes => exact absurd vanishes positive.ne'
  | @finite sign mantissa exponent some canonical value =>
      have magnitude := magnitude_pos some exponent
      cases sign with
      | negative =>
          rw [signFactor, neg_one_mul] at value
          linarith
      | positive => exact ⟨mantissa, exponent, some, rfl⟩

theorem infinity_mul (infinite : Extended.ofFloat first = .infinity negative)
    (valued : HasValue second exact) (positive : 0 < exact) :
    Extended.ofFloat (first * second) = .infinity negative := by
  have product : first * second = packed (.infinity (signOf negative)) := by
    obtain ⟨mantissa, exponent, some, unpacked⟩ := valued.unpack_of_pos positive
    change packed (UnpackedFloat.mul _ _ _) = _
    rw [unpack_of_infinity infinite, unpacked]
    cases negative <;> rfl
  rw [product, ofFloat_packed_signOf]

/-- A positive part of an infinity is the infinity. -/
theorem HasValue.mul_infinity (valued : HasValue first exact) (positive : 0 < exact)
    (infinite : Extended.ofFloat second = .infinity negative) :
    Extended.ofFloat (first * second) = .infinity negative := by
  have product : first * second = packed (.infinity (signOf negative)) := by
    obtain ⟨mantissa, exponent, some, unpacked⟩ := valued.unpack_of_pos positive
    change packed (UnpackedFloat.mul _ _ _) = _
    rw [unpack_of_infinity infinite, unpacked]
    cases negative <;> rfl
  rw [product, ofFloat_packed_signOf]

/-- A finite number vanishes beside an infinity. -/
theorem HasValue.div_infinity (valued : HasValue first exact)
    (infinite : Extended.ofFloat second = .infinity negative) : HasValue (first / second) 0 := by
  have quotient : ∃ sign, first / second = packed (.zero sign) := by
    change ∃ sign, packed (UnpackedFloat.div _ _ _) = _
    rw [unpack_of_infinity infinite]
    have denotes := hasValue_iff_denotes.mp valued
    generalize first.toModel.unpack = unpacked at denotes
    cases denotes <;> exact ⟨_, rfl⟩
  obtain ⟨sign, same⟩ := quotient
  exact ⟨_, (congrArg _ same).trans (ofFloat_packed_zero sign), value_zero _ _⟩

theorem infinity_div (infinite : Extended.ofFloat first = .infinity negative)
    (valued : HasValue second exact) (positive : 0 < exact) :
    Extended.ofFloat (first / second) = .infinity negative := by
  have quotient : first / second = packed (.infinity (signOf negative)) := by
    obtain ⟨mantissa, exponent, some, unpacked⟩ := valued.unpack_of_pos positive
    change packed (UnpackedFloat.div _ _ _) = _
    rw [unpack_of_infinity infinite, unpacked]
    cases negative <;> rfl
  rw [quotient, ofFloat_packed_signOf]

/-- Zero has no part in an infinity. -/
theorem HasValue.zero_mul_infinity (valued : HasValue first 0)
    (infinite : Extended.ofFloat second = .infinity negative) :
    Extended.ofFloat (first * second) = .nan := by
  have product : first * second = packed .notANumber := by
    change packed (UnpackedFloat.mul _ _ _) = _
    rw [unpack_of_infinity infinite]
    have denotes := hasValue_iff_denotes.mp valued
    generalize first.toModel.unpack = unpacked at denotes
    cases denotes with
    | zero => rfl
    | @finite sign mantissa exponent some canonical value =>
        have magnitude := magnitude_pos some exponent
        cases sign <;> simp only [signFactor] at value <;> linarith
  rw [product, ofFloat_packed_nan]

theorem infinity_div_infinity {other : Bool}
    (infinite : Extended.ofFloat first = .infinity negative)
    (infiniteOther : Extended.ofFloat second = .infinity other) :
    Extended.ofFloat (first / second) = .nan := by
  have quotient : first / second = packed .notANumber := by
    change packed (UnpackedFloat.div _ _ _) = _
    rw [unpack_of_infinity infinite, unpack_of_infinity infiniteOther]
    rfl
  rw [quotient, ofFloat_packed_nan]

end Infinities

section NoNumber

variable {first second : Float}

theorem nan_add (none : Extended.ofFloat first = .nan) :
    Extended.ofFloat (first + second) = .nan := by
  have sum : first + second = packed .notANumber := by
    change packed (UnpackedFloat.add _ _ _) = _
    rw [unpack_of_nan none]
    rfl
  rw [sum, ofFloat_packed_nan]

theorem nan_sub (none : Extended.ofFloat first = .nan) :
    Extended.ofFloat (first - second) = .nan := by
  have difference : first - second = packed .notANumber := by
    change packed (UnpackedFloat.sub _ _ _) = _
    rw [unpack_of_nan none]
    rfl
  rw [difference, ofFloat_packed_nan]

theorem add_nan (none : Extended.ofFloat second = .nan) :
    Extended.ofFloat (first + second) = .nan := by
  rw [float_add_comm]
  exact nan_add none

theorem sub_nan (none : Extended.ofFloat second = .nan) :
    Extended.ofFloat (first - second) = .nan := by
  have difference : first - second = packed .notANumber := by
    change packed (UnpackedFloat.sub _ _ _) = _
    rw [unpack_of_nan none]
    cases first.toModel.unpack <;> rfl
  rw [difference, ofFloat_packed_nan]

theorem nan_mul (none : Extended.ofFloat first = .nan) :
    Extended.ofFloat (first * second) = .nan := by
  have product : first * second = packed .notANumber := by
    change packed (UnpackedFloat.mul _ _ _) = _
    rw [unpack_of_nan none]
    rfl
  rw [product, ofFloat_packed_nan]

theorem nan_div (none : Extended.ofFloat first = .nan) :
    Extended.ofFloat (first / second) = .nan := by
  have quotient : first / second = packed .notANumber := by
    change packed (UnpackedFloat.div _ _ _) = _
    rw [unpack_of_nan none]
    rfl
  rw [quotient, ofFloat_packed_nan]

theorem mul_nan (none : Extended.ofFloat second = .nan) :
    Extended.ofFloat (first * second) = .nan := by
  have product : first * second = packed .notANumber := by
    change packed (UnpackedFloat.mul _ _ _) = _
    rw [unpack_of_nan none]
    cases first.toModel.unpack <;> rfl
  rw [product, ofFloat_packed_nan]

end NoNumber

section Order

variable {number infinite : Float} {exact : ℚ}

theorem HasValue.lt_infinity (valued : HasValue number exact)
    (above : Extended.ofFloat infinite = .infinity false) : number < infinite := by
  change decide ((number.toModel.unpack.compare infinite.toModel.unpack == some .lt) = true) = true
  rw [unpack_of_infinity above]
  have denotes := hasValue_iff_denotes.mp valued
  generalize number.toModel.unpack = unpacked at denotes
  cases denotes <;> rfl

theorem HasValue.infinity_lt (valued : HasValue number exact)
    (below : Extended.ofFloat infinite = .infinity true) : infinite < number := by
  change decide ((infinite.toModel.unpack.compare number.toModel.unpack == some .lt) = true) = true
  rw [unpack_of_infinity below]
  have denotes := hasValue_iff_denotes.mp valued
  generalize number.toModel.unpack = unpacked at denotes
  cases denotes <;> rfl

theorem HasValue.le_infinity (valued : HasValue number exact)
    (above : Extended.ofFloat infinite = .infinity false) : number ≤ infinite := by
  change decide ((number.toModel.unpack.compare infinite.toModel.unpack).any (·.isLE) = true) = true
  rw [unpack_of_infinity above]
  have denotes := hasValue_iff_denotes.mp valued
  generalize number.toModel.unpack = unpacked at denotes
  cases denotes <;> rfl

theorem HasValue.infinity_le (valued : HasValue number exact)
    (below : Extended.ofFloat infinite = .infinity true) : infinite ≤ number := by
  change decide ((infinite.toModel.unpack.compare number.toModel.unpack).any (·.isLE) = true) = true
  rw [unpack_of_infinity below]
  have denotes := hasValue_iff_denotes.mp valued
  generalize number.toModel.unpack = unpacked at denotes
  cases denotes <;> rfl

variable {first second : Float}

theorem infinity_lt_infinity (below : Extended.ofFloat first = .infinity true)
    (above : Extended.ofFloat second = .infinity false) : first < second := by
  change decide ((first.toModel.unpack.compare second.toModel.unpack == some .lt) = true) = true
  rw [unpack_of_infinity below, unpack_of_infinity above]
  rfl

theorem not_infinity_lt (above : Extended.ofFloat first = .infinity false) : ¬ first < second := by
  change ¬ decide ((first.toModel.unpack.compare second.toModel.unpack == some .lt) = true) = true
  rw [unpack_of_infinity above]
  cases second.toModel.unpack with
  | infinity sign => cases sign <;> decide
  | notANumber | zero | finite => exact Bool.false_ne_true

/-- What is no number is not less than anything. -/
theorem not_nan_lt (none : Extended.ofFloat first = .nan) : ¬ first < second := by
  change ¬ decide ((first.toModel.unpack.compare second.toModel.unpack == some .lt) = true) = true
  rw [unpack_of_nan none]
  exact Bool.false_ne_true

theorem infinity_beq {negative : Bool} (infiniteFirst : Extended.ofFloat first = .infinity negative)
    (infiniteSecond : Extended.ofFloat second = .infinity negative) :
    (first == second) = true := by
  change (first.toModel.unpack.compare second.toModel.unpack == some .eq) = true
  rw [unpack_of_infinity infiniteFirst, unpack_of_infinity infiniteSecond]
  cases negative <;> rfl

end Order

section Finite

variable {number other : Float} {exact : ℚ}

theorem HasValue.isFinite (valued : HasValue number exact) : number.isFinite = true := by
  change number.toModel.unpack.isFinite = true
  have denotes := hasValue_iff_denotes.mp valued
  generalize number.toModel.unpack = unpacked at denotes
  cases denotes <;> rfl

theorem isFinite_of_infinity {negative : Bool}
    (infinite : Extended.ofFloat number = .infinity negative) : number.isFinite = false := by
  change number.toModel.unpack.isFinite = false
  rw [unpack_of_infinity infinite]
  rfl

/-- A number is rounded to a double, or to an infinity on one side. -/
theorem IsRounded.cases (rounded : IsRounded exact number) :
    |nearest exact| < overflow ∧ HasValue number (nearest exact) ∨
      ¬ |nearest exact| < overflow ∧ ∃ negative, ∀ other, IsRounded exact other →
        Extended.ofFloat other = .infinity negative := by
  by_cases within : |nearest exact| < overflow
  · exact .inl ⟨within, rounded.finite within⟩
  · refine .inr ⟨within, ?_⟩
    rcases le_abs.mp (not_lt.mp within) with above | below
    · exact ⟨false, fun other roundedOther => roundedOther.above above⟩
    · exact ⟨true, fun other roundedOther => roundedOther.below (le_neg_of_le_neg below)⟩

theorem IsRounded.isFinite_iff (rounded : IsRounded exact number) :
    number.isFinite = true ↔ |nearest exact| < overflow := by
  rcases rounded.cases with ⟨within, valued⟩ | ⟨beyond, negative, infinite⟩
  · exact iff_of_true valued.isFinite within
  · refine iff_of_false ?_ beyond
    rw [isFinite_of_infinity (infinite number rounded)]
    exact Bool.false_ne_true

/-- What a number is rounded to is one number. A zero may have two signs. -/
theorem IsRounded.beq (rounded : IsRounded exact number) (roundedOther : IsRounded exact other) :
    (number == other) = true := by
  rcases rounded.cases with ⟨within, valued⟩ | ⟨-, negative, infinite⟩
  · exact (valued.beq_iff (roundedOther.finite within)).mpr rfl
  · exact infinity_beq (infinite number rounded) (infinite other roundedOther)

theorem isDouble_overflow_div {bits : ℕ} (few : bits ≤ 1074) : IsDouble (overflow / 2 ^ bits) := by
  have power : overflow / 2 ^ bits = (1 : ℤ) * 2 ^ (1024 - bits : ℤ) := by
    rw [overflow_eq bits (1024 - bits) (sub_add_cancel _ _), Int.cast_one, one_mul]
    exact mul_div_cancel_left₀ _ (by positivity)
  rw [power]
  apply isDouble_of_le (by norm_num)
  unfold leastExponent
  omega

theorem two_pow_le_overflow : (2 : ℚ) ^ 54 ≤ overflow / 2 ^ 1 := by
  have unit : (1 : ℚ) ≤ 2 ^ (969 : ℤ) := one_le_zpow₀ (by norm_num) (by norm_num)
  calc (2 : ℚ) ^ 54
      ≤ 2 ^ 54 * 2 ^ (969 : ℤ) := le_mul_of_one_le_right (by norm_num) unit
    _ = 2 ^ 55 * 2 ^ (969 : ℤ) / 2 ^ 1 := by ring
    _ = overflow / 2 ^ 1 := by rw [← overflow_eq 55 969 rfl]

/-- Numbers that are far from the limit are rounded to finite doubles. -/
theorem abs_nearest_lt (small : |exact| ≤ overflow / 2 ^ 1) : |nearest exact| < overflow :=
  (abs_nearest_le (isDouble_overflow_div (by decide)) small).trans_lt
    (div_lt_self overflow_pos (by norm_num))

end Finite

end BenchmarkReport.Number
