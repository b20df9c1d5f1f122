/-
This file says how far rounding moves a number.
-/

import BenchmarkReport.Proofs.Number.Nearest

namespace BenchmarkReport.Number

/-- From here on doubles have all their bits. -/
def leastNormal : ℚ := 2 ^ (leastExponent + 52)

theorem leastNormal_eq : leastNormal = 2 ^ 52 * 2 ^ leastExponent :=
  pow_mul_unit 52 leastExponent

section Distance

variable {exact bound : ℚ}

theorem abs_nearest_sub_le_place (exact : ℚ) : |nearest exact - exact| ≤ 2 ^ place exact / 2 := by
  have unit := unit_pos (place exact)
  have scaled : nearest exact - exact =
      -(exact / 2 ^ place exact - nearestWhole (exact / 2 ^ place exact)) * 2 ^ place exact := by
    rw [nearest, neg_mul, sub_mul, div_mul_cancel₀ _ unit.ne']
    ring
  rw [scaled, abs_mul, abs_neg, abs_of_pos unit]
  calc |exact / 2 ^ place exact - nearestWhole (exact / 2 ^ place exact)| * 2 ^ place exact
      ≤ 1 / 2 * 2 ^ place exact :=
        mul_le_mul_of_nonneg_right (isNearestWhole_nearestWhole _).distance unit.le
    _ = 2 ^ place exact / 2 := by ring

/-- The unit of a number is small beside each bound of the number. -/
theorem unit_place_le (nonzero : exact ≠ 0) (within : |exact| ≤ bound)
    (normal : leastNormal ≤ bound) : 2 ^ place exact ≤ bound / 2 ^ 52 := by
  rw [le_div_iff₀ (by norm_num), mul_comm, ← pow_mul_unit]
  rcases place_le_abs nonzero with least | full
  · rw [least]
    exact normal
  · exact full.trans within

/-- Rounding keeps the leading 53 bits of a number and of each of its bounds. -/
theorem abs_nearest_sub_le (within : |exact| ≤ bound) (normal : leastNormal ≤ bound) :
    |nearest exact - exact| ≤ bound / 2 ^ 53 := by
  rcases eq_or_ne exact 0 with rfl | nonzero
  · rw [nearest_zero, sub_zero, abs_zero]
    exact div_nonneg ((abs_nonneg 0).trans within) (by norm_num)
  · have unit := unit_place_le nonzero within normal
    calc |nearest exact - exact|
        ≤ 2 ^ place exact / 2 := abs_nearest_sub_le_place exact
      _ ≤ bound / 2 ^ 52 / 2 := by linarith
      _ = bound / 2 ^ 53 := by ring

/-- The distance of two doubles that is too small for all bits is a double itself. -/
theorem nearest_sub_eq (double : IsDouble exact) (doubleBound : IsDouble bound)
    (close : |bound - exact| < leastNormal) : nearest (bound - exact) = bound - exact := by
  obtain ⟨count, rfl⟩ := double.units
  obtain ⟨countBound, rfl⟩ := doubleBound.units
  apply nearest_of_isDouble
  have unit := unit_pos leastExponent
  have difference : (countBound * 2 ^ leastExponent - count * 2 ^ leastExponent : ℚ) =
      (countBound - count : ℤ) * 2 ^ leastExponent := by
    push_cast
    ring
  rw [difference] at close ⊢
  refine ⟨countBound - count, leastExponent, ?_, le_rfl, rfl⟩
  have few : |((countBound - count : ℤ) : ℚ)| < 2 ^ 52 := by
    rwa [abs_mul, abs_of_pos unit, leastNormal_eq, mul_lt_mul_iff_left₀ unit] at close
  calc |countBound - count|
      < 2 ^ 52 := by exact_mod_cast few
    _ < 2 ^ 53 := by norm_num

end Distance

end BenchmarkReport.Number
