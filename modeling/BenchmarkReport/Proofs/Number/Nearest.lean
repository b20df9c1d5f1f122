/-
This file rounds rational numbers to doubles. A number goes to the nearest double, and to the even
one where two are equally near. There is no greatest double here.
-/

import BenchmarkReport.Number.Binary
import Mathlib.Algebra.Order.Archimedean.Basic
import Mathlib.Data.Int.Log
import Mathlib.Data.Rat.Floor
import Mathlib.Tactic.FieldSimp
import Mathlib.Tactic.Linarith
import Mathlib.Tactic.Positivity
import Mathlib.Tactic.Ring

namespace BenchmarkReport.Number

/-- A whole number that is at most a half away, and even if it is a half away. -/
def IsNearestWhole (exact : ℚ) (whole : ℤ) : Prop :=
  |exact - whole| < 1 / 2 ∨ |exact - whole| = 1 / 2 ∧ 2 ∣ whole

/-- The nearest whole number. A half goes to the even neighbour. -/
def nearestWhole (exact : ℚ) : ℤ :=
  if exact - ⌊exact⌋ < 1 / 2 then ⌊exact⌋
  else if 1 / 2 < exact - ⌊exact⌋ then ⌊exact⌋ + 1
  else ⌊exact⌋ + ⌊exact⌋ % 2

section Whole

variable {exact other : ℚ} {whole : ℤ}

theorem isNearestWhole_nearestWhole (exact : ℚ) : IsNearestWhole exact (nearestWhole exact) := by
  have lower := Int.floor_le exact
  have upper := Int.lt_floor_add_one exact
  unfold nearestWhole IsNearestWhole
  split
  · left
    rw [abs_lt]
    constructor <;> linarith
  · split
    · left
      rw [abs_lt]
      push_cast
      constructor <;> linarith
    · have half : exact - ⌊exact⌋ = 1 / 2 := by linarith
      right
      rcases Int.emod_two_eq_zero_or_one ⌊exact⌋ with even | odd
      · rw [even, add_zero, half]
        exact ⟨abs_of_pos (by norm_num), by omega⟩
      · rw [odd]
        push_cast
        refine ⟨?_, by omega⟩
        rw [← sub_sub, half]
        norm_num

theorem IsNearestWhole.distance (nearest : IsNearestWhole exact whole) :
    |exact - whole| ≤ 1 / 2 := by
  rcases nearest with near | ⟨half, -⟩
  · exact near.le
  · exact half.le

/-- Greater numbers have no smaller nearest whole numbers. -/
theorem IsNearestWhole.mono {second : ℤ} (nearest : IsNearestWhole exact whole)
    (nearestOther : IsNearestWhole other second) (ordered : exact ≤ other) : whole ≤ second := by
  by_contra reversed
  have apart : (second : ℚ) + 1 ≤ whole := by exact_mod_cast Int.not_le.mp reversed
  have bound := abs_le.mp nearest.distance
  have boundOther := abs_le.mp nearestOther.distance
  -- both are a half away, from the two sides of two neighbours, which are not both even
  have next : (whole : ℚ) = second + 1 := by linarith [bound.1, boundOther.2]
  have neighbours : whole = second + 1 := by exact_mod_cast next
  have below : exact - whole = -(1 / 2) := by linarith [bound.1, boundOther.2]
  have above : other - second = 1 / 2 := by linarith [bound.1, boundOther.2]
  rcases nearest with near | ⟨-, even⟩
  · rw [below, abs_neg, abs_of_pos (by norm_num)] at near
    exact lt_irrefl _ near
  · rcases nearestOther with near | ⟨-, evenOther⟩
    · rw [above, abs_of_pos (by norm_num)] at near
      exact lt_irrefl _ near
    · omega

theorem IsNearestWhole.eq_nearestWhole (nearest : IsNearestWhole exact whole) :
    whole = nearestWhole exact :=
  le_antisymm (nearest.mono (isNearestWhole_nearestWhole exact) le_rfl)
    ((isNearestWhole_nearestWhole exact).mono nearest le_rfl)

theorem nearestWhole_mono (ordered : exact ≤ other) : nearestWhole exact ≤ nearestWhole other :=
  (isNearestWhole_nearestWhole exact).mono (isNearestWhole_nearestWhole other) ordered

theorem nearestWhole_intCast (whole : ℤ) : nearestWhole whole = whole := by
  have near : IsNearestWhole whole whole := .inl (by norm_num)
  exact near.eq_nearestWhole.symm

theorem nearestWhole_neg (exact : ℚ) : nearestWhole (-exact) = -nearestWhole exact := by
  have mirrored : IsNearestWhole (-exact) (-nearestWhole exact) := by
    have distance : -exact - ((-nearestWhole exact : ℤ) : ℚ) = -(exact - nearestWhole exact) := by
      push_cast
      ring
    unfold IsNearestWhole
    rw [distance, abs_neg, dvd_neg]
    exact isNearestWhole_nearestWhole exact
  exact mirrored.eq_nearestWhole.symm

end Whole

/-- The power of two whose multiples are the doubles around a number. -/
def place (exact : ℚ) : ℤ :=
  max (Int.log 2 |exact| - fractionBits) leastExponent

/-- The nearest double to a number. -/
def nearest (exact : ℚ) : ℚ :=
  nearestWhole (exact / 2 ^ place exact) * 2 ^ place exact

/-- The values of doubles, and what would be one if there were no greatest one. -/
def IsDouble (exact : ℚ) : Prop :=
  ∃ mantissa exponent : ℤ, |mantissa| < 2 ^ 53 ∧ leastExponent ≤ exponent ∧
    exact = mantissa * 2 ^ exponent

section Places

variable {exact other : ℚ}

theorem leastExponent_le_place (exact : ℚ) : leastExponent ≤ place exact :=
  le_max_right _ _

theorem abs_lt_place (exact : ℚ) : |exact| < 2 ^ (place exact + 53) := by
  have fits := Int.lt_zpow_succ_log_self (R := ℚ) (by norm_num : 1 < 2) |exact|
  refine lt_of_lt_of_le fits ?_
  apply zpow_le_zpow_right₀ (by norm_num)
  unfold place fractionBits
  omega

/-- The doubles around a number that is not tiny have all their bits. -/
theorem place_le_abs (nonzero : exact ≠ 0) :
    place exact = leastExponent ∨ 2 ^ (place exact + 52) ≤ |exact| := by
  rcases max_choice (Int.log 2 |exact| - fractionBits) leastExponent with full | least
  · right
    have log : place exact + 52 = Int.log 2 |exact| := by
      unfold place
      rw [full]
      unfold fractionBits
      omega
    rw [log]
    exact_mod_cast Int.zpow_log_le_self (by norm_num : 1 < 2) (abs_pos.mpr nonzero)
  · exact .inl least

theorem place_mono (positive : 0 < exact) (ordered : exact ≤ other) : place exact ≤ place other := by
  have logs : Int.log 2 |exact| ≤ Int.log 2 |other| := by
    apply Int.log_mono_right (abs_pos.mpr positive.ne')
    rwa [abs_of_pos positive, abs_of_pos (positive.trans_le ordered)]
  unfold place
  omega

theorem le_place {exponent : ℤ} (lower : 2 ^ (exponent + 52) ≤ |exact|) :
    exponent ≤ place exact := by
  have positive : 0 < |exact| := (zpow_pos (by norm_num) _).trans_le lower
  have log : exponent + 52 ≤ Int.log 2 |exact| :=
    (Int.zpow_le_iff_le_log (by norm_num) positive).mp (by exact_mod_cast lower)
  unfold place fractionBits
  omega

theorem place_le {exponent : ℤ} (nonzero : exact ≠ 0) (upper : |exact| < 2 ^ (exponent + 53))
    (least : leastExponent ≤ exponent) : place exact ≤ exponent := by
  have log : Int.log 2 |exact| < exponent + 53 :=
    (Int.lt_zpow_iff_log_lt (by norm_num) (abs_pos.mpr nonzero)).mp (by exact_mod_cast upper)
  unfold place fractionBits
  omega

theorem place_of_lt (nonzero : exact ≠ 0) (upper : |exact| < 2 ^ (leastExponent + 53)) :
    place exact = leastExponent :=
  le_antisymm (place_le nonzero upper le_rfl) (leastExponent_le_place exact)

theorem place_neg (exact : ℚ) : place (-exact) = place exact := by
  rw [place, place, abs_neg]

/-- A number with a bit at this power of two and without a greater one. -/
theorem place_of_bounds (top : ℤ) (lower : 2 ^ top ≤ |exact|) (upper : |exact| < 2 ^ (top + 1)) :
    place exact = max (top - 52) leastExponent := by
  have positive : 0 < |exact| := (zpow_pos (by norm_num) top).trans_le lower
  have atLeast : top ≤ Int.log 2 |exact| :=
    (Int.zpow_le_iff_le_log (by norm_num) positive).mp (by exact_mod_cast lower)
  have atMost : Int.log 2 |exact| < top + 1 :=
    (Int.lt_zpow_iff_log_lt (by norm_num) positive).mp (by exact_mod_cast upper)
  have log : Int.log 2 |exact| = top := by omega
  rw [place, log]
  rfl

end Places

section Doubles

variable {exact other : ℚ}

theorem unit_pos (power : ℤ) : (0 : ℚ) < 2 ^ power :=
  zpow_pos (by norm_num) power

theorem pow_mul_unit (bits : ℕ) (power : ℤ) : (2 : ℚ) ^ (power + bits) = 2 ^ bits * 2 ^ power := by
  rw [add_comm, zpow_add₀ (by norm_num), zpow_natCast]

/-- The place of a whole number of units with all its bits is not below the unit. -/
theorem le_place_of_full {mantissa : ℕ} (full : 2 ^ 52 ≤ mantissa) (exponent : ℤ) :
    exponent ≤ place (mantissa * 2 ^ exponent) := by
  have unit := unit_pos exponent
  apply le_place
  calc (2 : ℚ) ^ (exponent + 52)
      = 2 ^ 52 * 2 ^ exponent := pow_mul_unit 52 exponent
    _ ≤ mantissa * 2 ^ exponent := mul_le_mul_of_nonneg_right (by exact_mod_cast full) unit.le
    _ = |(mantissa * 2 ^ exponent : ℚ)| := (abs_of_nonneg (by positivity)).symm

theorem nearest_zero : nearest 0 = 0 := by
  have zero : nearestWhole 0 = 0 := by exact_mod_cast nearestWhole_intCast 0
  rw [nearest, zero_div, zero, Int.cast_zero, zero_mul]

theorem nearest_neg (exact : ℚ) : nearest (-exact) = -nearest exact := by
  rw [nearest, place_neg, neg_div, nearestWhole_neg, nearest]
  push_cast
  ring

/-- A number in units of its place has at most 53 bits. -/
theorem abs_div_place_lt (exact : ℚ) : |exact / 2 ^ place exact| < 2 ^ 53 := by
  rw [abs_div, abs_of_pos (unit_pos _), div_lt_iff₀ (unit_pos _), ← pow_mul_unit]
  exact abs_lt_place exact

theorem abs_nearestWhole_le (exact : ℚ) : |nearestWhole (exact / 2 ^ place exact)| ≤ 2 ^ 53 := by
  have bounds := abs_lt.mp (abs_div_place_lt exact)
  have above : nearestWhole (exact / 2 ^ place exact) ≤ nearestWhole ((2 ^ 53 : ℤ) : ℚ) :=
    nearestWhole_mono (by push_cast; exact bounds.2.le)
  have below : nearestWhole ((-2 ^ 53 : ℤ) : ℚ) ≤ nearestWhole (exact / 2 ^ place exact) :=
    nearestWhole_mono (by push_cast; exact bounds.1.le)
  rw [nearestWhole_intCast] at above below
  exact abs_le.mpr ⟨below, above⟩

/-- A number with all its bits keeps them. -/
theorem le_nearestWhole (full : 2 ^ (place exact + 52) ≤ exact) :
    2 ^ 52 ≤ nearestWhole (exact / 2 ^ place exact) := by
  have enough : ((2 ^ 52 : ℤ) : ℚ) ≤ exact / 2 ^ place exact := by
    rw [le_div_iff₀ (unit_pos _), Int.cast_pow, Int.cast_ofNat, ← pow_mul_unit]
    exact full
  rw [← nearestWhole_intCast (2 ^ 52)]
  exact nearestWhole_mono enough

/-- A whole number of units may be so great that the unit is doubled. -/
theorem isDouble_of_le {mantissa exponent : ℤ} (bits : |mantissa| ≤ 2 ^ 53)
    (least : leastExponent ≤ exponent) : IsDouble (mantissa * 2 ^ exponent) := by
  rcases lt_or_eq_of_le bits with fewer | full
  · exact ⟨mantissa, exponent, fewer, least, rfl⟩
  · have halves : mantissa = 2 * (mantissa / 2) := by
      rcases abs_eq (by norm_num) |>.mp full with same | same <;> omega
    refine ⟨mantissa / 2, exponent + 1, ?_, by omega, ?_⟩
    · rcases abs_eq (by norm_num) |>.mp full with same | same <;> rw [same] <;> decide
    · rw [zpow_add₀ (by norm_num), zpow_one]
      conv_lhs => rw [halves]
      push_cast
      ring

theorem IsDouble.neg (double : IsDouble exact) : IsDouble (-exact) := by
  obtain ⟨mantissa, exponent, bits, least, rfl⟩ := double
  exact ⟨-mantissa, exponent, by rwa [abs_neg], least, by push_cast; ring⟩

theorem IsDouble.abs (double : IsDouble exact) : IsDouble |exact| := by
  rcases abs_choice exact with same | same <;> rw [same]
  · exact double
  · exact double.neg

theorem IsDouble.twice (double : IsDouble exact) : IsDouble (2 * exact) := by
  obtain ⟨mantissa, exponent, bits, least, rfl⟩ := double
  refine ⟨mantissa, exponent + 1, bits, by omega, ?_⟩
  rw [zpow_add_one₀ two_ne_zero]
  ring

/-- A double stays what it is. -/
theorem nearest_of_isDouble (double : IsDouble exact) : nearest exact = exact := by
  by_cases zero : exact = 0
  · rw [zero, nearest_zero]
  obtain ⟨mantissa, exponent, bits, least, rfl⟩ := double
  have within : place (mantissa * 2 ^ exponent : ℚ) ≤ exponent := by
    have bound : |(mantissa * 2 ^ exponent : ℚ)| < 2 ^ (exponent + 53) := by
      rw [abs_mul, abs_of_pos (unit_pos exponent), add_comm, zpow_add₀ (by norm_num)]
      apply mul_lt_mul_of_pos_right _ (unit_pos exponent)
      exact_mod_cast bits
    exact place_le zero bound least
  obtain ⟨gap, same⟩ := Int.le.dest within
  have units : (mantissa * 2 ^ exponent : ℚ) / 2 ^ place (mantissa * 2 ^ exponent : ℚ) =
      ((mantissa * 2 ^ gap : ℤ) : ℚ) := by
    rw [div_eq_iff (unit_pos _).ne']
    conv_lhs => rw [← same, zpow_add₀ (by norm_num), zpow_natCast]
    push_cast
    ring
  rw [nearest, units, nearestWhole_intCast, ← units, div_mul_cancel₀ _ (unit_pos _).ne']

theorem nearest_nonneg (nonnegative : 0 ≤ exact) : 0 ≤ nearest exact := by
  have zero : nearestWhole 0 = 0 := by exact_mod_cast nearestWhole_intCast 0
  have whole : nearestWhole 0 ≤ nearestWhole (exact / 2 ^ place exact) :=
    nearestWhole_mono (div_nonneg nonnegative (unit_pos _).le)
  rw [zero] at whole
  exact mul_nonneg (by exact_mod_cast whole) (unit_pos _).le

/-- Doubles are multiples of the least one. -/
theorem IsDouble.units (double : IsDouble exact) :
    ∃ count : ℤ, exact = count * 2 ^ leastExponent := by
  obtain ⟨mantissa, exponent, -, least, rfl⟩ := double
  obtain ⟨gap, same⟩ := Int.le.dest least
  refine ⟨mantissa * 2 ^ gap, ?_⟩
  rw [← same, pow_mul_unit]
  push_cast
  ring

/-- Two numbers of one place are rounded to the same units. A number of a greater place is not
rounded below all the doubles of a smaller one. -/
theorem nearest_mono_of_pos (positive : 0 < exact) (ordered : exact ≤ other) :
    nearest exact ≤ nearest other := by
  rcases (place_mono positive ordered).eq_or_lt with same | apart
  · rw [nearest, nearest, same]
    apply mul_le_mul_of_nonneg_right _ (unit_pos _).le
    exact_mod_cast nearestWhole_mono (div_le_div_of_nonneg_right ordered (unit_pos _).le)
  · have positiveOther := positive.trans_le ordered
    have full : 2 ^ (place other + 52) ≤ other := by
      rcases place_le_abs positiveOther.ne' with least | full
      · have atLeast := leastExponent_le_place exact
        omega
      · rwa [abs_of_pos positiveOther] at full
    calc nearest exact
        ≤ 2 ^ 53 * 2 ^ place exact := by
          apply mul_le_mul_of_nonneg_right _ (unit_pos _).le
          exact_mod_cast (abs_le.mp (abs_nearestWhole_le exact)).2
      _ = 2 ^ (place exact + 53) := (pow_mul_unit 53 _).symm
      _ ≤ 2 ^ (place other + 52) := zpow_le_zpow_right₀ (by norm_num) (by omega)
      _ = 2 ^ 52 * 2 ^ place other := pow_mul_unit 52 _
      _ ≤ nearest other := by
          apply mul_le_mul_of_nonneg_right _ (unit_pos _).le
          exact_mod_cast le_nearestWhole full

/-- Rounding keeps the order of numbers. -/
theorem nearest_mono (ordered : exact ≤ other) : nearest exact ≤ nearest other := by
  rcases lt_or_ge 0 exact with positive | nonpositive
  · exact nearest_mono_of_pos positive ordered
  · rcases lt_or_ge other 0 with negative | nonnegative
    · have mirrored := nearest_mono_of_pos (neg_pos.mpr negative) (neg_le_neg ordered)
      rw [nearest_neg, nearest_neg] at mirrored
      exact neg_le_neg_iff.mp mirrored
    · have mirrored := nearest_nonneg (neg_nonneg.mpr nonpositive)
      rw [nearest_neg] at mirrored
      exact (neg_nonneg.mp mirrored).trans (nearest_nonneg nonnegative)

/-- A number within the limits of a double stays there. -/
theorem abs_nearest_le (double : IsDouble other) (within : |exact| ≤ other) :
    |nearest exact| ≤ other := by
  obtain ⟨least, greatest⟩ := abs_le.mp within
  have below := nearest_mono least
  have above := nearest_mono greatest
  rw [nearest_neg, nearest_of_isDouble double] at below
  rw [nearest_of_isDouble double] at above
  exact abs_le.mpr ⟨below, above⟩

/-- The difference of two doubles does not vanish when it is rounded. -/
theorem nearest_sub_pos (double : IsDouble exact) (doubleOther : IsDouble other)
    (less : exact < other) : 0 < nearest (other - exact) := by
  obtain ⟨count, rfl⟩ := double.units
  obtain ⟨countOther, rfl⟩ := doubleOther.units
  have unit := unit_pos leastExponent
  have apart : count < countOther := by
    exact_mod_cast (mul_lt_mul_iff_left₀ unit).mp less
  have least : IsDouble (2 ^ leastExponent) :=
    ⟨1, leastExponent, by norm_num, le_rfl, by rw [Int.cast_one, one_mul]⟩
  calc (0 : ℚ)
      < 2 ^ leastExponent := unit
    _ = nearest (2 ^ leastExponent) := (nearest_of_isDouble least).symm
    _ ≤ nearest ((countOther - count : ℤ) * 2 ^ leastExponent) := by
      apply nearest_mono
      apply le_mul_of_one_le_left unit.le
      exact_mod_cast (by omega : 1 ≤ countOther - count)
    _ = nearest (countOther * 2 ^ leastExponent - count * 2 ^ leastExponent) := by
      rw [Int.cast_sub, sub_mul]

end Doubles

end BenchmarkReport.Number
