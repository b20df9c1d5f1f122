/-
This file bounds the logarithms and finds that the decade of a width is not far from the width.
-/

import Mathlib.Tactic.Linarith
import BenchmarkReport.Number.Logarithm
import BenchmarkReport.Proofs.Number.Scientific

namespace BenchmarkReport.Number

section Series

variable {factor power : ℤ} {index : ℕ}

theorem logarithmUnits_pos : (0 : ℤ) < logarithmUnits := by decide

/-- A product with a factor of a ninth at most is a ninth at most. -/
theorem scaled_bounds (small : 9 * factor ≤ logarithmUnits) (nonnegative : 0 ≤ factor)
    (nonnegativePower : 0 ≤ power) :
    0 ≤ power * factor / logarithmUnits ∧ 9 * (power * factor / logarithmUnits) ≤ power := by
  have units := logarithmUnits_pos
  refine ⟨Int.ediv_nonneg (mul_nonneg nonnegativePower nonnegative) units.le, ?_⟩
  have cut := Int.ediv_mul_le (power * factor) units.ne'
  have product := mul_le_mul_of_nonneg_left small nonnegativePower
  refine le_of_mul_le_mul_right ?_ units
  linarith

/-- The terms fall as those of a geometric series do. -/
theorem oddSeries_bounds (small : 9 * factor ≤ logarithmUnits) (nonnegative : 0 ≤ factor)
    (terms : ℕ) (nonnegativePower : 0 ≤ power) (positive : 0 < index) :
    0 ≤ oddSeries factor terms power index ∧
      8 * oddSeries factor terms power index ≤ 9 * power := by
  induction terms generalizing power index with
  | zero =>
      rw [oddSeries_zero]
      omega
  | succ terms inductionHypothesis =>
      obtain ⟨nextNonnegative, next⟩ := scaled_bounds small nonnegative nonnegativePower
      obtain ⟨restNonnegative, rest⟩ :=
        inductionHypothesis nextNonnegative (by omega : 0 < index + 2)
      have term := Int.ediv_le_self (index : ℤ) nonnegativePower
      have termNonnegative := Int.ediv_nonneg nonnegativePower (Int.natCast_nonneg index)
      unfold oddSeries
      omega

/-- The logarithm of a quotient from one to two is three quarters at most. -/
theorem seriesLogarithm_bounds {numerator denominator : ℕ} (positive : 0 < denominator)
    (least : denominator ≤ numerator) (greatest : numerator < 2 * denominator) :
    0 ≤ seriesLogarithm numerator denominator ∧
      4 * seriesLogarithm numerator denominator ≤ 3 * logarithmUnits := by
  have units := logarithmUnits_pos
  unfold seriesLogarithm
  dsimp only
  generalize ratioEq : ((numerator : ℤ) - denominator) * logarithmUnits /
    ((numerator : ℤ) + denominator) = ratio
  have nonnegative : 0 ≤ ratio := by
    rw [← ratioEq]
    exact Int.ediv_nonneg (mul_nonneg (by omega) units.le) (by omega)
  have third : 3 * ratio ≤ logarithmUnits := by
    have cut := Int.ediv_mul_le (((numerator : ℤ) - denominator) * logarithmUnits)
      (by omega : (numerator : ℤ) + denominator ≠ 0)
    rw [ratioEq] at cut
    refine le_of_mul_le_mul_right ?_ (by omega : (0 : ℤ) < numerator + denominator)
    have distance : 3 * ((numerator : ℤ) - denominator) ≤ numerator + denominator := by omega
    have product := mul_le_mul_of_nonneg_right distance units.le
    linarith
  have ninth : 9 * (ratio * ratio / logarithmUnits) ≤ logarithmUnits := by
    have cut := Int.ediv_mul_le (ratio * ratio) units.ne'
    have square := mul_self_le_mul_self (by omega : 0 ≤ 3 * ratio) third
    refine le_of_mul_le_mul_right ?_ units
    linarith
  have factorNonnegative : 0 ≤ ratio * ratio / logarithmUnits :=
    Int.ediv_nonneg (mul_nonneg nonnegative nonnegative) units.le
  obtain ⟨least, bound⟩ := oddSeries_bounds ninth factorNonnegative 64 nonnegative one_pos
  omega

end Series

section Logarithms

variable {number : Float} {exact : ℚ} {top : ℤ}

/-- The logarithm of two in units. -/
def logarithmOfTwo : ℤ := 235865763225513294137944142764154484360

theorem seriesLogarithm_two : seriesLogarithm 2 1 = logarithmOfTwo := by decide +kernel

/-- A whole number of units with a sign is rounded once. -/
theorem exists_hasValue_signed (units : ℤ) {bound : ℚ} (within : |(units : ℚ)| ≤ bound)
    (normal : leastNormal ≤ bound) (small : bound ≤ overflow / 2 ^ 1) :
    ∃ value, HasValue (signed (units < 0) units.natAbs) value ∧
      |value - units| ≤ bound / 2 ^ 53 := by
  have magnitude : ((units.natAbs : ℕ) : ℚ) = |(units : ℚ)| := by
    rw [← Int.cast_natCast, Int.natCast_natAbs, Int.cast_abs]
  obtain ⟨value, valued, error⟩ :=
    (isRounded_ofNat units.natAbs).near (by rwa [magnitude, abs_abs]) normal small
  rw [magnitude] at error
  unfold signed
  split
  · rename_i negative
    have below : (units : ℚ) < 0 := by exact_mod_cast of_decide_eq_true negative
    rw [abs_of_neg below] at error
    refine ⟨-value, valued.neg, ?_⟩
    rwa [← abs_neg, neg_sub_left, add_comm, ← sub_neg_eq_add, neg_neg]
  · rename_i nonnegative
    have above : (0 : ℚ) ≤ units := by
      exact_mod_cast not_lt.mp (fun below => nonnegative (decide_eq_true below))
    rw [abs_of_nonneg above] at error
    exact ⟨value, valued, error⟩

/-- The highest bit of a positive double. -/
theorem exists_top (valued : HasValue number exact) (positive : 0 < exact) :
    ∃ binary, Extended.ofFloat number = .finite binary ∧ 0 < binary.mantissa ∧
      2 ^ (binary.exponent + binary.mantissa.log2) ≤ exact ∧
      exact < 2 ^ (binary.exponent + binary.mantissa.log2 + 1) := by
  obtain ⟨binary, read, rfl⟩ := valued
  have magnitude : binary.value = binary.mantissa * 2 ^ binary.exponent := by
    rw [← Binary.magnitude, ← abs_value, abs_of_pos positive]
  have unit := unit_pos binary.exponent
  have present : 0 < binary.mantissa := by
    refine Nat.pos_of_ne_zero fun none => ?_
    rw [magnitude, none, Nat.cast_zero, zero_mul] at positive
    exact lt_irrefl 0 positive
  refine ⟨binary, read, present, ?_, ?_⟩
  · have least : (2 : ℚ) ^ binary.mantissa.log2 ≤ binary.mantissa := by
      exact_mod_cast Nat.log2_self_le present.ne'
    rw [magnitude, pow_mul_unit]
    exact mul_le_mul_of_nonneg_right least unit.le
  · have greatest : (binary.mantissa : ℚ) < 2 ^ (binary.mantissa.log2 + 1) := by
      exact_mod_cast Nat.lt_log2_self
    rw [magnitude, add_assoc, ← Nat.cast_one, ← Nat.cast_add, pow_mul_unit]
    exact mul_lt_mul_of_pos_right greatest unit

theorem hasValue_logarithmUnits : HasValue (Float.ofNat logarithmUnits) (2 ^ 128) := by
  have units : ((logarithmUnits : ℕ) : ℚ) = 2 ^ 128 := cast_twoPower 128
  have rounded := isRounded_ofNat logarithmUnits
  rw [units] at rounded
  have double : IsDouble (2 ^ 128) := by
    have power : (2 ^ 128 : ℚ) = (1 : ℤ) * 2 ^ (128 : ℤ) := by norm_num
    rw [power]
    exact isDouble_of_le (by norm_num) (by decide)
  refine rounded.hasValue double ?_
  rw [abs_of_nonneg (by norm_num)]
  have unit : (1 : ℚ) < 2 ^ (896 : ℤ) := one_lt_zpow₀ (by norm_num) (by norm_num)
  rw [overflow_eq 128 896 rfl]
  exact lt_mul_of_one_lt_right (by norm_num) unit

/-- The number of units is the multiple for the highest bit and a rest of up to three quarters. -/
theorem exists_logarithm (valued : HasValue number exact) (positive : 0 < exact) :
    ∃ (binary : Binary) (top rest : ℤ), Extended.ofFloat number = .finite binary ∧
      2 ^ top ≤ exact ∧ exact < 2 ^ (top + 1) ∧
      binary.logarithm = rest + top * logarithmOfTwo ∧ 0 ≤ rest ∧ 4 * rest ≤ 3 * 2 ^ 128 := by
  obtain ⟨binary, read, present, lower, upper⟩ := exists_top valued positive
  have part := seriesLogarithm_bounds (twoPower_pos binary.mantissa.log2)
    (Nat.log2_self_le present.ne')
    (twoPower_succ binary.mantissa.log2 ▸ Nat.lt_log2_self)
  refine ⟨binary, binary.exponent + binary.mantissa.log2,
    seriesLogarithm binary.mantissa (twoPower binary.mantissa.log2), read, lower, upper, ?_, part⟩
  rw [← seriesLogarithm_two]
  rfl

/-- A number of units becomes a double in two roundings. -/
theorem exists_hasValue_units {units : ℤ} (within : |units| ≤ 2 ^ 139) :
    ∃ value, HasValue (signed (units < 0) units.natAbs / Float.ofNat logarithmUnits) value ∧
      |value - units / 2 ^ 128| ≤ 1 / 2 ^ 40 := by
  have withinCast : |(units : ℚ)| ≤ 2 ^ 139 := by exact_mod_cast within
  obtain ⟨numerator, valuedNumerator, errorNumerator⟩ := exists_hasValue_signed units
    withinCast (leastNormal_le_pow 139) (pow_le_overflow (by decide))
  have near := abs_le.mp errorNumerator
  have size := abs_le.mp withinCast
  have small : |numerator / 2 ^ 128| ≤ 2 ^ 12 := by
    rw [abs_div, abs_of_pos (by norm_num : (0 : ℚ) < 2 ^ 128), div_le_iff₀ (by norm_num), abs_le]
    constructor <;> linarith
  obtain ⟨value, valuedQuotient, error⟩ := (valuedNumerator.div hasValue_logarithmUnits
    (by norm_num)).near small (leastNormal_le_pow 12) (pow_le_overflow (by decide))
  have nearQuotient := abs_le.mp error
  exact ⟨value, valuedQuotient, abs_le.mpr ⟨by linarith, by linarith⟩⟩

/-- The logarithm is known from the highest bit up to three quarters. -/
theorem exists_hasValue_naturalLogarithm (valued : HasValue number exact)
    (least : 2 ^ (-100 : ℤ) ≤ exact) :
    ∃ top : ℤ, 2 ^ top ≤ exact ∧ exact < 2 ^ (top + 1) ∧ -100 ≤ top ∧ top < 1024 ∧
      ∃ value, HasValue (naturalLogarithm number) value ∧
        top * logarithmOfTwo / 2 ^ 128 - 1 / 2 ^ 40 ≤ value ∧
        value ≤ top * logarithmOfTwo / 2 ^ 128 + 3 / 4 + 1 / 2 ^ 40 := by
  have positive : 0 < exact := (unit_pos (-100)).trans_le least
  have bounded := valued.bounded
  rw [abs_of_pos positive] at bounded
  obtain ⟨binary, top, rest, read, lower, upper, units, restLeast, restGreatest⟩ :=
    exists_logarithm valued positive
  have low : -100 ≤ top := by
    have above := (zpow_lt_zpow_iff_right₀ (by norm_num)).mp (least.trans_lt upper)
    omega
  have high : top < 1024 := (zpow_lt_zpow_iff_right₀ (by norm_num)).mp (lower.trans_lt bounded)
  have within : |binary.logarithm| ≤ 2 ^ 139 := by
    rw [units, abs_le]
    unfold logarithmOfTwo
    omega
  obtain ⟨value, valuedUnits, error⟩ := exists_hasValue_units within
  have quotient : naturalLogarithm number =
      signed (binary.logarithm < 0) binary.logarithm.natAbs / Float.ofNat logarithmUnits := by
    unfold naturalLogarithm
    rw [read]
  refine ⟨top, lower, upper, low, high, value, quotient ▸ valuedUnits, ?_⟩
  have exactUnits : (binary.logarithm : ℚ) = rest + top * logarithmOfTwo := by exact_mod_cast units
  have restLeastCast : (0 : ℚ) ≤ rest := by exact_mod_cast restLeast
  have restGreatestCast : (4 * rest : ℚ) ≤ 3 * 2 ^ 128 := by exact_mod_cast restGreatest
  have near := abs_le.mp error
  rw [exactUnits] at near
  constructor <;> linarith

end Logarithms

section Powers

/-- A thousand digits and their bits. -/
theorem pow_thousand_bounds : (2 : ℚ) ^ 3321 ≤ 10 ^ 1000 ∧ (10 : ℚ) ^ 1000 ≤ 2 ^ 3322 := by
  have least : 2 ^ 3321 ≤ 10 ^ 1000 := by decide +kernel
  have greatest : 10 ^ 1000 ≤ 2 ^ 3322 := by decide +kernel
  have castLeast : ((2 ^ 3321 : ℕ) : ℚ) ≤ (10 ^ 1000 : ℕ) := Nat.cast_le.mpr least
  have castGreatest : ((10 ^ 1000 : ℕ) : ℚ) ≤ (2 ^ 3322 : ℕ) := Nat.cast_le.mpr greatest
  rw [Nat.cast_pow, Nat.cast_pow] at castLeast castGreatest
  exact ⟨castLeast, castGreatest⟩

variable {exponent bits : ℤ}

theorem zpow_thousand (base : ℚ) (exponent : ℤ) :
    (base ^ exponent) ^ 1000 = (base ^ 1000) ^ exponent := by
  rw [← zpow_natCast, ← zpow_natCast, ← zpow_mul, ← zpow_mul, mul_comm]

theorem two_zpow_mul (bits : ℕ) (exponent : ℤ) :
    ((2 : ℚ) ^ bits) ^ exponent = 2 ^ (bits * exponent) := by
  rw [← zpow_natCast, ← zpow_mul]

/-- A power of ten is compared with a power of two by their bits. -/
theorem ten_zpow_le (few : 3321 * exponent ≤ 1000 * bits) (many : 3322 * exponent ≤ 1000 * bits) :
    (10 : ℚ) ^ exponent ≤ 2 ^ bits := by
  obtain ⟨least, greatest⟩ := pow_thousand_bounds
  refine (pow_le_pow_iff_left₀ (zpow_nonneg (by norm_num) _) (zpow_nonneg (by norm_num) _)
    (by decide : 1000 ≠ 0)).mp ?_
  rw [zpow_thousand, zpow_thousand 2, two_zpow_mul]
  rcases le_total 0 exponent with nonnegative | nonpositive
  · calc ((10 : ℚ) ^ 1000) ^ exponent
        ≤ (2 ^ 3322) ^ exponent := zpow_le_zpow_left₀ nonnegative (by positivity) greatest
      _ = 2 ^ (3322 * exponent) := two_zpow_mul 3322 exponent
      _ ≤ 2 ^ (1000 * bits) := zpow_le_zpow_right₀ (by norm_num) many
  · have inverse := zpow_le_zpow_left₀ (by omega : 0 ≤ -exponent) (by positivity) least
    rw [zpow_neg, zpow_neg, inv_le_inv₀ (zpow_pos (by positivity) _) (zpow_pos (by positivity) _)]
      at inverse
    calc ((10 : ℚ) ^ 1000) ^ exponent
        ≤ (2 ^ 3321) ^ exponent := inverse
      _ = 2 ^ (3321 * exponent) := two_zpow_mul 3321 exponent
      _ ≤ 2 ^ (1000 * bits) := zpow_le_zpow_right₀ (by norm_num) few

theorem le_ten_zpow (few : 1000 * bits ≤ 3321 * exponent) (many : 1000 * bits ≤ 3322 * exponent) :
    (2 : ℚ) ^ bits ≤ 10 ^ exponent := by
  have inverse := ten_zpow_le (by omega : 3321 * -exponent ≤ 1000 * -bits) (by omega)
  rwa [zpow_neg, zpow_neg, inv_le_inv₀ (zpow_pos (by norm_num) _) (unit_pos _)] at inverse

/-- The greater one of the two powers of ten that are off. -/
theorem raisedPower_bounds : 10 ^ 210 ≤ 6849404215651260 * 2 ^ 645 ∧
    2 ^ 51 * (6849404215651260 * 2 ^ 645) ≤ (2 ^ 51 + 1) * 10 ^ 210 := by decide +kernel

theorem isRounded_tenPower (least : -2 ^ 11 ≤ exponent) (greatest : exponent ≤ 2 ^ 11) :
    IsRounded (10 ^ exponent) (Float.ofScientific 1 (exponent < 0) exponent.natAbs) := by
  obtain ⟨product, quotient⟩ := isRounded_ofScientific 1 (by omega : exponent.natAbs ≤ 2 ^ 11)
  rw [Nat.cast_one, one_mul, ← zpow_natCast] at product
  rw [Nat.cast_one, one_div, ← zpow_natCast, ← zpow_neg] at quotient
  rcases lt_or_ge exponent 0 with negative | nonnegative
  · have same : -(exponent.natAbs : ℤ) = exponent := by omega
    rw [same] at quotient
    rwa [decide_eq_true negative]
  · have same : (exponent.natAbs : ℤ) = exponent := by omega
    rw [same] at product
    rwa [decide_eq_false nonnegative.not_gt]

/-- The powers of ten that are off are so by one double. -/
theorem exists_hasValue_powerOfTen (least : -2 ^ 11 ≤ exponent) (greatest : exponent ≤ 2 ^ 11)
    (normal : leastNormal ≤ 10 ^ exponent) (small : 10 ^ exponent ≤ overflow / 2 ^ 1) :
    ∃ value, HasValue (powerOfTen exponent) value ∧
      |value - 10 ^ exponent| ≤ 10 ^ exponent / 2 ^ 51 := by
  have positive : (0 : ℚ) < 10 ^ exponent := zpow_pos (by norm_num) _
  unfold powerOfTen
  split
  · rename_i same
    refine ⟨5960464477539063 * 2 ^ 24, ⟨⟨false, 5960464477539063, 24⟩, by decide +kernel, ?_⟩, ?_⟩
    · norm_num [Binary.value, Binary.magnitude]
    · rw [same]
      norm_num
  · split
    · rename_i same
      obtain ⟨above, near⟩ := raisedPower_bounds
      have lower : (10 : ℚ) ^ 210 ≤ 6849404215651260 * 2 ^ 645 := by exact_mod_cast above
      have upper : (2 : ℚ) ^ 51 * (6849404215651260 * 2 ^ 645) ≤ (2 ^ 51 + 1) * 10 ^ 210 := by
        exact_mod_cast near
      refine ⟨6849404215651260 * 2 ^ 645,
        ⟨⟨false, 6849404215651260, 645⟩, by decide +kernel, ?_⟩, ?_⟩
      · rw [Binary.value, if_neg Bool.false_ne_true]
        rfl
      · have power : (10 : ℚ) ^ exponent = 10 ^ 210 := by
          rw [same]
          rfl
        rw [power, abs_of_nonneg (sub_nonneg.mpr lower), le_div_iff₀ (by positivity)]
        generalize (6849404215651260 * 2 ^ 645 : ℚ) = raised at upper ⊢
        generalize (10 ^ 210 : ℚ) = exact at upper ⊢
        linarith
    · obtain ⟨value, valued, error⟩ := (isRounded_tenPower least greatest).near
        (abs_of_pos positive).le normal small
      refine ⟨value, valued, error.trans ?_⟩
      exact div_le_div_of_nonneg_left positive.le (by norm_num) (by norm_num)

end Powers

section Decades

variable {width : Float} {exact logarithm : ℚ} {top : ℤ}

theorem hasValue_logarithmOfTen :
    HasValue (naturalLogarithm 10) (5184960683398422 * 2 ^ (-51 : ℤ)) :=
  ⟨⟨false, 5184960683398422, -51⟩, by decide +kernel, by
    rw [Binary.value, if_neg Bool.false_ne_true, Binary.magnitude, Nat.cast_ofNat]⟩

/-- The exponent of a decade follows from the highest bit of the width. -/
theorem exists_hasValue_exponent (valued : HasValue (naturalLogarithm width) logarithm)
    (low : -100 ≤ top) (high : top < 1024)
    (least : top * logarithmOfTwo / 2 ^ 128 - 1 / 2 ^ 40 ≤ logarithm)
    (greatest : logarithm ≤ top * logarithmOfTwo / 2 ^ 128 + 3 / 4 + 1 / 2 ^ 40) :
    ∃ exponent : ℤ, HasValue (floor (naturalLogarithm width / naturalLogarithm 10)) exponent ∧
      1000 * (top - 4) ≤ 3321 * exponent ∧ 1000 * (top - 4) ≤ 3322 * exponent ∧
      3321 * exponent ≤ 1000 * (top + 2) ∧ 3322 * exponent ≤ 1000 * (top + 2) := by
  have lowCast : (-100 : ℚ) ≤ top := by exact_mod_cast low
  have highCast : (top : ℚ) < 1024 := by exact_mod_cast high
  have two : (logarithmOfTwo : ℚ) = 235865763225513294137944142764154484360 := rfl
  rw [two] at least greatest
  have ten : (5184960683398422 * 2 ^ (-51 : ℤ) : ℚ) = 5184960683398422 / 2 ^ 51 := by norm_num
  have valuedTen := hasValue_logarithmOfTen
  rw [ten] at valuedTen
  have small : |logarithm / (5184960683398422 / 2 ^ 51)| ≤ 2 ^ 10 := by
    rw [abs_div, abs_of_pos (by norm_num : (0 : ℚ) < 5184960683398422 / 2 ^ 51),
      div_le_iff₀ (by norm_num), abs_le]
    constructor <;> linarith
  obtain ⟨quotient, valuedQuotient, error⟩ := (valued.div valuedTen (by norm_num)).near small
    (leastNormal_le_pow 10) (pow_le_overflow (by decide))
  have near := abs_le.mp error
  have size := abs_le.mp small
  have few : |quotient| < 2 ^ 52 := by
    rw [abs_lt]
    constructor <;> linarith
  have below := Int.floor_le quotient
  have above := Int.lt_floor_add_one quotient
  have first : (1000 * (top - 4) : ℚ) ≤ 3321 * ⌊quotient⌋ := by linarith
  have second : (1000 * (top - 4) : ℚ) ≤ 3322 * ⌊quotient⌋ := by linarith
  have third : (3321 * ⌊quotient⌋ : ℚ) ≤ 1000 * (top + 2) := by linarith
  have fourth : (3322 * ⌊quotient⌋ : ℚ) ≤ 1000 * (top + 2) := by linarith
  exact ⟨⌊quotient⌋, hasValue_floor valuedQuotient few, by exact_mod_cast first,
    by exact_mod_cast second, by exact_mod_cast third, by exact_mod_cast fourth⟩

theorem decade_eq {exponent : ℤ}
    (valued : HasValue (floor (naturalLogarithm width / naturalLogarithm 10)) exponent) :
    decade width = powerOfTen exponent := by
  obtain ⟨binary, read, value⟩ := valued
  unfold decade
  dsimp only
  rw [read, ← truncated_whole value]

/-- A decade is at most four times as wide as the width that it is for, and not much narrower. -/
theorem exists_hasValue_decade (valued : HasValue width exact) (least : 2 ^ (-100 : ℤ) ≤ exact)
    (greatest : exact ≤ overflow / 2 ^ 4) :
    ∃ whole, HasValue (decade width) whole ∧ exact / 33 ≤ whole ∧ whole ≤ 41 / 10 * exact := by
  obtain ⟨top, lower, upper, low, high, logarithm, valuedLogarithm, lowerBound, upperBound⟩ :=
    exists_hasValue_naturalLogarithm valued least
  obtain ⟨exponent, valuedExponent, first, second, third, fourth⟩ :=
    exists_hasValue_exponent valuedLogarithm low high lowerBound upperBound
  have narrow := le_ten_zpow first second
  have wide := ten_zpow_le third fourth
  -- The highest bit alone decides on the exponent, which leaves five bits on one side of the width
  -- and two on the other.
  have lowerPower : exact ≤ 32 * 10 ^ exponent := by
    have together : (2 : ℚ) ^ (top + 1) = 2 ^ 5 * 2 ^ (top - 4) := by
      rw [← pow_mul_unit]
      congr 1
      omega
    linarith
  have upperPower : (10 : ℚ) ^ exponent ≤ 4 * exact := by
    have together : (2 : ℚ) ^ (top + 2) = 2 ^ 2 * 2 ^ top := pow_mul_unit 2 top
    linarith
  have normal : leastNormal ≤ 10 ^ exponent := by
    have smallest : leastNormal ≤ 2 ^ (-105 : ℤ) := zpow_le_zpow_right₀ (by norm_num) (by decide)
    have unit : (2 : ℚ) ^ (-100 : ℤ) = 32 * 2 ^ (-105 : ℤ) := by norm_num
    linarith
  obtain ⟨whole, valuedWhole, error⟩ := exists_hasValue_powerOfTen (by omega) (by omega) normal
    (by linarith [overflow_pos])
  rw [← decade_eq valuedExponent] at valuedWhole
  have near := abs_le.mp error
  refine ⟨whole, valuedWhole, ?_, ?_⟩ <;> linarith

end Decades

end BenchmarkReport.Number
