/-
This file shows that the operations on unpacked doubles give the nearest double to the exact result,
and that unpacked doubles are compared by the numbers that they stand for.
-/

import BenchmarkReport.Proofs.Number.Rounding

namespace BenchmarkReport.Number

open Float.Model Float.Model.UnpackedFloat

section Signs

variable (sign first second : Sign)

theorem signFactor_neg : signFactor (-sign) = -signFactor sign := by
  cases sign <;> decide +kernel

theorem signFactor_mul : signFactor (first * second) = signFactor first * signFactor second := by
  cases first <;> cases second <;> decide +kernel

theorem signFactor_div : signFactor (first / second) = signFactor first / signFactor second := by
  cases first <;> cases second <;> decide +kernel

theorem apply_cast (whole : ℤ) : ((sign.apply whole : ℤ) : ℚ) = signFactor sign * whole := by
  cases sign with
  | negative =>
      rw [signFactor, neg_one_mul]
      exact Int.cast_neg whole
  | positive =>
      rw [signFactor, one_mul]
      rfl

theorem apply_neg (whole : ℤ) : (-sign).apply whole = -sign.apply whole := by
  cases sign with
  | negative => exact (neg_neg whole).symm
  | positive => rfl

end Signs

section Sums

variable {value first second : UnpackedFloat} {exact exactFirst exactSecond : ℚ}

theorem Denotes.isDouble (denotes : Denotes exact value) : IsDouble exact := by
  cases denotes with
  | zero sign vanishes => exact ⟨0, leastExponent, by norm_num, le_rfl, by simpa using vanishes⟩
  | @finite sign mantissa exponent positive canonical value =>
      refine ⟨sign.apply mantissa, exponent, ?_, canonical.least, ?_⟩
      · have bits := canonical.bits
        cases sign with
        | negative =>
            change |-(mantissa : ℤ)| < _
            rw [abs_neg, abs_of_nonneg (by omega)]
            omega
        | positive =>
            change |(mantissa : ℤ)| < _
            rw [abs_of_nonneg (by omega)]
            omega
      · rw [apply_cast, mul_assoc, Int.cast_natCast, value]

/-- The number that a double stands for is not rounded further. -/
theorem Denotes.rounded (denotes : Denotes exact value) : Denotes (nearest exact) value := by
  rwa [nearest_of_isDouble denotes.isDouble]

theorem Denotes.neg (denotes : Denotes exact value) : Denotes (-exact) value.neg := by
  cases denotes with
  | zero sign vanishes => exact .zero _ (neg_eq_zero.mpr vanishes)
  | finite sign positive canonical value =>
      refine .finite _ positive canonical ?_
      rw [signFactor_neg, neg_mul, value]

/-- Two finite doubles are written with their smaller exponent before they are added. -/
theorem apply_decreaseExponent (sign : Sign) (mantissa : ℕ) {exponent smaller : ℤ}
    (below : smaller ≤ exponent) :
    ((sign.apply (decreaseExponent mantissa exponent smaller).1 : ℤ) : ℚ) * 2 ^ smaller =
      signFactor sign * (mantissa * 2 ^ exponent) := by
  rw [apply_cast, mul_assoc, Int.cast_natCast, decreaseExponent_of_le mantissa below]

theorem Denotes.add (denotesFirst : Denotes exactFirst first)
    (denotesSecond : Denotes exactSecond second) :
    Denotes (nearest (exactFirst + exactSecond)) (first.add .binary64 second) := by
  cases denotesFirst with
  | zero signFirst vanishesFirst =>
      rw [vanishesFirst, zero_add]
      cases denotesSecond with
      | zero signSecond vanishesSecond =>
          rw [vanishesSecond, nearest_zero]
          cases signFirst <;> cases signSecond <;> exact .zero _ rfl
      | finite signSecond positiveSecond canonicalSecond valueSecond =>
          exact Denotes.rounded (.finite signSecond positiveSecond canonicalSecond valueSecond)
  | @finite signFirst mantissaFirst exponentFirst positiveFirst canonicalFirst valueFirst =>
      cases denotesSecond with
      | zero signSecond vanishesSecond =>
          rw [vanishesSecond, add_zero]
          exact Denotes.rounded (.finite signFirst positiveFirst canonicalFirst valueFirst)
      | @finite signSecond mantissaSecond exponentSecond positiveSecond canonicalSecond
          valueSecond =>
          have scaledFirst := apply_decreaseExponent signFirst mantissaFirst
            (min_le_left exponentFirst exponentSecond)
          have scaledSecond := apply_decreaseExponent signSecond mantissaSecond
            (min_le_right exponentFirst exponentSecond)
          rw [← valueFirst, ← valueSecond, ← scaledFirst, ← scaledSecond, ← add_mul, ← Int.cast_add]
          exact denotes_normalize _ _ _

theorem add_symm (format : Format) (first second : UnpackedFloat) :
    first.add format second = second.add format first := by
  cases first with
  | notANumber => cases second <;> rfl
  | infinity signFirst =>
      cases second with
      | infinity signSecond => cases signFirst <;> cases signSecond <;> rfl
      | notANumber | zero | finite => rfl
  | zero signFirst =>
      cases second with
      | zero signSecond => cases signFirst <;> cases signSecond <;> rfl
      | notANumber | infinity | finite => rfl
  | finite signFirst mantissaFirst exponentFirst positiveFirst =>
      cases second with
      | notANumber | infinity | zero => rfl
      | finite signSecond mantissaSecond exponentSecond positiveSecond =>
          unfold UnpackedFloat.add
          simp only [min_comm exponentSecond exponentFirst, Int.add_comm]

theorem sub_eq_add (format : Format) (first second : UnpackedFloat) :
    first.sub format second = first.add format second.neg := by
  cases first with
  | notANumber => cases second <;> rfl
  | infinity signFirst => cases second <;> rfl
  | zero signFirst => cases second <;> rfl
  | finite signFirst mantissaFirst exponentFirst positiveFirst =>
      cases second with
      | notANumber | infinity | zero => rfl
      | finite signSecond mantissaSecond exponentSecond positiveSecond =>
          let smaller := min exponentFirst exponentSecond
          let scaledFirst : ℤ := (decreaseExponent mantissaFirst exponentFirst smaller).1
          let scaledSecond : ℤ := (decreaseExponent mantissaSecond exponentSecond smaller).1
          change UnpackedFloat.normalize format
              (signFirst.apply scaledFirst - signSecond.apply scaledSecond) smaller .positive =
            UnpackedFloat.normalize format
              (signFirst.apply scaledFirst + (-signSecond).apply scaledSecond) smaller .positive
          rw [apply_neg, Int.sub_eq_add_neg]

theorem Denotes.sub (denotesFirst : Denotes exactFirst first)
    (denotesSecond : Denotes exactSecond second) :
    Denotes (nearest (exactFirst - exactSecond)) (first.sub .binary64 second) := by
  rw [sub_eq_add, sub_eq_add_neg]
  exact denotesFirst.add denotesSecond.neg

end Sums

section Products

variable {first second : UnpackedFloat} {exactFirst exactSecond : ℚ}

theorem Denotes.mul (denotesFirst : Denotes exactFirst first)
    (denotesSecond : Denotes exactSecond second) :
    Denotes (nearest (exactFirst * exactSecond)) (first.mul .binary64 second) := by
  cases denotesFirst with
  | zero signFirst vanishesFirst =>
      rw [vanishesFirst, zero_mul, nearest_zero]
      cases denotesSecond with
      | zero | finite => exact .zero _ rfl
  | @finite signFirst mantissaFirst exponentFirst positiveFirst canonicalFirst valueFirst =>
      cases denotesSecond with
      | zero signSecond vanishesSecond =>
          rw [vanishesSecond, mul_zero, nearest_zero]
          exact .zero _ rfl
      | @finite signSecond mantissaSecond exponentSecond positiveSecond canonicalSecond
          valueSecond =>
          have product : exactFirst * exactSecond = signFactor (signFirst * signSecond) *
              ((mantissaFirst * mantissaSecond : ℕ) * 2 ^ (exponentFirst + exponentSecond)) := by
            rw [← valueFirst, ← valueSecond, signFactor_mul, zpow_add₀ (by norm_num)]
            push_cast
            ring
          rw [product]
          apply denotes_roundWithAccuracy_exact _ (Nat.mul_pos positiveFirst positiveSecond)
          rcases canonicalFirst.full with fullFirst | leastFirst
          · exact le_place_of_full (fullFirst.trans (Nat.le_mul_of_pos_right _ positiveSecond)) _
          · rcases canonicalSecond.full with fullSecond | leastSecond
            · exact le_place_of_full (fullSecond.trans (Nat.le_mul_of_pos_left _ positiveFirst)) _
            · rw [leastFirst, leastSecond]
              exact (leastExponent_le_place _).trans' (by decide)

/-- What is cut off from a quotient is compared with a half. -/
theorem stands_fraction (whole : ℕ) {part total : ℕ} (proper : part < total) :
    Stands (.ofMantissaAndAccuracy whole (accuracyOfFraction part total))
      (whole + part / total) := by
  have positive : (0 : ℚ) < total := by exact_mod_cast Nat.zero_lt_of_lt proper
  have below : (part : ℚ) / total < 1 := by
    rw [div_lt_one positive]
    exact_mod_cast proper
  unfold accuracyOfFraction
  split
  · rename_i none
    rw [none, Nat.cast_zero, zero_div, add_zero]
    rfl
  · rename_i some
    have above : (0 : ℚ) < part / total :=
      div_pos (by exact_mod_cast Nat.pos_of_ne_zero some) positive
    rcases lt_trichotomy (2 * part) total with less | half | more
    · have small : (part : ℚ) / total < 1 / 2 := by
        rw [div_lt_div_iff₀ positive (by norm_num), one_mul, mul_comm]
        exact_mod_cast less
      rw [compare_lt_iff_lt.mpr less]
      change (whole : ℚ) < whole + part / total ∧ whole + part / total < (whole : ℚ) + 1 / 2
      constructor <;> linarith
    · have same : (part : ℚ) / total = 1 / 2 := by
        rw [div_eq_div_iff positive.ne' (by norm_num), one_mul, mul_comm]
        exact_mod_cast half
      rw [compare_eq_iff_eq.mpr half, same]
      rfl
    · have great : 1 / 2 < (part : ℚ) / total := by
        rw [div_lt_div_iff₀ (by norm_num) positive, one_mul, mul_comm]
        exact_mod_cast more
      rw [compare_gt_iff_gt.mpr more]
      change (whole : ℚ) + 1 / 2 < whole + part / total ∧ whole + part / total < (whole : ℚ) + 1
      constructor <;> linarith

/-- A quotient is its whole part and a remainder. -/
theorem quotient_eq (numerator : ℕ) {denominator : ℕ} (positive : 0 < denominator) :
    (numerator : ℚ) / denominator =
      (numerator / denominator : ℕ) + (numerator % denominator : ℕ) / denominator := by
  have positiveCast : (0 : ℚ) < denominator := by exact_mod_cast positive
  rw [div_eq_iff positiveCast.ne', add_mul, div_mul_cancel₀ _ positiveCast.ne']
  exact_mod_cast (Nat.div_add_mod' numerator denominator).symm

theorem quotient_bounds (numerator : ℕ) {denominator : ℕ} (positive : 0 < denominator) :
    ((numerator / denominator : ℕ) : ℚ) ≤ numerator / denominator ∧
      (numerator : ℚ) / denominator < (numerator / denominator + 1 : ℕ) := by
  have positiveCast : (0 : ℚ) < denominator := by exact_mod_cast positive
  have part : ((numerator % denominator : ℕ) : ℚ) / denominator < 1 := by
    rw [div_lt_one positiveCast]
    exact_mod_cast Nat.mod_lt numerator positive
  rw [quotient_eq numerator positive, Nat.cast_add_one]
  exact ⟨le_add_of_nonneg_right (by positivity), by linarith⟩

/-- The total exponents give a first estimate of a quotient. -/
theorem quotient_lower {mantissaFirst mantissaSecond : ℕ} (positiveFirst : 0 < mantissaFirst)
    (positiveSecond : 0 < mantissaSecond) (exponentFirst exponentSecond : ℤ) :
    (2 : ℚ) ^ (totalExponent mantissaFirst exponentFirst -
        totalExponent mantissaSecond exponentSecond - 1) ≤
      mantissaFirst * 2 ^ exponentFirst / (mantissaSecond * 2 ^ exponentSecond) := by
  have unitSecond := unit_pos exponentSecond
  obtain ⟨lower, -⟩ := totalExponent_bounds positiveFirst exponentFirst
  obtain ⟨-, upper⟩ := totalExponent_bounds positiveSecond exponentSecond
  have below : (mantissaSecond * 2 ^ exponentSecond : ℚ) ≤
      2 ^ totalExponent mantissaSecond exponentSecond := by
    refine le_trans ?_ upper
    apply mul_le_mul_of_nonneg_right _ unitSecond.le
    exact_mod_cast Nat.le_succ _
  rw [le_div_iff₀ (by positivity)]
  refine le_trans ?_ lower
  refine (mul_le_mul_of_nonneg_left below (unit_pos _).le).trans_eq ?_
  rw [← zpow_add₀ (by norm_num)]
  congr 1
  ring

/-- The place of a quotient is found from its whole units, if there are enough of them or if the unit
is not above the least one. -/
theorem targetExponent_quotient {exact : ℚ} {numerator denominator : ℕ} {exponent : ℤ}
    (positive : 0 < exact) (positiveDenominator : 0 < denominator)
    (value : exact = numerator / denominator * 2 ^ exponent)
    (enough : exponent ≤ leastExponent ∨ 2 ^ (exponent + 52) ≤ |exact|) :
    Format.binary64.targetExponent (totalExponent (numerator / denominator) exponent) =
      place exact := by
  have unit := unit_pos exponent
  obtain ⟨lower, upper⟩ := quotient_bounds numerator positiveDenominator
  rcases Nat.eq_zero_or_pos (numerator / denominator) with none | some
  · -- the quotient is less than its unit, which is no greater than that of all doubles
    have small : |exact| < 2 ^ exponent := by
      rw [none, zero_add, Nat.cast_one] at upper
      rw [abs_of_pos positive, value]
      exact mul_lt_of_lt_one_left unit upper
    have least : exponent ≤ leastExponent := by
      refine enough.resolve_right fun full => ?_
      have reversed := (zpow_lt_zpow_iff_right₀ (by norm_num)).mp (full.trans_lt small)
      omega
    rw [place_of_lt positive.ne', none, targetExponent_eq, totalExponent, Nat.log2_zero]
    · omega
    · exact small.trans_le (zpow_le_zpow_right₀ (by norm_num) (by omega))
  · apply targetExponent_eq_place some
    · rw [value]
      exact mul_le_mul_of_nonneg_right lower unit.le
    · rw [value]
      exact mul_lt_mul_of_pos_right upper unit

/-- A quotient is computed with so many bits that the ones that are kept are among them. -/
theorem denotes_divCore (sign : Sign) {mantissaFirst mantissaSecond : ℕ}
    (positiveFirst : 0 < mantissaFirst) (positiveSecond : 0 < mantissaSecond)
    (exponentFirst exponentSecond : ℤ) :
    Denotes (nearest (signFactor sign * (mantissaFirst * 2 ^ exponentFirst /
        (mantissaSecond * 2 ^ exponentSecond))))
      (let quotient := divCore .binary64 mantissaFirst exponentFirst mantissaSecond exponentSecond
       roundWithAccuracy .binary64 sign quotient.1 quotient.2.1 quotient.2.2) := by
  let exact : ℚ := mantissaFirst * 2 ^ exponentFirst / (mantissaSecond * 2 ^ exponentSecond)
  let total := totalExponent mantissaFirst exponentFirst -
    totalExponent mantissaSecond exponentSecond
  let exponent := min (exponentFirst - exponentSecond) (max (total - 53) leastExponent)
  let numerator := mantissaFirst <<< (exponentFirst - exponentSecond - exponent).toNat
  have unit := unit_pos exponent
  have positive : 0 < exact := by
    have unitFirst := unit_pos exponentFirst
    have unitSecond := unit_pos exponentSecond
    positivity
  have value : exact = numerator / mantissaSecond * 2 ^ exponent := by
    have scaled : (numerator : ℚ) * 2 ^ exponent =
        mantissaFirst * 2 ^ (exponentFirst - exponentSecond) :=
      decreaseExponent_of_le mantissaFirst (min_le_left _ _)
    rw [div_mul_eq_mul_div, scaled, zpow_sub₀ (by norm_num)]
    change (mantissaFirst : ℚ) * 2 ^ exponentFirst / ((mantissaSecond : ℚ) * 2 ^ exponentSecond) = _
    field_simp
  have enough : exponent ≤ leastExponent ∨ 2 ^ (exponent + 52) ≤ |exact| := by
    rcases le_or_gt exponent leastExponent with least | greater
    · exact .inl least
    · right
      have within : exponent + 52 ≤ total - 1 := by omega
      rw [abs_of_pos positive]
      exact (zpow_le_zpow_right₀ (by norm_num) within).trans
        (quotient_lower positiveFirst positiveSecond exponentFirst exponentSecond)
  have target := targetExponent_quotient positive positiveSecond value enough
  have low : exponent ≤ place exact := by
    rcases enough with least | full
    · exact least.trans (leastExponent_le_place exact)
    · exact le_place full
  have stands : Stands (.ofMantissaAndAccuracy (numerator / mantissaSecond)
      (accuracyOfFraction (numerator % mantissaSecond) mantissaSecond)) (exact / 2 ^ exponent) := by
    rw [value, mul_div_cancel_right₀ _ unit.ne', quotient_eq numerator positiveSecond]
    exact stands_fraction _ (Nat.mod_lt _ positiveSecond)
  exact denotes_roundWithAccuracy positive stands target low

theorem Denotes.div (denotesFirst : Denotes exactFirst first)
    (denotesSecond : Denotes exactSecond second) (nonzero : exactSecond ≠ 0) :
    Denotes (nearest (exactFirst / exactSecond)) (first.div .binary64 second) := by
  cases denotesSecond with
  | zero signSecond vanishesSecond => exact absurd vanishesSecond nonzero
  | finite signSecond positiveSecond canonicalSecond valueSecond =>
      cases denotesFirst with
      | zero signFirst vanishesFirst =>
          rw [vanishesFirst, zero_div, nearest_zero]
          exact .zero _ rfl
      | finite signFirst positiveFirst canonicalFirst valueFirst =>
          rw [← valueFirst, ← valueSecond, mul_div_mul_comm, ← signFactor_div]
          exact denotes_divCore _ positiveFirst positiveSecond _ _

end Products

section Order

variable {mantissaFirst mantissaSecond : ℕ} {exponentFirst exponentSecond : ℤ}

/-- A canonical mantissa with a greater exponent stands for a greater number. -/
theorem IsCanonical.lt_of_exponent_lt (canonicalFirst : IsCanonical mantissaFirst exponentFirst)
    (canonicalSecond : IsCanonical mantissaSecond exponentSecond)
    (less : exponentFirst < exponentSecond) :
    (mantissaFirst * 2 ^ exponentFirst : ℚ) < mantissaSecond * 2 ^ exponentSecond := by
  have full : 2 ^ 52 ≤ mantissaSecond := by
    have least := canonicalFirst.least
    exact canonicalSecond.full.resolve_right (by omega)
  calc (mantissaFirst * 2 ^ exponentFirst : ℚ)
      < 2 ^ 53 * 2 ^ exponentFirst :=
        mul_lt_mul_of_pos_right (by exact_mod_cast canonicalFirst.bits) (unit_pos _)
    _ = 2 ^ (exponentFirst + 53) := (pow_mul_unit 53 _).symm
    _ ≤ 2 ^ (exponentSecond + 52) := zpow_le_zpow_right₀ (by norm_num) (by omega)
    _ = 2 ^ 52 * 2 ^ exponentSecond := pow_mul_unit 52 _
    _ ≤ mantissaSecond * 2 ^ exponentSecond :=
        mul_le_mul_of_nonneg_right (by exact_mod_cast full) (unit_pos _).le

/-- The exponents of canonical mantissas are compared first. -/
theorem IsCanonical.compare_eq (canonicalFirst : IsCanonical mantissaFirst exponentFirst)
    (canonicalSecond : IsCanonical mantissaSecond exponentSecond) :
    (compare exponentFirst exponentSecond).then (compare mantissaFirst mantissaSecond) =
      compare (mantissaFirst * 2 ^ exponentFirst : ℚ) (mantissaSecond * 2 ^ exponentSecond) := by
  rcases lt_trichotomy exponentFirst exponentSecond with less | rfl | greater
  · rw [compare_lt_iff_lt.mpr less, compare_lt_iff_lt.mpr
      (canonicalFirst.lt_of_exponent_lt canonicalSecond less)]
    rfl
  · rw [compare_eq_iff_eq.mpr rfl, Ordering.then]
    have unit := unit_pos exponentFirst
    rcases lt_trichotomy mantissaFirst mantissaSecond with less | rfl | greater
    · rw [compare_lt_iff_lt.mpr less, eq_comm, compare_lt_iff_lt]
      exact mul_lt_mul_of_pos_right (by exact_mod_cast less) unit
    · rw [compare_eq_iff_eq.mpr rfl, eq_comm, compare_eq_iff_eq]
    · rw [compare_gt_iff_gt.mpr greater, eq_comm, compare_gt_iff_gt]
      exact mul_lt_mul_of_pos_right (by exact_mod_cast greater) unit
  · rw [compare_gt_iff_gt.mpr greater, compare_gt_iff_gt.mpr
      (canonicalSecond.lt_of_exponent_lt canonicalFirst greater)]
    rfl

theorem compare_neg (first second : ℚ) :
    compare (-first) (-second) = (compare first second).swap := by
  rcases lt_trichotomy first second with less | rfl | greater
  · rw [compare_lt_iff_lt.mpr less, compare_gt_iff_gt.mpr (neg_lt_neg less)]
    rfl
  · rw [compare_eq_iff_eq.mpr rfl, compare_eq_iff_eq.mpr rfl]
    rfl
  · rw [compare_gt_iff_gt.mpr greater, compare_lt_iff_lt.mpr (neg_lt_neg greater)]
    rfl

theorem magnitude_pos {mantissa : ℕ} (positive : 0 < mantissa) (exponent : ℤ) :
    (0 : ℚ) < mantissa * 2 ^ exponent :=
  mul_pos (by exact_mod_cast positive) (unit_pos exponent)

variable {first second : UnpackedFloat} {exactFirst exactSecond : ℚ}

/-- Finite doubles are compared by their numbers. -/
theorem Denotes.compare_eq (denotesFirst : Denotes exactFirst first)
    (denotesSecond : Denotes exactSecond second) :
    first.compare second = some (compare exactFirst exactSecond) := by
  cases denotesFirst with
  | zero signFirst vanishesFirst =>
      cases denotesSecond with
      | zero signSecond vanishesSecond =>
          rw [vanishesFirst, vanishesSecond, compare_eq_iff_eq.mpr rfl]
          rfl
      | @finite signSecond _ exponentSecond positiveSecond canonicalSecond valueSecond =>
          have magnitude := magnitude_pos positiveSecond exponentSecond
          rw [vanishesFirst, ← valueSecond]
          cases signSecond with
          | negative =>
              rw [signFactor, neg_one_mul, compare_gt_iff_gt.mpr (neg_neg_of_pos magnitude)]
              rfl
          | positive =>
              rw [signFactor, one_mul, compare_lt_iff_lt.mpr magnitude]
              rfl
  | @finite signFirst _ exponentFirst positiveFirst canonicalFirst valueFirst =>
      have magnitudeFirst := magnitude_pos positiveFirst exponentFirst
      rw [← valueFirst]
      cases denotesSecond with
      | zero signSecond vanishesSecond =>
          rw [vanishesSecond]
          cases signFirst with
          | negative =>
              rw [signFactor, neg_one_mul, compare_lt_iff_lt.mpr (neg_neg_of_pos magnitudeFirst)]
              rfl
          | positive =>
              rw [signFactor, one_mul, compare_gt_iff_gt.mpr magnitudeFirst]
              rfl
      | @finite signSecond _ exponentSecond positiveSecond canonicalSecond valueSecond =>
          have magnitudeSecond := magnitude_pos positiveSecond exponentSecond
          have together := canonicalFirst.compare_eq canonicalSecond
          rw [← valueSecond]
          cases signFirst with
          | negative =>
              rw [signFactor, neg_one_mul]
              cases signSecond with
              | negative =>
                  rw [signFactor, neg_one_mul, compare_neg, ← together]
                  rfl
              | positive =>
                  rw [signFactor, one_mul, compare_lt_iff_lt.mpr (by linarith)]
                  rfl
          | positive =>
              rw [signFactor, one_mul]
              cases signSecond with
              | negative =>
                  rw [signFactor, neg_one_mul, compare_gt_iff_gt.mpr (by linarith)]
                  rfl
              | positive =>
                  rw [signFactor, one_mul, ← together]
                  rfl

end Order

end BenchmarkReport.Number
