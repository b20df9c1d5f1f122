/-
This file shows that an exact result is rounded to the nearest double: first bits are cut off while
two further bits remember what was cut, then the rest is rounded to a whole number of units.
-/

import BenchmarkReport.Proofs.Number.Encoding
import BenchmarkReport.Proofs.Number.Nearest

namespace BenchmarkReport.Number

open Float.Model Float.Model.UnpackedFloat

/-- The factor of a sign. -/
def signFactor : Sign → ℚ
  | .negative => -1
  | .positive => 1

/-- The number that an unpacked double stands for. The greatest double does not count here. -/
inductive Denotes (exact : ℚ) : UnpackedFloat → Prop
  | zero (sign : Sign) (vanishes : exact = 0) : Denotes exact (.zero sign)
  | finite (sign : Sign) {mantissa : ℕ} {exponent : ℤ} (positive : 0 < mantissa)
      (canonical : IsCanonical mantissa exponent)
      (value : signFactor sign * (mantissa * 2 ^ exponent) = exact) :
      Denotes exact (.finite sign mantissa exponent positive)

/-- A mantissa with its two further bits stands for an exact number: these say on which side of the
next half the number lies. -/
def Stands (extended : ExtendedMantissa) (exact : ℚ) : Prop :=
  match extended.roundBit, extended.stickyBit with
  | false, false => exact = extended.mantissa
  | false, true => extended.mantissa < exact ∧ exact < extended.mantissa + 1 / 2
  | true, false => exact = extended.mantissa + 1 / 2
  | true, true => extended.mantissa + 1 / 2 < exact ∧ exact < extended.mantissa + 1

section Cutting

variable {extended : ExtendedMantissa} {exact : ℚ}

/-- The two further bits are enough to find the nearest whole number. -/
theorem Stands.isNearestWhole (stands : Stands extended exact) :
    IsNearestWhole exact extended.roundedMantissa := by
  obtain ⟨mantissa, roundBit, stickyBit⟩ := extended
  unfold IsNearestWhole
  cases roundBit <;> cases stickyBit <;>
    simp only [Stands, ExtendedMantissa.roundedMantissa, ExtendedMantissa.accuracy,
      Accuracy.roundToNearestEven] at stands ⊢
  · left
    rw [stands]
    simp
  · left
    rw [abs_lt]
    push_cast
    constructor <;> linarith
  · right
    rcases Nat.mod_two_eq_zero_or_one mantissa with even | odd
    · rw [even, stands]
      refine ⟨?_, by omega⟩
      push_cast
      norm_num
    · rw [odd, stands]
      refine ⟨?_, by omega⟩
      push_cast
      norm_num
  · left
    rw [abs_lt]
    push_cast
    constructor <;> linarith

theorem Stands.shiftRightOne (stands : Stands extended exact) :
    Stands extended.shiftRightOne (exact / 2) := by
  obtain ⟨mantissa, roundBit, stickyBit⟩ := extended
  have parts : (mantissa : ℚ) = 2 * (mantissa / 2 : ℕ) + (mantissa % 2 : ℕ) := by
    exact_mod_cast (Nat.div_add_mod mantissa 2).symm
  unfold Stands ExtendedMantissa.shiftRightOne at *
  rcases Nat.mod_two_eq_zero_or_one mantissa with even | odd
  · rw [even, Nat.cast_zero, add_zero] at parts
    cases roundBit <;> cases stickyBit <;> simp [even] at stands ⊢
    · linarith
    · constructor <;> linarith
    · constructor <;> linarith
    · constructor <;> linarith
  · rw [odd, Nat.cast_one] at parts
    cases roundBit <;> cases stickyBit <;> simp [odd] at stands ⊢
    · linarith
    · constructor <;> linarith
    · constructor <;> linarith
    · constructor <;> linarith

theorem Stands.shiftRight (stands : Stands extended exact) (count : ℕ) :
    Stands (extended >>> count) (exact / 2 ^ count) := by
  change Stands (Nat.repeat ExtendedMantissa.shiftRightOne count extended) _
  induction count with
  | zero => simpa [Nat.repeat] using stands
  | succ count inductionHypothesis =>
      rw [Nat.repeat, pow_succ, ← div_div]
      exact inductionHypothesis.shiftRightOne

end Cutting

section Target

theorem targetExponent_eq (total : ℤ) :
    Format.binary64.targetExponent total = max (total - 53) leastExponent := rfl

/-- The total exponent says between which powers of two a number lies. -/
theorem totalExponent_bounds {mantissa : ℕ} (positive : 0 < mantissa) (exponent : ℤ) :
    (2 : ℚ) ^ (totalExponent mantissa exponent - 1) ≤ mantissa * 2 ^ exponent ∧
      ((mantissa + 1 : ℕ) : ℚ) * 2 ^ exponent ≤ 2 ^ totalExponent mantissa exponent := by
  have lower : (2 ^ mantissa.log2 : ℚ) ≤ mantissa := by
    exact_mod_cast Nat.log2_self_le positive.ne'
  have upper : ((mantissa + 1 : ℕ) : ℚ) ≤ 2 ^ (mantissa.log2 + 1) := by
    exact_mod_cast Nat.lt_log2_self
  have last : totalExponent mantissa exponent - 1 = exponent + mantissa.log2 := by
    rw [totalExponent]
    ring
  have next : totalExponent mantissa exponent = exponent + (mantissa.log2 + 1 : ℕ) := by
    rw [totalExponent]
    push_cast
    ring
  constructor
  · rw [last, pow_mul_unit]
    exact mul_le_mul_of_nonneg_right lower (unit_pos _).le
  · rw [next, pow_mul_unit]
    exact mul_le_mul_of_nonneg_right upper (unit_pos _).le

/-- The exponent that is aimed at is the place of the number. It is found from the units that the
number has in full. -/
theorem targetExponent_eq_place {mantissa : ℕ} (positive : 0 < mantissa) {exponent : ℤ} {exact : ℚ}
    (lower : mantissa * 2 ^ exponent ≤ exact) (upper : exact < (mantissa + 1 : ℕ) * 2 ^ exponent) :
    Format.binary64.targetExponent (totalExponent mantissa exponent) = place exact := by
  obtain ⟨least, greatest⟩ := totalExponent_bounds positive exponent
  have unit := unit_pos exponent
  have magnitude : |exact| = exact := by
    apply abs_of_nonneg
    refine le_trans ?_ lower
    positivity
  rw [place_of_bounds (totalExponent mantissa exponent - 1), targetExponent_eq]
  · congr 1
    ring
  · rw [magnitude]
    exact least.trans lower
  · rw [magnitude, sub_add_cancel]
    exact upper.trans_le greatest

theorem targetExponent_eq_place_self {mantissa : ℕ} (positive : 0 < mantissa) (exponent : ℤ) :
    Format.binary64.targetExponent (totalExponent mantissa exponent) =
      place (mantissa * 2 ^ exponent) := by
  apply targetExponent_eq_place positive le_rfl
  rw [Nat.cast_add_one]
  exact mul_lt_mul_of_pos_right (lt_add_one _) (unit_pos _)

/-- Rounding may leave one bit too many, which is cut off without loss. -/
theorem shiftToTargetExponent_rounded {rounded : ℕ} {exponent : ℤ} (bits : rounded ≤ 2 ^ 53)
    (least : leastExponent ≤ exponent) :
    shiftToTargetExponent .binary64 rounded exponent .exact =
      if rounded = 2 ^ 53 then (⟨2 ^ 52, false, false⟩, exponent + 1)
      else (⟨rounded, false, false⟩, exponent) := by
  by_cases full : rounded = 2 ^ 53
  · have target : Format.binary64.targetExponent (totalExponent rounded exponent) =
        exponent + 1 := by
      rw [targetExponent_eq, totalExponent, full, Nat.log2_two_pow]
      omega
    have single : (exponent + 1 - exponent).toNat = 1 := by omega
    rw [if_pos full, shiftToTargetExponent]
    rw [target, shiftToExponent, single, full]
    rfl
  · have within : Format.binary64.targetExponent (totalExponent rounded exponent) ≤ exponent := by
      have log : rounded.log2 < 53 := by
        by_cases zero : rounded = 0
        · rw [zero]
          decide
        · exact (Nat.log2_lt zero).mpr (by omega)
      rw [targetExponent_eq, totalExponent]
      omega
    have none : (Format.binary64.targetExponent (totalExponent rounded exponent) -
        exponent).toNat = 0 := by omega
    rw [if_neg full, shiftToTargetExponent]
    rw [shiftToExponent, none]
    simp only [Nat.cast_zero, add_zero]
    rfl

end Target

section Accuracy

variable {sign : Sign} {mantissa : ℕ} {exponent : ℤ} {accuracy : Accuracy} {exact : ℚ}

theorem nearest_signFactor (sign : Sign) (exact : ℚ) :
    nearest (signFactor sign * exact) = signFactor sign * nearest exact := by
  cases sign with
  | negative => rw [signFactor, neg_one_mul, neg_one_mul, nearest_neg]
  | positive => rw [signFactor, one_mul, one_mul]

/-- The nearest whole number of units is packed as it is, or with one bit less. -/
theorem denotes_roundedMantissa (sign : Sign) (positive : 0 < exact) {rounded : ℕ}
    (whole : (rounded : ℤ) = nearestWhole (exact / 2 ^ place exact)) :
    Denotes (nearest (signFactor sign * exact))
      (let final := shiftToTargetExponent .binary64 rounded (place exact) .exact
       if empty : final.1.mantissa = 0 then .zero sign
       else .finite sign final.1.mantissa final.2 (Nat.pos_of_ne_zero empty)) := by
  have bits : rounded ≤ 2 ^ 53 := by
    have bound := (abs_le.mp (abs_nearestWhole_le exact)).2
    rw [← whole] at bound
    exact_mod_cast bound
  have value : nearest exact = rounded * 2 ^ place exact := by
    rw [nearest, ← whole, Int.cast_natCast]
  have least := leastExponent_le_place exact
  rw [shiftToTargetExponent_rounded bits least]
  by_cases full : rounded = 2 ^ 53
  · rw [if_pos full]
    dsimp only
    rw [dif_neg (by norm_num)]
    have canonical : IsCanonical (2 ^ 52) (place exact + 1) :=
      ⟨by norm_num, by omega, .inl le_rfl⟩
    refine .finite sign (by norm_num) canonical ?_
    rw [nearest_signFactor, value, full, zpow_add₀ (by norm_num)]
    push_cast
    ring
  · rw [if_neg full]
    dsimp only
    by_cases empty : rounded = 0
    · rw [dif_pos empty]
      refine .zero sign ?_
      rw [nearest_signFactor, value, empty, Nat.cast_zero, zero_mul, mul_zero]
    · rw [dif_neg empty]
      have canonical : IsCanonical rounded (place exact) := by
        refine ⟨by omega, least, ?_⟩
        rcases place_le_abs positive.ne' with lowest | leading
        · exact .inr lowest
        · rw [abs_of_pos positive] at leading
          have enough := le_nearestWhole leading
          rw [← whole] at enough
          exact .inl (by exact_mod_cast enough)
      refine .finite sign _ canonical ?_
      rw [nearest_signFactor, value]

/-- Rounding from a mantissa that is known up to a unit, with its accuracy, gives the nearest
double. The exponent has to be small enough that the mantissa has all the bits that are kept. -/
theorem denotes_roundWithAccuracy (positive : 0 < exact)
    (stands : Stands (.ofMantissaAndAccuracy mantissa accuracy) (exact / 2 ^ exponent))
    (target : Format.binary64.targetExponent (totalExponent mantissa exponent) = place exact)
    (low : exponent ≤ place exact) :
    Denotes (nearest (signFactor sign * exact))
      (roundWithAccuracy .binary64 sign mantissa exponent accuracy) := by
  let extended := ExtendedMantissa.ofMantissaAndAccuracy mantissa accuracy >>>
    (place exact - exponent).toNat
  have first : shiftToTargetExponent .binary64 mantissa exponent accuracy =
      (extended, place exact) := by
    rw [shiftToTargetExponent, target, shiftToExponent]
    congr 1
    omega
  have shifted : Stands extended (exact / 2 ^ place exact) := by
    have cut := stands.shiftRight (place exact - exponent).toNat
    have together : (2 : ℚ) ^ place exact = 2 ^ exponent * 2 ^ (place exact - exponent).toNat := by
      rw [← zpow_natCast, ← zpow_add₀ (by norm_num), Int.toNat_of_nonneg (by omega)]
      congr 1
      omega
    rwa [together, ← div_div]
  rw [roundWithAccuracy, first]
  exact denotes_roundedMantissa sign positive shifted.isNearestWhole.eq_nearestWhole

/-- An exact mantissa may be rounded if its unit is not above the place. -/
theorem denotes_roundWithAccuracy_exact (sign : Sign) (positive : 0 < mantissa)
    (low : exponent ≤ place (mantissa * 2 ^ exponent)) :
    Denotes (nearest (signFactor sign * (mantissa * 2 ^ exponent)))
      (roundWithAccuracy .binary64 sign mantissa exponent .exact) := by
  apply denotes_roundWithAccuracy
  · have scale := unit_pos exponent
    positivity
  · rw [mul_div_cancel_right₀ _ (unit_pos _).ne']
    rfl
  · exact targetExponent_eq_place_self positive exponent
  · exact low

/-- A smaller exponent and a greater mantissa stand for the same number. -/
theorem decreaseExponent_value (mantissa : ℕ) (exponent target : ℤ) :
    ((decreaseExponent mantissa exponent target).1 : ℚ) *
      2 ^ (decreaseExponent mantissa exponent target).2 = mantissa * 2 ^ exponent := by
  rw [decreaseExponent, Nat.shiftLeft_eq, zpow_sub₀ (by norm_num), zpow_natCast]
  push_cast
  field_simp

theorem decreaseExponent_of_le (mantissa : ℕ) {exponent smaller : ℤ} (below : smaller ≤ exponent) :
    ((decreaseExponent mantissa exponent smaller).1 : ℚ) * 2 ^ smaller = mantissa * 2 ^ exponent := by
  have value := decreaseExponent_value mantissa exponent smaller
  have reached : (decreaseExponent mantissa exponent smaller).2 = smaller := by
    rw [decreaseExponent]
    dsimp only
    omega
  rwa [reached] at value

theorem denotes_round (sign : Sign) (positive : 0 < mantissa) (exponent : ℤ) :
    Denotes (nearest (signFactor sign * (mantissa * 2 ^ exponent)))
      (UnpackedFloat.round .binary64 sign mantissa exponent) := by
  have value := decreaseExponent_value mantissa exponent (place (mantissa * 2 ^ exponent))
  rw [UnpackedFloat.round, targetExponent_eq_place_self positive]
  rw [decreaseExponent] at value ⊢
  dsimp only at value ⊢
  have shifted : 0 < mantissa <<< (exponent - place (mantissa * 2 ^ exponent)).toNat := by
    rw [Nat.shiftLeft_eq]
    positivity
  have rounded := denotes_roundWithAccuracy_exact sign shifted (by rw [value]; omega)
  rwa [value] at rounded

/-- A whole number of units is rounded to the nearest double. -/
theorem denotes_normalize (mantissa exponent : ℤ) (zeroSign : Sign) :
    Denotes (nearest (mantissa * 2 ^ exponent))
      (UnpackedFloat.normalize .binary64 mantissa exponent zeroSign) := by
  unfold UnpackedFloat.normalize
  rcases lt_trichotomy mantissa 0 with negative | rfl | positive
  · have magnitude : (mantissa : ℚ) = -((-mantissa).toNat : ℤ) := by
      rw [Int.toNat_of_nonneg (by omega)]
      push_cast
      ring
    have present : 0 < (-mantissa).toNat := by omega
    have rounded := denotes_round .negative present exponent
    rw [compare_lt_iff_lt.mpr negative, magnitude, neg_mul, ← neg_one_mul]
    exact rounded
  · refine .zero zeroSign ?_
    rw [Int.cast_zero, zero_mul, nearest_zero]
  · have magnitude : (mantissa : ℚ) = (mantissa.toNat : ℤ) := by
      rw [Int.toNat_of_nonneg positive.le]
    have present : 0 < mantissa.toNat := by omega
    have rounded := denotes_round .positive present exponent
    rw [compare_gt_iff_gt.mpr positive, magnitude, ← one_mul (_ * _)]
    exact rounded

end Accuracy

end BenchmarkReport.Number
