/-
This file finds the doubles from which a half can be taken and added: beyond 2 ^ 52 doubles are
whole numbers, and a half is lost on both sides of the even ones.
-/

import BenchmarkReport.Proofs.Number.Wholes

namespace BenchmarkReport.Number

section Halves

variable {exact near : ℚ}

/-- Up to this limit some two neighbouring halves lie around the number. -/
theorem halves_apart_of_le (nonnegative : 0 ≤ exact) (small : exact ≤ 2 ^ 52) :
    nearest (exact - 1 / 2) < nearest (exact + 1 / 2) := by
  have above := Int.le_ceil (2 * exact - 1)
  have below := Int.ceil_lt_add_one (2 * exact - 1)
  generalize ⌈2 * exact - 1⌉ = count at above below
  have least : -1 ≤ count := by
    have bound : (-1 : ℚ) ≤ count := by linarith
    exact_mod_cast bound
  have greatest : count < 2 ^ 53 := by
    have bound : (count : ℚ) < 2 ^ 53 := by linarith
    exact_mod_cast bound
  have double (whole : ℤ) (bits : |whole| ≤ 2 ^ 53) : IsDouble (whole / 2) := by
    have halved := isDouble_of_le bits (by decide : leastExponent ≤ -1)
    rwa [zpow_neg_one, ← div_eq_mul_inv] at halved
  have first := nearest_of_isDouble (double count (abs_le.mpr (by omega)))
  have second := nearest_of_isDouble (double (count + 1) (abs_le.mpr (by omega)))
  calc nearest (exact - 1 / 2)
      ≤ nearest (count / 2) := nearest_mono (by linarith)
    _ = count / 2 := first
    _ < ((count + 1 : ℤ) : ℚ) / 2 := by
        push_cast
        linarith
    _ = nearest (((count + 1 : ℤ) : ℚ) / 2) := second.symm
    _ ≤ nearest (exact + 1 / 2) := nearest_mono (by push_cast; linarith)

/-- A double is a whole number of units of its place, and of any smaller place. -/
theorem IsDouble.exists_units {exponent : ℤ} (double : IsDouble exact)
    (within : exponent ≤ place exact) : ∃ units : ℤ, exact = units * 2 ^ exponent := by
  obtain ⟨gap, same⟩ := Int.le.dest within
  have value : exact = nearestWhole (exact / 2 ^ place exact) * 2 ^ place exact :=
    (nearest_of_isDouble double).symm
  generalize nearestWhole (exact / 2 ^ place exact) = whole at value
  refine ⟨whole * 2 ^ gap, ?_⟩
  rw [← same, pow_mul_unit] at value
  rw [value]
  push_cast
  ring

theorem le_place_of_le {exponent : ℕ} (great : 2 ^ (exponent + 52) ≤ exact) :
    exponent ≤ place exact := by
  apply le_place
  rw [abs_of_nonneg ((by positivity : (0 : ℚ) ≤ 2 ^ (exponent + 52)).trans great)]
  exact_mod_cast great

/-- The doubles from here on are whole numbers. -/
theorem IsDouble.whole (double : IsDouble exact) (great : 2 ^ 52 ≤ exact) :
    ∃ whole : ℤ, exact = whole := by
  obtain ⟨units, value⟩ := double.exists_units (@le_place_of_le _ 0 great)
  exact ⟨units, by rwa [Nat.cast_zero, zpow_zero, mul_one] at value⟩

/-- The doubles from here on are even numbers. -/
theorem IsDouble.even (double : IsDouble exact) (great : 2 ^ 53 ≤ exact) :
    ∃ half : ℤ, exact = 2 * half := by
  obtain ⟨units, value⟩ := double.exists_units (@le_place_of_le _ 1 great)
  exact ⟨units, by rwa [Nat.cast_one, zpow_one, mul_comm] at value⟩

/-- A half is added to an odd number by rounding up to the even neighbour. -/
theorem nearest_add_half_of_odd {half : ℤ} (odd : exact = 2 * half + 1) (great : 2 ^ 52 < exact)
    (small : exact < 2 ^ 53) : nearest (exact + 1 / 2) = exact + 1 := by
  have whole : (2 * half + 1 : ℤ) < 2 ^ 53 := by
    rw [odd] at small
    exact_mod_cast small
  have bound : (2 * half + 1 : ℤ) + 1 ≤ (2 ^ 53 : ℚ) := by exact_mod_cast whole
  push_cast at bound
  have nonnegative : 0 ≤ exact + 1 / 2 := by linarith
  have unit : place (exact + 1 / 2) = 0 := by
    apply place_of_bounds 52
    · rw [abs_of_nonneg nonnegative]
      norm_num
      linarith
    · rw [abs_of_nonneg nonnegative]
      norm_num
      linarith
  have tie : IsNearestWhole (exact + 1 / 2) (2 * half + 2) := by
    right
    have distance : exact + 1 / 2 - ((2 * half + 2 : ℤ) : ℚ) = -(1 / 2) := by
      rw [odd]
      push_cast
      ring
    rw [distance, abs_neg]
    exact ⟨abs_of_pos (by norm_num), by omega⟩
  rw [nearest, unit, zpow_zero, div_one, mul_one, ← tie.eq_nearestWhole, odd]
  push_cast
  ring

/-- A number that is a half away from a number of units is rounded to it when the unit is greater
than one, and also when the unit is one and their number is even. -/
theorem nearest_of_half {units : ℤ} (multiple : exact = units * 2 ^ place near)
    (distance : |near - exact| = 1 / 2) (least : 0 ≤ place near)
    (even : place near = 0 → 2 ∣ units) : nearest near = exact := by
  have scaled : |near / 2 ^ place near - units| = 1 / 2 / 2 ^ place near := by
    have same : near / 2 ^ place near - units = (near - exact) / 2 ^ place near := by
      rw [multiple, sub_div, mul_div_cancel_right₀ _ (unit_pos _).ne']
    rw [same, abs_div, distance, abs_of_pos (unit_pos _)]
  have whole : IsNearestWhole (near / 2 ^ place near) units := by
    rcases least.eq_or_lt with one | several
    · right
      rw [scaled, ← one, zpow_zero, div_one]
      exact ⟨rfl, even one.symm⟩
    · left
      rw [scaled]
      exact div_lt_self (by norm_num) (one_lt_zpow₀ (by norm_num) several)
  rw [nearest, ← whole.eq_nearestWhole, ← multiple]

/-- A half is lost beside an even double. -/
theorem IsDouble.nearest_of_even {half : ℤ} (double : IsDouble exact) (even : exact = 2 * half)
    (distance : |near - exact| = 1 / 2) (least : 0 ≤ place near)
    (within : place near ≤ place exact) : nearest near = exact := by
  obtain ⟨units, value⟩ := double.exists_units within
  apply nearest_of_half value distance least
  intro one
  refine ⟨half, ?_⟩
  rw [one, zpow_zero, mul_one, even] at value
  exact_mod_cast value.symm

/-- There is room for a half between a whole double and the next power of two. -/
theorem place_add_half_le {whole : ℤ} (isWhole : exact = whole) (great : 2 ^ 52 ≤ exact) :
    place (exact + 1 / 2) ≤ place exact := by
  obtain ⟨power, same⟩ := Int.eq_ofNat_of_zero_le (@le_place_of_le _ 0 great)
  have upper := (le_abs_self exact).trans_lt (abs_lt_place exact)
  have nonnegative : (0 : ℚ) ≤ exact + 1 / 2 := by linarith
  apply place_le (by linarith) _ (leastExponent_le_place exact)
  rw [same] at upper ⊢
  rw [abs_of_nonneg nonnegative]
  have below : whole < 2 ^ (power + 53) := by
    rw [isWhole] at upper
    exact_mod_cast upper
  have next : exact + 1 ≤ 2 ^ ((power : ℤ) + 53) := by
    rw [isWhole]
    exact_mod_cast below
  linarith

theorem IsDouble.nearest_halves {half : ℤ} (double : IsDouble exact) (even : exact = 2 * half)
    (great : 2 ^ 52 < exact) :
    nearest (exact - 1 / 2) = exact ∧ nearest (exact + 1 / 2) = exact := by
  obtain ⟨whole, isWhole⟩ := double.whole great.le
  have next : (2 ^ 52 + 1 : ℚ) ≤ exact := by
    rw [isWhole] at great ⊢
    exact_mod_cast great
  constructor
  · apply double.nearest_of_even even
    · rw [sub_sub_cancel_left, abs_neg, abs_of_pos one_half_pos]
    · exact @le_place_of_le _ 0 (by linarith)
    · exact place_mono (by linarith) (by linarith)
  · apply double.nearest_of_even even
    · rw [add_sub_cancel_left, abs_of_pos one_half_pos]
    · exact @le_place_of_le _ 0 (by linarith)
    · exact place_add_half_le isWhole great.le

/-- A half can be taken from a double and added to it so that the results differ. -/
def HasHalves (exact : ℚ) : Prop :=
  |exact| ≤ 2 ^ 52 ∨ |exact| < 2 ^ 53 ∧ ∃ half : ℤ, exact = 2 * half + 1

theorem HasHalves.lt (halves : HasHalves exact) : |exact| < 2 ^ 53 := by
  rcases halves with small | ⟨small, -⟩
  · exact small.trans_lt (by norm_num)
  · exact small

theorem halves_apart_of_nonneg (double : IsDouble exact) (nonnegative : 0 ≤ exact) :
    nearest (exact - 1 / 2) < nearest (exact + 1 / 2) ↔ HasHalves exact := by
  unfold HasHalves
  rw [abs_of_nonneg nonnegative]
  rcases le_or_gt exact (2 ^ 52) with small | great
  · exact iff_of_true (halves_apart_of_le nonnegative small) (.inl small)
  · constructor
    · intro apart
      have notEven : ¬ ∃ half : ℤ, exact = 2 * half := by
        rintro ⟨half, even⟩
        obtain ⟨below, above⟩ := double.nearest_halves even great
        rw [below, above] at apart
        exact lt_irrefl exact apart
      have limit : exact < 2 ^ 53 := by
        by_contra beyond
        exact notEven (double.even (not_lt.mp beyond))
      obtain ⟨whole, isWhole⟩ := double.whole great.le
      rcases Int.even_or_odd' whole with ⟨half, even | odd⟩
      · exact absurd ⟨half, by rw [isWhole, even]; push_cast; rfl⟩ notEven
      · exact .inr ⟨limit, half, by rw [isWhole, odd]; push_cast; rfl⟩
    · rintro (small | ⟨limit, half, odd⟩)
      · exact absurd small great.not_ge
      · calc nearest (exact - 1 / 2)
            ≤ nearest exact := nearest_mono (by linarith)
          _ = exact := nearest_of_isDouble double
          _ < exact + 1 := lt_add_one exact
          _ = nearest (exact + 1 / 2) := (nearest_add_half_of_odd odd great limit).symm

theorem hasHalves_neg : HasHalves (-exact) ↔ HasHalves exact := by
  have odd (number : ℚ) (isOdd : ∃ half : ℤ, number = 2 * half + 1) :
      ∃ half : ℤ, -number = 2 * half + 1 := by
    obtain ⟨half, rfl⟩ := isOdd
    exact ⟨-half - 1, by push_cast; ring⟩
  unfold HasHalves
  rw [abs_neg]
  refine or_congr_right (and_congr_right fun _ => ⟨fun isOdd => ?_, odd exact⟩)
  have mirrored := odd (-exact) isOdd
  rwa [neg_neg] at mirrored

/-- The doubles around which a range of width one is not empty. -/
theorem halves_apart_iff (double : IsDouble exact) :
    nearest (exact - 1 / 2) < nearest (exact + 1 / 2) ↔ HasHalves exact := by
  rcases le_total 0 exact with nonnegative | nonpositive
  · exact halves_apart_of_nonneg double nonnegative
  · have mirrored := halves_apart_of_nonneg double.neg (neg_nonneg.mpr nonpositive)
    have below : -exact - 1 / 2 = -(exact + 1 / 2) := by ring
    have above : -exact + 1 / 2 = -(exact - 1 / 2) := by ring
    rwa [below, above, nearest_neg, nearest_neg, neg_lt_neg_iff, hasHalves_neg] at mirrored

end Halves

end BenchmarkReport.Number
