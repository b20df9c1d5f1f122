/-
This file shows that an axis keeps the order of its values: a greater value does not stand further
back.
-/

import BenchmarkReport.Proofs.Plot.Ranges

namespace BenchmarkReport.Plot

open Number

/-- A double has this value. No number counts as zero. -/
def IsPart (portion : Float) (part : ℚ) : Prop :=
  HasValue portion part ∨ Extended.ofFloat portion = .nan ∧ part = 0

section Portions

variable {range : AxisRange} {bound value : Float} {exact limit : ℚ}

theorem IsBelow.le (below : IsBelow bound exact) (valued : HasValue bound limit) :
    limit ≤ exact := by
  rcases below with infinite | ⟨least, valuedLeast, atMost⟩
  · obtain ⟨binary, read, -⟩ := valued
    rw [infinite] at read
    exact Extended.noConfusion read
  · rwa [valued.unique valuedLeast]

theorem IsAbove.le (above : IsAbove bound exact) (valued : HasValue bound limit) :
    exact ≤ limit := by
  rcases above with infinite | ⟨greatest, valuedGreatest, atLeast⟩
  · obtain ⟨binary, read, -⟩ := valued
    rw [infinite] at read
    exact Extended.noConfusion read
  · rwa [valued.unique valuedGreatest]

/-- The width of a range is a positive value or infinite. -/
theorem width_cases (covers : range.Covers exact)
    (apart : (range.start == range.stop) = false) :
    (∃ least greatest, HasValue range.start least ∧ HasValue range.stop greatest ∧
      HasValue (range.stop - range.start) (nearest (greatest - least)) ∧
        0 < nearest (greatest - least)) ∨
      Extended.ofFloat (range.stop - range.start) = .infinity false := by
  rcases covers.below with infinite | ⟨least, start, atMost⟩
  · right
    rcases covers.above with infiniteStop | ⟨greatest, stop, -⟩
    · exact infinity_sub_infinity infiniteStop infinite
    · exact stop.sub_infinity infinite
  · rcases covers.above with infiniteStop | ⟨greatest, stop, atLeast⟩
    · exact .inr (infinity_sub infiniteStop start)
    · have different : least ≠ greatest := by
        intro same
        rw [(start.beq_iff stop).mpr same] at apart
        exact Bool.noConfusion apart
      have less := lt_of_le_of_ne (atMost.trans atLeast) different
      have positive := nearest_sub_pos start.isDouble stop.isDouble less
      rcases lt_or_ge (nearest (greatest - least)) overflow with finite | beyond
      · have valued := (stop.sub start).finite (by rwa [abs_of_pos positive])
        exact .inl ⟨least, greatest, start, stop, valued, positive⟩
      · exact .inr ((stop.sub start).above beyond)

/-- On a range of infinite width all values stand at the start. -/
theorem isPart_of_infinite (covers : range.Covers exact) (valued : HasValue value exact)
    (infinite : Extended.ofFloat (range.stop - range.start) = .infinity false) :
    IsPart (range.portion value) 0 := by
  rcases covers.below with infiniteStart | ⟨least, start, atMost⟩
  · exact .inr ⟨infinity_div_infinity (valued.sub_infinity infiniteStart) infinite, rfl⟩
  · have nonnegative := nearest_nonneg (sub_nonneg.mpr atMost)
    rcases lt_or_ge (nearest (exact - least)) overflow with finite | beyond
    · have distance := (valued.sub start).finite (by rwa [abs_of_nonneg nonnegative])
      exact .inl (distance.div_infinity infinite)
    · exact .inr ⟨infinity_div_infinity ((valued.sub start).above beyond) infinite, rfl⟩

/-- The parts of the way at which two values stand are in the order of the values. -/
theorem portion_mono {first second : Float} {exactFirst exactSecond : ℚ}
    (apart : (range.start == range.stop) = false) (valuedFirst : HasValue first exactFirst)
    (valuedSecond : HasValue second exactSecond) (coversFirst : range.Covers exactFirst)
    (coversSecond : range.Covers exactSecond) (ordered : exactFirst ≤ exactSecond) :
    ∃ part other, IsPart (range.portion first) part ∧ IsPart (range.portion second) other ∧
      0 ≤ part ∧ part ≤ other ∧ other ≤ 1 := by
  rcases width_cases coversFirst apart with
    ⟨least, greatest, start, stop, width, positive⟩ | infinite
  · -- the distance of a value from the start is no greater than the width
    have portion {value : Float} {exact : ℚ} (valued : HasValue value exact)
        (covers : range.Covers exact) :
        HasValue (range.portion value) (nearest (nearest (exact - least) /
          nearest (greatest - least))) ∧
        0 ≤ nearest (nearest (exact - least) / nearest (greatest - least)) ∧
        nearest (nearest (exact - least) / nearest (greatest - least)) ≤ 1 := by
      have nonnegative := nearest_nonneg (sub_nonneg.mpr (covers.below.le start))
      have within : nearest (exact - least) ≤ nearest (greatest - least) :=
        nearest_mono (sub_le_sub_right (covers.above.le stop) least)
      have distance := (valued.sub start).finite
        (abs_lt.mpr ⟨by linarith [overflow_pos], within.trans_lt (abs_lt.mp width.bounded).2⟩)
      exact (distance.div width positive.ne').between hasValue_zero hasValue_one
        (div_nonneg nonnegative positive.le) ((div_le_one positive).mpr within)
    obtain ⟨isPart, nonnegative, -⟩ := portion valuedFirst coversFirst
    obtain ⟨isPartOther, -, atMost⟩ := portion valuedSecond coversSecond
    refine ⟨_, _, .inl isPart, .inl isPartOther, nonnegative, ?_, atMost⟩
    apply nearest_mono
    apply div_le_div_of_nonneg_right _ positive.le
    exact nearest_mono (sub_le_sub_right ordered least)
  · exact ⟨0, 0, isPart_of_infinite coversFirst valuedFirst infinite,
      isPart_of_infinite coversSecond valuedSecond infinite, le_rfl, le_rfl, zero_le_one⟩

end Portions

/-- What is added to a length before its fraction is cut off. -/
def slack : ℚ := 4611686018427388 / 2 ^ 62

section Lengths

variable {length : ℤ} {portion : Float} {part other : ℚ}

theorem hasValue_slack : HasValue AxisRange.pixelSlack slack :=
  ⟨⟨false, 4611686018427388, -62⟩, by decide +kernel,
    by norm_num [Binary.value, Binary.magnitude, slack]⟩

theorem slack_bounds : 0 < slack ∧ slack < 1 := by
  norm_num [slack]

/-- A part of a length and the slack are no longer than the length and one pixel. -/
theorem hasValue_forwards (positive : 0 ≤ length) (short : length + 1 < 2 ^ 53)
    (valued : HasValue portion part) (nonnegative : 0 ≤ part) (atMost : part ≤ 1) :
    HasValue (Float.ofInt length * portion + AxisRange.pixelSlack)
        (nearest (nearest (length * part) + slack)) ∧
      0 ≤ nearest (nearest (length * part) + slack) ∧
      nearest (nearest (length * part) + slack) ≤ (length + 1 : ℤ) := by
  have lengthPositive : (0 : ℚ) ≤ length := by exact_mod_cast positive
  have whole : HasValue (Float.ofInt length) length :=
    hasValue_ofInt (by rw [abs_of_nonneg positive]; omega)
  have next : HasValue (Float.ofInt (length + 1)) (length + 1 : ℤ) :=
    hasValue_ofInt (by rw [abs_of_nonneg (by omega)]; omega)
  obtain ⟨product, above, below⟩ := (whole.mul valued).between hasValue_zero whole
    (mul_nonneg lengthPositive nonnegative) (mul_le_of_le_one_right lengthPositive atMost)
  have bounds := slack_bounds
  exact (product.add hasValue_slack).between hasValue_zero next (by linarith)
    (by push_cast; linarith)

theorem hasValue_backwards (negative : length ≤ 0) (short : -2 ^ 53 < length - 1)
    (valued : HasValue portion part) (nonnegative : 0 ≤ part) (atMost : part ≤ 1) :
    HasValue (Float.ofInt length * portion - AxisRange.pixelSlack)
        (nearest (nearest (length * part) - slack)) ∧
      (length - 1 : ℤ) ≤ nearest (nearest (length * part) - slack) ∧
      nearest (nearest (length * part) - slack) ≤ 0 := by
  have lengthNegative : (length : ℚ) ≤ 0 := by exact_mod_cast negative
  have whole : HasValue (Float.ofInt length) length :=
    hasValue_ofInt (by rw [abs_of_nonpos negative]; omega)
  have next : HasValue (Float.ofInt (length - 1)) (length - 1 : ℤ) :=
    hasValue_ofInt (by rw [abs_of_nonpos (by omega)]; omega)
  have within : (length : ℚ) ≤ length * part := by nlinarith
  obtain ⟨product, above, below⟩ := (whole.mul valued).between whole hasValue_zero
    within (mul_nonpos_of_nonpos_of_nonneg lengthNegative nonnegative)
  have bounds := slack_bounds
  exact (product.sub hasValue_slack).between next hasValue_zero (by push_cast; linarith)
    (by linarith)

/-- The whole number of pixels on an axis that runs with its pixels. -/
theorem pixelOffset_forwards (positive : 0 < length) (short : length + 1 < 2 ^ 31)
    (isPart : IsPart portion part) (nonnegative : 0 ≤ part) (atMost : part ≤ 1) :
    AxisRange.pixelOffset length portion = ⌊nearest (nearest (length * part) + slack)⌋ ∧
      0 ≤ AxisRange.pixelOffset length portion ∧
      AxisRange.pixelOffset length portion ≤ length + 1 := by
  unfold AxisRange.pixelOffset
  rw [if_pos positive]
  rcases isPart with valued | ⟨none, rfl⟩
  · obtain ⟨exact, above, below⟩ :=
      hasValue_forwards positive.le (by omega) valued nonnegative atMost
    have floorAbove := Int.floor_nonneg.mpr above
    have floorBelow := Int.floor_le_floor below
    rw [Int.floor_intCast] at floorBelow
    have small : |nearest (nearest (length * part) + slack)| < 2 ^ 52 := by
      rw [abs_of_nonneg above]
      refine below.trans_lt ?_
      exact_mod_cast (by omega : length + 1 < 2 ^ 52)
    rw [toPixel_whole (hasValue_floor exact small) (by omega) (by omega)]
    exact ⟨rfl, floorAbove, floorBelow⟩
  · have sum : Extended.ofFloat (Float.ofInt length * portion + AxisRange.pixelSlack) = .nan :=
      nan_add (mul_nan none)
    have fraction : ⌊slack⌋ = 0 := by norm_num [slack]
    rw [mul_zero, nearest_zero, zero_add, hasValue_slack.nearest_eq, floor_nan sum,
      toPixel_nan sum, fraction]
    omega

/-- The whole number of pixels on an axis that runs against its pixels. -/
theorem pixelOffset_backwards (negative : length ≤ 0) (short : -2 ^ 31 < length)
    (isPart : IsPart portion part) (nonnegative : 0 ≤ part) (atMost : part ≤ 1) :
    AxisRange.pixelOffset length portion = ⌈nearest (nearest (length * part) - slack)⌉ ∧
      length - 1 ≤ AxisRange.pixelOffset length portion ∧
      AxisRange.pixelOffset length portion ≤ 0 := by
  unfold AxisRange.pixelOffset
  rw [if_neg negative.not_gt]
  rcases isPart with valued | ⟨none, rfl⟩
  · obtain ⟨exact, above, below⟩ :=
      hasValue_backwards negative (by omega) valued nonnegative atMost
    have ceilAbove := Int.ceil_le_ceil above
    have ceilBelow := Int.ceil_le_ceil below
    rw [Int.ceil_intCast] at ceilAbove
    rw [Int.ceil_zero] at ceilBelow
    have small : |nearest (nearest (length * part) - slack)| < 2 ^ 52 := by
      rw [abs_of_nonpos below]
      refine (neg_le_neg above).trans_lt ?_
      exact_mod_cast (by omega : -(length - 1) < 2 ^ 52)
    rw [toPixel_whole (hasValue_ceil exact small) (by omega) (by omega)]
    exact ⟨rfl, ceilAbove, ceilBelow⟩
  · have difference :
        Extended.ofFloat (Float.ofInt length * portion - AxisRange.pixelSlack) = .nan :=
      nan_sub (mul_nan none)
    have fraction : ⌈-slack⌉ = 0 := by norm_num [slack]
    rw [mul_zero, nearest_zero, zero_sub, nearest_neg, hasValue_slack.nearest_eq,
      ceil_nan difference, toPixel_nan difference, fraction]
    omega

end Lengths

section Pixels

variable {range : AxisRange} {first second : Float} {exactFirst exactSecond : ℚ} {start stop : ℤ}

theorem isInf_of_isPart {portion : Float} {part : ℚ} (isPart : IsPart portion part) :
    portion.isInf = false := by
  change portion.toModel.unpack.isInf = false
  rcases isPart with valued | ⟨none, -⟩
  · have denotes := hasValue_iff_denotes.mp valued
    generalize portion.toModel.unpack = unpacked at denotes
    cases denotes <;> rfl
  · rw [unpack_of_nan none]
    rfl

/-- A value on a range with two different ends, and pixels that are not too far apart. -/
theorem pixel_eq {value : Float} {part : ℚ} (apart : (range.start == range.stop) = false)
    (different : stop ≠ start) (least : -2 ^ 31 ≤ stop - start) (greatest : stop - start < 2 ^ 31)
    (isPart : IsPart (range.portion value) part) : range.pixel start stop value =
      wrapPixel (start + AxisRange.pixelOffset (stop - start) (range.portion value)) := by
  have length : wrapPixel (stop - start) = stop - start :=
    wrapPixel_of_small (by rwa [coordinate_limit]) (by rwa [coordinate_limit])
  unfold AxisRange.pixel
  dsimp only
  rw [apart, length, isInf_of_isPart isPart]
  simp only [Bool.false_eq_true, if_false, different]

/-- Without a way between two ends there is one pixel for all values. -/
theorem pixel_constant (single : (range.start == range.stop) = true ∨ stop = start)
    (first second : Float) : range.pixel start stop first = range.pixel start stop second := by
  unfold AxisRange.pixel
  dsimp only
  rcases single with same | same
  · rw [if_pos same, if_pos same]
  · rw [if_pos same, if_pos same]

/-- On an axis that runs with its pixels, a greater value does not stand further back. -/
theorem pixel_mono (valuedFirst : HasValue first exactFirst)
    (valuedSecond : HasValue second exactSecond) (coversFirst : range.Covers exactFirst)
    (coversSecond : range.Covers exactSecond) (ordered : exactFirst ≤ exactSecond)
    (least : 0 ≤ start) (forwards : start ≤ stop) (greatest : stop + 1 < 2 ^ 31) :
    range.pixel start stop first ≤ range.pixel start stop second := by
  rcases Bool.eq_false_or_eq_true (range.start == range.stop) with same | apart
  · exact (pixel_constant (.inl same) first second).le
  rcases forwards.eq_or_lt with same | less
  · exact (pixel_constant (.inr same.symm) first second).le
  have limit := coordinate_limit
  obtain ⟨part, other, isPart, isPartOther, nonnegative, increasing, atMost⟩ :=
    portion_mono apart valuedFirst valuedSecond coversFirst coversSecond ordered
  obtain ⟨offset, above, below⟩ := pixelOffset_forwards (by omega : 0 < stop - start) (by omega)
    isPart nonnegative (increasing.trans atMost)
  obtain ⟨offsetOther, aboveOther, belowOther⟩ := pixelOffset_forwards
    (by omega : 0 < stop - start) (by omega) isPartOther (nonnegative.trans increasing) atMost
  have further : AxisRange.pixelOffset (stop - start) (range.portion first) ≤
      AxisRange.pixelOffset (stop - start) (range.portion second) := by
    have lengthPositive : (0 : ℚ) ≤ (stop - start : ℤ) := by exact_mod_cast (by omega)
    rw [offset, offsetOther]
    apply Int.floor_le_floor
    apply nearest_mono
    apply add_le_add_left
    exact nearest_mono (mul_le_mul_of_nonneg_left increasing lengthPositive)
  rw [pixel_eq apart less.ne' (by omega) (by omega) isPart,
    pixel_eq apart less.ne' (by omega) (by omega) isPartOther,
    wrapPixel_of_small (by omega) (by omega), wrapPixel_of_small (by omega) (by omega)]
  omega

/-- On an axis that runs against its pixels, a greater value has no greater position. -/
theorem pixel_antitone (valuedFirst : HasValue first exactFirst)
    (valuedSecond : HasValue second exactSecond) (coversFirst : range.Covers exactFirst)
    (coversSecond : range.Covers exactSecond) (ordered : exactFirst ≤ exactSecond)
    (least : 0 < stop) (backwards : stop ≤ start) (greatest : start < 2 ^ 31) :
    range.pixel start stop second ≤ range.pixel start stop first := by
  rcases Bool.eq_false_or_eq_true (range.start == range.stop) with same | apart
  · exact (pixel_constant (.inl same) second first).le
  rcases backwards.eq_or_lt with same | less
  · exact (pixel_constant (.inr same) second first).le
  have limit := coordinate_limit
  obtain ⟨part, other, isPart, isPartOther, nonnegative, increasing, atMost⟩ :=
    portion_mono apart valuedFirst valuedSecond coversFirst coversSecond ordered
  obtain ⟨offset, above, below⟩ := pixelOffset_backwards (by omega : stop - start ≤ 0) (by omega)
    isPart nonnegative (increasing.trans atMost)
  obtain ⟨offsetOther, aboveOther, belowOther⟩ := pixelOffset_backwards
    (by omega : stop - start ≤ 0) (by omega) isPartOther (nonnegative.trans increasing) atMost
  have further : AxisRange.pixelOffset (stop - start) (range.portion second) ≤
      AxisRange.pixelOffset (stop - start) (range.portion first) := by
    have lengthNegative : ((stop - start : ℤ) : ℚ) ≤ 0 := by exact_mod_cast (by omega)
    rw [offset, offsetOther]
    apply Int.ceil_le_ceil
    apply nearest_mono
    apply sub_le_sub_right
    exact nearest_mono (mul_le_mul_of_nonpos_left increasing lengthNegative)
  rw [pixel_eq apart less.ne (by omega) (by omega) isPart,
    pixel_eq apart less.ne (by omega) (by omega) isPartOther,
    wrapPixel_of_small (by omega) (by omega), wrapPixel_of_small (by omega) (by omega)]
  omega

end Pixels

end BenchmarkReport.Plot
