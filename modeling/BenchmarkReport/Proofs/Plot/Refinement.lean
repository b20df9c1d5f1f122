/-
This file proves that the refinement of a step ends. It starts at the decade of the width, and a
step that is fine enough gives too many ticks.
-/

import BenchmarkReport.Proofs.Number.Decades
import BenchmarkReport.Proofs.Plot.Multiples

namespace BenchmarkReport.Plot

open Number

/-- The number of parts in a length is counted with one more, up to a half. -/
theorem exists_toCount {length number divisor : Float} {exact whole part : ℚ}
    (valuedLength : HasValue length exact) (valued : HasValue number whole)
    (valuedDivisor : HasValue divisor part) (positive : 0 < whole)
    (size : |exact / whole| ≤ 2 ^ 12) (partPositive : 0 < part) (partLe : part ≤ 10) :
    ∃ count : ℤ, (toCount (round (1 + length / number * divisor)) : ℤ) = max 0 count ∧
      |(count : ℚ) - (1 + part * (exact / whole))| ≤ 51 / 100 := by
  obtain ⟨sizeLeast, sizeLe⟩ := abs_le.mp size
  obtain ⟨quotient, valuedQuotient, quotientError⟩ := (valuedLength.div valued positive.ne').near
    size (leastNormal_le_pow 12) (pow_le_overflow (by decide))
  have nearQuotient := abs_le.mp quotientError
  have scaled : |part * quotient - part * (exact / whole)| ≤ 10 * (2 ^ 12 / 2 ^ 53) := by
    rw [← mul_sub, abs_mul, abs_of_pos partPositive]
    exact mul_le_mul partLe quotientError (abs_nonneg _) (by norm_num)
  have sizeProduct : |quotient * part| ≤ 2 ^ 17 := by
    rw [abs_mul, abs_of_pos partPositive]
    have few : |quotient| ≤ 2 ^ 13 := abs_le.mpr ⟨by linarith, by linarith⟩
    exact (mul_le_mul few partLe partPositive.le (by norm_num)).trans (by norm_num)
  have near := abs_le.mp scaled
  have nearSize := abs_le.mp sizeProduct
  obtain ⟨product, valuedProduct, productError⟩ := (valuedQuotient.mul valuedDivisor).near
    sizeProduct (leastNormal_le_pow 17) (pow_le_overflow (by decide))
  have nearProduct := abs_le.mp productError
  obtain ⟨sum, valuedSum, sumError⟩ := (hasValue_unit.add valuedProduct).near
    (abs_le.mpr ⟨by linarith, by linarith⟩) (leastNormal_le_pow 18) (pow_le_overflow (by decide))
  have nearSum := abs_le.mp sumError
  obtain ⟨count, valuedCount, distance⟩ := exists_hasValue_round valuedSum
    (abs_lt.mpr ⟨by linarith, by linarith⟩)
  have nearCount := abs_le.mp distance
  have small : (count : ℚ) < 2 ^ 52 := by linarith
  norm_cast at small
  have kept := toCount_whole valuedCount
  exact ⟨count, by omega, abs_le.mpr ⟨by linarith, by linarith⟩⟩

namespace HasRoom

variable {range : AxisRange} {number : Float} {least greatest bound whole : ℚ}

/-- A small step is rounded relative to its own size. -/
theorem near_scale (room : HasRoom range least greatest bound) {exact : ℚ}
    (rounded : IsRounded exact number) (fine : greatest - least ≤ 7500 * exact)
    (coarse : exact ≤ 5 * (greatest - least)) :
    ∃ value, HasValue number value ∧ |value - exact| ≤ exact / 2 ^ 53 := by
  have wide := room.wide
  have small := room.small
  obtain ⟨width, widthLe, -⟩ := room.sizes
  exact rounded.near (abs_of_pos (by linarith)).le (leastNormal_le_inv.trans (by linarith))
    (by linarith)

/-- The ticks of a divided step are counted up to one and a part of their number. -/
theorem exists_tickCount (room : HasRoom range least greatest bound)
    (valued : HasValue number whole) (fine : greatest - least ≤ 650 * whole)
    (coarse : whole ≤ 42 / 10 * (greatest - least)) {divisor : Float} {part : ℚ}
    (valuedDivisor : HasValue divisor part) (partLeast : 2 ≤ part) (partLe : part ≤ 10) :
    ∃ count : ℤ, (TickStep.tickCount range number divisor : ℤ) = max 0 count ∧
      97 / 100 * (part * ((greatest - least) / whole)) - 8 / 5 ≤ count ∧
      count ≤ 51 / 50 * (part * ((greatest - least) / whole)) + 8 / 5 := by
  obtain ⟨width, widthLe, slackPos, slack⟩ := room.sizes
  have positive : 0 < whole := by linarith
  have partPositive : 0 < part := by linarith
  have tenth : whole / 10 ≤ whole / part :=
    div_le_div_of_nonneg_left positive.le partPositive partLe
  have half : whole / part ≤ whole / 2 :=
    div_le_div_of_nonneg_left positive.le two_pos partLeast
  obtain ⟨step, valuedStep, error⟩ := room.near_scale (valued.div valuedDivisor partPositive.ne')
    (by linarith) (by linarith)
  obtain ⟨stepLeast, stepLe⟩ := abs_le.mp error
  have fitting : IsFitting least greatest (number / divisor) step :=
    ⟨valuedStep, by linarith, by linarith⟩
  obtain ⟨first, valuedFirst, firstLeast, firstGreatest⟩ := room.exists_firstMultiple fitting
  obtain ⟨last, valuedLast, lastLeast, lastGreatest⟩ := room.exists_lastMultiple fitting
  obtain ⟨length, valuedLength, lengthLeast, lengthGreatest⟩ :=
    room.near (valuedLast.sub valuedFirst) (by linarith) (by linarith)
  have size : |length / whole| ≤ 2 ^ 12 := by
    rw [abs_div, abs_of_pos positive, div_le_iff₀ positive, abs_le]
    constructor <;> linarith
  obtain ⟨count, counted, distance⟩ := exists_toCount valuedLength valued valuedDivisor positive
    size partPositive partLe
  have near := abs_le.mp distance
  -- One step may be lost at either end of the range, and all parts together make the whole.
  have parts : part * step ≤ 101 / 100 * whole := by
    have product := mul_le_mul_of_nonneg_left
      (by linarith : step ≤ 101 / 100 * (whole / part)) partPositive.le
    rwa [mul_left_comm, mul_div_cancel₀ _ partPositive.ne'] at product
  have upper : part * (length / whole) ≤ 51 / 50 * (part * ((greatest - least) / whole)) := by
    rw [mul_left_comm, ← mul_div_assoc, ← mul_div_assoc, ← mul_div_assoc]
    have product := mul_le_mul_of_nonneg_left
      (by linarith : length ≤ 51 / 50 * (greatest - least)) partPositive.le
    exact div_le_div_of_nonneg_right product positive.le
  have lower : 97 / 100 * (part * ((greatest - least) / whole)) - 202 / 100 ≤
      part * (length / whole) := by
    have product := mul_le_mul_of_nonneg_left
      (by linarith : 97 / 100 * (greatest - least) - 2 * step ≤ length) partPositive.le
    have lost : 97 / 100 * (part * (greatest - least)) - 202 / 100 * whole ≤ part * length := by
      linarith
    have divided := div_le_div_of_nonneg_right lost positive.le
    rwa [sub_div, mul_div_cancel_right₀ _ positive.ne', mul_div_assoc, mul_div_assoc,
      mul_div_assoc] at divided
  exact ⟨count, counted, by linarith, by linarith⟩

/-- A step that fits more than sixty times gives too many ticks when it is halved. -/
theorem lt_tickCount (room : HasRoom range least greatest bound) (valued : HasValue number whole)
    (fine : greatest - least ≤ 650 * whole) (coarse : 64 * whole ≤ greatest - least) {limit : ℕ}
    (few : limit ≤ 110) : limit < TickStep.tickCount range number 2 := by
  obtain ⟨width, -⟩ := room.sizes
  have positive : 0 < whole := by linarith
  have two : HasValue 2 2 := hasValue_literal 2 (by decide)
  obtain ⟨count, counted, many, -⟩ :=
    room.exists_tickCount valued fine (by linarith) two le_rfl (by norm_num)
  have fits : 64 ≤ (greatest - least) / whole := (le_div_iff₀ positive).mpr coarse
  have enough : (110 : ℚ) < count := by linarith
  norm_cast at enough
  omega

/-- A division that gives more than eleven ticks has parts of which ten fit into the range. -/
theorem le_of_lt_tickCount (room : HasRoom range least greatest bound)
    (valued : HasValue number whole) (fine : greatest - least ≤ 650 * whole)
    (coarse : whole ≤ 42 / 10 * (greatest - least)) {divisor : Float} {part : ℚ}
    (valuedDivisor : HasValue divisor part) (partLeast : 2 ≤ part) (partLe : part ≤ 10) {limit : ℕ}
    (enough : 11 ≤ limit) (many : limit < TickStep.tickCount range number divisor) :
    10 * whole ≤ part * (greatest - least) := by
  obtain ⟨width, -⟩ := room.sizes
  have positive : 0 < whole := by linarith
  obtain ⟨count, counted, -, few⟩ :=
    room.exists_tickCount valued fine coarse valuedDivisor partLeast partLe
  have above : 12 ≤ count := by omega
  have aboveCast : (12 : ℚ) ≤ count := by exact_mod_cast above
  have fits : 10 ≤ part * (greatest - least) / whole := by
    rw [mul_div_assoc]
    linarith
  exact (le_div_iff₀ positive).mp fits

end HasRoom

/-- A step of the refinement with its granularity, which is about a tenth of it. The ratio of the
two grows with each rounding. -/
structure IsStage (least greatest : ℚ) (step : TickStep) (whole grain ratio : ℚ) : Prop where
  valued : HasValue step.scale whole
  valuedGrain : HasValue step.granularity grain
  fine : greatest - least ≤ 650 * whole
  coarse : whole ≤ 42 / 10 * (greatest - least)
  positive : 0 < grain
  grainCoarse : grain ≤ greatest - least
  ratioPositive : 0 < ratio
  ratioLe : ratio ≤ 11
  ratio : whole ≤ ratio * grain

/-- The refinement ends with a step that is neither too fine nor too coarse. -/
structure IsSettled (least greatest : ℚ) (step : TickStep) (scale grain : ℚ) : Prop where
  valued : HasValue step.scale scale
  valuedGrain : HasValue step.granularity grain
  fine : greatest - least ≤ 650 * scale
  coarse : 39 / 10 * scale ≤ greatest - least
  grainFine : greatest - least ≤ 7200 * grain
  grainCoarse : grain ≤ greatest - least

section Refinement

variable {range : AxisRange} {step : TickStep} {least greatest bound whole grain ratio : ℚ}
  {limit : ℕ}

theorem IsStage.grainFine (stage : IsStage least greatest step whole grain ratio) :
    whole ≤ 11 * grain :=
  stage.ratio.trans (mul_le_mul_of_nonneg_right stage.ratioLe stage.positive.le)

/-- A step that is found in a stage settles the refinement. -/
theorem IsStage.isSettled {scale : Float} {exact : ℚ}
    (stage : IsStage least greatest step whole grain ratio) (valued : HasValue scale exact)
    (fine : greatest - least ≤ 650 * exact) (coarse : 39 / 10 * exact ≤ greatest - least) :
    IsSettled least greatest { step with scale } exact grain where
  valued := valued
  valuedGrain := stage.valuedGrain
  fine := fine
  coarse := coarse
  grainFine := by
    have fine := stage.fine
    have grainFine := stage.grainFine
    have positive := stage.positive
    linarith
  grainCoarse := stage.grainCoarse

/-- Each stage is a tenth of the one before. -/
theorem IsStage.finer (room : HasRoom range least greatest bound)
    (stage : IsStage least greatest step whole grain ratio) (few : ratio + 1 / 100 ≤ 11)
    (coarse : greatest - least < 64 * whole) :
    ∃ wholeNext grainNext,
      IsStage least greatest step.finer wholeNext grainNext (ratio + 1 / 100) ∧
        9 * wholeNext ≤ whole := by
  have wholeCoarse := stage.coarse
  have grainCoarse := stage.grainCoarse
  have grainFine := stage.grainFine
  have positive := stage.positive
  have ratioPositive := stage.ratioPositive
  obtain ⟨width, -⟩ := room.sizes
  have ten : HasValue 10 10 := hasValue_literal 10 (by decide)
  obtain ⟨wholeNext, valuedWhole, error⟩ :=
    room.near_scale (stage.valued.div ten (by norm_num)) (by linarith) (by linarith)
  obtain ⟨grainNext, valuedGrain, errorGrain⟩ :=
    room.near_scale (stage.valuedGrain.div ten (by norm_num)) (by linarith) (by linarith)
  have near := abs_le.mp error
  have nearGrain := abs_le.mp errorGrain
  have next : ratio * (grain / 10 - grain / 10 / 2 ^ 53) ≤ ratio * grainNext :=
    mul_le_mul_of_nonneg_left (by linarith) ratioPositive.le
  have product : ratio * grain ≤ 11 * grain :=
    mul_le_mul_of_nonneg_right stage.ratioLe positive.le
  have within := stage.ratio
  refine ⟨wholeNext, grainNext, ⟨valuedWhole, valuedGrain, ?_, ?_, ?_, ?_, ?_, few, ?_⟩, ?_⟩ <;>
    linarith

/-- A division that gives too many ticks ends the refinement with an earlier one. -/
theorem settledScale_cases {scale : Float}
    (settled : TickStep.settledScale? limit range step.scale step.scale TickStep.divisors =
      some scale) :
    limit < TickStep.tickCount range step.scale 2 ∧ scale = step.scale ∨
      limit < TickStep.tickCount range step.scale 5 ∧ scale = step.scale / 2 ∨
      limit < TickStep.tickCount range step.scale 10 ∧ scale = step.scale / 5 := by
  simp only [TickStep.divisors, TickStep.settledScale?] at settled
  split_ifs at settled with halves fifths tenths
  · exact .inl ⟨halves, (Option.some.inj settled).symm⟩
  · exact .inr (.inl ⟨fifths, (Option.some.inj settled).symm⟩)
  · exact .inr (.inr ⟨tenths, (Option.some.inj settled).symm⟩)

/-- A stage that is fine enough is the last one. -/
theorem settle_of_fine (room : HasRoom range least greatest bound)
    (stage : IsStage least greatest step whole grain ratio) (limitLe : limit ≤ 110)
    (fine : 64 * whole ≤ greatest - least) (fuel : ℕ) :
    TickStep.settle? limit range (fuel + 1) step = some step ∧
      IsSettled least greatest step whole grain := by
  have stageFine := stage.fine
  obtain ⟨width, -⟩ := room.sizes
  have many := room.lt_tickCount stage.valued stage.fine fine limitLe
  have settled : TickStep.settledScale? limit range step.scale step.scale TickStep.divisors =
      some step.scale := by
    simp only [TickStep.divisors, TickStep.settledScale?]
    rw [if_pos many]
  exact ⟨TickStep.settle?_granularity_of_settled settled,
    stage.isSettled stage.valued stage.fine (by linarith)⟩

/-- A coarse stage ends the refinement, or the next stage is tried. -/
theorem settle_of_coarse (room : HasRoom range least greatest bound)
    (stage : IsStage least greatest step whole grain ratio) (limitLeast : 11 ≤ limit)
    (coarse : greatest - least < 64 * whole) (fuel : ℕ) :
    (∃ settled scale, TickStep.settle? limit range (fuel + 1) step = some settled ∧
      IsSettled least greatest settled scale grain) ∨
    TickStep.settle? limit range (fuel + 1) step =
      TickStep.settle? limit range fuel step.finer := by
  cases found : TickStep.settledScale? limit range step.scale step.scale TickStep.divisors with
  | none =>
      right
      simp only [TickStep.settle?, found]
  | some scale =>
      left
      have wholeCoarse := stage.coarse
      have two : HasValue 2 2 := hasValue_literal 2 (by decide)
      have five : HasValue 5 5 := hasValue_literal 5 (by decide)
      have ten : HasValue 10 10 := hasValue_literal 10 (by decide)
      obtain ⟨width, -⟩ := room.sizes
      have ended : TickStep.settle? limit range (fuel + 1) step = some { step with scale } :=
        TickStep.settle?_granularity_of_settled found
      -- The division that gives too many ticks is finer than the one that is kept, so that several
      -- steps of this one fit into the range.
      rcases settledScale_cases found with ⟨many, rfl⟩ | ⟨many, rfl⟩ | ⟨many, rfl⟩
      · have fits := room.le_of_lt_tickCount stage.valued stage.fine wholeCoarse two le_rfl
          (by norm_num) limitLeast many
        exact ⟨_, _, ended, stage.isSettled stage.valued (by linarith) (by linarith)⟩
      · have fits := room.le_of_lt_tickCount stage.valued stage.fine wholeCoarse five
          (by norm_num) (by norm_num) limitLeast many
        obtain ⟨half, valued, error⟩ := room.near_scale
          (stage.valued.div two two_ne_zero) (by linarith) (by linarith)
        have near := abs_le.mp error
        exact ⟨_, _, ended, stage.isSettled valued (by linarith) (by linarith)⟩
      · have fits := room.le_of_lt_tickCount stage.valued stage.fine wholeCoarse ten
          (by norm_num) le_rfl limitLeast many
        obtain ⟨fifth, valued, error⟩ := room.near_scale
          (stage.valued.div five (by norm_num)) (by linarith) (by linarith)
        have near := abs_le.mp error
        exact ⟨_, _, ended, stage.isSettled valued (by linarith) (by linarith)⟩

/-- The refinement ends when a stage is as fine as the depth demands, and each stage is a ninth of
the one before at most. -/
theorem exists_settle (room : HasRoom range least greatest bound) (limitLeast : 11 ≤ limit)
    (limitLe : limit ≤ 110) (depth fuel : ℕ) (enough : depth < fuel)
    (stage : IsStage least greatest step whole grain ratio) (few : ratio + depth / 100 ≤ 11)
    (fine : 64 * whole ≤ 9 ^ depth * (greatest - least)) :
    ∃ settled scale grainSettled, TickStep.settle? limit range fuel step = some settled ∧
      IsSettled least greatest settled scale grainSettled := by
  -- The depth counts the stages that may still be too coarse. Each of them takes a hundredth of
  -- what is left for the ratio.
  induction depth generalizing step whole grain ratio fuel with
  | zero =>
      obtain ⟨fuel, rfl⟩ := Nat.exists_eq_add_one_of_ne_zero enough.ne'
      rw [pow_zero, one_mul] at fine
      exact ⟨step, whole, grain, settle_of_fine room stage limitLe fine fuel⟩
  | succ depth inductionHypothesis =>
      obtain ⟨fuel, rfl⟩ := Nat.exists_eq_add_one_of_ne_zero (Nat.ne_zero_of_lt enough)
      rcases le_or_gt (64 * whole) (greatest - least) with last | coarse
      · exact ⟨step, whole, grain, settle_of_fine room stage limitLe last fuel⟩
      · push_cast at few
        have few : ratio + 1 / 100 + depth / 100 ≤ 11 := by linarith
        have depthNonneg : (0 : ℚ) ≤ depth := Nat.cast_nonneg depth
        rcases settle_of_coarse room stage limitLeast coarse fuel with
          ⟨settled, scale, ended, isSettled⟩ | next
        · exact ⟨settled, scale, grain, ended, isSettled⟩
        · obtain ⟨wholeNext, grainNext, stageNext, ninth⟩ :=
            stage.finer room (by linarith) coarse
          rw [next]
          refine inductionHypothesis fuel (by omega) stageNext few ?_
          rw [pow_succ] at fine
          linarith

/-- The width of a range as it is computed. -/
theorem exists_width (room : HasRoom range least greatest bound) :
    ∃ width, HasValue (range.stop - range.start) width ∧
      |width - (greatest - least)| ≤ (greatest - least) / 2 ^ 53 := by
  obtain ⟨width, -⟩ := room.sizes
  exact room.near_scale (room.stop.sub room.start) (by linarith) (by linarith)

/-- The decade is taken ten times as wide only when it is much narrower than the range. -/
theorem decade_of_coarser {width scale : Float} {exact whole : ℚ} (valued : HasValue width exact)
    (valuedScale : HasValue scale whole) (positive : 0 < whole) (nonnegative : 0 ≤ exact)
    (fine : exact ≤ 33 * whole) (limitLe : 11 ≤ limit)
    (many : limit < 1 + toCount (floor (width / scale))) : 10 * whole ≤ exact := by
  have lower : 0 ≤ exact / whole := div_nonneg nonnegative positive.le
  have upper : exact / whole ≤ 2 ^ 6 := by
    rw [div_le_iff₀ positive]
    linarith
  obtain ⟨quotient, valuedQuotient, error⟩ := (valued.div valuedScale positive.ne').near
    (abs_le.mpr ⟨by linarith, upper⟩) (leastNormal_le_pow 6) (pow_le_overflow (by decide))
  have near := abs_le.mp error
  have below := Int.floor_le quotient
  have valuedFloor := hasValue_floor valuedQuotient (abs_lt.mpr ⟨by linarith, by linarith⟩)
  have count := toCount_whole valuedFloor
  have above : (11 : ℤ) ≤ ⌊quotient⌋ := by omega
  have aboveCast : (11 : ℚ) ≤ ⌊quotient⌋ := by exact_mod_cast above
  have enough : 10 ≤ exact / whole := by linarith
  rwa [le_div_iff₀ positive] at enough

/-- The refinement starts with a stage that is at most four times as wide as the range. -/
theorem exists_isStage_initial (room : HasRoom range least greatest bound) (limitLe : 11 ≤ limit) :
    ∃ whole grain, IsStage least greatest (.initial limit range) whole grain (101 / 10) := by
  have wide := room.wide
  have small := room.small
  obtain ⟨widthPos, widthLe, -⟩ := room.sizes
  obtain ⟨width, valuedWidth, error⟩ := exists_width room
  have near := abs_le.mp error
  have atLeast : (2 : ℚ) ^ (-100 : ℤ) ≤ width := by
    have power : (2 : ℚ) ^ (-100 : ℤ) = 1 / 2 ^ 100 := by norm_num
    rw [power]
    linarith
  have ten : HasValue 10 10 := hasValue_literal 10 (by decide)
  obtain ⟨whole, valued, fine, coarse⟩ := exists_hasValue_decade valuedWidth atLeast (by linarith)
  obtain ⟨grain, valuedGrain, errorGrain⟩ := room.near_scale
    (valued.div ten (by norm_num)) (by linarith) (by linarith)
  have nearGrain := abs_le.mp errorGrain
  unfold TickStep.initial
  dsimp only
  split
  · rename_i many
    have narrow := decade_of_coarser valuedWidth valued (by linarith) (by linarith) (by linarith)
      limitLe many
    obtain ⟨wholeTen, valuedTen, errorTen⟩ := room.near_scale (valued.mul ten)
      (by linarith) (by linarith)
    have nearTen := abs_le.mp errorTen
    obtain ⟨grainTen, valuedGrainTen, errorGrainTen⟩ := room.near_scale
      (valuedGrain.mul ten) (by linarith) (by linarith)
    have nearGrainTen := abs_le.mp errorGrainTen
    refine ⟨wholeTen, grainTen, valuedTen, valuedGrainTen, ?_, ?_, ?_, ?_, ?_, ?_, ?_⟩ <;> linarith
  · refine ⟨whole, grain, valued, valuedGrain, ?_, ?_, ?_, ?_, ?_, ?_, ?_⟩ <;> linarith

/-- In a range with room for ticks the refinement ends. -/
theorem exists_settle_initial (room : HasRoom range least greatest bound) (limitLeast : 11 ≤ limit)
    (limitLe : limit ≤ 110) :
    ∃ settled scale grain,
      TickStep.settle? limit range decadeFuel (.initial limit range) = some settled ∧
        IsSettled least greatest settled scale grain := by
  obtain ⟨whole, grain, stage⟩ := exists_isStage_initial room limitLeast
  obtain ⟨width, -⟩ := room.sizes
  have coarse := stage.coarse
  refine exists_settle room limitLeast limitLe 3 decadeFuel (by decide) stage (by norm_num) ?_
  linarith

end Refinement

end BenchmarkReport.Plot
