/-
This file proves that the search for ticks ends in a range with room for them, that each tick is
greater than the one before, and that the ticks go on up to the end of the range.
-/

import BenchmarkReport.Proofs.Plot.Refinement

namespace BenchmarkReport.Plot

open Number

/-- The state of the search for ticks: the base and the last tick are where the range wants them. -/
structure IsBased (range : AxisRange) (least greatest bound : ℚ) (step : TickStep)
    (base last : Float) (scale grain exactBase exactLast : ℚ) : Prop where
  room : HasRoom range least greatest bound
  settled : IsSettled least greatest step scale grain
  valuedBase : HasValue base exactBase
  valuedLast : HasValue last exactLast
  baseLeast : least - 2 * (greatest - least) ≤ exactBase
  baseGreatest : exactBase ≤ least + 5 * (greatest - least)
  lastLeast : greatest - scale - 4 * slackWithin bound ≤ exactLast
  lastGreatest : exactLast ≤ greatest + 4 * slackWithin bound
  distance : exactLast - exactBase ≤ 21 / 10 * (greatest - least)
  wide : 1 / 2 ^ 52 ≤ 101 / 100 * (greatest - least)

/-- The ticks from some position on: they rise, none of them lies before that position, and they go
on up to the last tick. -/
structure IsSweep (bound scale exactLast start : ℚ) (ticks : List Float) : Prop where
  rising : ticks.Pairwise (· < ·)
  beyond : ∀ tick ∈ ticks, ∃ position, HasValue tick position ∧
    start - slackWithin bound / 4 ≤ position
  reached : start ≤ exactLast - 3 * slackWithin bound → ∃ tick ∈ ticks, ∃ position,
    HasValue tick position ∧ exactLast ≤ position + scale + 6 * slackWithin bound

/-- There are no ticks from a position behind the last one. -/
theorem IsSweep.nil {bound scale exactLast start : ℚ}
    (passed : exactLast - 3 * slackWithin bound < start) :
    IsSweep bound scale exactLast start [] where
  rising := .nil
  beyond := by simp
  reached := fun behind => absurd behind passed.not_ge

theorem IsSweep.cons {bound scale exactLast start next position : ℚ} {tick : Float}
    {ticks : List Float} (sweep : IsSweep bound scale exactLast next ticks)
    (valued : HasValue tick position) (beyond : start - slackWithin bound / 4 ≤ position)
    (before : position < next - slackWithin bound / 4)
    (near : next ≤ position + scale + 3 * slackWithin bound) :
    IsSweep bound scale exactLast start (tick :: ticks) where
  rising := by
    refine List.pairwise_cons.mpr ⟨fun other member => ?_, sweep.rising⟩
    obtain ⟨later, valuedLater, laterLeast⟩ := sweep.beyond other member
    exact (valued.lt_iff valuedLater).mpr (before.trans_le laterLeast)
  beyond := by
    rw [List.forall_mem_cons]
    refine ⟨⟨position, valued, beyond⟩, fun other member => ?_⟩
    obtain ⟨later, valuedLater, laterLeast⟩ := sweep.beyond other member
    exact ⟨later, valuedLater, by linarith⟩
  reached := fun behind => by
    rcases le_or_gt next (exactLast - 3 * slackWithin bound) with ahead | passed
    · obtain ⟨other, member, reached⟩ := sweep.reached ahead
      exact ⟨other, List.mem_cons_of_mem _ member, reached⟩
    · exact ⟨tick, List.mem_cons_self, position, valued, by linarith⟩

section Ticks

variable {range : AxisRange} {step : TickStep} {base last offset number : Float}
  {least greatest bound scale grain exactBase exactLast exact : ℚ}

theorem hasValue_closeness : HasValue closeness (1 / 2 ^ 52) :=
  ⟨⟨false, 2 ^ 52, -104⟩, by decide +kernel, by norm_num [Binary.value, Binary.magnitude]⟩

/-- Offsets are small beside the bound, and their roundings are small beside the width. -/
theorem HasRoom.near_offset (room : HasRoom range least greatest bound)
    (rounded : IsRounded exact number) (below : -(32 * (greatest - least)) ≤ exact)
    (above : exact ≤ 32 * (greatest - least)) :
    ∃ value, HasValue number value ∧ exact - (greatest - least) / 2 ^ 48 ≤ value ∧
      value ≤ exact + (greatest - least) / 2 ^ 48 := by
  have wide := room.wide
  have small := room.small
  obtain ⟨width, widthLe, -⟩ := room.sizes
  obtain ⟨value, valued, error⟩ := rounded.near (abs_le.mpr ⟨below, above⟩)
    (leastNormal_le_inv.trans (by linarith)) (by linarith)
  have near := abs_le.mp error
  exact ⟨value, valued, by linarith, by linarith⟩

/-- The positions of ticks lie near the range, so that their roundings are smaller than others. -/
theorem HasRoom.near_position (room : HasRoom range least greatest bound)
    (rounded : IsRounded exact number) (below : -(8 * bound) ≤ exact) (above : exact ≤ 8 * bound) :
    ∃ value, HasValue number value ∧ exact - slackWithin bound / 4 ≤ value ∧
      value ≤ exact + slackWithin bound / 4 := by
  have wide := room.wide
  have small := room.small
  obtain ⟨width, widthLe, -⟩ := room.sizes
  obtain ⟨value, valued, error⟩ := rounded.near (abs_le.mpr ⟨below, above⟩)
    (leastNormal_le_inv.trans (by linarith)) (by linarith)
  have near := abs_le.mp error
  unfold slackWithin
  exact ⟨value, valued, by linarith, by linarith⟩

/-- How far an offset is from the last tick. -/
theorem IsBased.exists_left (based : IsBased range least greatest bound step base last scale grain
      exactBase exactLast) (valued : HasValue offset exact)
    (lower : -(3 * slackWithin bound) ≤ exact) (upper : exact ≤ 9 * (greatest - least)) :
    ∃ left, HasValue (last - offset - base) left ∧
      exactLast - exact - exactBase - 3 * slackWithin bound ≤ left ∧
      left ≤ exactLast - exact - exactBase + 3 * slackWithin bound := by
  have room := based.room
  have start := abs_le.mp room.startWithin
  have stop := abs_le.mp room.stopWithin
  have coarse := based.settled.coarse
  have baseLeast := based.baseLeast
  have baseGreatest := based.baseGreatest
  have lastLeast := based.lastLeast
  have lastGreatest := based.lastGreatest
  have distance := based.distance
  obtain ⟨width, widthLe, slackPos, slack⟩ := room.sizes
  have widthSmall : (greatest - least) / 2 ^ 48 ≤ 2 * slackWithin bound := by
    unfold slackWithin
    linarith
  obtain ⟨rest, valuedRest, restLeast, restGreatest⟩ :=
    room.near (based.valuedLast.sub valued) (by linarith) (by linarith)
  obtain ⟨left, valuedLeft, leftLeast, leftGreatest⟩ :=
    room.near_offset (valuedRest.sub based.valuedBase) (by linarith) (by linarith)
  exact ⟨left, valuedLeft, by linarith, by linarith⟩

/-- A tick is taken only when its offset does not lead far beyond the range. -/
theorem IsBased.offset_le (based : IsBased range least greatest bound step base last scale grain
      exactBase exactLast) (valued : HasValue offset exact)
    (lower : -(3 * slackWithin bound) ≤ exact) (upper : exact ≤ 9 * (greatest - least))
    (taken : -closeness ≤ last - offset - base) :
    exact ≤ exactLast - exactBase + 1 / 2 ^ 52 + (greatest - least) / 64 := by
  obtain ⟨width, -, slackPos, slack⟩ := based.room.sizes
  obtain ⟨left, valuedLeft, -, leftGreatest⟩ := based.exists_left valued lower upper
  have taken := (hasValue_closeness.neg.le_iff valuedLeft).mp taken
  linarith

/-- A tick that does not pass the last one is taken. -/
theorem IsBased.passed (based : IsBased range least greatest bound step base last scale grain
      exactBase exactLast) (valued : HasValue offset exact)
    (lower : -(3 * slackWithin bound) ≤ exact) (upper : exact ≤ 9 * (greatest - least))
    (left : ¬ -closeness ≤ last - offset - base) :
    exactLast - 3 * slackWithin bound < exact + exactBase := by
  obtain ⟨rest, valuedRest, restLeast, -⟩ := based.exists_left valued lower upper
  have beyond := not_le.mp fun taken => left ((hasValue_closeness.neg.le_iff valuedRest).mpr taken)
  have positive : (0 : ℚ) < 1 / 2 ^ 52 := by norm_num
  linarith

/-- The offset of a tick is placed at the offset that was reached or one granularity behind it. -/
theorem IsBased.exists_placed (based : IsBased range least greatest bound step base last scale grain
      exactBase exactLast) (valued : HasValue offset exact)
    (lower : -(3 * slackWithin bound) ≤ exact) (upper : exact ≤ 16 / 5 * (greatest - least)) :
    ∃ placed,
      HasValue (if round (offset / step.granularity) * step.granularity < 0
        then offset + step.granularity else offset) placed ∧
      exact ≤ placed ∧ placed ≤ exact + 101 / 100 * (greatest - least) := by
  have grainCoarse := based.settled.grainCoarse
  have grainFine := based.settled.grainFine
  obtain ⟨width, widthLe, slackPos, slack⟩ := based.room.sizes
  split
  · obtain ⟨placed, valuedPlaced, below, above⟩ :=
      based.room.near_offset (valued.add based.settled.valuedGrain) (by linarith) (by linarith)
    exact ⟨placed, valuedPlaced, by linarith, by linarith⟩
  · exact ⟨exact, valued, le_rfl, by linarith⟩

/-- The next offset is half a step further at least, and a tick lies before all those that the
offsets from there on can have. -/
theorem IsBased.exists_step (based : IsBased range least greatest bound step base last scale grain
      exactBase exactLast) (valued : HasValue offset exact)
    (lower : -(3 * slackWithin bound) ≤ exact) (upper : exact ≤ 9 * (greatest - least))
    (taken : -closeness ≤ last - offset - base) :
    let placed := if round (offset / step.granularity) * step.granularity < 0
      then offset + step.granularity else offset
    ∃ next position, HasValue (placed + step.scale) next ∧ HasValue (placed + base) position ∧
      exact + scale / 2 ≤ next ∧ next ≤ 9 * (greatest - least) ∧
      exact + exactBase - slackWithin bound / 4 ≤ position ∧
      position < next + exactBase - slackWithin bound / 4 ∧
      next + exactBase ≤ position + scale + 3 * slackWithin bound := by
  dsimp only
  have room := based.room
  have start := abs_le.mp room.startWithin
  have stop := abs_le.mp room.stopWithin
  have baseLeast := based.baseLeast
  have baseGreatest := based.baseGreatest
  have lastGreatest := based.lastGreatest
  have distance := based.distance
  have wide := based.wide
  have fine := based.settled.fine
  have coarse := based.settled.coarse
  obtain ⟨width, widthLe, slackPos, slack⟩ := room.sizes
  have within := based.offset_le valued lower upper taken
  obtain ⟨placed, valuedPlaced, behind, ahead⟩ := based.exists_placed valued lower (by linarith)
  obtain ⟨next, valuedNext, nextLeast, nextGreatest⟩ :=
    room.near_offset (valuedPlaced.add based.settled.valued) (by linarith) (by linarith)
  obtain ⟨position, valuedPosition, positionLeast, positionGreatest⟩ :=
    room.near_position (valuedPlaced.add based.valuedBase) (by linarith) (by linarith)
  have widthSmall : (greatest - least) / 2 ^ 48 ≤ 2 * slackWithin bound := by
    unfold slackWithin
    linarith
  exact ⟨next, position, valuedNext, valuedPosition, by linarith, by linarith, by linarith,
    by linarith, by linarith⟩

/-- Each tick leads half a step further at least, so that the ticks end. They rise, because a step
is greater than the roundings of two positions. -/
theorem IsBased.exists_ticksFrom (based : IsBased range least greatest bound step base last scale
      grain exactBase exactLast) (fuel : ℕ) (valued : HasValue offset exact)
    (lower : -(3 * slackWithin bound) ≤ exact) (upper : exact ≤ 9 * (greatest - least))
    (enough : 33 / 10 * (greatest - least) - exact ≤ fuel * (scale / 2)) :
    ∃ ticks, TickStep.ticksFrom? step base last (fuel + 1) offset = some ticks ∧
      IsSweep bound scale exactLast (exact + exactBase) ticks := by
  have distance := based.distance
  have wide := based.wide
  have fine := based.settled.fine
  obtain ⟨width, -, slackPos, -⟩ := based.room.sizes
  induction fuel generalizing offset exact with
  | zero =>
      -- Without fuel the offset is beyond the last tick, so that no tick is taken.
      have left : ¬ -closeness ≤ last - offset - base := by
        intro taken
        have within := based.offset_le valued lower upper taken
        rw [Nat.cast_zero, zero_mul] at enough
        linarith
      unfold TickStep.ticksFrom?
      rw [if_neg left]
      exact ⟨[], rfl, .nil (based.passed valued lower upper left)⟩
  | succ fuel inductionHypothesis =>
      unfold TickStep.ticksFrom?
      split
      · rename_i taken
        obtain ⟨next, position, valuedNext, valuedPosition, further, nextLe, beyond, before,
          near⟩ := based.exists_step valued lower upper taken
        push_cast at enough
        obtain ⟨ticks, found, sweep⟩ :=
          inductionHypothesis valuedNext (by linarith) nextLe (by linarith)
        dsimp only
        rw [found]
        exact ⟨_, rfl, sweep.cons valuedPosition beyond before near⟩
      · rename_i left
        exact ⟨[], rfl, .nil (based.passed valued lower upper left)⟩

/-- The search for ticks starts near the start of the range and before the last tick. -/
theorem exists_isBased (room : HasRoom range least greatest bound)
    (settled : IsSettled least greatest step scale grain)
    (wide : 1 / 2 ^ 52 ≤ 101 / 100 * (greatest - least)) :
    let first := range.firstMultiple step.scale
    let base := floor (first / step.granularity) * step.granularity
    ∃ exactBase exactLast exact,
      IsBased range least greatest bound step base (range.lastMultiple step.scale) scale grain
        exactBase exactLast ∧
      HasValue (first - base) exact ∧ -(3 * slackWithin bound) ≤ exact ∧
      exact ≤ 9 * (greatest - least) ∧ exact + exactBase ≤ exactLast - 3 * slackWithin bound := by
  dsimp only
  obtain ⟨width, widthLe, slackPos, slack⟩ := room.sizes
  have start := abs_le.mp room.startWithin
  have fine := settled.fine
  have coarse := settled.coarse
  have grainFine := settled.grainFine
  have grainCoarse := settled.grainCoarse
  have fitting : IsFitting least greatest step.scale scale :=
    ⟨settled.valued, by linarith, by linarith⟩
  have fittingGrain : IsFitting least greatest step.granularity grain :=
    ⟨settled.valuedGrain, by linarith, by linarith⟩
  obtain ⟨first, valuedFirst, firstLeast, firstGreatest⟩ := room.exists_firstMultiple fitting
  obtain ⟨last, valuedLast, lastLeast, lastGreatest⟩ := room.exists_lastMultiple fitting
  obtain ⟨base, valuedBase, baseLeast, baseGreatest⟩ :=
    room.exists_multiple fittingGrain valuedFirst (abs_le.mpr ⟨by linarith, by linarith⟩)
  obtain ⟨offset, valuedOffset, offsetLeast, offsetGreatest⟩ :=
    room.near (valuedFirst.sub valuedBase) (by linarith) (by linarith)
  have based : IsBased range least greatest bound step
      (floor (range.firstMultiple step.scale / step.granularity) * step.granularity)
      (range.lastMultiple step.scale) scale grain base last :=
    ⟨room, settled, valuedBase, valuedLast, by linarith, by linarith, lastLeast, lastGreatest,
      by linarith, wide⟩
  exact ⟨base, last, offset, based, valuedOffset, by linarith, by linarith, by linarith⟩

/-- The settled step gives ticks that rise up to the end of the range. -/
theorem exists_rising_ticks (room : HasRoom range least greatest bound)
    (settled : IsSettled least greatest step scale grain)
    (wide : 1 / 2 ^ 52 ≤ 101 / 100 * (greatest - least)) :
    ∃ ticks, TickStep.ticks? step tickFuel range = some ticks ∧ ticks.Pairwise (· < ·) ∧
      ∃ tick ∈ ticks, ∃ position, HasValue tick position ∧
        greatest ≤ position + 2 * scale + (greatest - least) / 50 := by
  obtain ⟨exactBase, exactLast, exact, based, valued, lower, upper, behind⟩ :=
    exists_isBased room settled wide
  obtain ⟨width, widthLe, slackPos, slack⟩ := room.sizes
  have fine := settled.fine
  have lastLeast := based.lastLeast
  obtain ⟨ticks, found, sweep⟩ := based.exists_ticksFrom 99999 valued lower upper (by
    norm_num
    linarith)
  obtain ⟨tick, member, position, valuedTick, reached⟩ := sweep.reached behind
  exact ⟨ticks, found, sweep.rising, tick, member, position, valuedTick, by linarith⟩

end Ticks

/-- The ends of a range count as one number, which is its only tick. -/
def AxisRange.IsClose (range : AxisRange) : Prop :=
  magnitude (range.start - range.stop) < closeness

section Ranges

variable {range : AxisRange} {least greatest bound exact : ℚ} {number : Float} {limit : ℕ}

theorem hasValue_magnitude (valued : HasValue number exact) :
    HasValue (magnitude number) |exact| := by
  unfold magnitude
  split
  · rename_i negative
    rw [abs_of_neg ((valued.lt_iff hasValue_zero).mp negative)]
    exact valued.neg
  · rename_i nonnegative
    rw [abs_of_nonneg (not_lt.mp fun below =>
      nonnegative ((valued.lt_iff hasValue_zero).mpr below))]
    exact valued

/-- A broad range whose ends count as two numbers is far from the least double. -/
theorem IsBroad.hasRoom (broad : IsBroad range least greatest bound) (apart : ¬ range.IsClose) :
    HasRoom range least greatest bound ∧ 1 / 2 ^ 52 ≤ 101 / 100 * (greatest - least) := by
  have start := abs_le.mp broad.startWithin
  have stop := abs_le.mp broad.stopWithin
  have small := broad.small
  have enough := broad.broad
  have nonnegative : 0 ≤ greatest - least := by linarith
  have valued := (broad.start.sub broad.stop).finite (abs_nearest_lt (abs_le.mpr
    ⟨by linarith, by linarith⟩))
  have opposite : nearest (least - greatest) = -nearest (greatest - least) := by
    rw [← nearest_neg, neg_sub]
  -- The width that is compared is rounded, and the exact one cannot be much less.
  have away : 1 / 2 ^ 52 ≤ nearest (greatest - least) := by
    have size := hasValue_magnitude valued
    rw [opposite, abs_neg, abs_of_nonneg (nearest_nonneg nonnegative)] at size
    exact not_lt.mp fun close => apart ((size.lt_iff hasValue_closeness).mpr close)
  have normal : 1 / 2 ^ 53 ≤ greatest - least := by
    by_contra narrow
    have double : IsDouble (1 / 2 ^ 53) := ⟨1, -53, by norm_num, by decide, by norm_num⟩
    have rounded := nearest_mono (not_le.mp narrow).le
    rw [nearest_of_isDouble double] at rounded
    linarith
  have error := abs_le.mp (abs_nearest_sub_le (abs_of_nonneg nonnegative).le
    (leastNormal_le_inv.trans (by linarith)))
  exact ⟨⟨broad, by linarith⟩, by linarith⟩

/-- The ticks of a step go on until the end of the range is passed: two more steps lead beyond it,
but for a small part of the width. -/
def AxisRange.IsReached (range : AxisRange) (step : TickStep) (ticks : List Float) : Prop :=
  ∃ tick ∈ ticks, ∃ least greatest scale position, HasValue range.start least ∧
    HasValue range.stop greatest ∧ HasValue step.scale scale ∧ HasValue tick position ∧
    greatest ≤ position + 2 * scale + (greatest - least) / 50

/-- The ticks of a broad range rise up to its end, and they are found with a positive step. -/
theorem IsBroad.exists_ticks (broad : IsBroad range least greatest bound)
    (apart : ¬ range.IsClose) (limitLeast : 11 ≤ limit) (limitLe : limit ≤ 110) :
    ∃ step ticks, TickStep.settle? limit range decadeFuel (.initial limit range) = some step ∧
      0 < step.scale ∧ range.ticks? limit = some ticks ∧ ticks.Pairwise (· < ·) ∧
      range.IsReached step ticks := by
  obtain ⟨room, wide⟩ := broad.hasRoom apart
  obtain ⟨width, -⟩ := room.sizes
  obtain ⟨step, scale, grain, ended, settled⟩ := exists_settle_initial room limitLeast limitLe
  obtain ⟨ticks, found, rising, tick, member, position, valued, reached⟩ :=
    exists_rising_ticks room settled wide
  have fine := settled.fine
  have positive := (hasValue_zero.lt_iff settled.valued).mpr (by linarith)
  refine ⟨step, ticks, ended, positive, ?_, rising, tick, member, least, greatest, scale, position,
    broad.start, broad.stop, settled.valued, valued, reached⟩
  refine (if_neg apart).trans ?_
  rw [ended]
  exact found

theorem ticks?_of_isClose (close : range.IsClose) : range.ticks? limit = some [range.start] :=
  if_pos close

end Ranges

end BenchmarkReport.Plot
