/-
This file says which ranges of axes are usable: finite and not empty. The ends of a range depend only
on the least and the greatest of the values, and doubles that are too great have no range.
-/

import BenchmarkReport.Proofs.Number.Halves
import BenchmarkReport.Proofs.Plot.Ranges

namespace BenchmarkReport.Plot

open Number

/-- The least and the greatest of some values. -/
structure IsExtent (values : List Float) (least greatest : ℚ) : Prop where
  leastMember : ∃ value ∈ values, HasValue value least
  greatestMember : ∃ value ∈ values, HasValue value greatest
  bounds : ∀ value ∈ values, ∀ exact, HasValue value exact → least ≤ exact ∧ exact ≤ greatest

section Extents

variable {values : List Float} {least greatest : ℚ}

/-- The ends of an extent are two of its values. -/
theorem extent_mem (finite : ∀ value ∈ values, value.isFinite = true) (some : values ≠ []) :
    (AxisRange.extent values).start ∈ values ∧ (AxisRange.extent values).stop ∈ values := by
  induction values using List.reverseRecOn with
  | nil => exact absurd rfl some
  | append_singleton others value inductionHypothesis =>
      have last : value ∈ others ++ [value] := List.mem_append_right _ (List.mem_singleton_self value)
      rcases eq_or_ne others [] with rfl | present
      · obtain ⟨exact, valued⟩ := hasValue_of_isFinite (finite value last)
        rw [List.nil_append, extent_singleton valued]
        exact ⟨List.mem_singleton_self value, List.mem_singleton_self value⟩
      · obtain ⟨start, stop⟩ := inductionHypothesis
          (fun member isMember => finite member (List.mem_append_left _ isMember)) present
        rw [AxisRange.extent_append]
        constructor
        · unfold lesser
          split
          · exact last
          · exact List.mem_append_left _ start
        · unfold greater
          split
          · exact last
          · exact List.mem_append_left _ stop

theorem IsExtent.ordered (isExtent : IsExtent values least greatest) : least ≤ greatest := by
  obtain ⟨value, member, valued⟩ := isExtent.leastMember
  exact (isExtent.bounds value member least valued).2

theorem IsExtent.congr {others : List Float} (isExtent : IsExtent values least greatest)
    (same : ∀ value, value ∈ others ↔ value ∈ values) : IsExtent others least greatest where
  leastMember := by simpa only [same] using isExtent.leastMember
  greatestMember := by simpa only [same] using isExtent.greatestMember
  bounds := by simpa only [same] using isExtent.bounds

/-- Some values have a least and a greatest one, and these are the ends of their extent. -/
theorem exists_isExtent (finite : ∀ value ∈ values, value.isFinite = true) (some : values ≠ []) :
    ∃ least greatest, IsExtent values least greatest ∧
      HasValue (AxisRange.extent values).start least ∧
      HasValue (AxisRange.extent values).stop greatest := by
  obtain ⟨least, greatest, start, stop, bounds⟩ := extent_bounds finite some
  obtain ⟨startMember, stopMember⟩ := extent_mem finite some
  exact ⟨least, greatest, ⟨⟨_, startMember, start⟩, ⟨_, stopMember, stop⟩, bounds⟩, start, stop⟩

theorem IsExtent.unique {leastOther greatestOther : ℚ} (isExtent : IsExtent values least greatest)
    (other : IsExtent values leastOther greatestOther) :
    least = leastOther ∧ greatest = greatestOther := by
  obtain ⟨first, firstMember, valuedFirst⟩ := isExtent.leastMember
  obtain ⟨second, secondMember, valuedSecond⟩ := other.leastMember
  obtain ⟨third, thirdMember, valuedThird⟩ := isExtent.greatestMember
  obtain ⟨fourth, fourthMember, valuedFourth⟩ := other.greatestMember
  exact ⟨le_antisymm (isExtent.bounds second secondMember _ valuedSecond).1
      (other.bounds first firstMember _ valuedFirst).1,
    le_antisymm (other.bounds third thirdMember _ valuedThird).2
      (isExtent.bounds fourth fourthMember _ valuedFourth).2⟩

end Extents

namespace AxisRange

/-- The room on either side of an extent: a half for a single value, and else a twentieth of the
width. The twentieth, the width and their product are rounded. -/
def margin (least greatest : ℚ) : ℚ :=
  if least = greatest then 1 / 2 else nearest (nearest (greatest - least) * nearest (1 / 20))

/-- A range has the room of its extent on either side. When the width of the extent is infinite, both
ends are. -/
structure Spans (range : AxisRange) (least greatest : ℚ) : Prop where
  finite : nearest (greatest - least) < overflow →
    IsRounded (least - margin least greatest) range.start ∧
    IsRounded (greatest + margin least greatest) range.stop
  infinite : overflow ≤ nearest (greatest - least) →
    Extended.ofFloat range.start = .infinity true ∧ Extended.ofFloat range.stop = .infinity false

/-- The ends are finite, and there is something between them. -/
structure IsUsable (range : AxisRange) : Prop where
  startFinite : range.start.isFinite = true
  stopFinite : range.stop.isFinite = true
  ordered : range.start < range.stop

section Ends

variable {values : List Float} {range other : AxisRange} {least greatest : ℚ}

theorem nearest_sub_self_lt (exact : ℚ) : nearest (exact - exact) < overflow := by
  rw [sub_self, nearest_zero]
  exact overflow_pos

/-- The range of some values spans their extent. -/
theorem spans_ofValues (finite : ∀ value ∈ values, value.isFinite = true)
    (isExtent : IsExtent values least greatest) : (ofValues values).Spans least greatest := by
  have some : values ≠ [] := by
    obtain ⟨value, member, -⟩ := isExtent.leastMember
    exact List.ne_nil_of_mem member
  obtain ⟨first, last, isExtentOther, start, stop⟩ := exists_isExtent finite some
  obtain ⟨rfl, rfl⟩ := isExtent.unique isExtentOther
  unfold ofValues
  dsimp only
  split
  · rename_i reversed
    exact absurd ((stop.lt_iff start).mp reversed) isExtent.ordered.not_gt
  · split
    · rename_i single
      have same : least = greatest := (start.beq_iff stop).mp single
      have width := nearest_sub_self_lt greatest
      refine ⟨fun _ => ?_, fun infinite => absurd width (same ▸ infinite).not_gt⟩
      rw [margin, if_pos same]
      exact ⟨start.sub hasValue_half, stop.add hasValue_half⟩
    · rename_i several
      have apart : least ≠ greatest := fun same => several ((start.beq_iff stop).mpr same)
      refine ⟨fun width => ?_, padded_of_infinite start stop⟩
      rw [margin, if_neg apart]
      obtain ⟨added, -⟩ := hasValue_added start stop isExtent.ordered width
      exact ⟨start.sub added, stop.add added⟩

/-- The ends are determined by the least and the greatest value. -/
theorem Spans.beq (spans : range.Spans least greatest) (spansOther : other.Spans least greatest) :
    (range.start == other.start) = true ∧ (range.stop == other.stop) = true := by
  rcases lt_or_ge (nearest (greatest - least)) overflow with finite | infinite
  · obtain ⟨start, stop⟩ := spans.finite finite
    obtain ⟨startOther, stopOther⟩ := spansOther.finite finite
    exact ⟨start.beq startOther, stop.beq stopOther⟩
  · obtain ⟨start, stop⟩ := spans.infinite infinite
    obtain ⟨startOther, stopOther⟩ := spansOther.infinite infinite
    exact ⟨infinity_beq start startOther, infinity_beq stop stopOther⟩

theorem Spans.isUsable_iff (spans : range.Spans least greatest) :
    range.IsUsable ↔ nearest (greatest - least) < overflow ∧
      |nearest (least - margin least greatest)| < overflow ∧
      |nearest (greatest + margin least greatest)| < overflow ∧
      nearest (least - margin least greatest) < nearest (greatest + margin least greatest) := by
  rcases lt_or_ge (nearest (greatest - least)) overflow with finite | infinite
  · obtain ⟨start, stop⟩ := spans.finite finite
    constructor
    · intro usable
      have least := start.isFinite_iff.mp usable.startFinite
      have greatest := stop.isFinite_iff.mp usable.stopFinite
      exact ⟨finite, least, greatest,
        ((start.finite least).lt_iff (stop.finite greatest)).mp usable.ordered⟩
    · rintro ⟨-, least, greatest, ordered⟩
      exact ⟨start.isFinite_iff.mpr least, stop.isFinite_iff.mpr greatest,
        ((start.finite least).lt_iff (stop.finite greatest)).mpr ordered⟩
  · obtain ⟨start, -⟩ := spans.infinite infinite
    refine iff_of_false (fun usable => ?_) fun finite => absurd finite.1 infinite.not_gt
    have finite := usable.startFinite
    rw [isFinite_of_infinity start] at finite
    exact Bool.noConfusion finite

theorem margin_nonneg (ordered : least ≤ greatest) : 0 ≤ margin least greatest := by
  unfold margin
  split
  · norm_num
  · have width := nearest_nonneg (sub_nonneg.mpr ordered)
    exact nearest_nonneg (mul_nonneg width nearest_twentieth_pos.le)

/-- A single value has a usable range just when a half can be added to it and taken from it. -/
theorem Spans.isUsable_iff_of_eq {exact : ℚ} (spans : range.Spans exact exact)
    (double : IsDouble exact) : range.IsUsable ↔ HasHalves exact := by
  rw [spans.isUsable_iff, margin, if_pos rfl, ← halves_apart_iff double]
  refine ⟨fun usable => usable.2.2.2, fun apart => ?_⟩
  have small := abs_lt.mp ((halves_apart_iff double).mp apart).lt
  have limit := two_pow_le_overflow
  refine ⟨nearest_sub_self_lt exact, abs_nearest_lt (abs_le.mpr ⟨?_, ?_⟩),
    abs_nearest_lt (abs_le.mpr ⟨?_, ?_⟩), apart⟩
  all_goals linarith

section Several

variable {first last : Float} (valuedFirst : HasValue first least)
  (valuedLast : HasValue last greatest) (apart : least < greatest)

include valuedFirst valuedLast apart

/-- Several values always have room between the ends of their range. -/
theorem Spans.start_lt_stop (spans : range.Spans least greatest) : range.start < range.stop := by
  have positive := margin_nonneg apart.le
  rcases lt_or_ge (nearest (greatest - least)) overflow with finite | infinite
  · obtain ⟨start, stop⟩ := spans.finite finite
    have below := isBelow_of_isRounded valuedFirst start (sub_le_self least positive)
    have above := isAbove_of_isRounded valuedLast stop (le_add_of_nonneg_right positive)
    exact below.lt_of_isAbove above apart
  · obtain ⟨start, stop⟩ := spans.infinite infinite
    exact infinity_lt_infinity start stop

/-- Several values have a usable range just when nothing in its computation is too great. -/
theorem Spans.isUsable_iff_of_lt (spans : range.Spans least greatest) :
    range.IsUsable ↔ nearest (greatest - least) < overflow ∧
      -overflow < nearest (least - margin least greatest) ∧
      nearest (greatest + margin least greatest) < overflow := by
  have positive := margin_nonneg apart.le
  have below := nearest_mono (sub_le_self least positive)
  have above := nearest_mono (le_add_of_nonneg_right positive : greatest ≤ _)
  rw [valuedFirst.nearest_eq] at below
  rw [valuedLast.nearest_eq] at above
  have boundedFirst := abs_lt.mp valuedFirst.bounded
  have boundedLast := abs_lt.mp valuedLast.bounded
  rw [spans.isUsable_iff, abs_lt, abs_lt]
  constructor
  · rintro ⟨finite, ⟨start, -⟩, ⟨-, stop⟩, -⟩
    exact ⟨finite, start, stop⟩
  · rintro ⟨finite, start, stop⟩
    exact ⟨finite, ⟨start, below.trans_lt boundedFirst.2⟩,
      ⟨boundedLast.1.trans_le above, stop⟩, below.trans_lt (apart.trans_le above)⟩

/-- Values up to a quarter of the limit have a usable range. -/
theorem Spans.isUsable_of_small (spans : range.Spans least greatest)
    (smallFirst : |least| ≤ overflow / 4) (smallLast : |greatest| ≤ overflow / 4) :
    range.IsUsable := by
  obtain ⟨aboveFirst, belowFirst⟩ := abs_le.mp smallFirst
  obtain ⟨aboveLast, belowLast⟩ := abs_le.mp smallLast
  have positive := overflow_pos
  have width : |nearest (greatest - least)| ≤ overflow / 2 ^ 1 := by
    apply abs_nearest_le (isDouble_overflow_div (by decide))
    rw [abs_le]
    constructor <;> linarith
  have room : |margin least greatest| ≤ overflow / 2 ^ 5 := by
    rw [margin, if_neg apart.ne, nearest_twentieth]
    apply abs_nearest_le (isDouble_overflow_div (by decide))
    obtain ⟨least, greatest⟩ := abs_le.mp width
    rw [abs_le]
    constructor <;> linarith
  obtain ⟨aboveRoom, belowRoom⟩ := abs_le.mp room
  have within {exact : ℚ} (above : -(overflow / 2 ^ 1) ≤ exact) (below : exact ≤ overflow / 2 ^ 1) :
      -overflow < nearest exact ∧ nearest exact < overflow :=
    abs_lt.mp (abs_nearest_lt (abs_le.mpr ⟨above, below⟩))
  apply (spans.isUsable_iff_of_lt valuedFirst valuedLast apart).mpr
  refine ⟨(within ?_ ?_).2, (within ?_ ?_).1, (within ?_ ?_).2⟩
  all_goals linarith

end Several

theorem ofValues_nil : ofValues [] = ⟨0, 1⟩ := by
  have reversed : (extent []).stop < (extent []).start := by decide +kernel
  rw [ofValues]
  exact if_pos reversed

/-- The order of the values does not count. -/
theorem ofValues_perm {permuted : List Float} (same : permuted.Perm values)
    (finite : ∀ value ∈ values, value.isFinite = true) :
    ((ofValues permuted).start == (ofValues values).start) = true ∧
      ((ofValues permuted).stop == (ofValues values).stop) = true := by
  rcases eq_or_ne values [] with rfl | some
  · rw [List.Perm.eq_nil same, ofValues_nil]
    decide +kernel
  · obtain ⟨least, greatest, isExtent, -, -⟩ := exists_isExtent finite some
    have finitePermuted : ∀ value ∈ permuted, value.isFinite = true :=
      fun value member => finite value (same.subset member)
    have spans := spans_ofValues finite isExtent
    exact (spans_ofValues finitePermuted (isExtent.congr fun _ => same.mem_iff)).beq spans

end Ends

/-- The range of an axis covers all its values, and their order does not count. Around a single value
the ends are the doubles nearest to the value less a half and to the value plus a half. These are two
doubles up to 2 ^ 52, and for odd numbers up to 2 ^ 53. Several values always have room between the
ends, which are finite as long as neither the width nor an end is too great. -/
theorem ofValues_usable (values : List Float) (finite : ∀ value ∈ values, value.isFinite = true) :
    (values = [] → ofValues values = ⟨0, 1⟩) ∧
    (∀ value ∈ values, (ofValues values).start ≤ value ∧ value ≤ (ofValues values).stop) ∧
    (∀ permuted : List Float, permuted.Perm values →
      ((ofValues permuted).start == (ofValues values).start) = true ∧
      ((ofValues permuted).stop == (ofValues values).stop) = true) ∧
    (values ≠ [] → ∃ least greatest, IsExtent values least greatest ∧
      (least = greatest →
        IsRounded (least - 1 / 2) (ofValues values).start ∧
        IsRounded (least + 1 / 2) (ofValues values).stop ∧
        ((ofValues values).IsUsable ↔
          |least| ≤ 2 ^ 52 ∨ |least| < 2 ^ 53 ∧ ∃ half : ℤ, least = 2 * half + 1)) ∧
      (least < greatest →
        (ofValues values).start < (ofValues values).stop ∧
        ((ofValues values).IsUsable ↔ nearest (greatest - least) < overflow ∧
          -overflow < nearest (least - margin least greatest) ∧
          nearest (greatest + margin least greatest) < overflow) ∧
        (|least| ≤ overflow / 4 → |greatest| ≤ overflow / 4 → (ofValues values).IsUsable))) := by
  refine ⟨?_, fun value member => ?_, fun permuted same => ofValues_perm same finite, fun some => ?_⟩
  · rintro rfl
    exact ofValues_nil
  · obtain ⟨exact, valued⟩ := hasValue_of_isFinite (finite value member)
    have covers := covers_ofValues finite member valued
    exact ⟨covers.below.le_value valued, covers.above.value_le valued⟩
  · obtain ⟨least, greatest, isExtent, -, -⟩ := exists_isExtent finite some
    have spans := spans_ofValues finite isExtent
    obtain ⟨first, -, valuedFirst⟩ := isExtent.leastMember
    obtain ⟨last, -, valuedLast⟩ := isExtent.greatestMember
    refine ⟨least, greatest, isExtent, ?_, fun apart => ?_⟩
    · rintro rfl
      obtain ⟨start, stop⟩ := spans.finite (nearest_sub_self_lt least)
      rw [margin, if_pos rfl] at start stop
      exact ⟨start, stop, spans.isUsable_iff_of_eq valuedFirst.isDouble⟩
    · exact ⟨spans.start_lt_stop valuedFirst valuedLast apart,
        spans.isUsable_iff_of_lt valuedFirst valuedLast apart,
        spans.isUsable_of_small valuedFirst valuedLast apart⟩

theorem smallRange_usable : (∀ value ∈ [3, 3], Float.isFinite value = true) ∧
    (ofValues [3, 3]).IsUsable ∧ (ofValues [3, 3]).start ≤ 3 ∧ 3 ≤ (ofValues [3, 3]).stop := by
  have finite : ∀ value ∈ [3, 3], Float.isFinite value = true := by decide +kernel
  have three : HasValue 3 3 :=
    ⟨⟨false, 3 * 2 ^ 51, -51⟩, by decide +kernel, by norm_num [Binary.value, Binary.magnitude]⟩
  have all : ∀ value ∈ [(3 : Float), 3], value = 3 := by simp
  obtain ⟨-, covered, -, ranges⟩ := ofValues_usable [3, 3] finite
  obtain ⟨least, greatest, isExtent, single, -⟩ := ranges (by simp)
  obtain ⟨first, firstMember, valuedFirst⟩ := isExtent.leastMember
  obtain ⟨last, lastMember, valuedLast⟩ := isExtent.greatestMember
  rw [all first firstMember] at valuedFirst
  rw [all last lastMember] at valuedLast
  have usable := (single (valuedFirst.unique valuedLast)).2.2
  rw [valuedFirst.unique three] at usable
  have covers := covered 3 (by simp)
  exact ⟨finite, usable.mpr (.inl (by norm_num)), covers.1, covers.2⟩

/-- A half is lost on both sides of 2 ^ 53. -/
theorem evenRange_empty : Float.isFinite 9007199254740992 = true ∧
    ¬ (ofValues [9007199254740992]).start < (ofValues [9007199254740992]).stop := by
  decide +kernel

end AxisRange

end BenchmarkReport.Plot
