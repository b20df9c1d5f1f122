/-
This file shows that the range of an axis covers the values that it is made for.
-/

import BenchmarkReport.Plot.Range
import BenchmarkReport.Proofs.Number.Infinities
import BenchmarkReport.Proofs.Number.Wholes

namespace BenchmarkReport.Plot

open Number

section Extents

variable {first second : Float} {exactFirst exactSecond : ℚ}

theorem hasValue_lesser (valuedFirst : HasValue first exactFirst)
    (valuedSecond : HasValue second exactSecond) :
    HasValue (lesser first second) (min exactFirst exactSecond) := by
  unfold lesser
  split
  · rename_i less
    rw [min_eq_right ((valuedSecond.lt_iff valuedFirst).mp less).le]
    exact valuedSecond
  · rename_i notLess
    rw [min_eq_left (not_lt.mp fun less => notLess ((valuedSecond.lt_iff valuedFirst).mpr less))]
    exact valuedFirst

theorem hasValue_greater (valuedFirst : HasValue first exactFirst)
    (valuedSecond : HasValue second exactSecond) :
    HasValue (greater first second) (max exactFirst exactSecond) := by
  unfold greater
  split
  · rename_i less
    rw [max_eq_right ((valuedFirst.lt_iff valuedSecond).mp less).le]
    exact valuedSecond
  · rename_i notLess
    rw [max_eq_left (not_lt.mp fun less => notLess ((valuedFirst.lt_iff valuedSecond).mpr less))]
    exact valuedFirst

/-- The extent of a single value is that value. -/
theorem extent_singleton (valued : HasValue first exactFirst) :
    AxisRange.extent [first] = ⟨first, first⟩ := by
  have above : Extended.ofFloat (1 / 0) = .infinity false := by decide +kernel
  have below : Extended.ofFloat (-1 / 0) = .infinity true := by decide +kernel
  have start : lesser (1 / 0) first = first := if_pos (valued.lt_infinity above)
  have stop : greater (-1 / 0) first = first := if_pos (valued.infinity_lt below)
  change (⟨lesser (1 / 0) first, greater (-1 / 0) first⟩ : AxisRange) = _
  rw [start, stop]

/-- All values lie between the ends of their extent. -/
theorem extent_bounds {values : List Float} (finite : ∀ value ∈ values, value.isFinite = true)
    (some : values ≠ []) : ∃ least greatest,
      HasValue (AxisRange.extent values).start least ∧
      HasValue (AxisRange.extent values).stop greatest ∧
      ∀ value ∈ values, ∀ exact, HasValue value exact → least ≤ exact ∧ exact ≤ greatest := by
  induction values using List.reverseRecOn with
  | nil => exact absurd rfl some
  | append_singleton others value inductionHypothesis =>
      obtain ⟨exact, valued⟩ := hasValue_of_isFinite
        (finite value (List.mem_append_right others (List.mem_singleton_self value)))
      rcases eq_or_ne others [] with rfl | present
      · refine ⟨exact, exact, ?_, ?_, ?_⟩
        · rwa [List.nil_append, extent_singleton valued]
        · rwa [List.nil_append, extent_singleton valued]
        · intro member isMember other valuedOther
          rw [List.mem_singleton.mp isMember] at valuedOther
          rw [valued.unique valuedOther]
          exact ⟨le_rfl, le_rfl⟩
      · obtain ⟨least, greatest, start, stop, bounds⟩ := inductionHypothesis
          (fun member isMember => finite member (List.mem_append_left _ isMember)) present
        refine ⟨min least exact, max greatest exact, ?_, ?_, ?_⟩
        · rw [AxisRange.extent_append]
          exact hasValue_lesser start valued
        · rw [AxisRange.extent_append]
          exact hasValue_greater stop valued
        · intro member isMember other valuedOther
          rcases List.mem_append.mp isMember with front | last
          · obtain ⟨above, below⟩ := bounds member front other valuedOther
            exact ⟨(min_le_left _ _).trans above, below.trans (le_max_left _ _)⟩
          · rw [List.mem_singleton.mp last] at valuedOther
            rw [valued.unique valuedOther]
            exact ⟨min_le_right _ _, le_max_right _ _⟩

end Extents

/-- A bound is minus infinity or a value that is not greater. -/
def IsBelow (bound : Float) (exact : ℚ) : Prop :=
  Extended.ofFloat bound = .infinity true ∨ ∃ least, HasValue bound least ∧ least ≤ exact

/-- A bound is infinity or a value that is not less. -/
def IsAbove (bound : Float) (exact : ℚ) : Prop :=
  Extended.ofFloat bound = .infinity false ∨ ∃ greatest, HasValue bound greatest ∧ exact ≤ greatest

section Bounds

variable {value bound : Float} {exact limit : ℚ}

/-- A number that is not above a double is rounded to a bound below it. -/
theorem isBelow_of_isRounded (valued : HasValue value exact) (rounded : IsRounded limit bound)
    (ordered : limit ≤ exact) : IsBelow bound exact := by
  have below := nearest_mono ordered
  rw [valued.nearest_eq] at below
  rcases lt_or_ge (-overflow) (nearest limit) with inside | beyond
  · have within : |nearest limit| < overflow :=
      abs_lt.mpr ⟨inside, below.trans_lt (abs_lt.mp valued.bounded).2⟩
    exact .inr ⟨nearest limit, rounded.finite within, below⟩
  · exact .inl (rounded.below beyond)

theorem isAbove_of_isRounded (valued : HasValue value exact) (rounded : IsRounded limit bound)
    (ordered : exact ≤ limit) : IsAbove bound exact := by
  have above := nearest_mono ordered
  rw [valued.nearest_eq] at above
  rcases lt_or_ge (nearest limit) overflow with inside | beyond
  · have within : |nearest limit| < overflow :=
      abs_lt.mpr ⟨(abs_lt.mp valued.bounded).1.trans_le above, inside⟩
    exact .inr ⟨nearest limit, rounded.finite within, above⟩
  · exact .inl (rounded.above beyond)

theorem IsBelow.mono {other : ℚ} (below : IsBelow bound exact) (ordered : exact ≤ other) :
    IsBelow bound other := by
  rcases below with infinite | ⟨least, valued, atMost⟩
  · exact .inl infinite
  · exact .inr ⟨least, valued, atMost.trans ordered⟩

theorem IsAbove.mono {other : ℚ} (above : IsAbove bound exact) (ordered : other ≤ exact) :
    IsAbove bound other := by
  rcases above with infinite | ⟨greatest, valued, atLeast⟩
  · exact .inl infinite
  · exact .inr ⟨greatest, valued, ordered.trans atLeast⟩

theorem IsBelow.le_value (below : IsBelow bound exact) (valued : HasValue value exact) :
    bound ≤ value := by
  rcases below with infinite | ⟨least, valuedLeast, atMost⟩
  · exact valued.infinity_le infinite
  · exact (valuedLeast.le_iff valued).mpr atMost

theorem IsAbove.value_le (above : IsAbove bound exact) (valued : HasValue value exact) :
    value ≤ bound := by
  rcases above with infinite | ⟨greatest, valuedGreatest, atLeast⟩
  · exact valued.le_infinity infinite
  · exact (valued.le_iff valuedGreatest).mpr atLeast

theorem IsBelow.lt_of_isAbove {other : Float} (below : IsBelow bound exact)
    (above : IsAbove other limit) (apart : exact < limit) : bound < other := by
  rcases below with infinite | ⟨least, valued, atMost⟩
  · rcases above with infiniteOther | ⟨greatest, valuedOther, -⟩
    · exact infinity_lt_infinity infinite infiniteOther
    · exact valuedOther.infinity_lt infinite
  · rcases above with infiniteOther | ⟨greatest, valuedOther, atLeast⟩
    · exact valued.lt_infinity infiniteOther
    · exact (valued.lt_iff valuedOther).mpr (atMost.trans_lt (apart.trans_le atLeast))

end Bounds

/-- A range covers a number that lies between its ends. -/
structure AxisRange.Covers (range : AxisRange) (exact : ℚ) : Prop where
  below : IsBelow range.start exact
  above : IsAbove range.stop exact

section Padding

theorem hasValue_half : HasValue 0.5 (1 / 2) :=
  ⟨⟨false, 2 ^ 52, -53⟩, by decide +kernel, by norm_num [Binary.value, Binary.magnitude]⟩

/-- The part of the extent that is added is a rounded twentieth. -/
theorem nearest_twentieth : nearest (1 / 20) = 7205759403792794 / 2 ^ 57 := by
  have unit : place (1 / 20) = -57 := by
    rw [place_of_bounds (-5) (by norm_num [abs_of_pos]) (by norm_num [abs_of_pos])]
    decide
  have near : IsNearestWhole (1 / 20 / 2 ^ (-57 : ℤ)) 7205759403792794 := .inl (by norm_num [abs_lt])
  rw [nearest, unit, ← near.eq_nearestWhole]
  norm_num

theorem nearest_twentieth_pos : 0 < nearest (1 / 20) := by
  rw [nearest_twentieth]
  norm_num

theorem hasValue_padding : HasValue AxisRange.padding (nearest (1 / 20)) := by
  rw [nearest_twentieth]
  exact ⟨⟨false, 7205759403792794, -57⟩, by decide +kernel,
    by norm_num [Binary.value, Binary.magnitude]⟩

variable {start stop : Float} {least greatest : ℚ}

/-- What is added to either end of an extent whose width is finite. -/
theorem hasValue_added (valuedStart : HasValue start least) (valuedStop : HasValue stop greatest)
    (ordered : least ≤ greatest) (finite : nearest (greatest - least) < overflow) :
    HasValue ((stop - start) * AxisRange.padding)
        (nearest (nearest (greatest - least) * nearest (1 / 20))) ∧
      0 ≤ nearest (nearest (greatest - least) * nearest (1 / 20)) := by
  have width := valuedStop.sub valuedStart
  have nonnegative := nearest_nonneg (sub_nonneg.mpr ordered)
  have valuedWidth := width.finite ((abs_of_nonneg nonnegative).trans_lt finite)
  have notNegative : 0 ≤ nearest (greatest - least) * nearest (1 / 20) :=
    mul_nonneg nonnegative nearest_twentieth_pos.le
  have part : nearest (1 / 20) ≤ 1 := by
    rw [nearest_twentieth]
    norm_num
  obtain ⟨valuedAdded, positive, -⟩ := (valuedWidth.mul hasValue_padding).between hasValue_zero
    valuedWidth notNegative (mul_le_of_le_one_right nonnegative part)
  exact ⟨valuedAdded, positive⟩

/-- The ends are infinite when the width of the extent is. -/
theorem padded_of_infinite (valuedStart : HasValue start least)
    (valuedStop : HasValue stop greatest) (infinite : overflow ≤ nearest (greatest - least)) :
    let added := (stop - start) * AxisRange.padding
    Extended.ofFloat (start - added) = .infinity true ∧
      Extended.ofFloat (stop + added) = .infinity false := by
  intro added
  have width := (valuedStop.sub valuedStart).above infinite
  have valuedAdded := infinity_mul width hasValue_padding nearest_twentieth_pos
  exact ⟨valuedStart.sub_infinity valuedAdded, valuedStop.add_infinity valuedAdded⟩

/-- The ends of an extent stay outside of it when they are moved by a part of its width. The width
may be infinite. -/
theorem covers_padded (valuedStart : HasValue start least) (valuedStop : HasValue stop greatest)
    (ordered : least ≤ greatest) :
    let added := (stop - start) * AxisRange.padding
    IsBelow (start - added) least ∧ IsAbove (stop + added) greatest := by
  intro added
  rcases lt_or_ge (nearest (greatest - least)) overflow with finite | infinite
  · obtain ⟨valuedAdded, positive⟩ := hasValue_added valuedStart valuedStop ordered finite
    exact ⟨isBelow_of_isRounded valuedStart (valuedStart.sub valuedAdded) (sub_le_self _ positive),
      isAbove_of_isRounded valuedStop (valuedStop.add valuedAdded) (le_add_of_nonneg_right positive)⟩
  · obtain ⟨infiniteStart, infiniteStop⟩ := padded_of_infinite valuedStart valuedStop infinite
    exact ⟨.inl infiniteStart, .inl infiniteStop⟩

/-- The range of an axis covers all its values. -/
theorem covers_ofValues {values : List Float} (finite : ∀ value ∈ values, value.isFinite = true)
    {value : Float} (member : value ∈ values) {exact : ℚ} (valued : HasValue value exact) :
    (AxisRange.ofValues values).Covers exact := by
  obtain ⟨least, greatest, start, stop, bounds⟩ :=
    extent_bounds finite (List.ne_nil_of_mem member)
  obtain ⟨above, below⟩ := bounds value member exact valued
  unfold AxisRange.ofValues
  dsimp only
  split
  · rename_i reversed
    exact absurd ((stop.lt_iff start).mp reversed) (not_lt.mpr (above.trans below))
  · split
    · have widerStart := isBelow_of_isRounded start (start.sub hasValue_half) (by linarith)
      have widerStop := isAbove_of_isRounded stop (stop.add hasValue_half) (by linarith)
      exact ⟨widerStart.mono above, widerStop.mono below⟩
    · obtain ⟨widerStart, widerStop⟩ := covers_padded start stop (above.trans below)
      exact ⟨widerStart.mono above, widerStop.mono below⟩

end Padding

end BenchmarkReport.Plot
