/-
This file finds the quartiles of a sorted list.
-/

namespace BenchmarkReport.Statistics

/-- The values in rising order. Equal values keep their order. -/
def sorted (values : List Float) : List Float :=
  values.mergeSort fun first second => first ≤ second

/-- Four times the rank of the quartile with the given number. Ranks count from zero. -/
def quarterRank (quarter count : Nat) : Nat :=
  quarter * (count - 1)

/-- The quartile stands between the values at the ranks next to its own. The way from the lower to
the upper one is divided as the rank is. -/
def interpolate (lower upper fraction : Float) : Float :=
  if fraction == 0 || lower == upper then lower else fraction * (upper - lower) + lower

/-- The quartile of a sorted list. An empty list has none. -/
def quartile (quarter : Nat) (values : List Float) : Float :=
  let rank := quarterRank quarter values.length
  match values[rank / 4]?, values[(rank + 3) / 4]? with
  | some lower, some upper => interpolate lower upper (Float.ofNat (rank % 4) / 4)
  | _, _ => 0 / 0

theorem quarterRank_bound {quarter count : Nat} (atMostWhole : quarter ≤ 4) (filled : 0 < count) :
    (quarterRank quarter count + 3) / 4 < count := by
  have product : quarter * (count - 1) ≤ 4 * (count - 1) := Nat.mul_le_mul_right _ atMostWhole
  unfold quarterRank
  omega

theorem quartile_nil (quarter : Nat) : quartile quarter [] = 0 / 0 := rfl

end BenchmarkReport.Statistics
