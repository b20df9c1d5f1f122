/-
This file summarizes a list of values in eight numbers.
-/

import BenchmarkReport.Statistics.Moments
import BenchmarkReport.Statistics.Quantile

namespace BenchmarkReport.Statistics

structure Summary where
  count : Nat
  mean : Float
  deviation : Float
  least : Float
  lowerQuartile : Float
  median : Float
  upperQuartile : Float
  greatest : Float

namespace Summary

def labels : List String :=
  ["count", "mean", "std", "min", "25%", "50%", "75%", "max"]

/-- The numbers in the order of the labels. -/
def values (summary : Summary) : List Float :=
  [Float.ofNat summary.count, summary.mean, summary.deviation, summary.least,
    summary.lowerQuartile, summary.median, summary.upperQuartile, summary.greatest]

end Summary

/-- Values that are no numbers do not count. Infinities do. -/
def present (values : List Float) : List Float :=
  values.filter (!·.isNaN)

/-- One value has no deviation. -/
def deviation (values : List Float) : Float :=
  if values.length ≤ 1 then 0 / 0 else Float.sqrt (variance values)

def Summary.ofValues (values : List Float) : Summary :=
  let kept := present values
  let ranked := sorted kept
  { count := kept.length
    mean := Statistics.mean kept
    deviation := Statistics.deviation kept
    least := ranked.head?.getD (0 / 0)
    lowerQuartile := quartile 1 ranked
    median := quartile 2 ranked
    upperQuartile := quartile 3 ranked
    greatest := ranked.getLast?.getD (0 / 0) }

theorem present_length_le (values : List Float) : (present values).length ≤ values.length :=
  List.length_filter_le ..

end BenchmarkReport.Statistics
