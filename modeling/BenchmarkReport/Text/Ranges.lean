/-
This file says which characters lie in a list of ranges.
-/

namespace BenchmarkReport.Text

/-- A range holds both of its ends. -/
def inRanges (ranges : List (Nat × Nat)) (symbol : Char) : Bool :=
  ranges.any fun range => range.1 ≤ symbol.toNat && symbol.toNat ≤ range.2

end BenchmarkReport.Text
