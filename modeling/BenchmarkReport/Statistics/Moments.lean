/-
This file computes the sum, the mean and the variance of a list. The order of the operations is
fixed, because rounded arithmetic does not allow another one. The number system is a parameter, so
that the same operations have an exact reading.
-/

namespace BenchmarkReport.Statistics

/-- A number system with the four operations and the counts. -/
class Arithmetic (α : Type) extends Zero α, Add α, Sub α, Mul α, Div α where
  ofCount : Nat → α

instance : Arithmetic Float where
  ofCount := Float.ofNat

/-- The number of values in a block. -/
def blockLength : Nat := 128

/-- The number of sums that run side by side in a block. -/
def laneCount : Nat := 16

/-- The pieces of a list, all of the given length except the last. -/
def chunks {α : Type} (length : Nat) (positive : 0 < length) (values : List α) : List (List α) :=
  if values.length ≤ length then
    if values.isEmpty then [] else [values]
  else values.take length :: chunks length positive (values.drop length)
termination_by values.length
decreasing_by
  simp only [List.length_drop]
  omega

theorem chunks_nil {α : Type} (length : Nat) (positive : 0 < length) :
    chunks length positive ([] : List α) = [] := by
  simp [chunks]

/-- No value is lost between the chunks. -/
theorem chunks_flatten {α : Type} (length : Nat) (positive : 0 < length) (values : List α) :
    (chunks length positive values).flatten = values := by
  fun_induction chunks length positive values with
  | case1 values short empty => simp_all
  | case2 values short filled => simp
  | case3 values long inductionHypothesis => simp [inductionHypothesis]

variable {α : Type} [Arithmetic α]

/-- The sum from left to right. -/
def sumInOrder (values : List α) : α :=
  values.foldl (· + ·) 0

/-- The first half of a list plus its second half, place by place. -/
def foldHalves (count : Nat) (values : List α) : List α :=
  List.zipWith (· + ·) (values.take count) (values.drop count)

/-- The sum of four values, the even places first. -/
def sumOfFour : List α → α
  | [first, second, third, fourth] => (first + third) + (second + fourth)
  | values => sumInOrder values

/-- The sum of one block. -/
def blockSum (block : List α) : α :=
  let lanes := (chunks laneCount (by decide) block).foldl (List.zipWith (· + ·))
    (List.replicate laneCount 0)
  sumOfFour (foldHalves 4 (foldHalves 8 lanes))

/-- The sum of a list of blocks by halves. -/
def sumOfBlocks (blocks : List (List α)) : α :=
  match blocks with
  | [] => 0
  | [block] => blockSum block
  | first :: second :: others =>
    let half := (first :: second :: others).length / 2
    sumOfBlocks ((first :: second :: others).take half) +
      sumOfBlocks ((first :: second :: others).drop half)
termination_by blocks.length
decreasing_by
  · simp only [List.length_take, List.length_cons]
    omega
  · simp only [List.length_drop, List.length_cons]
    omega

/-- The values that do not fill a block stand in front. -/
def sum (values : List α) : α :=
  let loose := values.length % blockLength
  sumOfBlocks (chunks blockLength (by decide) (values.drop loose)) + sumInOrder (values.take loose)

def mean (values : List α) : α :=
  sum values / Arithmetic.ofCount values.length

/-- The weight, the mean and the sum of squared deviations of some values. -/
structure Spread (α : Type) where
  weight : α
  mean : α
  squares : α

def Spread.empty : Spread α := ⟨0, 0, 0⟩

/-- The spread of one chunk, by its own mean. -/
def Spread.ofChunk (values : List α) : Spread α :=
  let weight := Arithmetic.ofCount values.length
  let mean := sumInOrder values / weight
  ⟨weight, mean, sumInOrder (values.map fun value => (value - mean) * (value - mean))⟩

/-- The spread of two groups of values together. -/
def Spread.combine (first second : Spread α) : Spread α :=
  let weight := first.weight + second.weight
  let difference := first.mean - second.mean
  let mean := first.mean - difference * (second.weight / weight)
  { weight, mean
    squares := first.squares +
      (second.squares + second.weight * (mean - second.mean) * difference) }

def spread (values : List α) : Spread α :=
  ((chunks blockLength (by decide) values).map Spread.ofChunk).foldl Spread.combine .empty

/-- The mean squared deviation with one degree of freedom less than values. -/
def variance (values : List α) : α :=
  (spread values).squares / ((spread values).weight - Arithmetic.ofCount 1)

theorem sum_nil : sum ([] : List α) = 0 + 0 := by
  simp [sum, chunks_nil, sumOfBlocks, sumInOrder]

end BenchmarkReport.Statistics
