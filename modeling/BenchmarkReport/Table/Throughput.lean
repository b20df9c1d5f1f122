/-
This file derives the throughput of every row from its events and its time.
-/

import BenchmarkReport.Table

namespace BenchmarkReport

def microsecondsPerSecond : Float := 1000000

/-- The events in one second for events in some microseconds. No time at all gives an infinity, or
no number where there are no events either. -/
def throughput (events microseconds : Float) : Float :=
  events * microsecondsPerSecond / microseconds

namespace Table

def threadCountName : String := "ThreadCount"

def eventCountName : String := "EventCount"

def elapsedTimeName : String := "ElapsedTime"

def throughputName : String := "Throughput"

/-- The numbers of a column times a factor. What is missing stays missing. -/
def scaled (factor : Float) (values : List (Option Float)) : List (Option Float) :=
  values.map fun value => (· * factor) <$> value

/-- The numbers of a column divided by those of another one, row by row. Where one of the two is
missing, so is their quotient. -/
def quotients (dividends divisors : List (Option Float)) : List (Option Float) :=
  List.zipWith (fun dividend divisor => (· / ·) <$> dividend <*> divisor) dividends divisors

/-- The throughput of all rows, computed on whole columns. -/
def throughputs (events microseconds : List (Option Float)) : List (Option Float) :=
  quotients (scaled microsecondsPerSecond events) microseconds

/-- The throughput column stands where it stood before, or else last. -/
def addThroughput (table : Table) : Except TableError Table := do
  let events ← table.numbers eventCountName
  let microseconds ← table.numbers elapsedTimeName
  return table.setColumn ⟨throughputName, .reals .double (throughputs events microseconds)⟩

/-- The number of rows whose throughput is missing, infinite or no number. -/
def unboundedRows (table : Table) : Nat :=
  match table.numeric throughputName with
  | .ok values => values.countP (!·.isFinite)
  | .error _ => 0

/-- The derivation as a change of a table in place. The new column is read back, and the result is
the number of rows to warn of. A failure leaves the table as it was changed until then. -/
def deriveInPlace : ExceptT TableError (StateM Table) Nat := do
  let events ← MonadExcept.ofExcept ((← get).numbers eventCountName)
  let microseconds ← MonadExcept.ofExcept ((← get).numbers elapsedTimeName)
  modify (·.setColumn ⟨throughputName, .reals .double (throughputs events microseconds)⟩)
  let derived ← MonadExcept.ofExcept ((← get).numeric throughputName)
  return derived.countP (!·.isFinite)

theorem length_throughputs (events microseconds : List (Option Float)) :
    (throughputs events microseconds).length = min events.length microseconds.length := by
  simp [throughputs, quotients, scaled]

end Table

end BenchmarkReport
