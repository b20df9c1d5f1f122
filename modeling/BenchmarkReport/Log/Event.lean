/-
This file holds the events of a run and writes them as lines.
-/

namespace BenchmarkReport.Log

/-- The levels of events, the gravest first. -/
inductive Level
  | error
  | warn
  | info
  | debug
  | trace
  deriving DecidableEq, Repr

namespace Level

def name : Level → String
  | error => "ERROR"
  | warn => "WARN"
  | info => "INFO"
  | debug => "DEBUG"
  | trace => "TRACE"

/-- A higher rank is less grave. -/
def rank : Level → Nat
  | error => 1
  | warn => 2
  | info => 3
  | debug => 4
  | trace => 5

def all : List Level := [error, warn, info, debug, trace]

end Level

/-- Events up to a level pass a threshold. Without a level none pass. -/
abbrev Threshold := Option Level

def Threshold.passes (threshold : Threshold) (level : Level) : Bool :=
  threshold.any fun limit => level.rank ≤ limit.rank

/-- An event comes from a part of the program, which is its target. -/
structure Event where
  level : Level
  target : String
  message : String
  fields : List (String × String)
  deriving DecidableEq, Repr

namespace Event

/-- The message counts as a field too. -/
def fieldNames (event : Event) : List String :=
  "message" :: event.fields.map Prod.fst

def line (event : Event) : String :=
  event.level.name ++ " " ++ event.target ++ ": " ++ event.message ++
    String.join (event.fields.map fun field => " " ++ field.1 ++ "=" ++ field.2)

end Event

end BenchmarkReport.Log
