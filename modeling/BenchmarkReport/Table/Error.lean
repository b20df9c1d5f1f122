/-
This file lists what can go wrong with a table and says how it is reported.
-/

import BenchmarkReport.Delimited.Error

namespace BenchmarkReport

inductive TableError
  | unopened (path reason : String)
  | unread (reason : String)
  | malformed (fault : Delimited.Fault)
  | noHeader
  | missingColumn (name : String)
  | notNumeric (name : String) (type : ElementType)

namespace TableError

def message : TableError → String
  | .unopened path reason => "Failed to read " ++ path ++ ": " ++ reason
  | .unread reason => "IO error: " ++ reason
  | .malformed fault => "Data frame error: " ++ fault.message
  | .noHeader => "Input has no header line"
  | .missingColumn name => "Missing column: " ++ name
  | .notNumeric name type => "Column " ++ name ++ " is not numeric (found " ++ type.name ++ ")"

/-- The error and its cause, the outermost first. -/
def chain (error : TableError) : List String :=
  match error with
  | .unopened _ reason => [error.message, reason]
  | .unread reason => [error.message, reason]
  | .malformed fault => [error.message, fault.message]
  | _ => [error.message]

theorem chain_head (error : TableError) : error.chain.head? = some error.message := by
  cases error <;> rfl

end TableError

end BenchmarkReport
