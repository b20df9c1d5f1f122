/-
This file lists what can go wrong with a plot and says how it is reported.
-/

import BenchmarkReport.Table.Error

namespace BenchmarkReport.Plot

inductive PlotError
  | missingExtension (path : String)
  | unsupportedFormat (extension : String)
  | table (error : TableError)
  | font
  | drawing (reason : String)

namespace PlotError

def message : PlotError → String
  | .missingExtension path => "Output path has no file extension: " ++ path
  | .unsupportedFormat extension =>
    "Unsupported plot format: ." ++ extension ++ " (expected png, jpg, jpeg, bmp or svg)"
  | .table error => error.message
  | .font => "Bundled plot font could not be loaded"
  | .drawing _ => "Drawing backend error"

/-- The error and its causes, the outermost first. An error of a table stands for itself. -/
def chain : PlotError → List String
  | .table error => error.chain
  | .drawing reason => [(drawing reason).message, reason]
  | error => [error.message]

theorem chain_head (error : PlotError) : error.chain.head? = some error.message := by
  cases error with
  | table error => exact error.chain_head
  | missingExtension | unsupportedFormat | font | drawing => rfl

end PlotError

end BenchmarkReport.Plot
