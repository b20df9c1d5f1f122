/-
This file tells the format of a picture from the name of its file.
-/

import BenchmarkReport.Files.Path
import BenchmarkReport.Plot.Error

namespace BenchmarkReport.Plot

inductive PlotFormat
  | png
  | jpeg
  | bmp
  | svg
  deriving DecidableEq, Repr

namespace PlotFormat

/-- A vector picture holds shapes. The other ones hold pixels. -/
def isVector (format : PlotFormat) : Bool :=
  format == svg

def ofExtension? : String → Option PlotFormat
  | "png" => some png
  | "jpg" => some jpeg
  | "jpeg" => some jpeg
  | "bmp" => some bmp
  | "svg" => some svg
  | _ => none

/-- The case of ASCII letters does not count. -/
def ofPath (path : String) : Except PlotError PlotFormat :=
  match Path.extension? path.toList with
  | none => .error (.missingExtension path)
  | some extension =>
    let lowered := String.ofList (extension.map Char.toLower)
    match ofExtension? lowered with
    | none => .error (.unsupportedFormat lowered)
    | some format => .ok format

end PlotFormat

end BenchmarkReport.Plot
