/-
This file collects the values of the options.
-/

import BenchmarkReport.CommandLine.Dimension
import BenchmarkReport.CommandLine.Usage
import BenchmarkReport.Files.Opened
import BenchmarkReport.Plot.Area

namespace BenchmarkReport.CommandLine

open Files

/-- What a report is made of. -/
structure Settings where
  inputFile : String
  outputFile : String
  width : Nat
  height : Nat
  logLevel : String
  deriving DecidableEq, Repr

/-- The values that have been given so far. -/
structure Given where
  inputFile? : Option String := none
  outputFile? : Option String := none
  width? : Option Nat := none
  height? : Option Nat := none
  logLevel? : Option String := none
  deriving DecidableEq, Repr

namespace Given

def has (given : Given) : ValueOption → Bool
  | .inputFile => given.inputFile?.isSome
  | .outputFile => given.outputFile?.isSome
  | .width => given.width?.isSome
  | .height => given.height?.isSome
  | .logLevel => given.logLevel?.isSome

/-- The input has to be a file that can be opened. -/
def checkInput (opened : String → Opened) (path : String) : Except UsageError Unit :=
  let invalid (reason : String) : Except UsageError Unit :=
    .error (.invalidValue .inputFile path ("can't open '" ++ path ++ "': " ++ reason))
  match opened path with
  | .refused fault => invalid fault.message
  | .directory => invalid "not a regular file"
  | .file _ => .ok ()

def dimension (option : ValueOption) (value : String) : Except UsageError Nat :=
  (readDimension value.toList).mapError fun fault => .invalidValue option value fault.message

/-- An option takes one value. -/
def accept (opened : String → Opened) (given : Given) (option : ValueOption) (value : String) :
    Except UsageError Given := do
  if given.has option then throw (.repeated option)
  match option with
  | .inputFile =>
    checkInput opened value
    return { given with inputFile? := some value }
  | .outputFile =>
    if value.isEmpty then throw (.missingValue option)
    return { given with outputFile? := some value }
  | .width => return { given with width? := some (← dimension option value) }
  | .height => return { given with height? := some (← dimension option value) }
  | .logLevel => return { given with logLevel? := some value }

/-- The files have to be given. The other options have values of their own. -/
def settings (given : Given) : Except UsageError Settings :=
  match given.inputFile?, given.outputFile? with
  | some inputFile, some outputFile =>
    .ok {
      inputFile, outputFile
      width := given.width?.getD Plot.defaultWidth
      height := given.height?.getD Plot.defaultHeight
      logLevel := given.logLevel?.getD "info" }
  | _, _ =>
    .error (.missingOptions ([.inputFile, .outputFile].filter fun option => !given.has option))

end Given

end BenchmarkReport.CommandLine
