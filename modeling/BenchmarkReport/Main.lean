/-
This file runs the program on the arguments of the command line.
-/

import BenchmarkReport.CommandLine.Program

namespace BenchmarkReport.CommandLine

open Files

/-- A directory can be opened, but the reading of it fails. -/
def openedOfError : IO.Error → Opened
  | .noFileOrDirectory .. => .refused .notFound
  | .inappropriateType _ 21 _ => .directory
  | .inappropriateType .. => .refused .notDirectory
  | error => .refused (.other (toString error))

def openPath (path : String) : IO Opened := do
  try return .file (← IO.FS.readBinFile path)
  catch error => return openedOfError error

/-- The files that the arguments name are opened before the run, which asks for no other ones. -/
def openInputs (arguments : List String) : IO (String → Opened) := do
  let inputs ← (inputCandidates arguments).mapM fun path => return (path, ← openPath path)
  return fun path => (inputs.lookup path).getD (.refused .notFound)

/-- The two texts of a run go to the two streams. -/
def execute (arguments : List String) : IO UInt32 := do
  let outcome := run (← openInputs arguments) (← IO.getEnv "RUST_LOG") arguments
  (← IO.getStdout).putStr outcome.output
  (← IO.getStderr).putStr outcome.errors
  return outcome.exitCode.toUInt32

end BenchmarkReport.CommandLine

def main (arguments : List String) : IO UInt32 :=
  BenchmarkReport.CommandLine.execute arguments
