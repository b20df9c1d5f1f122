/-
This file says what the program writes and how it ends.
-/

import BenchmarkReport.CommandLine.Report
import BenchmarkReport.Log.Filter

namespace BenchmarkReport.CommandLine

open Files Log Text

def programName : String := "throughput-plots"

def versionText : String := programName ++ " 0.1.0\n"

def helpText : String :=
  "Summarize throughput benchmark results and plot throughput against thread count\n" ++
  "\n" ++
  "Usage: throughput-plots [OPTIONS] --input-file <INPUT_FILE> --output-file <OUTPUT_FILE>\n" ++
  "\n" ++
  "Options:\n" ++
  "      --input-file <INPUT_FILE>    The benchmark output file to load\n" ++
  "      --output-file <OUTPUT_FILE>  The name for the output plot " ++
    "(png, jpg, jpeg, bmp or svg)\n" ++
  "      --width <WIDTH>              Plot width in pixels [default: 640]\n" ++
  "      --height <HEIGHT>            Plot height in pixels [default: 480]\n" ++
  "      --log-level <LOG_LEVEL>      Log filter used when RUST_LOG is not set " ++
    "[default: info]\n" ++
  "  -h, --help                       Print help\n" ++
  "  -V, --version                    Print version\n"

def Inquiry.reply : Inquiry → String
  | .help => helpText
  | .version => versionText

/-- What a run of the program writes to its two streams, and its exit code. -/
structure Outcome where
  exitCode : Nat
  output : String
  errors : String
  deriving DecidableEq, Repr

def endedLine (line : String) : String := line ++ "\n"

def failureText (failure : Failure) : String :=
  String.ofList (unlines failure.lines)

namespace Outcome

def ofUsageError (error : UsageError) : Outcome :=
  { exitCode := 2, output := "", errors := error.text }

def ofInquiry (inquiry : Inquiry) : Outcome :=
  { exitCode := 0, output := inquiry.reply, errors := "" }

/-- The notices come before the events, and the failure comes last. -/
def ofReport (filter : Filter) (notices : List String) (report : Report) : Outcome :=
  { exitCode := if report.failure?.isSome then 1 else 0
    output := report.printed
    errors := String.join ((notices ++ filter.lines report.events).map endedLine) ++
      report.failure?.elim "" failureText }

end Outcome

/-- A run of the program, given what the opening of any path gives and the log filter of the
environment. -/
def run (opened : String → Opened) (environment? : Option String) (arguments : List String) :
    Outcome :=
  match Request.parse opened arguments with
  | .error error => .ofUsageError error
  | .ok (.inquiry inquiry) => .ofInquiry inquiry
  | .ok (.report settings) =>
    let (filter, notices) := Filter.choose environment? settings.logLevel
    .ofReport filter notices (.make opened settings)

end BenchmarkReport.CommandLine
