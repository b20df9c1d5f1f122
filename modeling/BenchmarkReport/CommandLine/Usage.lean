/-
This file names the options of the command line and lists what can be wrong with its arguments.
-/

import BenchmarkReport.Text.ControlSequence

namespace BenchmarkReport.CommandLine

open Text

/-- These options take a value. -/
inductive ValueOption
  | inputFile
  | outputFile
  | width
  | height
  | logLevel
  deriving DecidableEq, Repr

namespace ValueOption

def all : List ValueOption := [inputFile, outputFile, width, height, logLevel]

def name : ValueOption → String
  | inputFile => "input-file"
  | outputFile => "output-file"
  | width => "width"
  | height => "height"
  | logLevel => "log-level"

def placeholder : ValueOption → String
  | inputFile => "INPUT_FILE"
  | outputFile => "OUTPUT_FILE"
  | width => "WIDTH"
  | height => "HEIGHT"
  | logLevel => "LOG_LEVEL"

/-- The option as messages show it. -/
def usage (option : ValueOption) : String :=
  "--" ++ option.name ++ " <" ++ option.placeholder ++ ">"

def ofName? (name : List Char) : Option ValueOption :=
  all.find? fun option => option.name.toList == name

end ValueOption

/-- What is asked of the program beside a report. -/
inductive Inquiry
  | help
  | version
  deriving DecidableEq, Repr

namespace Inquiry

def name : Inquiry → String
  | help => "help"
  | version => "version"

def ofName? (name : List Char) : Option Inquiry :=
  [help, version].find? fun inquiry => inquiry.name.toList == name

def ofLetter? : Char → Option Inquiry
  | 'h' => some help
  | 'V' => some version
  | _ => none

end Inquiry

inductive UsageError
  | unexpectedArgument (shown : String)
  | unexpectedValue (inquiry : Inquiry) (value : String)
  | missingValue (option : ValueOption)
  | repeated (option : ValueOption)
  | invalidValue (option : ValueOption) (value reason : String)
  | missingOptions (options : List ValueOption)
  deriving DecidableEq, Repr

namespace UsageError

/-- The parts of an error's text, each of one style. What follows the error has the style of its
last part and goes on there. -/
def parts (continuation : String) : UsageError → List String
  | unexpectedArgument shown => [" unexpected argument '", shown, "' found" ++ continuation]
  | unexpectedValue inquiry value =>
    [" unexpected value '", value, "' for '", "--" ++ inquiry.name,
      "' found; no more were expected" ++ continuation]
  | missingValue option =>
    [" a value is required for '", option.usage, "' but none was supplied" ++ continuation]
  | repeated option =>
    [" the argument '", option.usage, "' cannot be used multiple times" ++ continuation]
  | invalidValue option value reason =>
    [" invalid value '", value, "' for '", option.usage, "': " ++ reason ++ continuation]
  | missingOptions options =>
    [" the following required arguments were not provided:"] ++
      (options.flatMap fun option => ["\n  ", option.usage]) ++ [continuation]

def shownPart (part : String) : String :=
  String.ofList (dropControls part.toList)

/-- The text that is shown for an error. A change of style ends a control sequence, so that the
parts are cleared of them one by one. -/
def text (error : UsageError) : String :=
  let parts := ["error:"] ++ error.parts "\n\nFor more information, try '" ++ ["--help", "'.\n"]
  String.join (parts.map shownPart)

end UsageError

end BenchmarkReport.CommandLine
