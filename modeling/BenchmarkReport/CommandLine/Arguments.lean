/-
This file reads the arguments of the command line.
-/

import BenchmarkReport.CommandLine.Settings

namespace BenchmarkReport.CommandLine

open Files

inductive Request
  | inquiry (inquiry : Inquiry)
  | report (settings : Settings)
  deriving DecidableEq, Repr

/-- The form of an argument. -/
inductive Form
  | terminator
  | long (name : List Char) (value? : Option (List Char))
  | short (letter : Char)
  | plain
  deriving DecidableEq, Repr

/-- A long option may carry its value after an equals sign. Of the letters after a single dash the
first counts. -/
def Form.ofText : List Char → Form
  | ['-', '-'] => .terminator
  | '-' :: '-' :: rest =>
    let value? := match rest.dropWhile (· != '=') with
      | [] => none
      | _ :: value => some value
    .long (rest.takeWhile (· != '=')) value?
  | '-' :: letter :: _ => .short letter
  | _ => .plain

/-- An option waits for its value, and its value waits to be accepted until the next option. -/
structure Progress where
  given : Given := {}
  pending? : Option (ValueOption × Option String) := none
  deriving DecidableEq, Repr

namespace Progress

def settle (opened : String → Opened) (progress : Progress) : Except UsageError Given :=
  match progress.pending? with
  | none => .ok progress.given
  | some (option, none) => .error (.missingValue option)
  | some (option, some value) => progress.given.accept opened option value

/-- An option that is neither known nor an inquiry is an error, whatever waits. -/
def answer (opened : String → Opened) (progress : Progress) (inquiry? : Option Inquiry)
    (shown : String) : Except UsageError Request :=
  match inquiry? with
  | none => .error (.unexpectedArgument shown)
  | some inquiry => (progress.settle opened).map fun _ => .inquiry inquiry

/-- After the terminator every argument is unexpected. -/
def scan (opened : String → Opened) :
    Progress → List String → Except UsageError Request
  | progress, [] => do return .report (← (← progress.settle opened).settings)
  | progress, argument :: later =>
    match Form.ofText argument.toList with
    | .terminator =>
      match later with
      | [] => do return .report (← (← progress.settle opened).settings)
      | next :: _ => .error (.unexpectedArgument next)
    | .short letter =>
      progress.answer opened (Inquiry.ofLetter? letter) (String.ofList ['-', letter])
    | .long name value? =>
      match ValueOption.ofName? name with
      | some option => do
        let given ← progress.settle opened
        match value? with
        | some value =>
          scan opened ⟨← given.accept opened option (String.ofList value), none⟩ later
        | none => scan opened ⟨given, some (option, none)⟩ later
      | none =>
        let inquiry? := Inquiry.ofName? name
        match inquiry?, value? with
        | some inquiry, some value => .error (.unexpectedValue inquiry (String.ofList value))
        | _, _ => progress.answer opened inquiry? ("--" ++ String.ofList name)
    | .plain =>
      match progress.pending? with
      | some (option, none) =>
        scan opened { progress with pending? := some (option, some argument) } later
      | _ => .error (.unexpectedArgument argument)

end Progress

/-- The arguments are read from left to right up to the first error or inquiry. -/
def Request.parse (opened : String → Opened) (arguments : List String) :
    Except UsageError Request :=
  Progress.scan opened {} arguments

/-- The texts that may be opened as the input. -/
def inputCandidates : List String → List String
  | [] => []
  | argument :: later =>
    match Form.ofText argument.toList with
    | .long name value? =>
      if ValueOption.ofName? name = some .inputFile then
        ((value?.map String.ofList).or later.head?).toList ++ inputCandidates later
      else inputCandidates later
    | _ => inputCandidates later

end BenchmarkReport.CommandLine
