/-
This file says which command lines ask for a report: their arguments spell out values for options,
with an equals sign or with an argument of their own for the value.
-/

import BenchmarkReport.Proofs.CommandLine.Acceptance
import Mathlib.Data.List.TakeWhile

namespace BenchmarkReport.CommandLine

open Files Delimited

/-- A text that is given for an option. -/
structure Assignment where
  option : ValueOption
  text : String
  deriving DecidableEq, Repr

/-- An argument that is no option has no dash in front, unless it is a dash alone. -/
def IsPlain (argument : String) : Prop :=
  argument.toList = ['-'] ∨ argument.toList.head? ≠ some '-'

section Forms

variable {text : List Char} {name : List Char} {value? : Option (List Char)}

end Forms

section Options

variable {option : ValueOption}

end Options

section Scanning

variable {opened : String → Opened} {given : Given} {option : ValueOption} {text : String}
  {later : List String} {settings : Settings}

/-- The options take their texts one after the other. -/
def Given.assign (opened : String → Opened) (given : Given) (assignments : List Assignment) :
    Except UsageError Given :=
  assignments.foldlM (fun given assignment =>
    given.accept opened assignment.option assignment.text) given

theorem Given.assign_cons {assignments : List Assignment} {final : Given} :
    given.assign opened (⟨option, text⟩ :: assignments) = .ok final ↔
      ∃ changed, given.accept opened option text = .ok changed ∧
        changed.assign opened assignments = .ok final := by
  unfold assign
  rw [List.foldlM_cons, bind_eq_ok_iff]

end Scanning

end BenchmarkReport.CommandLine
