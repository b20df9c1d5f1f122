/-
This file writes the failure of a report with its causes.
-/

import BenchmarkReport.Number.Decimal
import BenchmarkReport.Text.Lines

namespace BenchmarkReport.CommandLine

open Number Text

/-- What failed and what caused it, the outermost first. -/
structure Failure where
  message : String
  causes : List String
  deriving DecidableEq, Repr

namespace Failure

/-- The first of some messages was caused by the other ones. -/
def ofChain : List String → Failure
  | [] => ⟨"", []⟩
  | message :: causes => ⟨message, causes⟩

/-- A failure within some undertaking. -/
def during (undertaking : String) (chain : List String) : Failure :=
  ⟨undertaking, chain⟩

/-- Blanks fill a text in front up to the given length. -/
def padBlanks (length : Nat) (text : List Char) : List Char :=
  List.replicate (length - text.length) ' ' ++ text

/-- The first line of a text follows a mark, and the other ones are indented. -/
def markedLines (mark : List Char) (indent : Nat) (text : String) : List (List Char) :=
  match pieces text.toList with
  | [] => [mark]
  | first :: others => (mark ++ first) :: others.map (List.replicate indent ' ' ++ ·)

/-- A cause that is not the only one has a number. -/
def numberedLines (number : Nat) (cause : String) : List (List Char) :=
  markedLines (padBlanks 5 (digits number) ++ ": ".toList) 7 cause

def causeLines (causes : List String) : List (List Char) :=
  match causes with
  | [] => []
  | [cause] => [] :: "Caused by:".toList :: markedLines (List.replicate 4 ' ') 4 cause
  | causes =>
    let numbered := (List.range causes.length).zip causes
    [] :: "Caused by:".toList :: numbered.flatMap fun pair => numberedLines pair.1 pair.2

def lines (failure : Failure) : List (List Char) :=
  ("Error: " ++ failure.message).toList :: causeLines failure.causes

end Failure

end BenchmarkReport.CommandLine
