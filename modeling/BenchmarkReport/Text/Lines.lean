/-
This file cuts a text into lines.
-/

import BenchmarkReport.Text.Split

namespace BenchmarkReport.Text

/-- The pieces stand between the line feeds of a text. -/
def pieces (text : List Char) : List (List Char) :=
  split '\n' text

/-- One carriage return at the end of a line belongs to its ending. -/
def dropReturn (line : List Char) : List Char :=
  if line.getLast? = some '\r' then line.dropLast else line

/-- Every piece but the last was ended by a line feed. An empty last piece is no line. -/
def endedLines : List (List Char) → List (List Char)
  | [] => []
  | [last] => if last.isEmpty then [] else [last]
  | piece :: rest => dropReturn piece :: endedLines rest

/-- A line ends with a line feed or with a carriage return and a line feed. -/
def lines (text : List Char) : List (List Char) :=
  endedLines (pieces text)

/-- The pieces with a line feed between any two of them. -/
def joinPieces : List (List Char) → List Char
  | [] => []
  | [last] => last
  | piece :: rest => piece ++ '\n' :: joinPieces rest

/-- Each line is written with one line feed after it. -/
def unlines (lines : List (List Char)) : List Char :=
  lines.flatMap (· ++ ['\n'])

theorem pieces_cons (symbol : Char) (rest : List Char) :
    pieces (symbol :: rest) =
      if symbol = '\n' then [] :: pieces rest else joinFirst symbol (pieces rest) := rfl

theorem unlines_cons (line : List Char) (rest : List (List Char)) :
    unlines (line :: rest) = line ++ '\n' :: unlines rest := by
  simp [unlines]

theorem pieces_ne_nil (text : List Char) : pieces text ≠ [] :=
  split_ne_nil '\n' text

end BenchmarkReport.Text
