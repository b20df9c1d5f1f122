/-
This file writes the rows of a grid with borders or without them.
-/

import BenchmarkReport.Grid.Cell

namespace BenchmarkReport.Grid

open Text

inductive Alignment
  | left
  | right
  deriving DecidableEq, Repr

/-- Blanks fill a line up to a width. -/
def align (alignment : Alignment) (width : Nat) (line : List Char) : List Char :=
  let blanks := List.replicate (width - displayWidth line) ' '
  match alignment with
  | .left => line ++ blanks
  | .right => blanks ++ line

/-- One blank stands on each side. -/
def pad (line : List Char) : List Char :=
  ' ' :: line ++ [' ']

/-- A line without a cell takes the width of its column with the padding, or the greatest one. -/
def blankLine (width : Nat) : List Char :=
  List.replicate (min greatestWidth (width + 2)) ' '

/-- The strokes before, between and after the cells of a line. -/
structure Strokes where
  before : List Char
  between : List Char
  after : List Char

def noStrokes : Strokes := ⟨[], [], []⟩

def Strokes.frame (strokes : Strokes) (cells : List (List Char)) : List Char :=
  strokes.before ++ strokes.between.intercalate cells ++ strokes.after

/-- The lines of a row. A cell that is lower than the row is filled with blank lines. -/
def rowLines (alignment : Alignment) (strokes : Strokes) (widths : List Nat)
    (cells : List TextCell) : List (List Char) :=
  let wrapped := List.zipWith TextCell.wrap widths cells
  let height := wrapped.foldl (fun height cell => max height cell.lines.length) 0
  (List.range height).map fun index =>
    strokes.frame (List.zipWith (fun width cell =>
      match cell.lines[index]? with
      | some line => pad (align alignment width line)
      | none => blankLine width) widths wrapped)

/-- A line of strokes over all columns. -/
def ruleLine (strokes : Strokes) (stroke : Char) (widths : List Nat) : List Char :=
  strokes.frame (widths.map fun width => List.replicate (width + 2) stroke)

/-- Some lines as one text, with line feeds between them. -/
def joinLines (lines : List (List Char)) : String :=
  .ofList (joinPieces lines)

end BenchmarkReport.Grid
