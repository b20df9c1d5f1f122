/-
This file holds the text cells of a grid and measures them.
-/

import BenchmarkReport.Text.Lines
import BenchmarkReport.Grid.Wrap

namespace BenchmarkReport.Grid

open Text

/-- The lines of a cell stand one below the other. -/
structure TextCell where
  lines : List (List Char)
  deriving DecidableEq

/-- A line feed starts a new line of the cell. -/
def TextCell.ofText (text : List Char) : TextCell :=
  ⟨pieces text⟩

/-- The width of the widest of some lines. -/
def widest (lines : List (List Char)) : Nat :=
  lines.foldl (fun width line => max width (displayWidth line)) 0

def TextCell.width (cell : TextCell) : Nat :=
  widest cell.lines

/-- The lines of a cell in a column of the given width. -/
def TextCell.wrap (width : Nat) (cell : TextCell) : TextCell :=
  ⟨cell.lines.flatMap (wrapLine width)⟩

/-- No column is wider than this. The width of a column has sixteen bits. -/
def greatestWidth : Nat := 65535

/-- The width that holds all cells of a column, or the greatest one. -/
def columnWidth (cells : List TextCell) : Nat :=
  min greatestWidth (cells.foldl (fun width cell => max width cell.width) 0)

theorem foldl_max_bounds {α : Type} (measure : α → Nat) (items : List α) (start : Nat) :
    start ≤ items.foldl (fun width item => max width (measure item)) start ∧
      ∀ item ∈ items,
        measure item ≤ items.foldl (fun width item => max width (measure item)) start := by
  induction items generalizing start with
  | nil => simp
  | cons first others inductionHypothesis =>
      have bounds := inductionHypothesis (max start (measure first))
      refine ⟨Nat.le_trans (Nat.le_max_left ..) bounds.1, ?_⟩
      intro item member
      rcases List.mem_cons.mp member with rfl | later
      · exact Nat.le_trans (Nat.le_max_right ..) bounds.1
      · exact bounds.2 item later

theorem width_le_columnWidth {cells : List TextCell} {cell : TextCell} (member : cell ∈ cells)
    (fits : cell.width ≤ greatestWidth) : cell.width ≤ columnWidth cells :=
  Nat.le_min.mpr ⟨fits, (foldl_max_bounds TextCell.width cells 0).2 cell member⟩

end BenchmarkReport.Grid
