/-
This file writes a description as a table without borders.
-/

import BenchmarkReport.Description
import BenchmarkReport.Number.Decimal
import BenchmarkReport.Grid.Printer

namespace BenchmarkReport

open Number Grid Statistics

/-- A statistic has six decimal places. -/
def statisticPlaces : Nat := 6

def statisticText (value : Float) : List Char :=
  match Extended.ofFloat value with
  | .nan => "NaN".toList
  | .infinity false => "inf".toList
  | .infinity true => "-inf".toList
  | .finite exact => fixedText statisticPlaces exact

namespace Description

/-- The names of the statistics stand in the first column, which has no name. -/
def labelCells : List TextCell :=
  TextCell.ofText [] :: Summary.labels.map fun label => TextCell.ofText label.toList

/-- The name of a column and its statistics. -/
def summaryCells (column : ColumnSummary) : List TextCell :=
  TextCell.ofText column.name.toList ::
    column.summary.values.map fun value => TextCell.ofText (statisticText value)

/-- The columns of the printed table. -/
def gridColumns (description : Description) : List (List TextCell) :=
  labelCells :: description.columns.map summaryCells

/-- The cells of one row: the names for row zero, and then one row for each statistic. -/
def gridRow (description : Description) (index : Nat) : List TextCell :=
  description.gridColumns.map fun column => column.getD index ⟨[[]]⟩

def textLines (description : Description) : List (List Char) :=
  if description.columns.isEmpty then ["No numeric columns".toList]
  else
    let widths := description.gridColumns.map columnWidth
    (List.range (Summary.labels.length + 1)).flatMap fun index =>
      rowLines .right noStrokes widths (description.gridRow index)

def text (description : Description) : String :=
  joinLines description.textLines

end Description

end BenchmarkReport
