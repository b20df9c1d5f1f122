/-
This file describes the numeric columns of a table.
-/

import BenchmarkReport.Table
import BenchmarkReport.Statistics.Summary

namespace BenchmarkReport

open Statistics

structure ColumnSummary where
  name : String
  summary : Summary

/-- The summaries of some columns in their order. -/
structure Description where
  columns : List ColumnSummary

/-- The first summary with a name. -/
def Description.get? (description : Description) (name : String) : Option Summary :=
  (description.columns.find? (·.name == name)).map ColumnSummary.summary

/-- A column of another type has no summary. -/
def Column.summary? (column : Column) : Option ColumnSummary :=
  column.values.numbers?.map fun numbers =>
    ⟨column.name, .ofValues (numbers.map Table.orNaN)⟩

def Table.describe (table : Table) : Description :=
  ⟨table.columns.filterMap Column.summary?⟩

end BenchmarkReport
