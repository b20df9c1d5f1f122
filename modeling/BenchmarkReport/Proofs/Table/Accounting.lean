/-
This file shows that the warning of a derivation, the description of the derived table and its plot
account for the same rows, although each of them leaves out rows by a test of its own.
-/

import BenchmarkReport.CommandLine.Report
import BenchmarkReport.Proofs.Number.Classes
import BenchmarkReport.Proofs.Table.Description

namespace BenchmarkReport

open Delimited Log Number Plot Statistics

section Points

variable (points : List (Float × Float))

/-- A point with a height is drawn if it has a breadth too. -/
theorem filter_isDrawable : points.filter ScatterPlot.isDrawable =
    (points.filter (·.2.isFinite)).filter (·.1.isFinite) := by
  rw [List.filter_filter]
  rfl

theorem filter_isDrawable_length_le :
    (points.filter ScatterPlot.isDrawable).length ≤ points.countP (·.2.isFinite) := by
  rw [filter_isDrawable, List.countP_eq_length_filter]
  exact List.length_filter_le ..

/-- All points with a height are drawn just when all of them have a breadth. -/
theorem filter_isDrawable_length_eq_iff :
    (points.filter ScatterPlot.isDrawable).length = points.countP (·.2.isFinite) ↔
      ∀ point ∈ points, point.2.isFinite = true → point.1.isFinite = true := by
  rw [filter_isDrawable, List.countP_eq_length_filter, List.length_filter_eq_length_iff]
  simp only [List.mem_filter, and_imp]

end Points

namespace Table

section Reading

variable {table : Table} {name : String} {column : Column}

theorem unboundedRows_of_numeric (found : table.column? throughputName = some column)
    (isNumeric : isNumber column.type = true) :
    table.unboundedRows = (column.cells.map Cell.coordinate).countP (!·.isFinite) := by
  rw [unboundedRows, numeric_of_numeric found isNumeric]

theorem ofTable_of_numeric {xName yName : String} {breadths heights : Column}
    (breadthsFound : table.column? xName = some breadths)
    (breadthsNumeric : isNumber breadths.type = true)
    (heightsFound : table.column? yName = some heights)
    (heightsNumeric : isNumber heights.type = true) :
    ScatterPlot.ofTable table xName yName = .ok
      { xLabel := xName, yLabel := yName
        points := (breadths.cells.map Cell.coordinate).zip (heights.cells.map Cell.coordinate) } := by
  rw [ScatterPlot.ofTable, numeric_of_numeric breadthsFound breadthsNumeric,
    numeric_of_numeric heightsFound heightsNumeric]
  rfl

end Reading

/-- The warning about rows without a finite throughput. -/
def warning (rows : Nat) : Event :=
  { level := .warn, target := "bench_table::derive"
    message := "Throughput is not finite for some rows", fields := [("rows", toString rows)] }

/-- The warning of a derivation names the rows that have no finite throughput. There is none where
all rows have one. -/
theorem filter_derivedEvents (table : Table) :
    (CommandLine.Report.derivedEvents table).filter (·.level == .warn) =
      if table.unboundedRows = 0 then [] else [warning table.unboundedRows] := by
  unfold CommandLine.Report.derivedEvents
  dsimp only
  split <;> rfl

/-- How a plot of rates over threads, the summary of the rates and the number of rows that were
warned of account for the rows of a table. -/
structure RowsAccounted (rows : Nat) (threads rates : Column) (plot : ScatterPlot)
    (summary : Summary) (warned : Nat) : Prop where
  points : plot.points.length = rows
  pairs : ∀ row < rows, ∃ thread rate, threads.cells[row]? = some thread ∧
    rates.cells[row]? = some rate ∧
      plot.points[row]? = some (thread.coordinate, rate.coordinate)
  finite : plot.finitePoints =
    plot.points.filter fun point => point.1.isFinite && point.2.isFinite
  warnedRows : warned ≤ rows
  plotted : plot.finitePoints.length ≤ rows - warned
  described : rows - warned ≤ summary.count
  present : summary.count ≤ rows
  complete : plot.finitePoints.length = rows - warned ↔
    ∀ (row : Nat) (thread rate : Cell), threads.cells[row]? = some thread →
      rates.cells[row]? = some rate → rate.coordinate.isFinite = true →
        thread.coordinate.isFinite = true
  infinite : summary.count - (rows - warned) = rates.cells.countP (·.coordinate.isInf)

section Accounting

variable {rows : Nat} {threads rates : Column}

/-- The points of two columns, row by row. -/
def pointsOf (threads rates : Column) : List (Float × Float) :=
  (threads.cells.map Cell.coordinate).zip (rates.cells.map Cell.coordinate)

theorem getElem?_pointsOf {row : Nat} {thread rate : Cell}
    (threadCell : threads.cells[row]? = some thread) (rateCell : rates.cells[row]? = some rate) :
    (pointsOf threads rates)[row]? = some (thread.coordinate, rate.coordinate) := by
  rw [pointsOf, List.getElem?_zip_eq_some, List.getElem?_map, List.getElem?_map, threadCell,
    rateCell]
  exact ⟨rfl, rfl⟩

theorem mem_pointsOf {point : Float × Float} (member : point ∈ pointsOf threads rates) :
    ∃ (row : Nat) (thread rate : Cell), threads.cells[row]? = some thread ∧
      rates.cells[row]? = some rate ∧ point = (thread.coordinate, rate.coordinate) := by
  obtain ⟨row, atRow⟩ := List.mem_iff_getElem?.mp member
  rw [pointsOf, List.getElem?_zip_eq_some, List.getElem?_map, List.getElem?_map] at atRow
  obtain ⟨thread, threadCell, sameThread⟩ := Option.map_eq_some_iff.mp atRow.1
  obtain ⟨rate, rateCell, sameRate⟩ := Option.map_eq_some_iff.mp atRow.2
  exact ⟨row, thread, rate, threadCell, rateCell, Prod.ext sameThread.symm sameRate.symm⟩

/-- What holds of the points of two columns holds of their rows. -/
theorem forall_mem_pointsOf (holds : Float → Float → Prop) :
    (∀ point ∈ pointsOf threads rates, holds point.1 point.2) ↔
      ∀ (row : Nat) (thread rate : Cell), threads.cells[row]? = some thread →
        rates.cells[row]? = some rate → holds thread.coordinate rate.coordinate := by
  constructor
  · intro all row thread rate threadCell rateCell
    have member := List.mem_of_getElem? (getElem?_pointsOf threadCell rateCell)
    exact all (thread.coordinate, rate.coordinate) member
  · intro all point member
    obtain ⟨row, thread, rate, threadCell, rateCell, rfl⟩ := mem_pointsOf member
    exact all row thread rate threadCell rateCell

/-- The heights of the points are those of the second column. -/
theorem countP_pointsOf (sameLength : rates.length = threads.length) (test : Float → Bool) :
    (pointsOf threads rates).countP (fun point => test point.2) =
      (rates.cells.map Cell.coordinate).countP test := by
  have heights : (pointsOf threads rates).map Prod.snd = rates.cells.map Cell.coordinate :=
    List.map_snd_zip (by simp [Column.cells_length, sameLength])
  rw [← heights, List.countP_map]
  rfl

/-- Two columns of one length are accounted for. -/
theorem rowsAccounted_of_lengths (threadsLength : threads.length = rows)
    (ratesLength : rates.length = rows) (plot : ScatterPlot) (summary : Summary)
    (plotPoints : plot.points = pointsOf threads rates)
    (summaryCount : summary.count = (Statistics.present (rates.cells.map Cell.coordinate)).length) :
    RowsAccounted rows threads rates plot summary
      ((rates.cells.map Cell.coordinate).countP (!·.isFinite)) := by
  have threadsCells : threads.cells.length = rows := by rw [Column.cells_length, threadsLength]
  have ratesCells : rates.cells.length = rows := by rw [Column.cells_length, ratesLength]
  have finiteRows := countP_isFinite_add (rates.cells.map Cell.coordinate)
  have presentRows := present_length (rates.cells.map Cell.coordinate)
  have presentBound := present_length_le (rates.cells.map Cell.coordinate)
  have drawn := filter_isDrawable_length_le (pointsOf threads rates)
  have allDrawn := filter_isDrawable_length_eq_iff (pointsOf threads rates)
  rw [countP_pointsOf (ratesLength.trans threadsLength.symm) (·.isFinite)] at drawn allDrawn
  rw [List.length_map, ratesCells] at finiteRows presentBound
  rw [← summaryCount] at presentRows presentBound
  -- From here on only the numbers of rows of each class matter.
  generalize (rates.cells.map Cell.coordinate).countP (·.isFinite) = finiteCount at *
  generalize (rates.cells.map Cell.coordinate).countP (!·.isFinite) = warned at *
  have rest : rows - warned = finiteCount := by omega
  refine ⟨?_, ?_, rfl, ?_, ?_, ?_, presentBound, ?_, ?_⟩
  · simp [plotPoints, pointsOf, threadsCells, ratesCells]
  · intro row inside
    have threadCell := List.getElem?_eq_getElem (threadsCells ▸ inside)
    have rateCell := List.getElem?_eq_getElem (ratesCells ▸ inside)
    exact ⟨_, _, threadCell, rateCell, plotPoints ▸ getElem?_pointsOf threadCell rateCell⟩
  · omega
  · rw [ScatterPlot.finitePoints, plotPoints, rest]
    exact drawn
  · omega
  · rw [ScatterPlot.finitePoints, plotPoints, rest, allDrawn]
    exact forall_mem_pointsOf fun breadth height => height.isFinite = true → breadth.isFinite = true
  · rw [rest, presentRows, Nat.add_sub_cancel_left]
    exact List.countP_map

end Accounting

/-- On a table whose throughput was derived the warning, the description and the plot account for
the same rows. -/
theorem consumers_account_for_rows {table derived : Table} {threads : Column}
    (wellFormed : table.WellFormed) (found : table.column? threadCountName = some threads)
    (isNumeric : isNumber threads.type = true) (success : table.addThroughput = .ok derived) :
    ∃ rates plot summary,
      derived.column? threadCountName = some threads ∧
      derived.column? throughputName = some rates ∧
      ScatterPlot.ofTable derived threadCountName throughputName = .ok plot ∧
      derived.describe.get? throughputName = some summary ∧
      deriveInPlace.run.run table = (.ok derived.unboundedRows, derived) ∧
      (CommandLine.Report.derivedEvents derived).filter (·.level == .warn) =
        (if derived.unboundedRows = 0 then [] else [warning derived.unboundedRows]) ∧
      RowsAccounted derived.rowCount threads rates plot summary derived.unboundedRows := by
  obtain ⟨events, times, eventsFound, eventsNumeric, timesFound, timesNumeric, same⟩ :=
    exists_columns_of_addThroughput success
  have outcome := derived_setColumn wellFormed eventsFound eventsNumeric timesFound timesNumeric
  rw [← same] at outcome
  have threadsApart : threadCountName ≠ throughputName := by decide
  have threadsFound : derived.column? threadCountName = some threads := by
    rw [same, column?_setColumn_of_ne table _ threadsApart, found]
  obtain ⟨rates, ratesFound, ratesType, ratesLength, -⟩ := outcome.rows
  have ratesNumeric : isNumber rates.type = true := by rw [ratesType]; rfl
  have plotted := ofTable_of_numeric threadsFound isNumeric ratesFound ratesNumeric
  have described := describe_get? ratesFound ratesNumeric
  refine ⟨rates, _, _, threadsFound, ratesFound, plotted, described, ?_,
    filter_derivedEvents derived, ?_⟩
  · rw [deriveInPlace_run, success]
  · rw [unboundedRows_of_numeric ratesFound ratesNumeric]
    refine rowsAccounted_of_lengths ?_ ?_ _ _ rfl rfl
    · exact outcome.wellFormed.lengths threads (column?_mem threadsFound).1
    · rw [ratesLength, outcome.rowCount]

/-- Rows with an infinite throughput, with none, and with a number of threads missing. -/
def mixedTable : Table where
  columns := [⟨threadCountName, .integers .signed64 [some 1, some 2, none, some 4]⟩,
    ⟨eventCountName, .reals .double [some 1, some 1, some 1, none]⟩,
    ⟨elapsedTimeName, .integers .signed32 [some 0, some 1, some 2, some 3]⟩]

theorem mixedTable_accounted :
    ∃ derived threads rates plot summary, mixedTable.addThroughput = .ok derived ∧
      derived.describe.get? throughputName = some summary ∧
      RowsAccounted 4 threads rates plot summary derived.unboundedRows := by
  have wellFormed : mixedTable.WellFormed := by
    refine ⟨?_, by decide⟩
    intro column member
    simp only [mixedTable, List.mem_cons, List.not_mem_nil, or_false] at member
    rcases member with rfl | rfl | rfl <;> rfl
  obtain ⟨rates, plot, summary, -, -, -, described, -, -, accounted⟩ :=
    consumers_account_for_rows wellFormed rfl rfl rfl
  exact ⟨_, _, rates, plot, summary, rfl, described, accounted⟩

end Table

end BenchmarkReport
