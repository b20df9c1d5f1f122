/-
This file makes the report on one file of benchmark results.
-/

import BenchmarkReport.CommandLine.Arguments
import BenchmarkReport.CommandLine.Failure
import BenchmarkReport.Description.Printer
import BenchmarkReport.Log.Event
import BenchmarkReport.Plot.Scatter
import BenchmarkReport.Table.Loader
import BenchmarkReport.Table.Printer
import BenchmarkReport.Table.Throughput

namespace BenchmarkReport.CommandLine

open Files Log Plot

/-- The input of a report has commas between its fields and comments after a number sign. -/
def inputDialect : Delimited.Dialect := {}

/-- The report shows this many rows of the table. -/
def shownRows : Nat := 5

/-- What a report prints, the events on the way, and why it failed if it did. -/
structure Report where
  printed : String := ""
  events : List Event := []
  failure? : Option Failure := none
  deriving DecidableEq

namespace Report

def loadedEvent (path : String) (table : Table) : Event :=
  { level := .debug, target := "bench_table::loader", message := "Loaded table"
    fields := [("path", path), ("rows", toString table.rowCount),
      ("columns", toString table.columns.length)] }

def metadataEvents (table : Table) : List Event :=
  table.metadata.map fun pair =>
    { level := .debug, target := "throughput_plots", message := "Benchmark metadata"
      fields := [("key", pair.1), ("value", pair.2)] }

/-- Rows without a finite throughput are worth a warning. -/
def derivedEvents (table : Table) : List Event :=
  let warned : Event :=
    { level := .warn, target := "bench_table::derive"
      message := "Throughput is not finite for some rows"
      fields := [("rows", toString table.unboundedRows)] }
  let derived : Event :=
    { level := .info, target := "bench_table::derive", message := "Derived Throughput column"
      fields := [("rows", toString table.rowCount)] }
  if table.unboundedRows = 0 then [derived] else [warned, derived]

/-- The first rows of a table and its description. -/
def summary (table : Table) : String :=
  (table.head shownRows).text ++ "\n\n" ++ table.describe.text ++ "\n"

/-- The plot of the throughput over the number of threads. -/
def plotFailure? (settings : Settings) (table : Table) : Option Failure :=
  match ScatterPlot.ofTable table Table.threadCountName Table.throughputName with
  | .error error => some (.ofChain error.chain)
  | .ok plot =>
    match (plot.withSize settings.width settings.height).save settings.outputFile with
    | .error error =>
      some (.during ("Failed to render plot to " ++ settings.outputFile) error.chain)
    | .ok _ => none

/-- The report on a table. Nothing is printed without a throughput. -/
def ofTable (settings : Settings) (table : Table) : Report :=
  let events := loadedEvent settings.inputFile table :: metadataEvents table
  match table.addThroughput with
  | .error error => { events, failure? := some (.during "Failed to derive throughput" error.chain) }
  | .ok derived =>
    { printed := summary derived
      events := events ++ derivedEvents derived
      failure? := plotFailure? settings derived }

/-- The format of the plot is checked before the input is read. -/
def make (opened : String → Opened) (settings : Settings) : Report :=
  match PlotFormat.ofPath settings.outputFile with
  | .error error => { failure? := some (.during "Invalid --output-file" error.chain) }
  | .ok _ =>
    match Table.load inputDialect settings.inputFile (opened settings.inputFile) with
    | .error error =>
      let undertaking := "Failed to load benchmark results from " ++ settings.inputFile
      { failure? := some (.during undertaking error.chain) }
    | .ok table => ofTable settings table

end Report

end BenchmarkReport.CommandLine
