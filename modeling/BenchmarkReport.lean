import BenchmarkReport.CommandLine.Program
import BenchmarkReport.Files.Tree
import BenchmarkReport.Main
import BenchmarkReport.Plot.Chart
import BenchmarkReport.Plot.Markup
import BenchmarkReport.Text.Reserve
import BenchmarkReport.Proofs.Table.Derivation
import BenchmarkReport.Proofs.Delimited.Symbols
import BenchmarkReport.Proofs.Delimited.Cutting
import BenchmarkReport.Proofs.Delimited.Reading
import BenchmarkReport.Proofs.Delimited.Rows
import BenchmarkReport.Proofs.Delimited.Header
import BenchmarkReport.Proofs.Table.Loading
import BenchmarkReport.Proofs.Table.Records
import BenchmarkReport.Proofs.Delimited.Comments
import BenchmarkReport.Proofs.Table.Comments
import BenchmarkReport.Proofs.Number.Integers
import BenchmarkReport.Proofs.Delimited.IntegerLines
import BenchmarkReport.Proofs.Table.IntegerTable
import BenchmarkReport.Proofs.Number.Classes
import BenchmarkReport.Proofs.Table.Accounting
import BenchmarkReport.Proofs.Table.Operations
import BenchmarkReport.Proofs.CommandLine.Endings
import BenchmarkReport.Proofs.Delimited.CellTypes
import BenchmarkReport.Proofs.Delimited.ColumnTypes
import BenchmarkReport.Proofs.Delimited.RectangularLines
import BenchmarkReport.Proofs.Table.ColumnTypes
import BenchmarkReport.Proofs.Table.BlankLines
import BenchmarkReport.Proofs.CommandLine.Acceptance
import BenchmarkReport.Proofs.CommandLine.Independence
import BenchmarkReport.Proofs.Table.Summaries
import BenchmarkReport.Proofs.Delimited.Settling
import BenchmarkReport.Proofs.Delimited.QuotedLines
import BenchmarkReport.Proofs.Table.QuotedTable
import BenchmarkReport.Proofs.Text.Trimming
import BenchmarkReport.Proofs.Table.Metadata
import BenchmarkReport.Proofs.Delimited.Reordering
import BenchmarkReport.Proofs.Table.RowOrder
import BenchmarkReport.Proofs.Delimited.Widening
import BenchmarkReport.Proofs.Table.ExtraColumn
import BenchmarkReport.Proofs.Delimited.Consumption
import BenchmarkReport.Proofs.Table.Overlap
import BenchmarkReport.Proofs.Table.Rowwise
import BenchmarkReport.Proofs.Table.Truncation
import BenchmarkReport.Proofs.Delimited.DelimitedLines
import BenchmarkReport.Proofs.Delimited.NumberLines
import BenchmarkReport.Proofs.Delimited.RepeatedNames
import BenchmarkReport.Proofs.Table.PrintedLines
import BenchmarkReport.Proofs.Table.NumberTable
import BenchmarkReport.Proofs.Delimited.Delimiters
import BenchmarkReport.Proofs.Table.DelimiterChoice
import BenchmarkReport.Proofs.Delimited.HeaderPiece
import BenchmarkReport.Proofs.Table.HeaderLine
import BenchmarkReport.Proofs.Files.Ending
import BenchmarkReport.Proofs.Plot.Format
import BenchmarkReport.Proofs.CommandLine.Dimension
import BenchmarkReport.Proofs.CommandLine.Assignments
import BenchmarkReport.Proofs.CommandLine.Admission
import BenchmarkReport.Proofs.CommandLine.Gate
import BenchmarkReport.Proofs.Plot.Markup
import BenchmarkReport.Proofs.Plot.Marks
import BenchmarkReport.Proofs.Number.Nearest
import BenchmarkReport.Proofs.Number.Encoding
import BenchmarkReport.Proofs.Number.Rounding
import BenchmarkReport.Proofs.Number.Arithmetic
import BenchmarkReport.Proofs.Number.Values
import BenchmarkReport.Proofs.Number.Infinities
import BenchmarkReport.Proofs.Number.Wholes
import BenchmarkReport.Proofs.Plot.Ranges
import BenchmarkReport.Proofs.Plot.Positions
import BenchmarkReport.Proofs.Plot.Order
import BenchmarkReport.Proofs.Plot.Entities
import BenchmarkReport.Proofs.Plot.AxisNames
import BenchmarkReport.Proofs.Number.FixedPlaces
import BenchmarkReport.Proofs.Description.StatisticText
import BenchmarkReport.Proofs.Grid.Rows
import BenchmarkReport.Proofs.Description.Alignment
import BenchmarkReport.Proofs.Number.Halves
import BenchmarkReport.Proofs.Plot.UsableRanges
import BenchmarkReport.Proofs.Number.Levels
import BenchmarkReport.Proofs.Number.Distance
import BenchmarkReport.Proofs.Statistics.Interpolation
import BenchmarkReport.Proofs.Statistics.Ranks
import BenchmarkReport.Proofs.Statistics.Quantiles
import BenchmarkReport.Proofs.Statistics.FiveNumbers
import BenchmarkReport.Proofs.Statistics.ExactMoments
import BenchmarkReport.Proofs.Number.Decades
import BenchmarkReport.Proofs.Plot.Multiples
import BenchmarkReport.Proofs.Plot.Completion
