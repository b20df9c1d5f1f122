/-
This file writes a table in a box. Large tables lose their middle rows and columns.
-/

import BenchmarkReport.Table
import BenchmarkReport.Number.Decimal
import BenchmarkReport.Number.Reading
import BenchmarkReport.Grid.Columns
import BenchmarkReport.Grid.Printer

namespace BenchmarkReport.Table

open Text Number Grid

/-- This mark stands for what is left out. -/
def ellipsis : List Char := ['…']

/-- A text is cut after so many characters. -/
def textLimit : Nat := 30

def shorten (text : List Char) : List Char :=
  if textLimit < text.length then text.take textLimit ++ ellipsis else text

/-- The first and the last items of a list that is longer than the limit. -/
def elide {α : Type} (limit kept : Nat) (items : List α) : List α × Option (List α) :=
  if limit < items.length then
    (items.take kept, some (items.drop (items.length - kept)))
  else (items, none)

def columnLimit : Nat := 8

def keptColumns : Nat := 4

def rowLimit : Nat := 10

def keptRows : Nat := 5

/-- The text of a real that is longer than this is rounded. -/
def realTextLimit : Nat := 9

/-- Fixed places without the zeros at their end. One place is kept. -/
def trimmedFixedText (value : Binary) : List Char :=
  let text := (fixedText 6 value).reverse.dropWhile (· == '0')
  match text with
  | '.' :: _ => (('0' :: text)).reverse
  | _ => text.reverse

/-- Whole numbers below this bound keep one decimal place. -/
def wholeBound : Nat := 999999

/-- A value above the bound of whole numbers. -/
def isLarge (value : Binary) : Bool :=
  wholeBound * value.denominator < value.numerator

/-- Values below one millionth are small. The bound is the double nearest to it. -/
def isSmall (value : Binary) : Bool :=
  match Extended.ofFloat 0.000001 with
  | .finite bound =>
    value.numerator * bound.denominator < bound.numerator * value.denominator
  | _ => false

def isShortWhole (value : Binary) : Bool :=
  value.isWhole && value.numerator < wholeBound * value.denominator

/-- Short whole numbers have one decimal place, long texts are rounded, and long numbers have an
exponent. -/
def finiteText (value : Binary) : List Char :=
  if isShortWhole value then fixedText 1 value
  else if realTextLimit < (shortestText value).length then
    if isLarge value || isSmall value then exponentText 4 value else trimmedFixedText value
  else if value.isWhole then shortestExponentText value
  else shortestText value

def realText (value : Float) : List Char :=
  match Extended.ofFloat value with
  | .nan => "NaN".toList
  | .infinity false => "inf".toList
  | .infinity true => "-inf".toList
  | .finite exact => finiteText exact

def cellText : Cell → List Char
  | .missing => "null".toList
  | .integer value => integerText value
  | .real value => realText value
  | .boolean true => "true".toList
  | .boolean false => "false".toList
  | .text value => shorten value.toList

/-- The width that a text is taken for: its characters, or more where it has other than the first
hundred and twenty-eight. -/
def estimatedWidth (text : List Char) : Nat :=
  let bytes := byteLength text
  if bytes = text.length then text.length
  else
    let count := Float.ofNat text.length
    min (2 * text.length) (toCount (ceil (count * (Float.ofNat bytes / count))))

/-- The texts of a shown column. The column that stands for others has no cells of its own. -/
inductive ShownColumn
  | present (name type : List Char) (cells : List (List Char))
  | omitted (rows : Nat)

def ShownColumn.ofColumn (column : Column) : ShownColumn :=
  let (leading, trailing) := elide rowLimit keptRows column.cells
  let cells := match trailing with
    | none => leading.map cellText
    | some last => leading.map cellText ++ ellipsis :: last.map cellText
  .present (shorten column.name.toList) column.type.name.toList cells

/-- A rule under a name divides it from the type. -/
def nameRule : List Char := ['-', '-', '-']

/-- No column is wider than its longest possible text with the padding. -/
def greatestWidth : Nat := textLimit + 3

def ShownColumn.bound : ShownColumn → Nat
  | .present name type cells =>
    let nameWidth := max (estimatedWidth name) (max type.length nameRule.length) + paddingWidth
    min greatestWidth
      ((cells.map fun cell => estimatedWidth cell + paddingWidth).foldl max nameWidth)
  | .omitted rows => if rows = 0 then 1 else 3

def ShownColumn.header : ShownColumn → TextCell
  | .present name type _ => TextCell.ofText (joinPieces [name, nameRule, type])
  | .omitted _ => TextCell.ofText ellipsis

def ShownColumn.body : ShownColumn → List TextCell
  | .present _ _ cells => cells.map TextCell.ofText
  | .omitted rows => List.replicate rows (TextCell.ofText ellipsis)

def ShownColumn.demand (column : ShownColumn) : ColumnDemand :=
  ⟨column.header :: column.body, column.bound⟩

/-- The number of rows that are shown. -/
def shownRows (table : Table) : Nat :=
  if rowLimit < table.rowCount then 2 * keptRows + 1 else table.rowCount

def shownColumns (table : Table) : List ShownColumn :=
  match elide columnLimit keptColumns table.columns with
  | (leading, none) => leading.map .ofColumn
  | (leading, some trailing) =>
    leading.map .ofColumn ++ .omitted table.shownRows :: trailing.map .ofColumn

/-- Groups of three digits from the right. -/
def groupDigits (reversed : List Char) : List Char :=
  match reversed with
  | first :: second :: third :: fourth :: rest =>
    groupDigits (fourth :: rest) ++ '_' :: [third, second, first]
  | short => short.reverse

def countText (count : Nat) : List Char :=
  groupDigits (digits count).reverse

def shapeLine (table : Table) : List Char :=
  "shape: (".toList ++ countText table.rowCount ++ ", ".toList ++
    countText table.columns.length ++ ")".toList

def topStrokes : Strokes := ⟨['┌'], ['┬'], ['┐']⟩

def rowStrokes : Strokes := ⟨['│'], ['┆'], ['│']⟩

def headerStrokes : Strokes := ⟨['╞'], ['╪'], ['╡']⟩

def bottomStrokes : Strokes := ⟨['└'], ['┴'], ['┘']⟩

/-- The box of some columns that have so many rows. -/
def boxLines (rows : Nat) (columns : List ShownColumn) : List (List Char) :=
  let widths := arrange (columns.map ShownColumn.demand)
  let body := columns.map ShownColumn.body
  ruleLine topStrokes '─' widths ::
    rowLines .left rowStrokes widths (columns.map ShownColumn.header) ++
    ruleLine headerStrokes '═' widths ::
    ((List.range rows).flatMap fun index =>
      rowLines .left rowStrokes widths (body.map fun cells => cells.getD index ⟨[[]]⟩)) ++
    [ruleLine bottomStrokes '─' widths]

def textLines (table : Table) : List (List Char) :=
  if table.columns.isEmpty then ["Empty table".toList]
  else table.shapeLine :: boxLines table.shownRows table.shownColumns

def text (table : Table) : String :=
  joinLines table.textLines

end BenchmarkReport.Table
