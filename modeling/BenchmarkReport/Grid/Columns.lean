/-
This file divides the width of a page among the columns of a grid. Narrow columns get what they
need, and the others share what is left.
-/

import BenchmarkReport.Grid.Cell

namespace BenchmarkReport.Grid

open Text

/-- The places of a page. -/
def pageWidth : Nat := 100

/-- One blank stands on each side of a cell. -/
def paddingWidth : Nat := 2

/-- A column that is not narrow has at least this width with its padding. -/
def leastWidth : Nat := 5

/-- A column asks for the width of its cells, and its estimated width with the padding is a
bound. -/
structure ColumnDemand where
  cells : List TextCell
  bound : Nat

def ColumnDemand.content (demand : ColumnDemand) : Nat :=
  columnWidth demand.cells

/-- The content width of a column, once it is decided. -/
structure ColumnPlan where
  demand : ColumnDemand
  width? : Option Nat

namespace ColumnPlan

def isOpen (plan : ColumnPlan) : Bool := plan.width?.isNone

def decide (width : Nat) (plan : ColumnPlan) : ColumnPlan := { plan with width? := some width }

/-- A column with a small bound gets exactly that width, and one with little content the least. -/
def start (demand : ColumnDemand) : ColumnPlan :=
  if demand.bound ≤ leastWidth then ⟨demand, some (max 1 (demand.bound - paddingWidth))⟩
  else if demand.content + paddingWidth ≤ leastWidth then
    ⟨demand, some (leastWidth - paddingWidth)⟩
  else ⟨demand, none⟩

end ColumnPlan

def openCount (plans : List ColumnPlan) : Nat :=
  plans.countP ColumnPlan.isOpen

/-- The places that are left for the content of the open columns. -/
def remainingWidth (plans : List ColumnPlan) : Nat :=
  let decided := (plans.filterMap ColumnPlan.width?).map (· + paddingWidth)
  decided.foldl (fun free width => free - width)
    (pageWidth - (plans.length + 1) - paddingWidth * openCount plans)

/-- One pass decides columns from left to right. It carries the places that are left and the number
of open columns, and tells at its end whether it has decided any. -/
structure Pass where
  remaining : Nat
  openColumns : Nat
  changed : Bool := false

def Pass.average (pass : Pass) : Nat := pass.remaining / pass.openColumns

def Pass.spend (width : Nat) (pass : Pass) : Pass :=
  ⟨pass.remaining - width, pass.openColumns - 1, true⟩

/-- A rule may decide an open column by the average width that is left. -/
def Pass.run (rule : Nat → ColumnDemand → Option Nat) :
    Pass → List ColumnPlan → Pass × List ColumnPlan
  | pass, [] => (pass, [])
  | pass, plan :: later =>
    match plan.width?, (if pass.openColumns = 0 then none else rule pass.average plan.demand) with
    | none, some width =>
      let (final, decided) := Pass.run rule (pass.spend width) later
      (final, plan.decide width :: decided)
    | _, _ =>
      let (final, decided) := Pass.run rule pass later
      (final, plan :: decided)

/-- Passes follow each other as long as they decide columns. Every such pass closes one column. -/
def Pass.repeat (rule : Nat → ColumnDemand → Option Nat) :
    Nat → Pass → List ColumnPlan → Pass × List ColumnPlan
  | 0, pass, plans => (pass, plans)
  | rounds + 1, pass, plans =>
    let (next, decided) := Pass.run rule { pass with changed := false } plans
    if next.changed then Pass.repeat rule rounds next decided else (next, decided)

/-- Columns that would fall below the least width get it. -/
def leastRule (average : Nat) (_ : ColumnDemand) : Option Nat :=
  if average < leastWidth then some (leastWidth - paddingWidth) else none

/-- A column that is full at its bound gets the bound, and one that fits gets its content. -/
def fitRule (average : Nat) (demand : ColumnDemand) : Option Nat :=
  if average = 0 then none
  else if demand.bound ≤ average + paddingWidth && demand.bound ≤ demand.content + paddingWidth then
    some (demand.bound - paddingWidth)
  else if demand.content ≤ average then some demand.content
  else none

/-- The length of a line in bytes. -/
def byteLength (line : List Char) : Nat :=
  line.foldr (fun symbol count => symbol.utf8Size + count) 0

/-- So many places left by the wrapped lines are worth giving to other columns. -/
def worthwhileSpace : Nat := 3

/-- A column whose wrapped lines leave space gets the length of the longest. -/
def wrapRule (average : Nat) (demand : ColumnDemand) : Option Nat :=
  let lines := demand.cells.flatMap fun cell => (cell.wrap average).lines
  let longest := lines.foldl (fun length line => max length (byteLength line)) 0
  if worthwhileSpace ≤ average - longest then some longest else none

/-- The columns that are still open share the rest. The first ones get one place more. -/
def shareRest (width : Nat) : Nat → List ColumnPlan → List Nat
  | _, [] => []
  | excess, plan :: later =>
    match plan.width? with
    | some decided => decided :: shareRest width excess later
    | none => max 1 (width + if excess = 0 then 0 else 1) :: shareRest width (excess - 1) later

/-- The content widths of the columns of one page. -/
def arrange (demands : List ColumnDemand) : List Nat :=
  let plans := demands.map ColumnPlan.start
  let pass : Pass := { remaining := remainingWidth plans, openColumns := openCount plans }
  let (pass, plans) := Pass.repeat leastRule plans.length pass plans
  let (pass, plans) := Pass.repeat fitRule plans.length pass plans
  let (pass, plans) := Pass.repeat wrapRule plans.length pass plans
  shareRest pass.average (pass.remaining % pass.openColumns) plans

end BenchmarkReport.Grid
