/-
This file cuts the symbols of delimited text into lines, records and fields. A quotation mark can
keep a line feed or a separator inside a field. The line that holds the header or that serves to
find the types is cut by a simpler rule than a record: in it every quotation mark counts, wherever
it stands.
-/

import BenchmarkReport.Text.Lines
import BenchmarkReport.Delimited.Dialect

namespace BenchmarkReport.Delimited

open Text

/-- A machine reads a text and says which line feeds end a line. A line's first state depends on
the text that the line starts. -/
structure LineMachine (State : Type) where
  start : List Char → State
  next : State → Char → State
  keepsLineFeed : State → Bool

/-- The pieces between the line feeds that end lines. -/
def LineMachine.cutFrom {State : Type} (machine : LineMachine State) :
    State → List Char → List (List Char)
  | _, [] => [[]]
  | state, symbol :: rest =>
    if symbol = '\n' && !machine.keepsLineFeed state then
      [] :: machine.cutFrom (machine.start rest) rest
    else joinFirst symbol (machine.cutFrom (machine.next state symbol) rest)

def LineMachine.cut {State : Type} (machine : LineMachine State) (text : List Char) :
    List (List Char) :=
  machine.cutFrom (machine.start text) text

/-- An empty piece after the last line feed is no line. -/
def completeLines : List (List Char) → List (List Char)
  | [] => []
  | [last] => if last.isEmpty then [] else [last]
  | line :: rest => line :: completeLines rest

/-- The place of a symbol in a line: in a comment, or outside or inside quotes. -/
inductive LineState
  | comment
  | outside
  | inside
  deriving DecidableEq, Repr

def LineState.next : LineState → Char → LineState
  | .comment, _ => .comment
  | .outside, symbol => if symbol = '"' then .inside else .outside
  | .inside, symbol => if symbol = '"' then .outside else .inside

/-- A line ends at the first line feed outside quotes, and a comment at the next line feed. -/
def lineMachine (dialect : Dialect) : LineMachine LineState :=
  { start := fun text => if dialect.isComment text then .comment else .outside
    next := LineState.next
    keepsLineFeed := fun state => state == .inside }

/-- The place of a symbol in a field: at its start, in a field without quotes, or outside or
inside the quotes of a quoted field. -/
inductive FieldState
  | start
  | plain
  | outside
  | inside
  deriving DecidableEq, Repr

/-- The next field starts after a separator that is not inside quotes. Where the separator is the
quotation mark the one that closes a field also ends it. -/
def FieldState.next (separator : Char) : FieldState → Char → FieldState
  | .start, symbol =>
    if symbol = '"' then .inside else if symbol = separator then .start else .plain
  | .plain, symbol => if symbol = separator then .start else .plain
  | .outside, symbol =>
    if symbol = '"' then .inside else if symbol = separator then .start else .outside
  | .inside, symbol =>
    if symbol = '"' then if separator = '"' then .start else .outside else .inside

inductive RecordState
  | comment
  | field (state : FieldState)
  deriving DecidableEq, Repr

def RecordState.next (separator : Char) : RecordState → Char → RecordState
  | .comment, _ => .comment
  | .field state, symbol => .field (state.next separator symbol)

/-- A record ends at the first line feed that is not inside the quotes of a field. -/
def recordMachine (dialect : Dialect) : LineMachine RecordState :=
  { start := fun text => if dialect.isComment text then .comment else .field .start
    next := RecordState.next dialect.separator
    keepsLineFeed := fun state => state == .field .inside }

/-- The fields of a record. A line feed outside quotes ends the last of them. -/
def fieldsFrom (separator : Char) : FieldState → List Char → List (List Char)
  | _, [] => [[]]
  | state, symbol :: rest =>
    if symbol = '\n' && state != .inside then [[]]
    else if state.next separator symbol = .start then [] :: fieldsFrom separator .start rest
    else joinFirst symbol (fieldsFrom separator (state.next separator symbol) rest)

def fields (separator : Char) (record : List Char) : List (List Char) :=
  fieldsFrom separator .start record

/-- The lines of a text by the simpler rule. -/
def logicalPieces (dialect : Dialect) (text : List Char) : List (List Char) :=
  (lineMachine dialect).cut text

/-- The records of a text, without its comments. -/
def records (dialect : Dialect) (text : List Char) : List (List Char) :=
  (completeLines ((recordMachine dialect).cut text)).filter (!dialect.isComment ·)

theorem LineMachine.cutFrom_ne_nil {State : Type} (machine : LineMachine State) (state : State)
    (text : List Char) : machine.cutFrom state text ≠ [] := by
  cases text with
  | nil => simp [LineMachine.cutFrom]
  | cons symbol rest =>
      rw [LineMachine.cutFrom]
      split
      · simp
      · exact joinFirst_ne_nil symbol _

theorem fields_ne_nil (separator : Char) (record : List Char) :
    fields separator record ≠ [] := by
  cases record with
  | nil => simp [fields, fieldsFrom]
  | cons symbol rest =>
      rw [fields, fieldsFrom]
      split
      · simp
      · split
        · simp
        · exact joinFirst_ne_nil symbol _

theorem joinPieces_joinFirst (symbol : Char) (pieces : List (List Char)) :
    joinPieces (joinFirst symbol pieces) = symbol :: joinPieces pieces := by
  match pieces with
  | [] => rfl
  | [last] => rfl
  | first :: second :: others => rfl

/-- No symbol is lost between the lines. -/
theorem LineMachine.joinPieces_cutFrom {State : Type} (machine : LineMachine State)
    (state : State) (text : List Char) : joinPieces (machine.cutFrom state text) = text := by
  induction text generalizing state with
  | nil => rfl
  | cons symbol rest inductionHypothesis =>
      rw [LineMachine.cutFrom]
      split
      · rename_i ends
        have lineFeed : symbol = '\n' := by simp_all
        cases later : machine.cutFrom (machine.start rest) rest with
        | nil => exact absurd later (machine.cutFrom_ne_nil _ rest)
        | cons first others =>
            rw [joinPieces, ← later, inductionHypothesis, lineFeed]
            · rfl
            · simp
      · rw [joinPieces_joinFirst, inductionHypothesis]

theorem LineMachine.joinPieces_cut {State : Type} (machine : LineMachine State)
    (text : List Char) : joinPieces (machine.cut text) = text :=
  machine.joinPieces_cutFrom _ text

end BenchmarkReport.Delimited
