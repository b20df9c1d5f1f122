/-
This file reads columns from delimited text whose first line that is no comment names them.
-/

import BenchmarkReport.Delimited.Block
import BenchmarkReport.Delimited.Cell

namespace BenchmarkReport.Delimited

open Text

/-- These pairs of bytes start compressed data. -/
def compressedStarts : List (List UInt8) :=
  [[0x1F, 0x8B], [0x78, 0x01], [0x78, 0x9C], [0x78, 0xDA]]

/-- These four bytes start compressed data too. -/
def compressedFrame : List UInt8 :=
  [0x28, 0xB5, 0x2F, 0xFD]

def isCompressed (text : List Char) : Bool :=
  let bytes := ((text.take 4).flatMap String.utf8EncodeChar).take 4
  bytes.length == 4 && (compressedStarts.contains (bytes.take 2) || bytes == compressedFrame)

/-- A byte order mark in front of the text is no part of it. -/
def dropByteOrderMark : List Char → List Char
  | symbol :: rest => if symbol.toNat = 0xFEFF then rest else symbol :: rest
  | [] => []

def isLineEnding (symbol : Char) : Bool :=
  symbol == '\n' || symbol == '\r'

/-- The first line that is no comment is the header. Where all lines are comments the empty piece
after them is taken. The second result is what follows the header. -/
def splitHeader (dialect : Dialect) (pieces : List (List Char)) :
    List Char × List (List Char) :=
  match pieces.dropWhile dialect.isComment with
  | [] => ([], [])
  | header :: later => (header, later)

/-- The name in a field of the header. -/
def headerName (kind : SymbolKind) (field : List Char) : String :=
  .ofList (if isQuoted field && 2 ≤ field.length then kind.decodeInside field
    else kind.decode field)

/-- A name that was seen before is followed by the number of its earlier repetitions. -/
def renameRepeated (seen : List String) : List String → List String
  | [] => []
  | name :: rest =>
    let renamed := match seen.count name with
      | 0 => name
      | repetitions + 1 => name ++ "_duplicated_" ++ toString repetitions
    renamed :: renameRepeated (name :: seen) rest

def headerNames (dialect : Dialect) (line : List Char) : List String :=
  renameRepeated [] ((fields dialect.separator (dropLineReturn line)).map
    (headerName dialect.kind))

/-- Columns of one name fall together. The place is that of the first and the type that of the
last. -/
def addToSchema (schema : List (String × ElementType)) (entry : String × ElementType) :
    List (String × ElementType) :=
  if schema.any (·.1 == entry.1) then
    schema.map fun present => if present.1 == entry.1 then entry else present
  else schema ++ [entry]

/-- The cells of a record from the given column on. A record that ends early is filled with
missing values. -/
def readRecord (kind : SymbolKind) (number : Nat) :
    List (String × ElementType) → List (List Char) → Except Fault (List Cell)
  | [], [] => .ok []
  | [], _ :: _ => .error .extraFields
  | schema, [] => .ok (schema.map fun _ => .missing)
  | (name, type) :: schema, field :: later =>
    let content := dropReturn field
    match readCell kind type content with
    | .error fault => .error (.badField ⟨.ofList (kind.decode content), type, name, number⟩ fault)
    | .ok cell => (cell :: ·) <$> readRecord kind (number + 1) schema later

def Cell.integer? : Cell → Option Int
  | .integer value => some value
  | _ => none

def Cell.real? : Cell → Option Float
  | .real value => some value
  | _ => none

def Cell.boolean? : Cell → Option Bool
  | .boolean value => some value
  | _ => none

def Cell.text? : Cell → Option String
  | .text value => some value
  | _ => none

/-- The cells of a column as values of its type. -/
def valuesOfCells (type : ElementType) (cells : List Cell) : Values :=
  match type with
  | .integer kind => .integers kind (cells.map Cell.integer?)
  | .real kind => .reals kind (cells.map Cell.real?)
  | .boolean => .booleans (cells.map Cell.boolean?)
  | .text => .texts (cells.map Cell.text?)
  | .null => .nulls cells.length

/-- The columns of rows of cells. -/
def columnsOfRows (schema : List (String × ElementType)) (rows : List (List Cell)) : List Column :=
  schema.zipIdx.map fun ((name, type), index) =>
    ⟨name, valuesOfCells type (rows.map fun row => row.getD index .missing)⟩

/-- The names and types of the columns. -/
def readSchema (dialect : Dialect) (text : List Char) : List (String × ElementType) :=
  let (header, later) := splitHeader dialect (logicalPieces dialect text)
  let names := headerNames dialect header
  let types := inferTypes dialect names.length (completeLines later)
  (names.zip types).foldl addToSchema []

/-- The text of the records. Line ends in front of the header are skipped in a text of more than
one column, and else the first of them stands for the header. -/
def dataText (dialect : Dialect) (count : Nat) (text : List Char) : List Char :=
  let body := if 1 < count then text.dropWhile isLineEnding else text
  joinPieces (splitHeader dialect (logicalPieces dialect body)).2

/-- The rows of a text. -/
def readRows (dialect : Dialect) (schema : List (String × ElementType)) (text : List Char) :
    Except Fault (List (List Cell)) :=
  ((blocks dialect.kind text).flatMap (records dialect)).mapM fun record =>
    readRecord dialect.kind 1 schema (fields dialect.separator record)

/-- The columns of a text. -/
def readColumns (dialect : Dialect) (text : List Char) : Except Fault (List Column) := do
  if isCompressed text then throw .compressed
  let symbols := dialect.kind.encode (dropByteOrderMark text)
  let body := symbols.dropWhile isLineEnding
  if body.isEmpty then throw .noData
  let schema := readSchema dialect body
  let rows ← readRows dialect schema (dataText dialect schema.length symbols)
  return columnsOfRows schema rows

theorem readRecord_nil (kind : SymbolKind) (number : Nat) (schema : List (String × ElementType)) :
    readRecord kind number schema [] = .ok (schema.map fun _ => .missing) := by
  cases schema <;> rfl

theorem columnsOfRows_names (schema : List (String × ElementType)) (rows : List (List Cell)) :
    (columnsOfRows schema rows).map Column.name = schema.map Prod.fst := by
  apply List.ext_getElem <;> simp [columnsOfRows]

end BenchmarkReport.Delimited
