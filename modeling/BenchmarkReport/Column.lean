/-
This file holds the columns of a table: named lists of values of one type, in which values may be
missing.
-/

namespace BenchmarkReport

/-- The widths of whole numbers. -/
inductive IntegerKind
  | signed32
  | signed64
  | unsigned32
  | unsigned64
  deriving DecidableEq, Repr

inductive RealKind
  | single
  | double
  deriving DecidableEq, Repr

inductive ElementType
  | integer (kind : IntegerKind)
  | real (kind : RealKind)
  | boolean
  | text
  | null
  deriving DecidableEq, Repr

def IntegerKind.name : IntegerKind → String
  | .signed32 => "i32"
  | .signed64 => "i64"
  | .unsigned32 => "u32"
  | .unsigned64 => "u64"

def RealKind.name : RealKind → String
  | .single => "f32"
  | .double => "f64"

def ElementType.name : ElementType → String
  | .integer kind => kind.name
  | .real kind => kind.name
  | .boolean => "bool"
  | .text => "str"
  | .null => "null"

/-- One place of a table. -/
inductive Cell
  | missing
  | integer (value : Int)
  | real (value : Float)
  | boolean (value : Bool)
  | text (value : String)

/-- The values of a column. A column of the null type has nothing but missing values. -/
inductive Values
  | integers (kind : IntegerKind) (values : List (Option Int))
  | reals (kind : RealKind) (values : List (Option Float))
  | booleans (values : List (Option Bool))
  | texts (values : List (Option String))
  | nulls (count : Nat)

namespace Values

def type : Values → ElementType
  | .integers kind _ => .integer kind
  | .reals kind _ => .real kind
  | .booleans _ => .boolean
  | .texts _ => .text
  | .nulls _ => .null

def length : Values → Nat
  | .integers _ values => values.length
  | .reals _ values => values.length
  | .booleans values => values.length
  | .texts values => values.length
  | .nulls count => count

def take (count : Nat) : Values → Values
  | .integers kind values => .integers kind (values.take count)
  | .reals kind values => .reals kind (values.take count)
  | .booleans values => .booleans (values.take count)
  | .texts values => .texts (values.take count)
  | .nulls length => .nulls (min count length)

def cells : Values → List Cell
  | .integers _ values => values.map fun value => value.elim .missing .integer
  | .reals _ values => values.map fun value => value.elim .missing .real
  | .booleans values => values.map fun value => value.elim .missing .boolean
  | .texts values => values.map fun value => value.elim .missing .text
  | .nulls count => List.replicate count .missing

/-- Whole numbers and reals are numbers. A whole number is rounded to the nearest double. -/
def numbers? : Values → Option (List (Option Float))
  | .integers _ values => some (values.map (Option.map Float.ofInt))
  | .reals _ values => some values
  | _ => none

theorem cells_length (values : Values) : values.cells.length = values.length := by
  cases values <;> simp [cells, length]

theorem take_length (count : Nat) (values : Values) :
    (values.take count).length = min count values.length := by
  cases values <;> simp [take, length]

theorem take_type (count : Nat) (values : Values) : (values.take count).type = values.type := by
  cases values <;> rfl

theorem take_numbers? (count : Nat) (values : Values) :
    (values.take count).numbers? = values.numbers?.map (List.take count) := by
  cases values <;> simp [take, numbers?, List.map_take]

theorem numbers?_length {values : Values} {numbers : List (Option Float)}
    (numeric : values.numbers? = some numbers) : numbers.length = values.length := by
  cases values <;> simp_all [numbers?, length]
  · simp [← numeric]

end Values

structure Column where
  name : String
  values : Values

namespace Column

def type (column : Column) : ElementType := column.values.type

def length (column : Column) : Nat := column.values.length

def take (count : Nat) (column : Column) : Column :=
  { column with values := column.values.take count }

def cells (column : Column) : List Cell := column.values.cells

theorem take_name (count : Nat) (column : Column) : (column.take count).name = column.name := rfl

theorem take_length (count : Nat) (column : Column) :
    (column.take count).length = min count column.length :=
  column.values.take_length count

end Column

end BenchmarkReport
