/-
This file finds the type of a column from the text of its fields.
-/

import BenchmarkReport.Column
import BenchmarkReport.Text.Digit
import BenchmarkReport.Delimited.Record

namespace BenchmarkReport.Delimited

open Text

def isQuoted (field : List Char) : Bool :=
  field.head? == some '"'

/-- The case of a letter does not matter, and neither does the shape of a long `s`. -/
def foldLetter (symbol : Char) : Char :=
  if symbol.toNat = 0x17F then 's' else symbol.toLower

def looksBoolean (text : List Char) : Bool :=
  let folded := text.map foldLetter
  folded == "true".toList || folded == "false".toList

def dropMinus : List Char → List Char
  | '-' :: rest => rest
  | text => text

def dropSign : List Char → List Char
  | '-' :: rest => rest
  | '+' :: rest => rest
  | text => text

def allDigits (text : List Char) : Bool :=
  !text.isEmpty && text.all isAnyDigit

def looksInteger (text : List Char) : Bool :=
  allDigits (dropMinus text)

/-- The text after a number: a letter, a sign that may be absent, and digits. -/
def looksExponent : List Char → Bool
  | [] => false
  | symbol :: rest => (symbol == 'e' || symbol == 'E') && allDigits (dropSign rest)

/-- A real is a number with a point or with an exponent, or the name of a special value. -/
def looksReal (text : List Char) : Bool :=
  let magnitude := dropSign text
  let whole := magnitude.takeWhile isAnyDigit
  let rest := magnitude.dropWhile isAnyDigit
  magnitude == "inf".toList || magnitude == "NaN".toList ||
    match rest with
    | '.' :: after =>
      let fraction := after.takeWhile isAnyDigit
      let tail := after.dropWhile isAnyDigit
      if fraction.isEmpty then !whole.isEmpty && tail.isEmpty
      else tail.isEmpty || looksExponent tail
    | _ => !whole.isEmpty && looksExponent rest

/-- The type that the text of one field speaks for. -/
def textType (text : List Char) : ElementType :=
  if isQuoted text then .text
  else if looksBoolean text then .boolean
  else if looksReal text then .real .double
  else if looksInteger text then .integer .signed64
  else .text

/-- A quoted field speaks for the type of what is inside its quotes. -/
def fieldType (kind : SymbolKind) (field : List Char) : ElementType :=
  textType (if isQuoted field && 2 ≤ field.length then kind.decodeInside field
    else kind.decode field)

def isNumber : ElementType → Bool
  | .integer _ => true
  | .real _ => true
  | _ => false

/-- Fields of one type make a column of that type, and whole numbers among reals are reals. All
else is text. -/
def joinTypes : List ElementType → ElementType
  | [] => .text
  | first :: others =>
    if others.all (· == first) then first
    else if (first :: others).all isNumber then .real .double
    else .text

/-- A carriage return at the end of a line that holds more than it does not count. -/
def dropLineReturn (line : List Char) : List Char :=
  if line.length ≤ 1 then line else dropReturn line

/-- The types that a line speaks for, one for each column. A missing or empty field speaks for
none. -/
def lineTypes (dialect : Dialect) (count : Nat) (line : List Char) :
    List (Option ElementType) :=
  let present := ((fields dialect.separator (dropLineReturn line)).take count).map fun field =>
    if field.isEmpty then none else some (fieldType dialect.kind field)
  present ++ List.replicate (count - present.length) none

/-- So many lines after the header serve to find the types. -/
def inferenceLength : Nat := 100

/-- The types of the columns. Comments count among the lines but speak for nothing. -/
def inferTypes (dialect : Dialect) (count : Nat) (lines : List (List Char)) :
    List ElementType :=
  let spoken := ((lines.take inferenceLength).filter (!dialect.isComment ·)).map
    (lineTypes dialect count)
  (List.range count).map fun index =>
    joinTypes (spoken.filterMap fun types => types[index]?.join)

theorem inferTypes_length (dialect : Dialect) (count : Nat) (lines : List (List Char)) :
    (inferTypes dialect count lines).length = count := by
  simp [inferTypes]

theorem joinTypes_replicate (count : Nat) (type : ElementType) :
    joinTypes (List.replicate (count + 1) type) = type := by
  simp [List.replicate_succ, joinTypes]

end BenchmarkReport.Delimited
