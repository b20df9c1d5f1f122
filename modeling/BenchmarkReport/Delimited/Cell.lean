/-
This file reads one field as a value of its column's type.
-/

import BenchmarkReport.Number.Power
import BenchmarkReport.Number.Reading
import BenchmarkReport.Delimited.Error
import BenchmarkReport.Delimited.Inference

namespace BenchmarkReport.Delimited

open Text Number

/-- Two quotation marks in a row stand for one, and a single one stands for nothing. -/
def unescape : List Char → List Char
  | [] => []
  | '"' :: '"' :: rest => '"' :: unescape rest
  | symbol :: rest => if symbol = '"' then unescape rest else symbol :: unescape rest

/-- Each quotation mark is written twice. -/
def escape : List Char → List Char
  | [] => []
  | symbol :: rest => if symbol = '"' then '"' :: '"' :: escape rest else symbol :: escape rest

theorem unescape_escape (text : List Char) : unescape (escape text) = text := by
  induction text with
  | nil => rfl
  | cons symbol rest inductionHypothesis =>
      by_cases quote : symbol = '"' <;> simp [escape, unescape, quote, inductionHypothesis]

/-- The symbols of a field have to be text. -/
def textCell (kind : SymbolKind) (symbols : List Char) : Except FieldFault Cell :=
  if (kind.fault? symbols).isSome then .error .undecodable
  else .ok (.text (.ofList (kind.decode symbols)))

/-- A quoted text ends with the quotation mark that is not the one it starts with. -/
def readText (kind : SymbolKind) (field : List Char) : Except FieldFault Cell :=
  if !isQuoted field then textCell kind field
  else if 2 ≤ field.length && field.getLast? == some '"' then
    textCell kind (unescape field.tail.dropLast)
  else match kind.fault? field with
    | some fault => .error (.undecodableQuoted fault)
    | none => .error (.unescaped (.ofList (kind.decode field)))

def isSpace (symbol : Char) : Bool :=
  symbol == ' ' || symbol == '\t'

/-- Spaces in front of a value count only where it cannot be read with them. -/
def readSpaced (read : List Char → Option Cell) (text : List Char) : Except FieldFault Cell :=
  if text.isEmpty then .ok .missing
  else match read text with
    | some cell => .ok cell
    | none =>
      if !(text.head?.any isSpace) then .error .leftover
      else
        let trimmed := text.dropWhile isSpace
        if trimmed.isEmpty then .ok .missing
        else match read trimmed with
          | some cell => .ok cell
          | none => .error .leftover

/-- A value may stand in quotes. -/
def unquoted (kind : SymbolKind) (field : List Char) : List Char :=
  if isQuoted field then kind.decodeInside field else kind.decode field

def readNumber (kind : SymbolKind) (read : List Char → Option Cell) (field : List Char) :
    Except FieldFault Cell :=
  readSpaced read (unquoted kind field)

def leastInteger : Int := -twoPower 63

def greatestInteger : Int := twoPower 63 - 1

def integerCell? (text : List Char) : Option Cell :=
  (readInteger? text).bind fun value =>
    if leastInteger ≤ value && value ≤ greatestInteger then some (.integer value) else none

def realCell? (text : List Char) : Option Cell :=
  (readReal? text).map .real

def readBoolean (kind : SymbolKind) (field : List Char) : Except FieldFault Cell :=
  let text := unquoted kind field
  let folded := text.map Char.toLower
  if folded == "true".toList then .ok (.boolean true)
  else if folded == "false".toList then .ok (.boolean false)
  else if text.isEmpty then .ok .missing
  else .error (.notBoolean (.ofList text))

/-- An empty field is a missing value of every type. -/
def readCell (kind : SymbolKind) (type : ElementType) (field : List Char) :
    Except FieldFault Cell :=
  if field.isEmpty then .ok .missing
  else match type with
    | .text => readText kind field
    | .integer _ => readNumber kind integerCell? field
    | .real _ => readNumber kind realCell? field
    | .boolean => readBoolean kind field
    | .null => .ok .missing

theorem readCell_empty (kind : SymbolKind) (type : ElementType) :
    readCell kind type [] = .ok .missing := rfl

theorem readText_plain {field : List Char} (plain : isQuoted field = false) :
    readText .character field = .ok (.text (.ofList field)) := by
  simp [readText, textCell, SymbolKind.fault?, SymbolKind.decode, plain]

end BenchmarkReport.Delimited
