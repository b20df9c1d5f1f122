/-
This file holds the two characters that a reader of delimited text may be told to use, and the
symbols that it looks at.
-/

import BenchmarkReport.Text.Utf8

namespace BenchmarkReport.Delimited

open Text

/-- The delimiter stands between fields. A line that starts with the comment byte is no data. -/
structure Dialect where
  delimiter : UInt8 := 44
  comment : Option UInt8 := some 35
  deriving DecidableEq, Repr

/-- A reader looks at the characters of a text or at its bytes. A byte is held by the character
with its number. -/
inductive SymbolKind
  | character
  | byte
  deriving DecidableEq, Repr

def symbolOfByte (byte : UInt8) : Char :=
  Char.ofNat byte.toNat

def byteOfSymbol (symbol : Char) : UInt8 :=
  symbol.toNat.toUInt8

/-- The symbols of a text. -/
def SymbolKind.encode : SymbolKind → List Char → List Char
  | .character, text => text
  | .byte, text => (encodeBytes text).map symbolOfByte

/-- The text of symbols, whatever they mean. -/
def SymbolKind.decode : SymbolKind → List Char → List Char
  | .character, symbols => symbols
  | .byte, symbols => decodeBytes (symbols.map byteOfSymbol)

/-- Where the symbols are no text. -/
def SymbolKind.fault? : SymbolKind → List Char → Option DecodingFault
  | .character, _ => none
  | .byte, symbols => decodingFault? (symbols.map byteOfSymbol)

/-- The number of bytes that a symbol stands for. -/
def SymbolKind.size : SymbolKind → Char → Nat
  | .character, symbol => symbol.utf8Size
  | .byte, _ => 1

/-- A text without its last byte. What is left of a longer character means nothing. -/
def dropLastByte (text : List Char) : List Char :=
  match text.getLast? with
  | none => []
  | some last => if last.toNat < 128 then text.dropLast else text.dropLast ++ [replacement]

/-- The text of a field without its first and its last byte. -/
def SymbolKind.decodeInside : SymbolKind → List Char → List Char
  | .character, field => dropLastByte field.tail
  | .byte, field => decodeBytes (field.tail.dropLast.map byteOfSymbol)

/-- A delimiter that is no character of its own can be a byte within a character. -/
def Dialect.kind (dialect : Dialect) : SymbolKind :=
  if dialect.delimiter < 128 then .character else .byte

def Dialect.separator (dialect : Dialect) : Char :=
  symbolOfByte dialect.delimiter

/-- The comment byte stands for the character with its number. -/
def Dialect.marker? (dialect : Dialect) : Option Char :=
  dialect.comment.map symbolOfByte

def startsWith (marker : Option Char) (line : List Char) : Bool :=
  marker.isSome && line.head? == marker

/-- A comment starts with the symbols of the marker. -/
def Dialect.isComment (dialect : Dialect) (symbols : List Char) : Bool :=
  dialect.marker?.any fun marker => (dialect.kind.encode [marker]).isPrefixOf symbols

theorem startsWith_some (marker symbol : Char) (rest : List Char) :
    startsWith (some marker) (symbol :: rest) = (symbol == marker) := by
  simp [startsWith]

theorem Dialect.kind_eq_character {dialect : Dialect} (ascii : dialect.delimiter < 128) :
    dialect.kind = .character := by
  simp [kind, ascii]

theorem Dialect.isComment_eq_startsWith {dialect : Dialect} (ascii : dialect.delimiter < 128)
    (line : List Char) : dialect.isComment line = startsWith dialect.marker? line := by
  rw [isComment, kind_eq_character ascii]
  cases dialect.marker? with
  | none => rfl
  | some marker =>
      cases line with
      | nil => rfl
      | cons symbol rest =>
          simp [startsWith, SymbolKind.encode, List.isPrefixOf, Bool.beq_comm]

end BenchmarkReport.Delimited
