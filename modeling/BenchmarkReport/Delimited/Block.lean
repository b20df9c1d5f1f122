/-
This file cuts the symbols of delimited text into blocks, whose records are read apart from each
other. A block ends with a line feed outside quotes, where every quotation mark since the start of
the block counts. A quotation mark inside a field without quotes can so make a block end within a
record.
-/

import BenchmarkReport.Delimited.Dialect

namespace BenchmarkReport.Delimited

/-- The number of symbols up to the last line feed outside quotes that lies within the given number
of bytes. It is zero if there is none. -/
def reach (kind : SymbolKind) : Bool → Nat → List Char → Nat
  | _, 0, _ => 0
  | _, _, [] => 0
  | inside, limit, symbol :: rest =>
    let later := reach kind (inside != (symbol == '"')) (limit - kind.size symbol) rest
    if 0 < later then later + 1
    else if symbol = '\n' && !inside then 1
    else 0

def byteCount (kind : SymbolKind) (text : List Char) : Nat :=
  text.foldr (fun symbol count => kind.size symbol + count) 0

/-- The limit is doubled until a block ends within it or all of the text does. -/
def growLimit (kind : SymbolKind) (limit : Nat) (text : List Char) : Nat :=
  if 0 < limit ∧ limit < byteCount kind text ∧ reach kind false limit text = 0 then
    growLimit kind (2 * limit) text
  else limit
  termination_by byteCount kind text - limit

/-- The number of symbols of the first block. It is zero if no line feed ends one. -/
def blockLength (kind : SymbolKind) (limit : Nat) (text : List Char) : Nat :=
  reach kind false (growLimit kind limit text) text

/-- The blocks of a text. A limit that was doubled holds for the later blocks too. -/
def blocksWithin (kind : SymbolKind) (limit : Nat) (text : List Char) : List (List Char) :=
  if text.isEmpty then []
  else if blockLength kind limit text = 0 then [text]
  else
    text.take (blockLength kind limit text) ::
      blocksWithin kind (growLimit kind limit text) (text.drop (blockLength kind limit text))
  termination_by text.length
  decreasing_by
    rename_i filled positive
    have := List.length_pos_iff.mpr (List.isEmpty_eq_false_iff.mp (Bool.eq_false_iff.mpr filled))
    simp only [List.length_drop]
    omega

/-- A block has no more bytes than this unless it is one long record. -/
def blockLimit : Nat := 4096

def blocks (kind : SymbolKind) (text : List Char) : List (List Char) :=
  blocksWithin kind blockLimit text

end BenchmarkReport.Delimited
