/-
This file says what the symbols of a text keep of its characters: the places of line ends and
quotation marks, and which lines are comments.
-/

import BenchmarkReport.Delimited.Dialect
import BenchmarkReport.Proofs.Text.Lines

namespace BenchmarkReport.Delimited

open Text

theorem symbolOfByte_toNat (byte : UInt8) : (symbolOfByte byte).toNat = byte.toNat := by
  have small : byte.toNat < 256 := byte.toNat_lt
  have valid : byte.toNat.isValidChar := Or.inl (by omega)
  unfold symbolOfByte Char.ofNat
  rw [dif_pos valid]
  rfl

/-- A byte below 128 stands for nothing but its own character. -/
theorem toNat_of_mem_utf8EncodeChar {symbol : Char} {byte : UInt8}
    (member : byte ∈ String.utf8EncodeChar symbol) (ascii : byte.toNat < 128) :
    symbol.toNat = byte.toNat := by
  have value : symbol.toNat = symbol.val.toNat := rfl
  unfold String.utf8EncodeChar at member
  dsimp only at member
  split at member
  · rw [List.mem_singleton.mp member, UInt8.toNat_ofNat']
    omega
  · exfalso
    split at member
    · simp only [List.mem_cons, List.not_mem_nil, or_false] at member
      rcases member with rfl | rfl <;> rw [UInt8.toNat_ofNat'] at ascii <;> omega
    · split at member
      · simp only [List.mem_cons, List.not_mem_nil, or_false] at member
        rcases member with rfl | rfl | rfl <;> rw [UInt8.toNat_ofNat'] at ascii <;> omega
      · simp only [List.mem_cons, List.not_mem_nil, or_false] at member
        rcases member with rfl | rfl | rfl | rfl <;> rw [UInt8.toNat_ofNat'] at ascii <;> omega

/-- The bytes of the first character determine it. -/
theorem utf8EncodeChar_append_inj {first second : Char} {rest other : List UInt8}
    (same : String.utf8EncodeChar first ++ rest = String.utf8EncodeChar second ++ other) :
    first = second := by
  have decoded (symbol : Char) (later : List UInt8) :
      (String.utf8EncodeChar symbol ++ later).toByteArray.utf8DecodeChar? 0 = some symbol := by
    rw [List.toByteArray_append]
    exact ByteArray.utf8DecodeChar?_utf8EncodeChar_append
  rw [← Option.some_inj, ← decoded first rest, ← decoded second other, same]

theorem byteOfSymbol_symbolOfByte (byte : UInt8) : byteOfSymbol (symbolOfByte byte) = byte := by
  rw [byteOfSymbol, symbolOfByte_toNat]
  exact UInt8.ofNat_toNat

namespace SymbolKind

variable (kind : SymbolKind)

theorem encode_append (first second : List Char) :
    kind.encode (first ++ second) = kind.encode first ++ kind.encode second := by
  cases kind with
  | character => rfl
  | byte => simp [encode, encodeBytes]

theorem encode_cons (symbol : Char) (rest : List Char) :
    kind.encode (symbol :: rest) = kind.encode [symbol] ++ kind.encode rest :=
  kind.encode_append [symbol] rest

theorem encode_singleton_ne_nil (symbol : Char) : kind.encode [symbol] ≠ [] := by
  cases kind with
  | character => simp [encode]
  | byte => simp [encode, encodeBytes, String.utf8EncodeChar_ne_nil]

/-- The first symbols determine their character. -/
theorem encode_singleton_append_inj {first second : Char} {rest other : List Char}
    (same : kind.encode [first] ++ rest = kind.encode [second] ++ other) : first = second := by
  cases kind with
  | character => exact (List.cons_eq_cons.mp same).1
  | byte =>
      have back (symbol : Char) (later : List Char) :
          (SymbolKind.byte.encode [symbol] ++ later).map byteOfSymbol =
            String.utf8EncodeChar symbol ++ later.map byteOfSymbol := by
        rw [List.map_append, encode, encodeBytes, List.flatMap_singleton, List.map_map]
        congr 1
        exact (List.map_congr_left fun byte _ => byteOfSymbol_symbolOfByte byte).trans (List.map_id' _)
      have bytes := congrArg (List.map byteOfSymbol) same
      rw [back, back] at bytes
      exact utf8EncodeChar_append_inj bytes

theorem encode_eq_nil_iff {text : List Char} : kind.encode text = [] ↔ text = [] := by
  cases text with
  | nil => cases kind <;> simp [encode, encodeBytes]
  | cons symbol rest =>
      rw [encode_cons]
      simp [encode_singleton_ne_nil]

theorem encode_lineFeed : kind.encode ['\n'] = ['\n'] := by
  cases kind <;> rfl

/-- Line feeds stay between the lines. -/
theorem encode_unlines (lines : List (List Char)) :
    kind.encode (unlines lines) = unlines (lines.map kind.encode) := by
  induction lines with
  | nil => cases kind <;> rfl
  | cons line others inductionHypothesis =>
      rw [unlines_cons, encode_append, encode_cons, encode_lineFeed, inductionHypothesis,
        List.map_cons, unlines_cons]
      rfl

/-- A symbol below 128 is a character of the text. -/
theorem mem_of_mem_encode {symbol : Char} {text : List Char} (ascii : symbol.toNat < 128)
    (member : symbol ∈ kind.encode text) : symbol ∈ text := by
  cases kind with
  | character => exact member
  | byte =>
      obtain ⟨byte, byteMember, rfl⟩ := List.mem_map.mp member
      obtain ⟨character, characterMember, within⟩ := List.mem_flatMap.mp byteMember
      rw [symbolOfByte_toNat] at ascii
      have sameNumber : character.toNat = (symbolOfByte byte).toNat := by
        rw [symbolOfByte_toNat]
        exact toNat_of_mem_utf8EncodeChar within ascii
      rwa [← Char.toNat_inj.mp sameNumber]

end SymbolKind

theorem startsWith_nil (marker : Option Char) : startsWith marker [] = false := by
  cases marker <;> rfl

theorem startsWith_of_not_mem {marker : Char} {line : List Char} (absent : marker ∉ line) :
    startsWith (some marker) line = false := by
  cases line with
  | nil => rfl
  | cons symbol rest =>
      have different : symbol ≠ marker := fun same => absent (by simp [same])
      simp [startsWith_some, different]

namespace Dialect

variable {dialect : Dialect}

/-- A line that starts with the marker is a comment in symbols too. -/
theorem isComment_encode {line : List Char} (starts : startsWith dialect.marker? line = true) :
    dialect.isComment (dialect.kind.encode line) = true := by
  unfold isComment
  cases marked : dialect.marker? with
  | none => simp [startsWith, marked] at starts
  | some marker =>
      cases line with
      | nil => simp [startsWith, marked] at starts
      | cons symbol rest =>
          have same : symbol = marker := by simpa [startsWith, marked] using starts
          rw [same, SymbolKind.encode_cons]
          simp

/-- No other line is a comment in symbols. -/
theorem isComment_encode_eq (line : List Char) :
    dialect.isComment (dialect.kind.encode line) = startsWith dialect.marker? line := by
  rw [Bool.eq_iff_iff]
  refine ⟨fun comment => ?_, isComment_encode⟩
  unfold isComment at comment
  cases marked : dialect.marker? with
  | none => simp [marked] at comment
  | some marker =>
      rw [marked, Option.any_some, List.isPrefixOf_iff_prefix] at comment
      obtain ⟨behind, same⟩ := comment
      cases line with
      | nil =>
          have empty := List.append_eq_nil_iff.mp (same.trans (dialect.kind.encode_eq_nil_iff.mpr rfl))
          exact absurd empty.1 (dialect.kind.encode_singleton_ne_nil marker)
      | cons symbol rest =>
          rw [dialect.kind.encode_cons symbol] at same
          rw [startsWith_some, beq_iff_eq]
          exact (dialect.kind.encode_singleton_append_inj same).symm

theorem isComment_nil : dialect.isComment [] = false := by
  unfold isComment
  cases dialect.marker? with
  | none => rfl
  | some marker =>
      cases shape : dialect.kind.encode [marker] with
      | nil => exact absurd shape (dialect.kind.encode_singleton_ne_nil marker)
      | cons symbol rest => simp [shape]

/-- What follows a comment does not change that it is one. -/
theorem isComment_append {line : List Char} (comment : dialect.isComment line = true)
    (rest : List Char) : dialect.isComment (line ++ rest) = true := by
  unfold isComment at comment ⊢
  cases marked : dialect.marker? with
  | none => simp [marked] at comment
  | some marker =>
      simp only [marked, Option.any_some, List.isPrefixOf_iff_prefix] at comment ⊢
      exact comment.trans (List.prefix_append line rest)

end Dialect

end BenchmarkReport.Delimited
