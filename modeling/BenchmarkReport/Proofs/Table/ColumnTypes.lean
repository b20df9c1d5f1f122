/-
This file says which types the columns of a rectangular text have, and when these are the types
that all cells of the columns decide.
-/

import BenchmarkReport.Proofs.Delimited.RectangularLines
import BenchmarkReport.Proofs.Table.Loading

namespace BenchmarkReport.Table

open Text Number Delimited

/-- Every printable ASCII symbol is plain. -/
def isPlainSymbol (symbol : Char) : Bool :=
  32 ≤ symbol.toNat && symbol.toNat < 127

/-- Commas stand between the cells of a rectangular text, and every row has a cell for each name in
the header. The names are plain and do not repeat. Whole numbers fit into 64 bits. -/
structure IsRectangular (dialect : Dialect) (text header : List Char) (rows : List (List Char)) :
    Prop where
  lines : filledLines text = header :: rows
  comma : dialect.delimiter = 44
  unquoted : '"' ∉ text
  uncommented : ∀ line ∈ header :: rows, startsWith dialect.marker? line = false
  plainNames : ∀ name ∈ lineCells header, name.all isPlainSymbol = true
  distinct : (lineCells header).Nodup
  widths : ∀ row ∈ rows, (lineCells row).length = (lineCells header).length
  fits : ∀ row ∈ rows, ∀ cell ∈ lineCells row, IsWhole cell → ∀ value,
    readInteger? cell = some value → leastInteger ≤ value ∧ value ≤ greatestInteger

/-- A text loads, and each column has the type that all of its cells decide. -/
def IsTypedByAll (dialect : Dialect) (text header : List Char) (rows : List (List Char)) : Prop :=
  ∃ table, ofText dialect text = .ok table ∧ table.schema = schemaBy columnType header rows

namespace IsRectangular

variable {dialect : Dialect} {text header : List Char} {rows : List (List Char)}
  (rectangular : IsRectangular dialect text header rows)

include rectangular

theorem line_unquoted : ∀ line ∈ header :: rows, '"' ∉ line := by
  rw [← rectangular.lines]
  exact filledLines_absent rectangular.unquoted

theorem line_single : ∀ line ∈ header :: rows, '\n' ∉ line := by
  rw [← rectangular.lines]
  exact filledLines_single

theorem header_ne_nil : header ≠ [] := by
  have member : header ∈ filledLines text := by simp [rectangular.lines]
  exact filledLines_ne_nil member

/-- The symbols of the header without its line ending. -/
theorem mem_header {symbol : Char} (member : symbol ∈ dropLineReturn header) :
    32 ≤ symbol.toNat ∧ symbol.toNat < 127 := by
  have pieces : symbol = ',' ∨ ∃ name ∈ lineCells header, symbol ∈ name :=
    exists_piece_of_mem member
  rcases pieces with rfl | ⟨name, nameMember, within⟩
  · decide
  · have plain := List.all_eq_true.mp (rectangular.plainNames name nameMember) symbol within
    simpa [isPlainSymbol] using plain

theorem exists_front : ∃ first rest, header = first :: rest ∧ 32 ≤ first.toNat ∧
    first.toNat < 127 := by
  obtain ⟨first, rest, shape⟩ := List.exists_cons_of_ne_nil rectangular.header_ne_nil
  have front := head?_dropLineReturn header
  rw [shape, List.head?_cons] at front
  have bounds := rectangular.mem_header (shape ▸ List.mem_of_mem_head? front)
  exact ⟨first, rest, shape, bounds⟩

theorem isCompressed_eq : isCompressed (unlines (header :: rows)) = false := by
  apply isCompressed_of_header rectangular.header_ne_nil
  intro symbol member
  rcases dropLineReturn_cases header with same | ended
  · have inside := rectangular.mem_header (same.symm ▸ member)
    omega
  · rw [ended] at member
    rcases List.mem_append.mp member with front | last
    · have inside := rectangular.mem_header front
      omega
    · rw [List.mem_singleton.mp last]
      decide

/-- The reader takes nothing off the front. -/
theorem symbolLines_eq : symbolLines dialect (header :: rows) = header :: rows ∧
    dropEndings (header :: rows) = header :: rows := by
  obtain ⟨first, rest, shape, above, below⟩ := rectangular.exists_front
  have ascii : dialect.delimiter < 128 := by
    rw [rectangular.comma]
    decide
  rw [shape]
  exact symbolLines_of_header ascii above below rest rows

/-- The rows are read with the types that the first of them speak for. -/
theorem readLines_eq : readLines dialect (header :: rows) =
    columnsOfRows (schemaBy foundType header (rows.take inferenceLength)) <$>
      rows.mapM fun row => readRecord .character 1
        (schemaBy foundType header (rows.take inferenceLength)) (fields ',' row) := by
  obtain ⟨symbols, started⟩ := rectangular.symbolLines_eq
  have comments := filter_uncommented rectangular.comma rectangular.uncommented
  have headerSplit : splitHeader dialect (header :: rows) = (header, rows) := by
    have noComment : dialect.isComment header = false := by
      have kept : header ∈ (header :: rows).filter (!dialect.isComment ·) := by
        rw [comments]
        exact List.mem_cons_self
      simpa using (List.mem_filter.mp kept).2
    rw [splitHeader, List.dropWhile_cons_of_neg (by simp [noComment])]
  have schema : lineSchema dialect (header :: rows) =
      schemaBy foundType header (rows.take inferenceLength) := by
    rw [lineSchema, started, headerSplit]
    exact schemaOf_of_widths rectangular.comma rectangular.line_unquoted rectangular.line_single
      rectangular.distinct rectangular.uncommented rectangular.widths
  rw [readLines, symbols, started, rectangular.isCompressed_eq, if_neg (by simp),
    if_neg (by simp), lineColumns_eq, started, ite_self, comments, schema, List.tail_cons,
    separator_of_comma rectangular.comma, kind_of_comma rectangular.comma]

/-- Whether the text loads depends on its rows alone. -/
theorem ofText_eq_ok_iff {table : Table} : ofText dialect text = .ok table ↔
    (columnsOfRows (schemaBy foundType header (rows.take inferenceLength)) <$>
      rows.mapM fun row => readRecord .character 1
        (schemaBy foundType header (rows.take inferenceLength)) (fields ',' row)) =
          .ok table.columns ∧ table.metadata = metadataOf dialect text := by
  have headed : (filledLines text).all (startsWith dialect.marker?) = false := by
    rw [rectangular.lines, List.all_eq_false]
    exact ⟨header, List.mem_cons_self, by
      simp [rectangular.uncommented header List.mem_cons_self]⟩
  rw [ofText_unquoted rectangular.unquoted, headed, if_neg (by simp), rectangular.lines,
    rectangular.readLines_eq, withMetadata_eq_ok_iff]

/-- The columns of a table that loads have the types that its first rows speak for. -/
theorem schema_of_ofText {table : Table} (success : ofText dialect text = .ok table) :
    table.schema = schemaBy foundType header (rows.take inferenceLength) := by
  obtain ⟨read, -⟩ := rectangular.ofText_eq_ok_iff.mp success
  obtain ⟨cells, -, columns⟩ := map_eq_ok_iff.mp read
  rw [schema, ← columns]
  exact columnsOfRows_schema

/-- Every row can be read with the types that all cells decide. -/
theorem exists_cells {row : List Char} (member : row ∈ rows) : ∃ cells,
    readRecord .character 1 (schemaBy columnType header rows) (fields ',' row) = .ok cells := by
  have lineMember := List.mem_cons_of_mem header member
  obtain ⟨width, contents⟩ := fields_lineCells (rectangular.line_unquoted row lineMember)
    (rectangular.line_single row lineMember)
  refine exists_readRecord ?_ ?_
  · rw [width, rectangular.widths row member]
    simp [schemaBy]
  · intro place name type column
    rw [getElem?_schemaBy] at column
    obtain ⟨cell, inHeader, same⟩ := Option.map_eq_some_iff.mp column
    obtain ⟨-, rfl⟩ := Prod.mk.inj same
    have inside : place < (lineCells row).length := by
      rw [rectangular.widths row member]
      exact (List.getElem?_eq_some_iff.mp inHeader).1
    have atPlace : (lineCells row).getD place [] ∈ lineCells row := by
      rw [List.getD_eq_getElem?_getD, List.getElem?_eq_getElem inside]
      exact List.getElem_mem inside
    refine readCell_of_columnType (List.mem_map_of_mem member) ?_ (contents place) ?_
    · exact lineCells_absent (rectangular.line_unquoted row lineMember) _ atPlace
    · exact rectangular.fits row member _ atPlace

/-- The types are those of all cells just when the first rows speak for the same types. -/
theorem isTypedByAll_iff : IsTypedByAll dialect text header rows ↔
    schemaBy foundType header (rows.take inferenceLength) = schemaBy columnType header rows := by
  constructor
  · rintro ⟨table, success, typed⟩
    rw [← typed, rectangular.schema_of_ofText success]
  · intro same
    obtain ⟨cells, read⟩ : ∃ cells, (rows.mapM fun row => readRecord .character 1
        (schemaBy foundType header (rows.take inferenceLength)) (fields ',' row)) = .ok cells := by
      rw [same]
      exact exists_mapM fun row member => rectangular.exists_cells member
    refine ⟨⟨columnsOfRows (schemaBy foundType header (rows.take inferenceLength)) cells,
      metadataOf dialect text⟩, ?_, ?_⟩
    · rw [rectangular.ofText_eq_ok_iff, read]
      exact ⟨rfl, rfl⟩
    · rw [← same]
      exact columnsOfRows_schema

/-- For rows of plain cells the reader finds the types that they decide. -/
theorem schemaBy_foundType {front : List (List Char)} (within : ∀ row ∈ front, row ∈ rows)
    (plain : ∀ row ∈ front, ∀ cell ∈ lineCells row, IsPlainCell cell) :
    schemaBy foundType header front = schemaBy columnType header front := by
  have types (place : Nat) : foundType (columnCells place front) =
      columnType (columnCells place front) := by
    have cellCases : ∀ cell ∈ columnCells place front, cell = [] ∨
        ∃ row ∈ front, cell ∈ lineCells row := by
      intro cell member
      obtain ⟨row, rowMember, rfl⟩ := List.mem_map.mp member
      rw [List.getD_eq_getElem?_getD]
      cases atPlace : (lineCells row)[place]? with
      | none => exact Or.inl rfl
      | some cell => exact Or.inr ⟨row, rowMember, List.mem_of_getElem? atPlace⟩
    refine foundType_of_isPlainCell (fun cell member => ?_) fun cell member => ?_
    · rcases cellCases cell member with rfl | ⟨row, rowMember, inRow⟩
      · exact isPlainCell_nil
      · exact plain row rowMember cell inRow
    · rcases cellCases cell member with rfl | ⟨row, rowMember, inRow⟩
      · simp
      · exact lineCells_absent (rectangular.line_unquoted row
          (List.mem_cons_of_mem header (within row rowMember))) cell inRow
  simp only [schemaBy, types]

end IsRectangular

/-- The columns of a rectangular text have the types that its first hundred rows speak for. These
are the types that all cells decide just when the later rows do not change them, so that in a text
of plain cells it matters where the first cell of another type stands. -/
theorem ofText_rectangular {dialect : Dialect} {text header : List Char}
    {rows : List (List Char)} (rectangular : IsRectangular dialect text header rows) :
    (∀ table, ofText dialect text = .ok table →
      table.schema = schemaBy foundType header (rows.take inferenceLength)) ∧
    (IsTypedByAll dialect text header rows ↔
      schemaBy foundType header (rows.take inferenceLength) = schemaBy columnType header rows) ∧
    ((∀ row ∈ rows.take inferenceLength, ∀ cell ∈ lineCells row, IsPlainCell cell) →
      (IsTypedByAll dialect text header rows ↔
        schemaBy columnType header (rows.take inferenceLength) =
          schemaBy columnType header rows) ∧
      (rows.length ≤ inferenceLength → IsTypedByAll dialect text header rows)) := by
  refine ⟨fun table success => rectangular.schema_of_ofText success,
    rectangular.isTypedByAll_iff, fun plain => ?_⟩
  have found := rectangular.schemaBy_foundType (fun row => List.mem_of_mem_take) plain
  have typed : IsTypedByAll dialect text header rows ↔
      schemaBy columnType header (rows.take inferenceLength) =
        schemaBy columnType header rows := by
    rw [rectangular.isTypedByAll_iff, found]
  refine ⟨typed, fun short => typed.mpr ?_⟩
  rw [List.take_of_length_le short]

/-- Whether a text reads as no whole number beyond 64 bits. -/
def readsWithin (cell : List Char) : Bool :=
  (readInteger? cell).all fun value => leastInteger ≤ value && value ≤ greatestInteger

theorem bounds_of_readsWithin {cell : List Char} (within : readsWithin cell = true) {value : Int}
    (read : readInteger? cell = some value) : leastInteger ≤ value ∧ value ≤ greatestInteger := by
  simpa [readsWithin, read] using within

/-- Cells of all types, some of them missing, in lines that end with a carriage return. -/
def mixedText : List Char :=
  "whole,real,truth,text\r\n-1,2.5e3,true,\r\n,7,,x y\r\n".toList

theorem mixedText_typed : ∃ table, ofText {} mixedText = .ok table ∧
    table.schema = [("whole", .integer .signed64), ("real", .real .double), ("truth", .boolean),
      ("text", .text)] := by
  have within : ∀ row ∈ ["-1,2.5e3,true,".toList, ",7,,x y".toList], ∀ cell ∈ lineCells row,
      readsWithin cell = true := by decide
  have rectangular : IsRectangular {} mixedText "whole,real,truth,text".toList
      ["-1,2.5e3,true,".toList, ",7,,x y".toList] :=
    { lines := by decide
      comma := by decide
      unquoted := by decide
      uncommented := by decide
      plainNames := by decide
      distinct := by decide
      widths := by decide
      fits := fun row member cell inRow _ _ read =>
        bounds_of_readsWithin (within row member cell inRow) read }
  obtain ⟨table, loaded, typed⟩ := (ofText_rectangular rectangular).2.1.mpr (by decide)
  exact ⟨table, loaded, typed.trans (by decide)⟩

/-- The last of a hundred and one rows is the only one that is no whole number. -/
def laterReal : List (List Char) := List.replicate 100 ['1'] ++ ["0.5".toList]

/-- The types are found from the rows before it, so that its cell cannot be read. -/
theorem laterReal_untyped : IsRectangular {} (unlines (['a'] :: laterReal)) ['a'] laterReal ∧
    ¬ IsTypedByAll {} (unlines (['a'] :: laterReal)) ['a'] laterReal := by
  have within : ∀ row ∈ laterReal, ∀ cell ∈ lineCells row, readsWithin cell = true := by
    decide +kernel
  have rectangular : IsRectangular {} (unlines (['a'] :: laterReal)) ['a'] laterReal :=
    { lines := by decide +kernel
      comma := by decide
      unquoted := by decide +kernel
      uncommented := by decide +kernel
      plainNames := by decide
      distinct := by decide
      widths := by decide +kernel
      fits := fun row member cell inRow _ _ read =>
        bounds_of_readsWithin (within row member cell inRow) read }
  refine ⟨rectangular, ?_⟩
  rw [rectangular.isTypedByAll_iff]
  decide +kernel

end BenchmarkReport.Table
