/-
This file says which rows lines of fields make: how many there are, which field a cell comes from,
and when a row is too long for its table.
-/

import BenchmarkReport.Proofs.Delimited.Reading
import Mathlib.Data.List.Forall2

namespace BenchmarkReport.Delimited

open Text

section Results

variable {Input Output Failure : Type}

theorem bind_eq_ok_iff {result : Except Failure Input} {next : Input → Except Failure Output}
    {output : Output} :
    result >>= next = .ok output ↔ ∃ value, result = .ok value ∧ next value = .ok output := by
  cases result <;> simp [bind, Except.bind]

theorem map_eq_ok_iff {result : Except Failure Input} {change : Input → Output}
    {output : Output} :
    change <$> result = .ok output ↔ ∃ value, result = .ok value ∧ change value = output := by
  cases result <;> simp [Functor.map, Except.map]

/-- A list of results succeeds when each of them does. -/
theorem mapM_eq_ok_iff {read : Input → Except Failure Output} {inputs : List Input}
    {outputs : List Output} :
    inputs.mapM read = .ok outputs ↔
      List.Forall₂ (fun input output => read input = .ok output) inputs outputs := by
  induction inputs generalizing outputs with
  | nil =>
      rw [List.mapM_nil, List.forall₂_nil_left_iff]
      exact ⟨fun same => (Except.ok.inj same).symm, fun empty => by rw [empty]; rfl⟩
  | cons input others inductionHypothesis =>
      simp only [List.mapM_cons, bind_eq_ok_iff, inductionHypothesis, List.forall₂_cons_left_iff]
      constructor
      · rintro ⟨first, read, rest, later, same⟩
        exact ⟨first, rest, read, later, (Except.ok.inj same).symm⟩
      · rintro ⟨first, rest, read, later, rfl⟩
        exact ⟨first, read, rest, later, rfl⟩

theorem mapM_congr {read other : Input → Except Failure Output} {inputs : List Input}
    (same : ∀ input ∈ inputs, read input = other input) : inputs.mapM read = inputs.mapM other := by
  induction inputs with
  | nil => rfl
  | cons input others inductionHypothesis =>
      rw [List.mapM_cons, List.mapM_cons, same input List.mem_cons_self,
        inductionHypothesis fun later member => same later (List.mem_cons_of_mem input member)]

theorem exists_mapM {read : Input → Except Failure Output} {inputs : List Input}
    (each : ∀ input ∈ inputs, ∃ output, read input = .ok output) :
    ∃ outputs, inputs.mapM read = .ok outputs := by
  induction inputs with
  | nil => exact ⟨[], rfl⟩
  | cons input others inductionHypothesis =>
      obtain ⟨first, read⟩ := each input List.mem_cons_self
      obtain ⟨rest, later⟩ := inductionHypothesis fun other member =>
        each other (List.mem_cons_of_mem input member)
      refine ⟨first :: rest, ?_⟩
      rw [List.mapM_cons, read, later]
      rfl

theorem exists_mapM_iff {read : Input → Except Failure Output} {inputs : List Input} :
    (∃ outputs, inputs.mapM read = .ok outputs) ↔
      ∀ input ∈ inputs, ∃ output, read input = .ok output := by
  refine ⟨fun ⟨outputs, success⟩ input member => ?_, exists_mapM⟩
  obtain ⟨place, within, rfl⟩ := List.getElem_of_mem member
  have all := mapM_eq_ok_iff.mp success
  exact ⟨_, (List.forall₂_iff_get.mp all).2 place within (all.length_eq ▸ within)⟩

end Results

section Records

variable {kind : SymbolKind} {number : Nat} {schema : List (String × ElementType)}
  {record : List (List Char)} {cells : List Cell}

/-- A record has a cell for each column and no field beyond the last of them. -/
theorem readRecord_length (success : readRecord kind number schema record = .ok cells) :
    record.length ≤ schema.length ∧ cells.length = schema.length := by
  fun_induction readRecord kind number schema record generalizing cells with
  | case1 number =>
      rw [← Except.ok.inj success]
      simp
  | case2 number field later => simp at success
  | case3 number schema filled =>
      rw [← Except.ok.inj success]
      simp
  | case4 number name type schema field later content fault => simp at success
  | case5 number name type schema field later content cell read =>
      rename_i inductionHypothesis
      obtain ⟨rest, tail, rfl⟩ := map_eq_ok_iff.mp success
      obtain ⟨short, exact⟩ := inductionHypothesis tail
      simp [short, exact]

/-- A cell is what its field reads as. A field that the record does not have reads as an empty
one. -/
theorem readRecord_cell (success : readRecord kind number schema record = .ok cells)
    {place : Nat} {name : String} {type : ElementType}
    (column : schema[place]? = some (name, type)) :
    readCell kind type (dropReturn (record.getD place [])) = .ok (cells.getD place .missing) := by
  fun_induction readRecord kind number schema record generalizing cells place with
  | case1 number => simp at column
  | case2 number field later => simp at success
  | case3 number schema filled =>
      obtain ⟨bound, -⟩ := List.getElem?_eq_some_iff.mp column
      rw [← Except.ok.inj success]
      simp [bound, dropReturn, readCell_empty]
  | case4 number name type schema field later content fault => simp at success
  | case5 number first firstType schema firstField later content cell read =>
      rename_i inductionHypothesis
      obtain ⟨rest, tail, rfl⟩ := map_eq_ok_iff.mp success
      cases place with
      | zero =>
          simp only [List.getElem?_cons_zero, Option.some.injEq, Prod.mk.injEq] at column
          obtain ⟨rfl, rfl⟩ := column
          exact read
      | succ place => exact inductionHypothesis tail column

/-- A record that is not too long reads as cells if each of its fields does. -/
theorem exists_readRecord (short : record.length ≤ schema.length)
    (readable : ∀ (place : Nat) (name : String) (type : ElementType),
      schema[place]? = some (name, type) →
        ∃ cell, readCell kind type (dropReturn (record.getD place [])) = .ok cell) :
    ∃ cells, readRecord kind number schema record = .ok cells := by
  induction schema generalizing record number with
  | nil =>
      rw [List.length_nil, Nat.le_zero, List.length_eq_zero_iff] at short
      exact ⟨[], by rw [short]; rfl⟩
  | cons entry others inductionHypothesis =>
      cases record with
      | nil => exact ⟨_, readRecord_nil kind number (entry :: others)⟩
      | cons field later =>
          obtain ⟨name, type⟩ := entry
          obtain ⟨cell, read⟩ := readable 0 name type rfl
          obtain ⟨cells, rest⟩ := @inductionHypothesis (number + 1) later
            (Nat.le_of_succ_le_succ short)
            fun place name type column => readable (place + 1) name type column
          rw [List.getD_cons_zero] at read
          exact ⟨cell :: cells, by simp only [readRecord, read, rest]; rfl⟩

end Records

/-- A cell fits into a column of its own type, and a missing one into every column. -/
inductive Fits : ElementType → Cell → Prop
  | missing (type : ElementType) : Fits type .missing
  | integer (kind : IntegerKind) (value : Int) : Fits (.integer kind) (.integer value)
  | real (kind : RealKind) (value : Float) : Fits (.real kind) (.real value)
  | boolean (value : Bool) : Fits .boolean (.boolean value)
  | text (value : String) : Fits .text (.text value)

section Cells

variable {kind : SymbolKind} {field : List Char} {cell : Cell}

theorem fits_of_textCell (success : textCell kind field = .ok cell) : Fits .text cell := by
  unfold textCell at success
  split at success
  · simp at success
  · rw [← Except.ok.inj success]
    exact .text _

theorem fits_of_readText (success : readText kind field = .ok cell) : Fits .text cell := by
  unfold readText at success
  split at success
  · exact fits_of_textCell success
  · split at success
    · exact fits_of_textCell success
    · split at success <;> simp at success

/-- A value is missing or read from the end of its text. -/
theorem readSpaced_eq_ok {read : List Char → Option Cell} {text : List Char}
    (success : readSpaced read text = .ok cell) :
    cell = .missing ∨ ∃ part, read part = some cell := by
  unfold readSpaced at success
  split at success
  · exact Or.inl (Except.ok.inj success).symm
  · split at success
    · rename_i found
      exact Or.inr ⟨text, by rw [found, Except.ok.inj success]⟩
    · split at success
      · simp at success
      · dsimp only at success
        split at success
        · exact Or.inl (Except.ok.inj success).symm
        · split at success
          · rename_i found
            exact Or.inr ⟨_, by rw [found, Except.ok.inj success]⟩
          · simp at success

theorem fits_of_integerCell? {text : List Char} {width : IntegerKind}
    (success : integerCell? text = some cell) : Fits (.integer width) cell := by
  obtain ⟨value, -, within⟩ := Option.bind_eq_some_iff.mp success
  split at within
  · rw [← Option.some.inj within]
    exact .integer width value
  · simp at within

theorem fits_of_realCell? {text : List Char} {width : RealKind}
    (success : realCell? text = some cell) : Fits (.real width) cell := by
  obtain ⟨value, -, same⟩ := Option.map_eq_some_iff.mp success
  rw [← same]
  exact .real width value

theorem fits_of_readBoolean (success : readBoolean kind field = .ok cell) :
    Fits .boolean cell := by
  unfold readBoolean at success
  dsimp only at success
  split at success
  · rw [← Except.ok.inj success]
    exact .boolean true
  · split at success
    · rw [← Except.ok.inj success]
      exact .boolean false
    · split at success
      · rw [← Except.ok.inj success]
        exact .missing .boolean
      · simp at success

/-- What a field reads as fits into its column. -/
theorem fits_of_readCell {type : ElementType} (success : readCell kind type field = .ok cell) :
    Fits type cell := by
  unfold readCell at success
  split at success
  · rw [← Except.ok.inj success]
    exact .missing type
  · cases type with
    | text => exact fits_of_readText success
    | integer width =>
        rcases readSpaced_eq_ok success with rfl | ⟨part, found⟩
        · exact .missing _
        · exact fits_of_integerCell? found
    | real width =>
        rcases readSpaced_eq_ok success with rfl | ⟨part, found⟩
        · exact .missing _
        · exact fits_of_realCell? found
    | boolean => exact fits_of_readBoolean success
    | null =>
        rw [← Except.ok.inj success]
        exact .missing .null

end Cells

section Columns

variable {schema : List (String × ElementType)} {rows : List (List Cell)} {place : Nat}

theorem columnsOfRows_length : (columnsOfRows schema rows).length = schema.length := by
  simp [columnsOfRows]

theorem getElem?_columnsOfRows :
    (columnsOfRows schema rows)[place]? = schema[place]?.map fun entry =>
      ⟨entry.1, valuesOfCells entry.2 (rows.map fun row => row.getD place .missing)⟩ := by
  rw [columnsOfRows, List.getElem?_map, List.getElem?_zipIdx]
  cases schema[place]? <;> simp

theorem valuesOfCells_type (type : ElementType) (cells : List Cell) :
    (valuesOfCells type cells).type = type := by
  cases type <;> rfl

theorem valuesOfCells_length (type : ElementType) (cells : List Cell) :
    (valuesOfCells type cells).length = cells.length := by
  cases type <;> simp [valuesOfCells, Values.length]

/-- Every column has a cell for each row. -/
theorem columnsOfRows_lengths : ∀ column ∈ columnsOfRows schema rows,
    column.length = rows.length := by
  intro column member
  obtain ⟨place, atPlace⟩ := List.mem_iff_getElem?.mp member
  rw [getElem?_columnsOfRows] at atPlace
  obtain ⟨entry, -, rfl⟩ := Option.map_eq_some_iff.mp atPlace
  simp [Column.length, valuesOfCells_length]

theorem valuesOfCells_cons (type : ElementType) (cell : Cell) (cells : List Cell) :
    (valuesOfCells type (cell :: cells)).cells =
      (valuesOfCells type [cell]).cells ++ (valuesOfCells type cells).cells := by
  cases type with
  | null => simp [valuesOfCells, Values.cells, List.replicate_succ]
  | _ => simp [valuesOfCells, Values.cells]

theorem valuesOfCells_singleton {type : ElementType} {cell : Cell} (fits : Fits type cell) :
    (valuesOfCells type [cell]).cells = [cell] := by
  cases fits with
  | missing => cases type <;> rfl
  | integer => rfl
  | real => rfl
  | boolean => rfl
  | text => rfl

/-- Cells that fit stay what they are in a column of their type. -/
theorem valuesOfCells_cells {type : ElementType} {cells : List Cell}
    (fits : ∀ cell ∈ cells, Fits type cell) : (valuesOfCells type cells).cells = cells := by
  induction cells with
  | nil => cases type <;> rfl
  | cons cell others inductionHypothesis =>
      have rest : (valuesOfCells type others).cells = others :=
        inductionHypothesis fun other member => fits other (List.mem_cons_of_mem cell member)
      rw [valuesOfCells_cons, valuesOfCells_singleton (fits cell List.mem_cons_self), rest]
      rfl

end Columns

/-- Columns hold one row for each of some records. -/
structure HoldRecords (dialect : Dialect) (schema : List (String × ElementType))
    (records : List (List Char)) (columns : List Column) : Prop where
  schema : columns.map (fun column => (column.name, column.type)) = schema
  lengths : ∀ column ∈ columns, column.length = records.length
  widths : ∀ record ∈ records, (fields dialect.separator record).length ≤ columns.length
  cells : ∀ {row place : Nat} {record : List Char} {column : Column},
    records[row]? = some record → columns[place]? = some column →
      ∃ cell, column.cells[row]? = some cell ∧ readCell dialect.kind column.type
        (dropReturn ((fields dialect.separator record).getD place [])) = .ok cell

section Reading

variable {dialect : Dialect} {schema : List (String × ElementType)} {records : List (List Char)}
  {rows : List (List Cell)} {columns : List Column}

theorem columnsOfRows_schema :
    (columnsOfRows schema rows).map (fun column => (column.name, column.type)) = schema := by
  apply List.ext_getElem?
  intro place
  rw [List.getElem?_map, getElem?_columnsOfRows]
  cases schema[place]? with
  | none => rfl
  | some entry => simp [Column.type, valuesOfCells_type]

/-- The cells of a column stand in its rows. -/
theorem columnsOfRows_cells {place : Nat} {name : String} {type : ElementType}
    (entry : schema[place]? = some (name, type))
    (read : List.Forall₂ (fun record cells => readRecord dialect.kind 1 schema
      (fields dialect.separator record) = .ok cells) records rows) :
    (valuesOfCells type (rows.map fun row => row.getD place .missing)).cells =
      rows.map fun row => row.getD place .missing := by
  apply valuesOfCells_cells
  intro cell member
  obtain ⟨row, rowMember, rfl⟩ := List.mem_map.mp member
  obtain ⟨index, bound, rfl⟩ := List.getElem_of_mem rowMember
  have recordBound : index < records.length := read.length_eq ▸ bound
  exact fits_of_readCell
    (readRecord_cell ((List.forall₂_iff_get.mp read).2 index recordBound bound) entry)

/-- Columns that were read hold the records that they were read from. -/
theorem holdRecords_of_mapM (success : columnsOfRows schema <$> (records.mapM fun record =>
      readRecord dialect.kind 1 schema (fields dialect.separator record)) = .ok columns) :
    HoldRecords dialect schema records columns := by
  obtain ⟨rows, result, rfl⟩ := map_eq_ok_iff.mp success
  have read := mapM_eq_ok_iff.mp result
  have count : rows.length = records.length := read.length_eq.symm
  refine ⟨columnsOfRows_schema, ?_, ?_, ?_⟩
  · intro column member
    rw [columnsOfRows_lengths column member, count]
  · intro record member
    obtain ⟨index, bound, rfl⟩ := List.getElem_of_mem member
    have rowBound : index < rows.length := count ▸ bound
    rw [columnsOfRows_length]
    exact (readRecord_length ((List.forall₂_iff_get.mp read).2 index bound rowBound)).1
  · intro row place record column atRow atPlace
    rw [getElem?_columnsOfRows] at atPlace
    obtain ⟨⟨name, type⟩, entry, rfl⟩ := Option.map_eq_some_iff.mp atPlace
    obtain ⟨bound, rfl⟩ := List.getElem?_eq_some_iff.mp atRow
    have rowBound : row < rows.length := count ▸ bound
    refine ⟨rows[row].getD place .missing, ?_, ?_⟩
    · rw [Column.cells, columnsOfRows_cells entry read, List.getElem?_map,
        List.getElem?_eq_getElem rowBound, Option.map_some]
    · rw [Column.type, valuesOfCells_type]
      exact readRecord_cell ((List.forall₂_iff_get.mp read).2 row bound rowBound) entry

/-- A text that is read has a header and rows that can be read with the columns under it. -/
theorem exists_rows_of_readColumns {text : List Char}
    (success : readColumns dialect text = .ok columns) :
    let symbols := dialect.kind.encode (dropByteOrderMark text)
    let schema := readSchema dialect (symbols.dropWhile isLineEnding)
    ∃ rows, readRows dialect schema (dataText dialect schema.length symbols) = .ok rows ∧
      columns = columnsOfRows schema rows := by
  unfold readColumns at success
  split at success
  · simp [throw, throwThe, MonadExceptOf.throw, bind, Except.bind] at success
  · dsimp only at success
    split at success
    · simp [throw, throwThe, MonadExceptOf.throw, bind, Except.bind] at success
    · obtain ⟨rows, read, same⟩ := bind_eq_ok_iff.mp success
      exact ⟨rows, read, (Except.ok.inj same).symm⟩

end Reading

end BenchmarkReport.Delimited
