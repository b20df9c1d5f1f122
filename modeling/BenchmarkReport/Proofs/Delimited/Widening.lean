/-
This file shows what one more field behind every line does to what the lines are read as. It has no
part in the columns that the lines have without it, and it makes one more column if all of these
fields can be read.
-/

import BenchmarkReport.Proofs.Delimited.RectangularLines
import BenchmarkReport.Proofs.Delimited.Settling

namespace BenchmarkReport.Delimited

open Text

/-- A line with one more field behind it. -/
def extendLine (separator : Char) (line field : List Char) : List Char :=
  line ++ separator :: field

/-- Such a separator has no other meaning. -/
structure IsSeparator (separator : Char) : Prop where
  noQuote : separator ≠ '"'
  noFeed : separator ≠ '\n'
  noReturn : separator ≠ '\r'

/-- A field without quotes that nothing within it ends. -/
structure IsField (separator : Char) (field : List Char) : Prop where
  whole : separator ∉ field
  unquoted : '"' ∉ field
  single : '\n' ∉ field
  noReturn : '\r' ∉ field

instance (separator : Char) (field : List Char) : Decidable (IsField separator field) :=
  decidable_of_iff (separator ∉ field ∧ '"' ∉ field ∧ '\n' ∉ field ∧ '\r' ∉ field)
    ⟨fun ⟨whole, unquoted, single, noReturn⟩ => ⟨whole, unquoted, single, noReturn⟩,
      fun isField => ⟨isField.whole, isField.unquoted, isField.single, isField.noReturn⟩⟩

/-- The header as the reader looks at it. -/
def bareHeader (header : List Char) : List Char :=
  (dropByteOrderMark header).dropWhile isLineEnding

/-- A carriage return at the end of a line has no part in the types that its fields speak for. -/
def SpeaksWhole (separator : Char) (line : List Char) : Prop :=
  (split separator (dropLineReturn line)).map spokenType = (split separator line).map spokenType

instance (separator : Char) (line : List Char) : Decidable (SpeaksWhole separator line) :=
  inferInstanceAs (Decidable (_ = _))

/-- Behind a byte order mark and carriage returns there is something left of a header, and that is
no comment. -/
structure IsHeader (dialect : Dialect) (header : List Char) : Prop where
  filled : bareHeader header ≠ []
  unmarked : dialect.isComment (dropByteOrderMark header) = false
  bare : dialect.isComment (bareHeader header) = false

section Fields

variable {separator : Char} {line field : List Char} (isSeparator : IsSeparator separator)
  (isField : IsField separator field)

include isSeparator isField

theorem extendLine_unquoted (unquoted : '"' ∉ line) : '"' ∉ extendLine separator line field := by
  simp [extendLine, unquoted, isField.unquoted, Ne.symm isSeparator.noQuote]

theorem extendLine_single (single : '\n' ∉ line) : '\n' ∉ extendLine separator line field := by
  simp [extendLine, single, isField.single, Ne.symm isSeparator.noFeed]

/-- A field behind a line comes after the fields of the line. -/
theorem fields_extendLine (unquoted : '"' ∉ line) (single : '\n' ∉ line) :
    fields separator (extendLine separator line field) = fields separator line ++ [field] := by
  rw [fields_of_unquoted (extendLine_unquoted isSeparator isField unquoted)
    (extendLine_single isSeparator isField single), fields_of_unquoted unquoted single,
    extendLine, split_append_cons, split_of_not_mem isField.whole]

theorem dropLineReturn_extendLine (line : List Char) :
    dropLineReturn (extendLine separator line field) = extendLine separator line field := by
  unfold dropLineReturn
  split
  · rfl
  · rw [dropReturn_eq_iff, extendLine, List.getLast?_append_of_ne_nil _ (by simp)]
    intro last
    rcases List.mem_cons.mp (List.mem_of_getLast? last) with same | within
    · exact isSeparator.noReturn same.symm
    · exact isField.noReturn within

end Fields

section Names

variable {seen names : List String} {name : String}

theorem renameRepeated_append (seen first second : List String) :
    renameRepeated seen (first ++ second) =
      renameRepeated seen first ++ renameRepeated (first.reverse ++ seen) second := by
  induction first generalizing seen with
  | nil => rfl
  | cons name rest inductionHypothesis =>
      rw [List.cons_append, renameRepeated, inductionHypothesis, renameRepeated,
        List.reverse_cons, List.append_assoc, List.singleton_append, List.cons_append]

/-- The first of several columns of one name keeps it. -/
theorem mem_renameRepeated (member : name ∈ names) (fresh : name ∉ seen) :
    name ∈ renameRepeated seen names := by
  induction names generalizing seen with
  | nil => simp at member
  | cons first rest inductionHypothesis =>
      rw [renameRepeated]
      by_cases same : name = first
      · rw [← same, List.count_eq_zero.mpr fresh]
        exact List.mem_cons_self
      · refine List.mem_cons_of_mem _ (inductionHypothesis ?_ ?_)
        · exact (List.mem_cons.mp member).resolve_left same
        · simp [same, fresh]

theorem renameRepeated_concat (absent : name ∉ renameRepeated [] names) :
    renameRepeated [] (names ++ [name]) = renameRepeated [] names ++ [name] := by
  have unseen : name ∉ names.reverse ++ [] := by
    intro member
    exact absent (mem_renameRepeated (by simpa using member) (by simp))
  rw [renameRepeated_append, renameRepeated, List.count_eq_zero.mpr unseen, renameRepeated]

end Names

section Schema

variable {schema entries : List (String × ElementType)} {entry : String × ElementType}

/-- Every name has a column, and no other does. -/
theorem mem_names_foldl_addToSchema {name : String} :
    name ∈ (entries.foldl addToSchema schema).map Prod.fst ↔
      name ∈ schema.map Prod.fst ∨ name ∈ entries.map Prod.fst := by
  induction entries generalizing schema with
  | nil => simp
  | cons entry later inductionHypothesis =>
      rw [List.foldl_cons, inductionHypothesis, addToSchema_names, List.map_cons, List.mem_cons,
        or_left_comm]
      split
      · rename_i present
        constructor
        · exact Or.inr
        · rintro (rfl | others)
          · exact Or.inl present
          · exact others
      · rw [List.mem_append, List.mem_singleton, or_assoc, or_left_comm]

theorem mem_names_schemaOf {dialect : Dialect} {header : List Char} {later : List (List Char)}
    {name : String} : name ∈ (schemaOf dialect header later).map Prod.fst ↔
      name ∈ headerNames dialect header := by
  rw [schemaOf, mem_names_foldl_addToSchema, List.map_fst_zip (by rw [inferTypes_length])]
  simp

/-- An entry of a new name is the last. -/
theorem addToSchema_of_not_mem (absent : entry.1 ∉ schema.map Prod.fst) :
    addToSchema schema entry = schema ++ [entry] := by
  rw [addToSchema, if_neg]
  intro present
  obtain ⟨old, member, same⟩ := List.any_eq_true.mp present
  exact absent (beq_iff_eq.mp same ▸ List.mem_map_of_mem member)

end Schema

/-- What lists with one more type each speak for, place by place. -/
theorem joinTypes_concat {Row : Type} {count : Nat} {rows : List Row}
    {front : Row → List (Option ElementType)} {last : Row → Option ElementType}
    (lengths : ∀ row ∈ rows, (front row).length = count) :
    ((List.range (count + 1)).map fun index => joinTypes
      ((rows.map fun row => front row ++ [last row]).filterMap fun types => types[index]?.join)) =
    ((List.range count).map fun index => joinTypes
      ((rows.map front).filterMap fun types => types[index]?.join)) ++
        [joinTypes (rows.filterMap last)] := by
  rw [List.range_succ, List.map_append, List.map_singleton]
  simp only [List.filterMap_map]
  congr 1
  · refine List.map_congr_left fun place within => congrArg joinTypes ?_
    refine List.filterMap_congr fun row member => ?_
    have before : place < (front row).length := by
      rw [lengths row member]
      exact List.mem_range.mp within
    rw [Function.comp_apply, List.getElem?_append_left before, Function.comp_apply]
  · congr 2
    refine List.filterMap_congr fun row member => ?_
    rw [Function.comp_apply, List.getElem?_append_right (Nat.le_of_eq (lengths row member))]
    simp [lengths row member]

section Types

variable {dialect : Dialect} {header name : List Char}
  (ascii : dialect.delimiter < 128) (isSeparator : IsSeparator dialect.separator)

include ascii

/-- A field does not make a comment of the line in front of it. -/
theorem isComment_extendLine {line : List Char} (filled : line ≠ []) (field : List Char) :
    dialect.isComment (extendLine dialect.separator line field) = dialect.isComment line := by
  rw [Dialect.isComment_eq_startsWith ascii, Dialect.isComment_eq_startsWith ascii, startsWith,
    startsWith, extendLine, List.head?_append_of_ne_nil line filled]

include isSeparator

theorem headerNames_extendLine (unquoted : '"' ∉ header) (single : '\n' ∉ header)
    (noReturn : header.getLast? ≠ some '\r') (isField : IsField dialect.separator name)
    (fresh : String.ofList name ∉ headerNames dialect header) :
    headerNames dialect (extendLine dialect.separator header name) =
      headerNames dialect header ++ [.ofList name] := by
  have plainName : headerName dialect.kind name = .ofList name := by
    rw [headerName, isQuoted_of_not_mem isField.unquoted, Dialect.kind_eq_character ascii]
    rfl
  unfold headerNames at fresh ⊢
  rw [dropLineReturn_of_getLast? noReturn] at fresh ⊢
  rw [dropLineReturn_extendLine isSeparator isField,
    fields_extendLine isSeparator isField unquoted single, List.map_append, List.map_singleton,
    plainName, renameRepeated_concat fresh]

/-- A field behind a line speaks for its own column. -/
theorem lineTypes_extendLine {line field : List Char} {count : Nat} (unquoted : '"' ∉ line)
    (single : '\n' ∉ line) (whole : SpeaksWhole dialect.separator line)
    (isField : IsField dialect.separator field)
    (width : (split dialect.separator line).length = count) :
    lineTypes dialect (count + 1) (extendLine dialect.separator line field) =
      lineTypes dialect count line ++ [spokenType field] ∧
        (lineTypes dialect count line).length = count := by
  have bareWidth : (split dialect.separator (dropLineReturn line)).length = count := by
    have lengths := congrArg List.length whole
    rwa [List.length_map, List.length_map, width] at lengths
  have types := lineTypes_of_ascii ascii unquoted single
  rw [bareWidth, whole] at types
  have cells : split dialect.separator (dropLineReturn (extendLine dialect.separator line field)) =
      split dialect.separator line ++ [field] := by
    rw [dropLineReturn_extendLine isSeparator isField, extendLine, split_append_cons,
      split_of_not_mem isField.whole]
  have wider := lineTypes_of_ascii ascii (extendLine_unquoted isSeparator isField unquoted)
    (extendLine_single isSeparator isField single)
  rw [cells, List.length_append, List.length_singleton, width, List.map_append,
    List.map_singleton, ← types] at wider
  refine ⟨wider, ?_⟩
  rw [types, List.length_map, width]

end Types

/-- Each record has a field for each of so many names, and there is one more field for it. -/
structure AreExtended (dialect : Dialect) (count : Nat) (rows : List (List Char × List Char)) :
    Prop where
  filled : ∀ row ∈ rows, row.1 ≠ []
  uncommented : ∀ row ∈ rows, dialect.isComment row.1 = false
  unquoted : ∀ row ∈ rows, '"' ∉ row.1
  single : ∀ row ∈ rows, '\n' ∉ row.1
  widths : ∀ row ∈ rows, (fields dialect.separator row.1).length = count
  areFields : ∀ row ∈ rows, IsField dialect.separator row.2

/-- The lines with one more field behind each of them. -/
def extendRows (dialect : Dialect) (rows : List (List Char × List Char)) : List (List Char) :=
  rows.map fun row => extendLine dialect.separator row.1 row.2

namespace AreExtended

variable {dialect : Dialect} {count : Nat} {rows : List (List Char × List Char)}
  (areExtended : AreExtended dialect count rows)
  (ascii : dialect.delimiter < 128) (isSeparator : IsSeparator dialect.separator)

include areExtended

theorem of_subset {part : List (List Char × List Char)} (within : part ⊆ rows) :
    AreExtended dialect count part where
  filled := fun row member => areExtended.filled row (within member)
  uncommented := fun row member => areExtended.uncommented row (within member)
  unquoted := fun row member => areExtended.unquoted row (within member)
  single := fun row member => areExtended.single row (within member)
  widths := fun row member => areExtended.widths row (within member)
  areFields := fun row member => areExtended.areFields row (within member)

theorem filter_records : (rows.map Prod.fst).filter (!dialect.isComment ·) = rows.map Prod.fst := by
  rw [List.filter_eq_self]
  refine List.forall_mem_map.mpr fun row member => ?_
  rw [areExtended.uncommented row member]
  rfl

include ascii

theorem filter_extendRows :
    (extendRows dialect rows).filter (!dialect.isComment ·) = extendRows dialect rows := by
  rw [List.filter_eq_self]
  refine List.forall_mem_map.mpr fun row member => ?_
  rw [isComment_extendLine ascii (areExtended.filled row member),
    areExtended.uncommented row member]
  rfl

include isSeparator

/-- The types of the columns stay, and the fields behind the records have the type that is found
from the first of them. -/
theorem inferTypes_extendRows
    (whole : ∀ row ∈ rows.take inferenceLength, SpeaksWhole dialect.separator row.1) :
    inferTypes dialect (count + 1) (extendRows dialect rows) =
      inferTypes dialect count (rows.map Prod.fst) ++
        [foundType ((rows.map Prod.snd).take inferenceLength)] := by
  have front := areExtended.of_subset (List.take_subset inferenceLength rows)
  have width (row : List Char × List Char) (member : row ∈ rows.take inferenceLength) :
      (split dialect.separator row.1).length = count := by
    rw [← fields_of_unquoted (front.unquoted row member) (front.single row member)]
    exact front.widths row member
  have spoken (row : List Char × List Char) (member : row ∈ rows.take inferenceLength) :=
    lineTypes_extendLine ascii isSeparator (front.unquoted row member) (front.single row member)
      (whole row member) (front.areFields row member) (width row member)
  have window : (extendRows dialect rows).take inferenceLength =
      extendRows dialect (rows.take inferenceLength) := List.map_take.symm
  have types :
      (extendRows dialect (rows.take inferenceLength)).map (lineTypes dialect (count + 1)) =
      (rows.take inferenceLength).map fun row =>
        lineTypes dialect count row.1 ++ [spokenType row.2] := by
    rw [extendRows, List.map_map]
    exact List.map_congr_left fun row member => (spoken row member).1
  unfold inferTypes
  rw [window, front.filter_extendRows ascii, types, ← List.map_take, front.filter_records,
    List.map_map, joinTypes_concat fun row member => (spoken row member).2, foundType,
    ← filterMap_spokenType, ← List.map_take, List.filterMap_map]
  rfl

/-- A new name makes a column behind the others. -/
theorem schemaOf_extendRows {header name : List Char} (unquoted : '"' ∉ header)
    (single : '\n' ∉ header) (noReturn : header.getLast? ≠ some '\r')
    (whole : ∀ row ∈ rows.take inferenceLength, SpeaksWhole dialect.separator row.1)
    (isField : IsField dialect.separator name) (named : (headerNames dialect header).length = count)
    (fresh : String.ofList name ∉
      (schemaOf dialect header (rows.map Prod.fst)).map Prod.fst) :
    schemaOf dialect (extendLine dialect.separator header name) (extendRows dialect rows) =
      schemaOf dialect header (rows.map Prod.fst) ++
        [(.ofList name, foundType ((rows.map Prod.snd).take inferenceLength))] := by
  have lengths : (headerNames dialect header).length =
      (inferTypes dialect count (rows.map Prod.fst)).length := by
    rw [inferTypes_length, named]
  have unseen : String.ofList name ∉ headerNames dialect header :=
    fun member => fresh (mem_names_schemaOf.mpr member)
  rw [schemaOf] at fresh ⊢
  rw [headerNames_extendLine ascii isSeparator unquoted single noReturn isField unseen,
    List.length_append, List.length_singleton, schemaOf, named,
    areExtended.inferTypes_extendRows ascii isSeparator whole, List.zip_append lengths,
    List.foldl_append, List.zip_cons_cons, List.zip_nil_left, List.foldl_cons, List.foldl_nil]
  exact addToSchema_of_not_mem (named ▸ fresh)

end AreExtended

section Rows

variable {kind : SymbolKind} {schema : List (String × ElementType)} {name : String}
  {type : ElementType}

/-- A field that a record has for one more column is read by itself. -/
theorem readRecord_concat {number : Nat} {record : List (List Char)} {field : List Char}
    {cells : List Cell} (width : record.length = schema.length) :
    readRecord kind number (schema ++ [(name, type)]) (record ++ [field]) = .ok cells ↔
      ∃ front cell, readRecord kind number schema record = .ok front ∧
        readCell kind type (dropReturn field) = .ok cell ∧ cells = front ++ [cell] := by
  induction schema generalizing number record cells with
  | nil =>
      rw [List.length_nil, List.length_eq_zero_iff] at width
      rw [width, List.nil_append, List.nil_append]
      cases read : readCell kind type (dropReturn field) with
      | error fault => simp [readRecord, read]
      | ok cell => simp [readRecord, read, Functor.map, Except.map, eq_comm]
  | cons entry others inductionHypothesis =>
      obtain ⟨first, later, rfl⟩ := List.exists_cons_of_length_eq_add_one width
      obtain ⟨otherName, otherType⟩ := entry
      have rest := @inductionHypothesis (number + 1) later
      rw [List.cons_append, List.cons_append, readRecord, readRecord]
      cases readCell kind otherType (dropReturn first) with
      | error fault => simp
      | ok value =>
          simp only [map_eq_ok_iff, rest (Nat.succ.inj width)]
          constructor
          · rintro ⟨behind, ⟨front, cell, read, last, rfl⟩, rfl⟩
            exact ⟨value :: front, cell, ⟨front, read, rfl⟩, last, rfl⟩
          · rintro ⟨_, cell, ⟨front, read, rfl⟩, last, rfl⟩
            exact ⟨front ++ [cell], ⟨front, cell, read, last, rfl⟩, rfl⟩

theorem readRecord_extendLine {separator : Char} {line field : List Char} {number : Nat}
    {cells : List Cell} (isSeparator : IsSeparator separator) (isField : IsField separator field)
    (unquoted : '"' ∉ line) (single : '\n' ∉ line)
    (width : (fields separator line).length = schema.length) :
    readRecord kind number (schema ++ [(name, type)])
        (fields separator (extendLine separator line field)) = .ok cells ↔
      ∃ front cell, readRecord kind number schema (fields separator line) = .ok front ∧
        readCell kind type field = .ok cell ∧ cells = front ++ [cell] := by
  rw [fields_extendLine isSeparator isField unquoted single, readRecord_concat width,
    dropReturn_of_not_mem isField.noReturn]

/-- One more cell in each row is one more column. -/
theorem columnsOfRows_concat {rows : List (List Cell × Cell)}
    (widths : ∀ row ∈ rows, row.1.length = schema.length) :
    columnsOfRows (schema ++ [(name, type)]) (rows.map fun row => row.1 ++ [row.2]) =
      columnsOfRows schema (rows.map Prod.fst) ++
        [⟨name, valuesOfCells type (rows.map Prod.snd)⟩] := by
  apply List.ext_getElem?
  intro place
  rw [getElem?_columnsOfRows]
  rcases Nat.lt_trichotomy place schema.length with before | rfl | behind
  · rw [List.getElem?_append_left before, List.getElem?_append_left (by
      rwa [columnsOfRows_length]), getElem?_columnsOfRows]
    refine congrArg (schema[place]?.map ·) (funext fun entry => ?_)
    simp only [List.map_map, Column.mk.injEq, true_and]
    refine congrArg _ (List.map_congr_left fun row member => ?_)
    simp [List.getElem?_append_left (widths row member ▸ before)]
  · rw [List.getElem?_append_right (Nat.le_refl _), List.getElem?_append_right (by
      rw [columnsOfRows_length]), columnsOfRows_length, Nat.sub_self]
    simp only [List.getElem?_cons_zero, Option.map_some, List.map_map, Option.some.injEq,
      Column.mk.injEq, true_and]
    refine congrArg _ (List.map_congr_left fun row member => ?_)
    simp [← widths row member]
  · rw [List.getElem?_eq_none, List.getElem?_eq_none]
    · rfl
    · simp [columnsOfRows_length, Nat.succ_le_of_lt behind]
    · simp [Nat.succ_le_of_lt behind]

end Rows

namespace AreExtended

variable {dialect : Dialect} {rows : List (List Char × List Char)} {kind : SymbolKind}
  {schema : List (String × ElementType)} {name : String} {type : ElementType}
  (isSeparator : IsSeparator dialect.separator)

include isSeparator

/-- Records are read with the fields behind them just when they are read without, and so are these
fields. -/
theorem mapM_extendRows (areExtended : AreExtended dialect schema.length rows)
    {read : List (List Cell)} :
    ((extendRows dialect rows).mapM fun record =>
      readRecord kind 1 (schema ++ [(name, type)]) (fields dialect.separator record)) = .ok read ↔
    ∃ parts : List (List Cell × Cell),
      ((rows.map Prod.fst).mapM fun record =>
        readRecord kind 1 schema (fields dialect.separator record)) = .ok (parts.map Prod.fst) ∧
      (rows.map Prod.snd).mapM (readCell kind type) = .ok (parts.map Prod.snd) ∧
      read = parts.map fun part => part.1 ++ [part.2] := by
  simp only [mapM_eq_ok_iff]
  induction rows generalizing read with
  | nil =>
      simp only [extendRows, List.map_nil, List.forall₂_nil_left_iff, List.map_eq_nil_iff]
      constructor
      · intro same
        exact ⟨[], rfl, rfl, same⟩
      · rintro ⟨parts, nothing, -, same⟩
        rw [same, nothing, List.map_nil]
  | cons row others inductionHypothesis =>
      have rest := @inductionHypothesis
        (areExtended.of_subset (List.subset_cons_self row others))
      have first {cells : List Cell} := @readRecord_extendLine kind schema name type
        dialect.separator row.1 row.2 1 cells isSeparator
        (areExtended.areFields row List.mem_cons_self)
        (areExtended.unquoted row List.mem_cons_self) (areExtended.single row List.mem_cons_self)
        (areExtended.widths row List.mem_cons_self)
      rw [extendRows, List.map_cons, List.forall₂_cons_left_iff, ← extendRows]
      constructor
      · rintro ⟨cells, later, head, tail, rfl⟩
        obtain ⟨front, cell, record, field, rfl⟩ := first.mp head
        obtain ⟨parts, records, behind, rfl⟩ := rest.mp tail
        exact ⟨(front, cell) :: parts, .cons record records, .cons field behind, rfl⟩
      · rintro ⟨parts, records, behind, rfl⟩
        cases parts with
        | nil => simp at records
        | cons part parts =>
            obtain ⟨record, moreRecords⟩ := List.forall₂_cons.mp records
            obtain ⟨field, moreFields⟩ := List.forall₂_cons.mp behind
            exact ⟨part.1 ++ [part.2], _, first.mpr ⟨part.1, part.2, record, field, rfl⟩,
              rest.mpr ⟨parts, moreRecords, moreFields, rfl⟩, rfl⟩

/-- One more field in each of some records that are read makes one more column. -/
theorem columns_extendRows (areExtended : AreExtended dialect schema.length rows)
    {columns wider : List Column}
    (success : columnsOfRows schema <$> ((rows.map Prod.fst).mapM fun record =>
      readRecord kind 1 schema (fields dialect.separator record)) = .ok columns) :
    columnsOfRows (schema ++ [(name, type)]) <$> ((extendRows dialect rows).mapM fun record =>
      readRecord kind 1 (schema ++ [(name, type)]) (fields dialect.separator record)) =
        .ok wider ↔
      ∃ values, (rows.map Prod.snd).mapM (readCell kind type) = .ok values ∧
        wider = columns ++ [⟨name, valuesOfCells type values⟩] := by
  obtain ⟨records, recordsRead, rfl⟩ := map_eq_ok_iff.mp success
  have each := mapM_eq_ok_iff.mp recordsRead
  have widths : ∀ cells ∈ records, cells.length = schema.length := by
    intro cells member
    obtain ⟨place, bound, rfl⟩ := List.getElem_of_mem member
    exact (readRecord_length
      ((List.forall₂_iff_get.mp each).2 place (each.length_eq ▸ bound) bound)).2
  simp only [map_eq_ok_iff, areExtended.mapM_extendRows isSeparator]
  constructor
  · rintro ⟨_, ⟨parts, front, behind, rfl⟩, rfl⟩
    have same : records = parts.map Prod.fst := Except.ok.inj (recordsRead.symm.trans front)
    refine ⟨parts.map Prod.snd, behind, ?_⟩
    rw [same, columnsOfRows_concat]
    intro part member
    exact widths part.1 (same ▸ List.mem_map_of_mem member)
  · rintro ⟨values, behind, rfl⟩
    have lengths : records.length = values.length := by
      rw [← each.length_eq, ← (mapM_eq_ok_iff.mp behind).length_eq, List.length_map,
        List.length_map]
    have front : (records.zip values).map Prod.fst = records :=
      List.map_fst_zip (Nat.le_of_eq lengths)
    have back : (records.zip values).map Prod.snd = values :=
      List.map_snd_zip (Nat.le_of_eq lengths.symm)
    refine ⟨_, ⟨records.zip values, front.symm ▸ recordsRead, back.symm ▸ behind, rfl⟩, ?_⟩
    rw [columnsOfRows_concat, front, back]
    intro part member
    exact widths part.1 (front ▸ List.mem_map_of_mem member)

end AreExtended

section Lines

variable {dialect : Dialect} {header : List Char} {records : List (List Char)}

/-- The records are read under the header. -/
theorem readLines_header (ascii : dialect.delimiter < 128) (isHeader : IsHeader dialect header)
    (uncommented : records.filter (!dialect.isComment ·) = records) :
    readLines dialect (header :: records) =
      if isCompressed (unlines (header :: records)) then .error .compressed
      else columnsOfRows (schemaOf dialect (bareHeader header) records) <$>
        records.mapM fun record =>
          readRecord .character 1 (schemaOf dialect (bareHeader header) records)
            (fields dialect.separator record) := by
  have symbols : symbolLines dialect (header :: records) = dropByteOrderMark header :: records := by
    rw [symbolLines_of_ascii ascii, dropMark]
  have started : dropEndings (dropByteOrderMark header :: records) =
      bareHeader header :: records := by
    unfold dropEndings
    split
    · rename_i nothing
      exact absurd nothing isHeader.filled
    · rename_i shape
      rw [← shape]
      rfl
  have cut (line : List Char) (unmarked : dialect.isComment line = false) :
      splitHeader dialect (line :: records) = (line, records) := by
    rw [splitHeader, List.dropWhile_cons_of_neg (by simp [unmarked])]
  have startedLines : dropEndings (symbolLines dialect (header :: records)) =
      bareHeader header :: records := by
    rw [symbols, started]
  rw [readLines_of_splitHeader (by simp [startedLines]) (by rw [startedLines, cut _ isHeader.bare])
    (by rw [symbols, cut _ isHeader.unmarked]), dataColumns, uncommented,
    Dialect.kind_eq_character ascii]

theorem IsHeader.dropByteOrderMark_ne_nil (isHeader : IsHeader dialect header) :
    dropByteOrderMark header ≠ [] := by
  intro nothing
  exact isHeader.filled (by rw [bareHeader, nothing, List.dropWhile_nil])

theorem dropByteOrderMark_append {first : List Char} (filled : first ≠ []) (second : List Char) :
    dropByteOrderMark (first ++ second) = dropByteOrderMark first ++ second := by
  cases first with
  | nil => exact absurd rfl filled
  | cons symbol rest =>
      rw [List.cons_append, dropByteOrderMark, dropByteOrderMark]
      split <;> rfl

section Header

variable {name : List Char} (isHeader : IsHeader dialect header)

include isHeader

theorem IsHeader.ne_nil : header ≠ [] := by
  rintro rfl
  exact isHeader.filled rfl

theorem IsHeader.dropByteOrderMark_extendLine (separator : Char) (name : List Char) :
    dropByteOrderMark (extendLine separator header name) =
      extendLine separator (dropByteOrderMark header) name :=
  dropByteOrderMark_append isHeader.ne_nil (separator :: name)

theorem IsHeader.bareHeader_extendLine (separator : Char) (name : List Char) :
    bareHeader (extendLine separator header name) =
      extendLine separator (bareHeader header) name := by
  have filled : (bareHeader header).isEmpty = false :=
    List.isEmpty_eq_false_iff.mpr isHeader.filled
  unfold bareHeader at filled
  rw [bareHeader, isHeader.dropByteOrderMark_extendLine, extendLine, List.dropWhile_append, filled]
  rfl

/-- A name behind a header does not hide it. -/
theorem IsHeader.extendLine (ascii : dialect.delimiter < 128) (name : List Char) :
    IsHeader dialect (extendLine dialect.separator header name) where
  filled := by
    rw [isHeader.bareHeader_extendLine]
    simp [Delimited.extendLine]
  unmarked := by
    rw [isHeader.dropByteOrderMark_extendLine,
      isComment_extendLine ascii isHeader.dropByteOrderMark_ne_nil, isHeader.unmarked]
  bare := by
    rw [isHeader.bareHeader_extendLine, isComment_extendLine ascii isHeader.filled, isHeader.bare]

/-- What is in front of a header is not at its end. -/
theorem IsHeader.bareHeader_suffix : bareHeader header <:+ header := by
  have mark : dropByteOrderMark header <:+ header := by
    cases header with
    | nil => exact List.suffix_refl []
    | cons symbol rest =>
        rw [dropByteOrderMark]
        split
        · exact List.suffix_cons symbol rest
        · exact List.suffix_refl _
  exact (List.dropWhile_suffix isLineEnding).trans mark

end Header

/-- Records that are read have a field for each column. -/
theorem AreExtended.of_read {count : Nat} {rows : List (List Char × List Char)}
    {schema : List (String × ElementType)} {columns : List Column}
    (areExtended : AreExtended dialect count rows) (ascii : dialect.delimiter < 128)
    (short : schema.length ≤ count)
    (success : columnsOfRows schema <$> ((rows.map Prod.fst).mapM fun record =>
      readRecord .character 1 schema (fields dialect.separator record)) = .ok columns) :
    AreExtended dialect schema.length rows where
  filled := areExtended.filled
  uncommented := areExtended.uncommented
  unquoted := areExtended.unquoted
  single := areExtended.single
  areFields := areExtended.areFields
  widths := by
    intro row member
    rw [← Dialect.kind_eq_character ascii] at success
    have hold := holdRecords_of_mapM success
    have within := hold.widths row.1 (List.mem_map_of_mem member)
    have columnCount : columns.length = schema.length := by
      rw [← hold.schema, List.length_map]
    have width := areExtended.widths row member
    omega

section Extending

variable {rows : List (List Char × List Char)} {name : List Char} {columns wider : List Column}

/-- A header and records that are read with one more field behind each of them have one more
column. -/
theorem readLines_extendRows (ascii : dialect.delimiter < 128)
    (isSeparator : IsSeparator dialect.separator) (isHeader : IsHeader dialect header)
    (unquoted : '"' ∉ header) (single : '\n' ∉ header) (noReturn : header.getLast? ≠ some '\r')
    (isField : IsField dialect.separator name)
    (areExtended : AreExtended dialect (headerNames dialect (bareHeader header)).length rows)
    (whole : ∀ row ∈ rows.take inferenceLength, SpeaksWhole dialect.separator row.1)
    (success : readLines dialect (header :: rows.map Prod.fst) = .ok columns)
    (fresh : String.ofList name ∉ columns.map Column.name) :
    readLines dialect (extendLine dialect.separator header name :: extendRows dialect rows) =
        .ok wider ↔
      isCompressed (unlines
        (extendLine dialect.separator header name :: extendRows dialect rows)) = false ∧
      ∃ values, (rows.map Prod.snd).mapM (readCell .character
          (foundType ((rows.map Prod.snd).take inferenceLength))) = .ok values ∧
        wider = columns ++ [⟨.ofList name, valuesOfCells
          (foundType ((rows.map Prod.snd).take inferenceLength)) values⟩] := by
  have suffix := isHeader.bareHeader_suffix
  have bareReturn : (bareHeader header).getLast? ≠ some '\r' := by
    obtain ⟨front, joined⟩ := suffix
    rwa [← joined, List.getLast?_append_of_ne_nil front isHeader.filled] at noReturn
  rw [readLines_header ascii isHeader areExtended.filter_records] at success
  split at success
  · simp at success
  · have names : columns.map Column.name =
        (schemaOf dialect (bareHeader header) (rows.map Prod.fst)).map Prod.fst := by
      obtain ⟨records, -, rfl⟩ := map_eq_ok_iff.mp success
      exact columnsOfRows_names _ _
    have schema := areExtended.schemaOf_extendRows ascii isSeparator
      (fun quote => unquoted (suffix.subset quote)) (fun feed => single (suffix.subset feed))
      bareReturn whole isField rfl (names ▸ fresh)
    have short : (schemaOf dialect (bareHeader header) (rows.map Prod.fst)).length ≤
        (headerNames dialect (bareHeader header)).length := by
      rw [headerNames_length]
      exact schemaOf_length_le
    have widths := areExtended.of_read ascii short success
    have widerHeader := isHeader.extendLine ascii name
    rw [readLines_header ascii widerHeader (areExtended.filter_extendRows ascii),
      isHeader.bareHeader_extendLine, schema]
    split
    · rename_i compressed
      simp [compressed]
    · rename_i plain
      rw [AreExtended.columns_extendRows isSeparator widths success]
      simp [plain]

end Extending

end Lines

end BenchmarkReport.Delimited
