/-
This file reads lines that all have one cell for each name in the header: which names and types the
reader finds, and when it can read all cells.
-/

import BenchmarkReport.Proofs.Delimited.ColumnTypes
import BenchmarkReport.Proofs.Delimited.Rows

namespace BenchmarkReport.Delimited

open Text

/-- The cells of a line stand between its commas. -/
def lineCells (line : List Char) : List (List Char) :=
  split ',' (dropLineReturn line)

/-- The cells of the rows at one place. -/
def columnCells (place : Nat) (rows : List (List Char)) : List (List Char) :=
  rows.map fun row => (lineCells row).getD place []

/-- The names in a header with the types of the columns under them. -/
def schemaBy (typeOf : List (List Char) → ElementType) (header : List Char)
    (rows : List (List Char)) : List (String × ElementType) :=
  (lineCells header).zipIdx.map fun (name, place) =>
    (.ofList name, typeOf (columnCells place rows))

section Lines

variable {line : List Char}

theorem dropLineReturn_subset (line : List Char) : dropLineReturn line ⊆ line := by
  unfold dropLineReturn
  split
  · exact List.Subset.refl line
  · exact dropReturn_subset line

theorem head?_dropLineReturn (line : List Char) : (dropLineReturn line).head? = line.head? := by
  unfold dropLineReturn dropReturn
  split
  · rfl
  · split
    · cases line with
      | nil => rfl
      | cons first rest =>
          cases rest with
          | nil => simp at *
          | cons second later => rfl
    · rfl

theorem lineCells_absent {symbol : Char} (absent : symbol ∉ line) :
    ∀ cell ∈ lineCells line, symbol ∉ cell :=
  fun _ member within => absent (dropLineReturn_subset line ((mem_split member).2 within))

/-- At most one carriage return is dropped. -/
theorem dropLineReturn_cases (line : List Char) :
    dropLineReturn line = line ∨ line = dropLineReturn line ++ ['\r'] := by
  unfold dropLineReturn dropReturn
  split
  · exact Or.inl rfl
  · split
    · rename_i last
      exact Or.inr (List.dropLast_append_getLast? '\r' last).symm
    · exact Or.inl rfl

/-- The reader takes a line apart at the same places, but it drops one carriage return behind each
of the fields. -/
theorem fields_lineCells (unquoted : '"' ∉ line) (single : '\n' ∉ line) :
    (fields ',' line).length = (lineCells line).length ∧ ∀ place,
      dropReturn ((fields ',' line).getD place []) = (lineCells line).getD place [] ∨
      dropReturn ((fields ',' line).getD place []) =
        dropReturn ((lineCells line).getD place []) := by
  rw [fields_of_unquoted unquoted single, lineCells]
  rcases dropLineReturn_cases line with same | shape
  · rw [same]
    exact ⟨rfl, fun place => Or.inr rfl⟩
  · obtain ⟨front, last, pieces, extended⟩ :=
      split_concat (by decide : '\r' ≠ ',') (dropLineReturn line)
    rw [← shape] at extended
    rw [pieces, extended]
    refine ⟨by simp, fun place => ?_⟩
    rcases Nat.lt_trichotomy place front.length with before | rfl | behind
    · right
      simp [List.getElem?_append_left before]
    · left
      simp [dropReturn]
    · left
      have beyond (piece : List Char) : (front ++ [piece])[place]? = none := by
        rw [List.getElem?_eq_none_iff, List.length_append, List.length_singleton]
        omega
      simp [beyond, dropReturn]

end Lines

section Types

variable {line : List Char} {rows : List (List Char)} {dialect : Dialect}

/-- The type that a cell speaks for. -/
def spokenType (cell : List Char) : Option ElementType :=
  if cell.isEmpty then none else some (textType cell)

/-- A column is spoken for by its cells that are not empty. -/
theorem filterMap_spokenType (cells : List (List Char)) :
    cells.filterMap spokenType = (presentCells cells).map textType := by
  induction cells with
  | nil => rfl
  | cons cell others inductionHypothesis =>
      unfold presentCells at inductionHypothesis ⊢
      by_cases empty : cell.isEmpty = true
      · rw [List.filterMap_cons_none (by simp [spokenType, empty]), inductionHypothesis,
          List.filter_cons_of_neg (by simp [empty])]
      · rw [List.filterMap_cons_some (b := textType cell) (by simp [spokenType, empty]),
          inductionHypothesis, List.filter_cons_of_pos (by simp [empty]), List.map_cons]

/-- A line without quotation marks speaks with the pieces between its separators. A carriage return
at its end does not count. -/
theorem lineTypes_of_ascii (ascii : dialect.delimiter < 128) (unquoted : '"' ∉ line)
    (single : '\n' ∉ line) :
    lineTypes dialect (split dialect.separator (dropLineReturn line)).length line =
      (split dialect.separator (dropLineReturn line)).map spokenType := by
  have bareUnquoted : '"' ∉ dropLineReturn line := fun quote =>
    unquoted (dropLineReturn_subset line quote)
  have cells : fields dialect.separator (dropLineReturn line) =
      split dialect.separator (dropLineReturn line) :=
    fields_of_unquoted bareUnquoted fun lineFeed => single (dropLineReturn_subset line lineFeed)
  have types : (split dialect.separator (dropLineReturn line)).map (fun field =>
      if field.isEmpty then none else some (fieldType .character field)) =
        (split dialect.separator (dropLineReturn line)).map spokenType := by
    refine List.map_congr_left fun cell member => ?_
    rw [fieldType, isQuoted_of_not_mem fun quote => bareUnquoted ((mem_split member).2 quote)]
    rfl
  rw [lineTypes, Dialect.kind_eq_character ascii, cells, List.take_length, types]
  simp

variable (comma : dialect.delimiter = 44)

include comma

theorem separator_of_comma : dialect.separator = ',' := by
  rw [Dialect.separator, comma]
  rfl

theorem kind_of_comma : dialect.kind = .character := by
  rw [Dialect.kind, comma]
  rfl

/-- A line without quotation marks speaks with its cells. -/
theorem lineTypes_of_unquoted (unquoted : '"' ∉ line) (single : '\n' ∉ line) :
    lineTypes dialect (lineCells line).length line = (lineCells line).map spokenType := by
  have ascii : dialect.delimiter < 128 := by
    rw [comma]
    decide
  have types := lineTypes_of_ascii ascii unquoted single
  rwa [separator_of_comma comma] at types

variable {count : Nat} (unquoted : ∀ row ∈ rows, '"' ∉ row) (single : ∀ row ∈ rows, '\n' ∉ row)
  (uncommented : ∀ row ∈ rows, startsWith dialect.marker? row = false)
  (widths : ∀ row ∈ rows, (lineCells row).length = count)

include uncommented in
theorem filter_uncommented : rows.filter (!dialect.isComment ·) = rows := by
  rw [List.filter_eq_self]
  intro row member
  rw [Dialect.isComment_eq_startsWith (by rw [comma]; decide), uncommented row member]
  rfl

include unquoted single uncommented widths in
/-- The reader finds the types of the columns from the first rows. -/
theorem inferTypes_of_widths : inferTypes dialect count rows =
    (List.range count).map fun place => foundType (columnCells place (rows.take inferenceLength)) := by
  have within : ∀ row ∈ rows.take inferenceLength, row ∈ rows :=
    fun row member => List.mem_of_mem_take member
  have spoken : (rows.take inferenceLength).map (lineTypes dialect count) =
      (rows.take inferenceLength).map fun row => (lineCells row).map spokenType := by
    refine List.map_congr_left fun row member => ?_
    rw [← widths row (within row member)]
    exact lineTypes_of_unquoted comma (unquoted row (within row member))
      (single row (within row member))
  have uncommentedFront := filter_uncommented comma
    fun row member => uncommented row (within row member)
  rw [inferTypes, uncommentedFront, spoken]
  refine List.map_congr_left fun place _ => ?_
  have cell (row : List Char) : ((lineCells row).map spokenType)[place]?.join =
      spokenType ((lineCells row).getD place []) := by
    rw [List.getElem?_map, List.getD_eq_getElem?_getD]
    cases (lineCells row)[place]? <;> rfl
  rw [foundType, ← filterMap_spokenType, columnCells, List.filterMap_map, List.filterMap_map]
  congr 2
  funext row
  exact cell row

end Types

section Schema

variable {dialect : Dialect} {header : List Char} {rows : List (List Char)}

theorem schemaBy_names (typeOf : List (List Char) → ElementType) :
    (schemaBy typeOf header rows).map Prod.fst = (lineCells header).map String.ofList := by
  apply List.ext_getElem <;> simp [schemaBy]

theorem getElem?_schemaBy (typeOf : List (List Char) → ElementType) (place : Nat) :
    (schemaBy typeOf header rows)[place]? = (lineCells header)[place]?.map fun name =>
      (.ofList name, typeOf (columnCells place rows)) := by
  rw [schemaBy, List.getElem?_map, List.getElem?_zipIdx]
  cases (lineCells header)[place]? <;> simp

variable (comma : dialect.delimiter = 44) (unquoted : ∀ line ∈ header :: rows, '"' ∉ line)
  (single : ∀ line ∈ header :: rows, '\n' ∉ line) (distinct : (lineCells header).Nodup)

include distinct in
theorem nodup_names : ((lineCells header).map String.ofList).Nodup :=
  List.Pairwise.map String.ofList
    (fun _ _ different same => different (String.ofList_inj.mp same)) distinct

include comma unquoted single distinct in
/-- Names that do not repeat are kept as they are. -/
theorem headerNames_of_nodup :
    headerNames dialect header = (lineCells header).map String.ofList := by
  have cells : fields ',' (dropLineReturn header) = lineCells header :=
    fields_of_unquoted
      (fun quote => unquoted header List.mem_cons_self (dropLineReturn_subset header quote))
      fun lineFeed => single header List.mem_cons_self (dropLineReturn_subset header lineFeed)
  have names : (lineCells header).map (headerName .character) =
      (lineCells header).map String.ofList := by
    refine List.map_congr_left fun cell member => ?_
    rw [headerName, isQuoted_of_not_mem
      (lineCells_absent (unquoted header List.mem_cons_self) cell member)]
    rfl
  rw [headerNames, separator_of_comma comma, kind_of_comma comma, cells, names]
  exact renameRepeated_of_nodup (nodup_names distinct) (by simp)

variable (uncommented : ∀ line ∈ header :: rows, startsWith dialect.marker? line = false)
  (widths : ∀ row ∈ rows, (lineCells row).length = (lineCells header).length)

include comma unquoted single distinct uncommented widths in
/-- Every name has a column, and its type is found from the first rows. -/
theorem schemaOf_of_widths : schemaOf dialect header rows =
    schemaBy foundType header (rows.take inferenceLength) := by
  have names := headerNames_of_nodup comma unquoted single distinct
  have types := inferTypes_of_widths comma
    (fun row member => unquoted row (List.mem_cons_of_mem header member))
    (fun row member => single row (List.mem_cons_of_mem header member))
    (fun row member => uncommented row (List.mem_cons_of_mem header member)) widths
  have entries : ((lineCells header).map String.ofList).zip ((List.range (lineCells header).length).map
      fun place => foundType (columnCells place (rows.take inferenceLength))) =
        schemaBy foundType header (rows.take inferenceLength) := by
    apply List.ext_getElem <;> simp [schemaBy]
  rw [schemaOf, names, List.length_map, types, entries, foldl_addToSchema_of_nodup]
  · rfl
  · rw [List.nil_append, schemaBy_names]
    exact nodup_names distinct

end Schema

end BenchmarkReport.Delimited
