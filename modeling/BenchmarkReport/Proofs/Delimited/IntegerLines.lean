/-
This file writes names and whole numbers as lines of delimited text and shows which columns such
lines are read as.
-/

import BenchmarkReport.Proofs.Delimited.NumberLines
import BenchmarkReport.Proofs.Number.Integers

namespace BenchmarkReport.Delimited

open Text Number

/-- A missing number is written as an empty field. -/
def integerField (value : Option Int) : List Char :=
  value.elim [] integerText

def integerCell (value : Option Int) : Cell :=
  value.elim .missing .integer

def integerLine (row : List (Option Int)) : List Char :=
  fieldLine (row.map integerField)

/-- Names are written with ASCII letters, digits and low lines. -/
def isWordSymbol (symbol : Char) : Bool :=
  isDigit symbol || ('A' ≤ symbol && symbol ≤ 'Z') || ('a' ≤ symbol && symbol ≤ 'z') ||
    symbol == '_'

/-- The columns of rows of whole numbers. -/
def integerColumns (names : List String) (rows : List (List (Option Int))) : List Column :=
  names.zipIdx.map fun (name, place) =>
    ⟨name, .integers .signed64 (rows.map fun row => row[place]?.join)⟩

section IntegerFields

variable {value : Option Int}

theorem isNumberField_integerField (value : Option Int) : IsNumberField (integerField value) := by
  cases value with
  | none => exact Or.inl rfl
  | some number => exact Or.inr (isWhole_integerText number)

/-- An integer of 64 bits reads as itself. -/
theorem readCell_integerField {kind : IntegerKind}
    (bounded : ∀ number, some number = value →
      leastInteger ≤ number ∧ number ≤ greatestInteger) :
    readCell .character (.integer kind) (integerField value) = .ok (integerCell value) := by
  cases value with
  | none => rfl
  | some number =>
      obtain ⟨least, greatest⟩ := bounded number rfl
      exact readCell_of_isWhole (isWhole_integerText number) (readInteger?_integerText number)
        least greatest kind

end IntegerFields

section IntegerRows

variable {names : List String} {row : List (Option Int)} {rows : List (List (Option Int))}
  {count : Nat}

theorem isNumberField_of_mem : ∀ field ∈ row.map integerField, IsNumberField field :=
  List.forall_mem_map.mpr fun value _ => isNumberField_integerField value

theorem mem_integerLine {symbol : Char} (member : symbol ∈ integerLine row) :
    symbol = ',' ∨ symbol = '-' ∨ isDigit symbol = true :=
  mem_numberLine isNumberField_of_mem member

/-- The numbers of a row are its fields. -/
theorem fields_integerLine (present : row ≠ []) :
    fields ',' (integerLine row) = row.map integerField :=
  fields_numberLine isNumberField_of_mem (by simpa using present)

theorem startsWith_integerLine : startsWith (Dialect.marker? {}) (integerLine row) = false :=
  startsWith_numberLine isNumberField_of_mem

/-- Columns of integers are taken for integers if each of them has a number early enough. -/
theorem inferTypes_integers (positive : 0 < count) (widths : ∀ row ∈ rows, row.length = count)
    (spoken : ∀ place < count, ∃ row ∈ rows.take inferenceLength, ∃ value,
      row[place]? = some (some value)) :
    inferTypes {} count (rows.map integerLine) =
      List.replicate count (.integer .signed64) := by
  have lines : rows.map integerLine = (rows.map (List.map integerField)).map fieldLine := by
    rw [List.map_map]
    rfl
  rw [lines]
  refine inferTypes_numbers positive ?_ ?_ ?_
  · exact List.forall_mem_map.mpr fun row member => by rw [List.length_map, widths row member]
  · exact List.forall_mem_map.mpr fun row _ => isNumberField_of_mem
  · intro place within
    obtain ⟨row, member, number, atPlace⟩ := spoken place within
    rw [← List.map_take]
    refine ⟨_, List.mem_map_of_mem member, ?_⟩
    rw [List.getD_eq_getElem?_getD, List.getElem?_map, atPlace]
    exact integerText_ne_nil number

theorem integerColumns_names : (integerColumns names rows).map Column.name = names := by
  apply List.ext_getElem <;> simp [integerColumns]

theorem getElem?_integerColumns {place : Nat} : (integerColumns names rows)[place]? =
    names[place]?.map fun name =>
      ⟨name, .integers .signed64 (rows.map fun row => row[place]?.join)⟩ := by
  rw [integerColumns, List.getElem?_map, List.getElem?_zipIdx]
  cases names[place]? <;> simp

theorem uniformColumns_integers :
    uniformColumns (.integer .signed64) integerCell names rows = integerColumns names rows := by
  have value (row : List (Option Int)) (place : Nat) :
      Cell.integer? ((row[place]?.map integerCell).getD .missing) = row[place]?.join := by
    cases row[place]? with
    | none => rfl
    | some value => cases value <;> rfl
  unfold uniformColumns integerColumns
  apply List.map_congr_left
  intro entry _
  simp [valuesOfCells, Function.comp_def, value]

/-- Lines of integers under a header are read as the columns that they were written from. -/
theorem lineColumns_integers (positive : 0 < names.length)
    (widths : ∀ row ∈ rows, row.length = names.length)
    (spoken : ∀ place < names.length, ∃ row ∈ rows.take inferenceLength, ∃ value,
      row[place]? = some (some value))
    (bounded : ∀ row ∈ rows, ∀ value, some value ∈ row →
      leastInteger ≤ value ∧ value ≤ greatestInteger)
    (distinct : names.Nodup) {header : List Char} (named : headerNames {} header = names)
    (uncommented : Dialect.isComment {} header = false)
    (started : dropEndings (header :: rows.map integerLine) = header :: rows.map integerLine) :
    lineColumns {} (header :: rows.map integerLine) = .ok (integerColumns names rows) := by
  have present : ∀ row ∈ rows, row ≠ [] := ne_nil_of_widths positive widths
  have records : ∀ record ∈ header :: rows.map integerLine,
      Dialect.isComment {} record = false := by
    refine List.forall_mem_cons.mpr ⟨uncommented, List.forall_mem_map.mpr fun row _ => ?_⟩
    rw [Dialect.isComment_eq_startsWith (by decide)]
    exact startsWith_integerLine
  have reads : ∀ row ∈ rows, ∀ value ∈ row,
      readCell .character (.integer .signed64) (dropReturn (integerField value)) =
        .ok (integerCell value) := by
    intro row member value within
    rw [dropReturn_of_not_mem
      ((isNumberField_integerField value).not_mem (by decide) (by decide))]
    exact readCell_integerField fun number same => bounded row member number (same ▸ within)
  rw [← uniformColumns_integers]
  exact lineColumns_uniform started records named distinct
    (inferTypes_integers positive widths spoken)
    (fun row member => fields_integerLine (present row member)) widths reads

end IntegerRows

section HeaderLines

variable {names : List String} {symbol : Char}

theorem toNat_of_isWordSymbol (word : isWordSymbol symbol = true) :
    0x30 ≤ symbol.toNat ∧ symbol.toNat ≤ 0x7A := by
  simp only [isWordSymbol, isDigit, Bool.or_eq_true, Bool.and_eq_true, decide_eq_true_eq,
    beq_iff_eq, Char.le_def, UInt32.le_iff_toNat_le] at word
  rcases word with ((⟨above, below⟩ | ⟨above, below⟩) | ⟨above, below⟩) | rfl
  · exact ⟨Nat.le_trans (by decide) above, Nat.le_trans below (by decide)⟩
  · exact ⟨Nat.le_trans (by decide) above, Nat.le_trans below (by decide)⟩
  · exact ⟨Nat.le_trans (by decide) above, Nat.le_trans below (by decide)⟩
  · decide

/-- Names come back from their header. -/
theorem headerNames_headerLine
    (words : ∀ name ∈ names, ∀ symbol ∈ name.toList, isWordSymbol symbol = true)
    (present : names ≠ []) (distinct : names.Nodup) : headerNames {} (headerLine names) = names :=
  headerNames_of_words words (by decide) (by decide) (by decide) (by decide) present distinct

end HeaderLines

end BenchmarkReport.Delimited
