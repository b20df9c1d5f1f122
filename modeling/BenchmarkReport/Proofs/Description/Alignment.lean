/-
This file shows that a description is printed as an aligned table: nine lines of one width, in which
each name, label and statistic stands whole at the end of its column.
-/

import Mathlib.Data.List.GetD
import BenchmarkReport.Proofs.Description.StatisticText
import BenchmarkReport.Proofs.Grid.Rows
import BenchmarkReport.Proofs.Grid.Wrapping

namespace BenchmarkReport

open Number Text Grid Statistics

/-- The texts of a column from top to bottom. -/
def ColumnSummary.texts (column : ColumnSummary) : List (List Char) :=
  column.name.toList :: column.summary.values.map statisticText

namespace Description

/-- The texts of a line from left to right: the names, or a label and one statistic of each
column. -/
def lineTexts (description : Description) : Nat → List (List Char)
  | 0 => [] :: description.columns.map fun column => column.name.toList
  | index + 1 => (Summary.labels.getD index "").toList ::
      description.columns.map fun column => statisticText (column.summary.values.getD index 0)

/-- The texts of all columns from left to right. -/
def columnTexts (description : Description) : List (List (List Char)) :=
  ([] :: Summary.labels.map String.toList) :: description.columns.map ColumnSummary.texts

/-- The room of a column has one blank more than its widest text. -/
def rooms (description : Description) : List Nat :=
  (description.gridColumns.map columnWidth).map (· + 1)

/-- The lines of one row of the printed table. -/
def printedRow (description : Description) (index : Nat) : List (List Char) :=
  rowLines .right noStrokes (description.gridColumns.map columnWidth) (description.gridRow index)

theorem textLines_eq_flatMap {description : Description} (filled : description.columns ≠ []) :
    description.textLines = (List.range 9).flatMap description.printedRow := by
  rw [textLines, if_neg (by simpa using filled)]
  rfl

section Texts

variable {description : Description} {texts : List (List Char)} {entry : List Char} {index : Nat}

theorem isNarrow_of_isDigit {symbol : Char} (digit : isDigit symbol = true) :
    isNarrow symbol = true := by
  obtain ⟨least, greatest⟩ := toNat_of_isDigit digit
  have single : symbol ≠ '\n' := by
    rintro rfl
    exact absurd least (by decide)
  simp only [isNarrow, Bool.and_eq_true, decide_eq_true_eq, bne_iff_ne]
  exact ⟨by omega, single⟩

/-- A statistic has only symbols of single places. -/
theorem isNarrow_statisticText (value : Float) :
    ∀ symbol ∈ statisticText value, isNarrow symbol = true := by
  cases read : Extended.ofFloat value with
  | nan =>
      rw [statisticText, read]
      exact List.all_eq_true.mp (by decide : "NaN".toList.all isNarrow = true)
  | infinity negative =>
      rw [statisticText, read]
      cases negative with
      | false => exact List.all_eq_true.mp (by decide : "inf".toList.all isNarrow = true)
      | true => exact List.all_eq_true.mp (by decide : "-inf".toList.all isNarrow = true)
  | finite binary =>
      obtain ⟨whole, fraction, text, pointed, -⟩ := statisticText_eq read
      intro symbol member
      rw [text] at member
      rcases List.mem_append.mp member with sign | digits
      · have signs : ∀ negative, (signText negative).all isNarrow = true := by decide
        exact List.all_eq_true.mp (signs _) symbol sign
      · rcases List.mem_append.mp digits with inWhole | behind
        · exact isNarrow_of_isDigit (pointed.numeral.2 symbol inWhole)
        · rcases List.mem_cons.mp behind with rfl | inFraction
          · decide
          · exact isNarrow_of_isDigit (pointed.digits symbol inFraction)

theorem gridColumns_eq (description : Description) :
    description.gridColumns = description.columnTexts.map (List.map TextCell.ofText) := by
  simp [gridColumns, labelCells, columnTexts, summaryCells, ColumnSummary.texts, Function.comp_def]

theorem length_of_mem_columnTexts (member : texts ∈ description.columnTexts) :
    texts.length = 9 := by
  rcases List.mem_cons.mp member with rfl | summary
  · rfl
  · obtain ⟨column, -, rfl⟩ := List.mem_map.mp summary
    rfl

/-- The texts of a line stand at its height in the columns. -/
theorem lineTexts_eq (description : Description) (inside : index < 9) :
    description.lineTexts index = description.columnTexts.map (·.getD index []) := by
  rw [columnTexts, List.map_cons, List.map_map]
  cases index with
  | zero => rfl
  | succ index =>
      have listed (column : ColumnSummary) :
          statisticText (column.summary.values.getD index 0) = column.texts.getD (index + 1) [] := by
        have listedValue : index < column.summary.values.length := Nat.lt_of_succ_lt_succ inside
        rw [ColumnSummary.texts, List.getD_cons_succ, List.getD_eq_getElem _ _ listedValue,
          List.getD_eq_getElem _ _ (by simpa using listedValue), List.getElem_map]
      have label : (Summary.labels.map String.toList).getD index [] =
          (Summary.labels.getD index "").toList := List.getD_map Summary.labels "" String.toList
      rw [lineTexts, List.getD_cons_succ, label]
      simp only [listed]
      rfl

theorem gridRow_eq (description : Description) (inside : index < 9) :
    description.gridRow index = (description.lineTexts index).map TextCell.ofText := by
  rw [lineTexts_eq description inside, gridRow, gridColumns_eq, List.map_map, List.map_map]
  refine List.map_congr_left fun texts _ => ?_
  exact List.getD_map texts [] TextCell.ofText

end Texts

/-- A text of one line that is not wider than a column may be. -/
structure IsCellText (entry : List Char) : Prop where
  single : '\n' ∉ entry
  narrow : displayWidth entry ≤ greatestWidth

theorem isCellText_statisticText (value : Float) : IsCellText (statisticText value) where
  single member := absurd (isNarrow_statisticText value _ member) (by decide)
  narrow := by
    rw [displayWidth_narrow (isNarrow_statisticText value)]
    exact (length_statisticText_le value).trans (by decide)

/-- All texts of a description stand in cells of their own. -/
def Fits (description : Description) : Prop :=
  ∀ texts ∈ description.columnTexts, ∀ entry ∈ texts, IsCellText entry

/-- Only the names can be too wide. -/
theorem fits_of_names {description : Description}
    (single : ∀ column ∈ description.columns, '\n' ∉ column.name.toList)
    (narrow : ∀ column ∈ description.columns,
      displayWidth column.name.toList ≤ greatestWidth) : description.Fits := by
  intro texts member entry inTexts
  rcases List.mem_cons.mp member with rfl | summary
  · have labels : ∀ entry ∈ [] :: Summary.labels.map String.toList,
        '\n' ∉ entry ∧ displayWidth entry ≤ greatestWidth := by decide +kernel
    exact ⟨(labels entry inTexts).1, (labels entry inTexts).2⟩
  · obtain ⟨column, inColumns, rfl⟩ := List.mem_map.mp summary
    rcases List.mem_cons.mp inTexts with rfl | statistic
    · exact ⟨single column inColumns, narrow column inColumns⟩
    · obtain ⟨value, -, rfl⟩ := List.mem_map.mp statistic
      exact isCellText_statisticText value

section Lines

variable {description : Description} {texts : List (List Char)} {index : Nat}

theorem mem_of_getD (member : texts ∈ description.columnTexts) (inside : index < 9) :
    texts.getD index [] ∈ texts := by
  have listed : index < texts.length := by rwa [length_of_mem_columnTexts member]
  rw [List.getD_eq_getElem _ _ listed]
  exact List.getElem_mem listed

/-- No text is wider than its column. -/
theorem Fits.width_le (fits : description.Fits) (member : texts ∈ description.columnTexts)
    (inside : index < 9) :
    displayWidth (texts.getD index []) ≤ columnWidth (texts.map TextCell.ofText) := by
  have inTexts := mem_of_getD member inside
  have cell := ofText_of_single (fits texts member _ inTexts).single
  have width : (TextCell.ofText (texts.getD index [])).width =
      displayWidth (texts.getD index []) := by
    rw [cell]
    exact Nat.zero_max _
  rw [← width]
  apply width_le_columnWidth (List.mem_map_of_mem inTexts)
  rw [width]
  exact (fits texts member _ inTexts).narrow

theorem Fits.forall₂ (fits : description.Fits) (inside : index < 9) :
    List.Forall₂ (fun width entry => displayWidth entry ≤ width)
      (description.gridColumns.map columnWidth) (description.lineTexts index) := by
  rw [lineTexts_eq description inside, gridColumns_eq, List.map_map, List.forall₂_map_left_iff,
    List.forall₂_map_right_iff, List.forall₂_same]
  exact fun texts member => fits.width_le member inside

theorem Fits.isCellText {entry : List Char} (fits : description.Fits) (inside : index < 9)
    (member : entry ∈ description.lineTexts index) : IsCellText entry := by
  rw [lineTexts_eq description inside] at member
  obtain ⟨texts, inColumns, rfl⟩ := List.mem_map.mp member
  exact fits texts inColumns _ (mem_of_getD inColumns inside)

theorem Fits.printedRow_eq (fits : description.Fits) (inside : index < 9) :
    description.printedRow index =
      [alignedLine description.rooms (description.lineTexts index)] := by
  rw [printedRow, gridRow_eq description inside]
  apply rowLines_of_fits _ (fits.forall₂ inside)
  · exact fun entry member => (fits.isCellText inside member).single
  · rw [lineTexts_eq description inside]
    exact List.cons_ne_nil _ _

/-- A description has a line of names and a line for each statistic. -/
theorem Fits.textLines_eq (fits : description.Fits) (filled : description.columns ≠ []) :
    description.textLines = (List.range 9).map fun index =>
      alignedLine description.rooms (description.lineTexts index) := by
  calc description.textLines
      = (List.range 9).flatMap description.printedRow := textLines_eq_flatMap filled
    _ = (List.range 9).flatMap fun index =>
          [alignedLine description.rooms (description.lineTexts index)] :=
        List.flatMap_congr fun index member => fits.printedRow_eq (List.mem_range.mp member)
    _ = (List.range 9).map fun index =>
          alignedLine description.rooms (description.lineTexts index) := List.map_eq_flatMap.symm

theorem Fits.pieces_text (fits : description.Fits) (filled : description.columns ≠ []) :
    pieces description.text.toList = (List.range 9).map fun index =>
      alignedLine description.rooms (description.lineTexts index) := by
  rw [text, joinLines, String.toList_ofList, fits.textLines_eq filled]
  apply pieces_joinPieces (by simp)
  intro line member
  obtain ⟨index, inRange, rfl⟩ := List.mem_map.mp member
  intro feed
  rcases mem_alignedLine feed with blank | ⟨entry, inLine, inEntry⟩
  · exact absurd blank (by decide)
  · exact (fits.isCellText (List.mem_range.mp inRange) inLine).single inEntry

theorem Fits.forall₂_rooms (fits : description.Fits) (inside : index < 9) :
    List.Forall₂ (fun room entry => displayWidth entry < room)
      description.rooms (description.lineTexts index) := by
  rw [rooms, List.forall₂_map_left_iff]
  exact (fits.forall₂ inside).imp fun _ _ => Nat.lt_succ_of_le

theorem length_rooms (description : Description) :
    description.rooms.length = description.columns.length + 1 := by
  simp [rooms, gridColumns]

end Lines

/-- The text of a description is an aligned table that loses nothing, as long as no name has line
feeds or is wider than a column may be. It has nine lines of one width: the names, and then for each
statistic its label and its values. Each of these texts stands whole between blanks, and the texts
of a column end at one place. A count has all its digits. -/
theorem text_aligned (description : Description) (filled : description.columns ≠ [])
    (single : ∀ column ∈ description.columns, '\n' ∉ column.name.toList)
    (narrow : ∀ column ∈ description.columns,
      displayWidth column.name.toList ≤ greatestWidth) :
    ∃ rooms : List Nat, rooms.length = description.columns.length + 1 ∧
      (pieces description.text.toList = (List.range 9).map fun index =>
        alignedLine rooms (description.lineTexts index)) ∧
      (∀ index < 9,
        displayWidth (alignedLine rooms (description.lineTexts index)) =
          (rooms.map (· + 1)).sum ∧
        ∀ column < rooms.length, ∃ front back,
          alignedLine rooms (description.lineTexts index) = front ++ ' ' :: back ∧
          (' ' :: (description.lineTexts index).getD column []) <:+ front ∧
          displayWidth front = roomEnd rooms column) ∧
      ∀ column ∈ description.columns, column.summary.count < 2 ^ 53 →
        statisticText (column.summary.values.getD 0 0) =
          digits column.summary.count ++ ".000000".toList := by
  have fits := fits_of_names single narrow
  refine ⟨description.rooms, length_rooms description, fits.pieces_text filled,
    fun index inside => ?_, fun column _ bits => ?_⟩
  · have rooms := fits.forall₂_rooms inside
    exact ⟨displayWidth_alignedLine rooms, fun column inLine => alignedLine_ends rooms inLine⟩
  · exact statisticText_count bits

/-- A column of two values. -/
def shortDescription : Description := ⟨[⟨"größe", .ofValues [1, 2]⟩]⟩

theorem shortDescription_aligned : shortDescription.columns ≠ [] ∧
    (∀ column ∈ shortDescription.columns, '\n' ∉ column.name.toList) ∧
    (∀ column ∈ shortDescription.columns, displayWidth column.name.toList ≤ greatestWidth) ∧
    (pieces shortDescription.text.toList).length = 9 ∧
    statisticText (Float.ofNat 2) = "2.000000".toList := by
  have filled : shortDescription.columns ≠ [] := List.cons_ne_nil _ _
  have single : ∀ column ∈ shortDescription.columns, '\n' ∉ column.name.toList := by
    decide +kernel
  have narrow : ∀ column ∈ shortDescription.columns,
      displayWidth column.name.toList ≤ greatestWidth := by decide +kernel
  obtain ⟨rooms, -, lines, -, counts⟩ := text_aligned shortDescription filled single narrow
  refine ⟨filled, single, narrow, ?_, counts _ List.mem_cons_self (by decide +kernel)⟩
  rw [lines, List.length_map, List.length_range]

section Wide

variable {description : Description}

theorem length_le_printedRow {cells : List TextCell} (member : cells ∈ description.gridColumns)
    (index : Nat) :
    ((cells.getD index ⟨[[]]⟩).wrap (columnWidth cells)).lines.length ≤
      (description.printedRow index).length := by
  apply length_le_rowLines
  rw [gridRow, List.zipWith_map, List.zipWith_self]
  exact List.mem_map_of_mem member

/-- The labels are never wrapped. -/
theorem one_le_printedRow (description : Description) {index : Nat} (inside : index < 9) :
    1 ≤ (description.printedRow index).length := by
  have label : ∀ index < 9, ((labelCells.getD index ⟨[[]]⟩).wrap
      (columnWidth labelCells)).lines.length = 1 := by decide +kernel
  have row := @length_le_printedRow description labelCells List.mem_cons_self index
  rwa [label index inside] at row

/-- A name of single places that is wider than a column may be is wrapped. -/
theorem two_le_printedRow_of_wide {column : ColumnSummary} (member : column ∈ description.columns)
    (narrow : ∀ symbol ∈ column.name.toList, isNarrow symbol = true)
    (unbroken : ' ' ∉ column.name.toList) (wide : greatestWidth < column.name.toList.length) :
    2 ≤ (description.printedRow 0).length := by
  have single : '\n' ∉ column.name.toList :=
    fun feed => absurd (narrow '\n' feed) (by decide)
  have width : columnWidth (summaryCells column) < column.name.toList.length :=
    (Nat.min_le_left _ _).trans_lt wide
  have wrapped := two_le_wrapLine narrow unbroken (Nat.lt_of_le_of_lt (by decide) wide) width
  have row : ((TextCell.ofText column.name.toList).wrap
      (columnWidth (summaryCells column))).lines.length ≤ _ :=
    length_le_printedRow (List.mem_cons_of_mem _ (List.mem_map_of_mem member)) 0
  rw [ofText_of_single single, TextCell.wrap, List.flatMap_singleton] at row
  exact wrapped.trans row

theorem length_pieces_text_of_wide {column : ColumnSummary} (member : column ∈ description.columns)
    (narrow : ∀ symbol ∈ column.name.toList, isNarrow symbol = true)
    (unbroken : ' ' ∉ column.name.toList) (wide : greatestWidth < column.name.toList.length) :
    9 < (pieces description.text.toList).length := by
  have filled : description.columns ≠ [] := List.ne_nil_of_mem member
  have first := two_le_printedRow_of_wide member narrow unbroken wide
  have others : 8 ≤ ((List.range 8).map fun index =>
      (description.printedRow (index + 1)).length).sum := by
    have least := List.length_le_sum_of_one_le ((List.range 8).map fun index =>
      (description.printedRow (index + 1)).length) (by
        intro height inHeights
        obtain ⟨index, inRange, rfl⟩ := List.mem_map.mp inHeights
        have inside : index < 8 := List.mem_range.mp inRange
        exact one_le_printedRow description (by omega))
    rwa [List.length_map, List.length_range] at least
  have lines : description.textLines.length ≤ (pieces description.text.toList).length := by
    rw [text, joinLines, String.toList_ofList]
    exact length_le_pieces_joinPieces description.textLines
  have range : List.range 9 = 0 :: (List.range 8).map (· + 1) := rfl
  refine Nat.lt_of_lt_of_le ?_ lines
  rw [textLines_eq_flatMap filled, range, List.length_flatMap, List.map_cons, List.sum_cons,
    List.map_map]
  exact Nat.add_le_add first others

end Wide

/-- A name that is one place wider than a column may be. -/
def wideDescription : Description :=
  ⟨[⟨.ofList (List.replicate (greatestWidth + 1) 'x'), .ofValues [1]⟩]⟩

/-- The name is cut in two lines. -/
theorem wideDescription_wrapped :
    (∀ column ∈ wideDescription.columns, ∀ symbol ∈ column.name.toList, symbol = 'x') ∧
    (pieces wideDescription.text.toList).length ≠ 9 := by
  have all : ∀ column ∈ wideDescription.columns,
      column.name.toList = List.replicate (greatestWidth + 1) 'x' := by
    intro column member
    rw [List.mem_singleton.mp member, String.toList_ofList]
  have same : ∀ column ∈ wideDescription.columns, ∀ symbol ∈ column.name.toList, symbol = 'x' := by
    intro column member symbol inName
    rw [all column member] at inName
    exact List.eq_of_mem_replicate inName
  refine ⟨same, ne_of_gt ?_⟩
  apply length_pieces_text_of_wide (List.mem_singleton_self _)
  · intro symbol inName
    rw [same _ (List.mem_singleton_self _) symbol inName]
    decide
  · intro blank
    exact absurd (same _ (List.mem_singleton_self _) ' ' blank) (by decide)
  · rw [all _ (List.mem_singleton_self _), List.length_replicate]
    exact Nat.lt_succ_self greatestWidth

end Description

end BenchmarkReport
