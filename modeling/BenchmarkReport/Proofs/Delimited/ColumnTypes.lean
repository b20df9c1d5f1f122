/-
This file says which type the cells of a column decide together, which type the reader finds for
the column, and that the cells can be read as values of the type that they decide.
-/

import BenchmarkReport.Proofs.Delimited.CellTypes
import Mathlib.Tactic.Push

namespace BenchmarkReport.Delimited

open Text Number

/-- An empty cell is missing. -/
def presentCells (cells : List (List Char)) : List (List Char) :=
  cells.filter (!·.isEmpty)

/-- The type that all cells of a column decide. -/
def columnType (cells : List (List Char)) : ElementType :=
  let present := presentCells cells
  if present = [] then .text
  else if ∀ cell ∈ present, IsWhole cell then .integer .signed64
  else if ∀ cell ∈ present, IsWhole cell ∨ IsDecimal cell then .real .double
  else if ∀ cell ∈ present, IsTruth cell then .boolean
  else .text

/-- The type that the reader finds from some cells of a column. -/
def foundType (cells : List (List Char)) : ElementType :=
  joinTypes ((presentCells cells).map textType)

section Joining

variable {types : List ElementType}

theorem joinTypes_of_all {type : ElementType} (present : types ≠ [])
    (same : ∀ other ∈ types, other = type) : joinTypes types = type := by
  rw [List.eq_replicate_of_mem same]
  cases types with
  | nil => exact absurd rfl present
  | cons first others => exact joinTypes_replicate others.length type

theorem joinTypes_of_numbers (numbers : ∀ type ∈ types, isNumber type = true)
    (mixed : .real .double ∈ types) : joinTypes types = .real .double := by
  cases types with
  | nil => simp at mixed
  | cons first others =>
      rw [joinTypes]
      split
      · rename_i same
        rcases List.mem_cons.mp mixed with front | behind
        · exact front.symm
        · exact (beq_iff_eq.mp (List.all_eq_true.mp same _ behind)).symm
      · rw [if_pos (List.all_eq_true.mpr numbers)]

/-- Types that neither agree nor are all of numbers make text. -/
theorem joinTypes_eq_text (strange : ∃ type ∈ types, isNumber type = false)
    (agree : ∀ type ∈ types, (∀ other ∈ types, other = type) → type = .text) :
    joinTypes types = .text := by
  cases types with
  | nil => rfl
  | cons first others =>
      rw [joinTypes]
      split
      · rename_i same
        apply agree first List.mem_cons_self
        refine List.forall_mem_cons.mpr ⟨rfl, fun other member => ?_⟩
        simpa using List.all_eq_true.mp same other member
      · obtain ⟨type, member, noNumber⟩ := strange
        rw [if_neg]
        intro numbers
        rw [List.all_eq_true.mp numbers type member] at noNumber
        exact Bool.noConfusion noNumber

end Joining

section Deciding

variable {cells : List (List Char)}

theorem isNumber_cellType (cell : List Char) :
    isNumber (cellType cell) = true ↔ IsWhole cell ∨ IsDecimal cell := by
  rw [← cellType_eq_integer_iff, ← cellType_eq_real_iff, cellType]
  split
  · simp [isNumber]
  · split
    · simp [isNumber]
    · split <;> simp [isNumber]

/-- The types of the cells by themselves are joined to the type that the cells decide. -/
theorem joinTypes_cellTypes (cells : List (List Char)) :
    joinTypes ((presentCells cells).map cellType) = columnType cells := by
  unfold columnType
  dsimp only
  generalize presentCells cells = present
  by_cases none : present = []
  · rw [if_pos none, none]
    rfl
  have filled : present.map cellType ≠ [] := by simpa using none
  rw [if_neg none]
  by_cases wholes : ∀ cell ∈ present, IsWhole cell
  · rw [if_pos wholes]
    refine joinTypes_of_all filled (List.forall_mem_map.mpr fun cell member => ?_)
    exact cellType_eq_integer_iff.mpr (wholes cell member)
  rw [if_neg wholes]
  by_cases numbers : ∀ cell ∈ present, IsWhole cell ∨ IsDecimal cell
  · rw [if_pos numbers]
    refine joinTypes_of_numbers (List.forall_mem_map.mpr fun cell member => ?_) ?_
    · exact (isNumber_cellType cell).mpr (numbers cell member)
    · push Not at wholes
      obtain ⟨cell, member, noWhole⟩ := wholes
      refine List.mem_map.mpr ⟨cell, member, ?_⟩
      exact cellType_eq_real_iff.mpr ((numbers cell member).resolve_left noWhole)
  rw [if_neg numbers]
  by_cases truths : ∀ cell ∈ present, IsTruth cell
  · rw [if_pos truths]
    refine joinTypes_of_all filled (List.forall_mem_map.mpr fun cell member => ?_)
    exact cellType_eq_boolean_iff.mpr (truths cell member)
  rw [if_neg truths]
  apply joinTypes_eq_text
  · push Not at numbers
    obtain ⟨cell, member, noNumber⟩ := numbers
    refine ⟨cellType cell, List.mem_map_of_mem member, Bool.eq_false_iff.mpr fun number => ?_⟩
    exact not_or.mpr noNumber ((isNumber_cellType cell).mp number)
  · intro type member same
    have alike : ∀ cell ∈ present, cellType cell = type := List.forall_mem_map.mp same
    obtain ⟨cell, cellMember, rfl⟩ := List.mem_map.mp member
    rcases cellType_cases cell with integer | real | boolean | text
    · refine absurd (fun other otherMember => ?_) wholes
      exact cellType_eq_integer_iff.mp ((alike other otherMember).trans integer)
    · refine absurd (fun other otherMember => Or.inr ?_) numbers
      exact cellType_eq_real_iff.mp ((alike other otherMember).trans real)
    · refine absurd (fun other otherMember => ?_) truths
      exact cellType_eq_boolean_iff.mp ((alike other otherMember).trans boolean)
    · exact text

/-- The reader finds the type that plain cells decide. -/
theorem foundType_of_isPlainCell (plain : ∀ cell ∈ cells, IsPlainCell cell)
    (unquoted : ∀ cell ∈ cells, '"' ∉ cell) : foundType cells = columnType cells := by
  rw [← joinTypes_cellTypes, foundType]
  congr 1
  refine List.map_congr_left fun cell present => ?_
  have member : cell ∈ cells := (List.mem_filter.mp present).1
  exact textType_of_isPlainCell (plain cell member) (unquoted cell member)

/-- Every cell of a column can be read as a value of the type that the column has by all of its
cells, with or without a carriage return behind it. -/
theorem readCell_of_columnType {cell content : List Char} (member : cell ∈ cells)
    (unquoted : '"' ∉ cell) (same : content = cell ∨ content = dropReturn cell)
    (fits : IsWhole cell → ∀ value, readInteger? cell = some value →
      leastInteger ≤ value ∧ value ≤ greatestInteger) :
    ∃ value, readCell .character (columnType cells) content = .ok value := by
  have number (symbols : ∀ symbol ∈ cell, isNumberSymbol symbol = true) : content = cell := by
    rcases same with rfl | rfl
    · rfl
    · exact dropReturn_of_not_mem (not_mem_of_symbols symbols (by decide))
  have content_subset : content ⊆ cell := by
    rcases same with rfl | rfl
    · exact List.Subset.refl _
    · exact dropReturn_subset cell
  by_cases empty : cell = []
  · have nothing : content = [] := by
      rw [empty] at content_subset
      exact List.subset_nil.mp content_subset
    exact ⟨.missing, by rw [nothing, readCell_empty]⟩
  have present : cell ∈ presentCells cells :=
    List.mem_filter.mpr ⟨member, by simpa using empty⟩
  unfold columnType
  dsimp only
  split
  · exact readCell_of_unquoted fun quote => unquoted (content_subset quote)
  split
  · rename_i wholes
    have isWhole := wholes cell present
    obtain ⟨value, read⟩ := readInteger?_of_isWhole isWhole
    obtain ⟨least, greatest⟩ := fits isWhole value read
    rw [number isWhole.symbols]
    exact ⟨.integer value, readCell_of_isWhole isWhole read least greatest _⟩
  split
  · rename_i numbers
    have isReal := numbers cell present
    rw [number (isReal.elim IsWhole.symbols IsDecimal.symbols)]
    exact readCell_of_isReal isReal _
  split
  · rename_i truths
    have truth := truths cell present
    have unchanged : content = cell := by
      rcases truth with rfl | rfl <;> rcases same with rfl | rfl <;> rfl
    rw [unchanged]
    exact readCell_of_isTruth truth
  · exact readCell_of_unquoted fun quote => unquoted (content_subset quote)

end Deciding

end BenchmarkReport.Delimited
