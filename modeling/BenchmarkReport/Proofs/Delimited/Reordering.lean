/-
This file shows that the order of records has no part in what they are read as: in whatever order
they stand, they have the same columns with the cells in that order. Lines behind the header serve
to find the types in any order too, as long as all of them serve.
-/

import BenchmarkReport.Proofs.Delimited.ColumnTypes
import BenchmarkReport.Proofs.Delimited.Header
import BenchmarkReport.Proofs.Delimited.Rows

namespace BenchmarkReport

/-- The items at some places, in the order of the places. -/
def rearrange {Item : Type} (order : List Nat) (items : List Item) : List Item :=
  order.filterMap fun place => items[place]?

section Places

variable {Item Other Result : Type} {order : List Nat} {items : List Item}

theorem rearrange_map (order : List Nat) (change : Item → Other) (items : List Item) :
    rearrange order (items.map change) = (rearrange order items).map change := by
  simp [rearrange, List.map_filterMap]

theorem rearrange_zipWith (order : List Nat) (join : Item → Other → Result) {first : List Item}
    {second : List Other} (lengths : first.length = second.length) :
    rearrange order (List.zipWith join first second) =
      List.zipWith join (rearrange order first) (rearrange order second) := by
  induction order with
  | nil => rfl
  | cons place others inductionHypothesis =>
      unfold rearrange at inductionHypothesis ⊢
      by_cases within : place < first.length
      · have withinSecond : place < second.length := lengths ▸ within
        have joined : (List.zipWith join first second)[place]? =
            some (join first[place] second[place]) := by
          rw [List.getElem?_zipWith, List.getElem?_eq_getElem within,
            List.getElem?_eq_getElem withinSecond]
        rw [List.filterMap_cons_some joined,
          List.filterMap_cons_some (List.getElem?_eq_getElem within),
          List.filterMap_cons_some (List.getElem?_eq_getElem withinSecond), inductionHypothesis,
          List.zipWith_cons_cons]
      · have beyond : first.length ≤ place := Nat.le_of_not_lt within
        have beyondSecond : second.length ≤ place := lengths ▸ beyond
        have beyondBoth : (List.zipWith join first second).length ≤ place := by
          rw [List.length_zipWith]
          omega
        rw [List.filterMap_cons_none (List.getElem?_eq_none beyondBoth),
          List.filterMap_cons_none (List.getElem?_eq_none beyond),
          List.filterMap_cons_none (List.getElem?_eq_none beyondSecond), inductionHypothesis]

theorem rearrange_range (items : List Item) :
    rearrange (List.range items.length) items = items := by
  have places : (List.range items.length).map (fun place => items[place]?) =
      items.map some := by
    apply List.ext_getElem?
    intro place
    by_cases within : place < items.length
    · simp [within]
    · simp [Nat.le_of_not_lt within]
  have whole : rearrange (List.range items.length) items =
      ((List.range items.length).map fun place => items[place]?).filterMap id := by
    simp [rearrange, List.filterMap_map]
  rw [whole, places]
  simp [List.filterMap_map]

theorem perm_rearrange (perm : order.Perm (List.range items.length)) :
    (rearrange order items).Perm items := by
  have moved : (rearrange order items).Perm (rearrange (List.range items.length) items) :=
    perm.filterMap _
  rwa [rearrange_range] at moved

end Places

/-- The values at some places. -/
def Values.rearrange (order : List Nat) : Values → Values
  | .integers kind values => .integers kind (BenchmarkReport.rearrange order values)
  | .reals kind values => .reals kind (BenchmarkReport.rearrange order values)
  | .booleans values => .booleans (BenchmarkReport.rearrange order values)
  | .texts values => .texts (BenchmarkReport.rearrange order values)
  | .nulls count => .nulls (BenchmarkReport.rearrange order (List.replicate count ())).length

theorem Values.rearrange_numbers? (order : List Nat) (values : Values) :
    (values.rearrange order).numbers? = values.numbers?.map (BenchmarkReport.rearrange order) := by
  cases values <;> simp [rearrange, numbers?, rearrange_map]

def Column.rearrange (order : List Nat) (column : Column) : Column :=
  { column with values := column.values.rearrange order }

theorem Values.rearrange_type (order : List Nat) (values : Values) :
    (values.rearrange order).type = values.type := by
  cases values <;> rfl

/-- A column that is arranged has the cells at the places. -/
theorem Column.rearrange_cells (order : List Nat) (column : Column) :
    (column.rearrange order).cells = BenchmarkReport.rearrange order column.cells := by
  obtain ⟨name, values⟩ := column
  cases values with
  | nulls count =>
      have nothing : List.replicate count Cell.missing =
          (List.replicate count ()).map fun _ => Cell.missing := by simp
      simp only [Column.rearrange, Values.rearrange, Column.cells, Values.cells, nothing,
        rearrange_map]
      simp
  | _ => simp [Column.rearrange, Values.rearrange, Column.cells, Values.cells, rearrange_map]

namespace Delimited

open Text

section Compression

/-- Each symbol gives at least one byte, so that a part of a text gives as many of its bytes. -/
theorem take_flatMap_take {Item Byte : Type} {bytes : Item → List Byte}
    (filled : ∀ item, bytes item ≠ []) (count : Nat) (items : List Item) :
    ((items.take count).flatMap bytes).take count = (items.flatMap bytes).take count := by
  induction items generalizing count with
  | nil => simp
  | cons item others inductionHypothesis =>
      cases count with
      | zero => simp
      | succ count =>
          have positive : 0 < (bytes item).length := List.length_pos_iff.mpr (filled item)
          have fewer : count + 1 - (bytes item).length ≤ count := by omega
          have rest := congrArg (List.take (count + 1 - (bytes item).length))
            (inductionHypothesis count)
          rw [List.take_take, List.take_take, Nat.min_eq_left fewer] at rest
          rw [List.take_succ_cons, List.flatMap_cons, List.flatMap_cons, List.take_append,
            List.take_append, rest]

/-- A text is taken for compressed data by its first line, and by whether anything follows it. -/
theorem isCompressed_append (line : List Char) {rest other : List Char}
    (same : rest = [] ↔ other = []) :
    isCompressed (line ++ '\n' :: rest) = isCompressed (line ++ '\n' :: other) := by
  have front (text : List Char) : ((text.take 4).flatMap String.utf8EncodeChar).take 4 =
      (text.flatMap String.utf8EncodeChar).take 4 :=
    take_flatMap_take (fun symbol => String.utf8EncodeChar_ne_nil) 4 text
  have ending : String.utf8EncodeChar '\n' = [10] := rfl
  have next (text : List Char) : text = [] ∧ (text.flatMap String.utf8EncodeChar).take 1 = [] ∨
      text ≠ [] ∧ ∃ byte, (text.flatMap String.utf8EncodeChar).take 1 = [byte] := by
    cases text with
    | nil => exact Or.inl ⟨rfl, rfl⟩
    | cons symbol later =>
        obtain ⟨byte, others, shape⟩ :=
          List.exists_cons_of_ne_nil (@String.utf8EncodeChar_ne_nil symbol)
        exact Or.inr ⟨List.cons_ne_nil symbol later, byte, by simp [shape]⟩
  simp only [isCompressed, front, List.flatMap_append, List.flatMap_cons, ending,
    List.singleton_append]
  match line.flatMap String.utf8EncodeChar with
  | [] => simp [compressedStarts, compressedFrame]
  | [first] => simp [compressedStarts, compressedFrame]
  | [first, second] =>
      rcases next rest with ⟨none, empty⟩ | ⟨some, byte, shape⟩
      · rcases next other with ⟨-, otherEmpty⟩ | ⟨otherSome, -⟩
        · simp [empty, otherEmpty]
        · exact absurd (same.mp none) otherSome
      · rcases next other with ⟨otherNone, -⟩ | ⟨-, otherByte, otherShape⟩
        · exact absurd (same.mpr otherNone) some
        · simp [shape, otherShape, compressedFrame]
  | first :: second :: third :: [] => simp
  | first :: second :: third :: fourth :: later => simp

end Compression

section Types

variable {first second : List ElementType} {dialect : Dialect} {before after : List (List Char)}

/-- The order of types does not matter to their join, and neither does their number. -/
theorem joinTypes_congr (same : ∀ type, type ∈ first ↔ type ∈ second) :
    joinTypes first = joinTypes second := by
  cases first with
  | nil =>
      have none : second = [] := List.eq_nil_iff_forall_not_mem.mpr fun type member => by
        simpa using (same type).mpr member
      rw [none]
  | cons type others =>
      have present : second ≠ [] := List.ne_nil_of_mem ((same type).mp List.mem_cons_self)
      by_cases uniform : ∀ other ∈ type :: others, other = type
      · rw [joinTypes_of_all (List.cons_ne_nil type others) uniform,
          joinTypes_of_all present fun other member => uniform other ((same other).mpr member)]
      · obtain ⟨next, later, rfl⟩ := List.exists_cons_of_ne_nil present
        have mixed : others.all (· == type) = false := by
          rw [Bool.eq_false_iff]
          intro all
          refine uniform (List.forall_mem_cons.mpr ⟨rfl, fun other member => ?_⟩)
          exact beq_iff_eq.mp (List.all_eq_true.mp all other member)
        have laterMixed : later.all (· == next) = false := by
          rw [Bool.eq_false_iff]
          intro all
          have equal : ∀ other ∈ next :: later, other = next :=
            List.forall_mem_cons.mpr
              ⟨rfl, fun other member => beq_iff_eq.mp (List.all_eq_true.mp all other member)⟩
          refine uniform fun other member => ?_
          rw [equal other ((same other).mp member),
            equal type ((same type).mp List.mem_cons_self)]
        have numbers : (type :: others).all isNumber = (next :: later).all isNumber := by
          rw [Bool.eq_iff_iff, List.all_eq_true, List.all_eq_true]
          exact forall_congr' fun other => by rw [same other]
        rw [joinTypes, joinTypes, mixed, laterMixed, numbers]
        rfl

/-- Where all lines serve to find the types, their order does not matter. -/
theorem inferTypes_perm (count : Nat) (short : before.length ≤ inferenceLength)
    (shortAfter : after.length ≤ inferenceLength)
    (perm : (before.filter (!dialect.isComment ·)).Perm (after.filter (!dialect.isComment ·))) :
    inferTypes dialect count before = inferTypes dialect count after := by
  unfold inferTypes
  rw [List.take_of_length_le short, List.take_of_length_le shortAfter]
  refine List.map_congr_left fun place _ => joinTypes_congr fun type => ?_
  exact ((perm.map _).filterMap _).mem_iff

theorem schemaOf_perm (header : List Char) (short : before.length ≤ inferenceLength)
    (shortAfter : after.length ≤ inferenceLength)
    (perm : (before.filter (!dialect.isComment ·)).Perm (after.filter (!dialect.isComment ·))) :
    schemaOf dialect header before = schemaOf dialect header after := by
  simp only [schemaOf, inferTypes_perm _ short shortAfter perm]

end Types

section Rows

variable {Input Output Failure : Type} {order : List Nat}

/-- What is read from items in another order is read in that order. -/
theorem mapM_rearrange {read : Input → Except Failure Output} {inputs : List Input}
    {outputs : List Output} (success : inputs.mapM read = .ok outputs) (order : List Nat) :
    (rearrange order inputs).mapM read = .ok (rearrange order outputs) := by
  have each := mapM_eq_ok_iff.mp success
  rw [mapM_eq_ok_iff]
  induction order with
  | nil => exact .nil
  | cons place others inductionHypothesis =>
      unfold rearrange at inductionHypothesis ⊢
      by_cases within : place < inputs.length
      · have withinOutputs : place < outputs.length := each.length_eq ▸ within
        rw [List.filterMap_cons_some (List.getElem?_eq_getElem within),
          List.filterMap_cons_some (List.getElem?_eq_getElem withinOutputs)]
        exact .cons ((List.forall₂_iff_get.mp each).2 place within withinOutputs)
          inductionHypothesis
      · have beyond : inputs.length ≤ place := Nat.le_of_not_lt within
        rw [List.filterMap_cons_none (List.getElem?_eq_none beyond),
          List.filterMap_cons_none (List.getElem?_eq_none (each.length_eq ▸ beyond))]
        exact inductionHypothesis

/-- All of some items are read just when they are in any other order. -/
theorem exists_mapM_perm {read : Input → Except Failure Output} {first second : List Input}
    (perm : first.Perm second) :
    (∃ outputs, first.mapM read = .ok outputs) ↔ ∃ outputs, second.mapM read = .ok outputs := by
  rw [exists_mapM_iff, exists_mapM_iff]
  exact forall_congr' fun input => by rw [perm.mem_iff]

theorem valuesOfCells_rearrange (order : List Nat) (type : ElementType) (cells : List Cell) :
    valuesOfCells type (rearrange order cells) = (valuesOfCells type cells).rearrange order := by
  cases type with
  | null =>
      have marks : List.replicate cells.length () = cells.map fun _ => () := by simp
      simp only [valuesOfCells, Values.rearrange, marks, rearrange_map]
      simp
  | _ => simp [valuesOfCells, Values.rearrange, rearrange_map]

/-- Rows in another order make the columns in that order. -/
theorem columnsOfRows_rearrange (order : List Nat) (schema : List (String × ElementType))
    (rows : List (List Cell)) :
    columnsOfRows schema (rearrange order rows) =
      (columnsOfRows schema rows).map (Column.rearrange order) := by
  simp only [columnsOfRows, List.map_map]
  refine List.map_congr_left fun entry _ => ?_
  simp only [Function.comp_apply, Column.rearrange, ← rearrange_map, valuesOfCells_rearrange]

variable {dialect : Dialect} {later moved : List (List Char)}

/-- Records in another order are read just when they are read as they stand, and they make the
columns in that order. -/
theorem dataColumns_rearrange (schema : List (String × ElementType))
    (perm : order.Perm (List.range (later.filter (!dialect.isComment ·)).length))
    (records : moved.filter (!dialect.isComment ·) =
      rearrange order (later.filter (!dialect.isComment ·))) :
    (∀ columns, dataColumns dialect schema later = .ok columns →
      dataColumns dialect schema moved = .ok (columns.map (Column.rearrange order))) ∧
    ((∃ columns, dataColumns dialect schema moved = .ok columns) →
      ∃ columns, dataColumns dialect schema later = .ok columns) := by
  unfold dataColumns
  rw [records]
  constructor
  · intro columns success
    obtain ⟨rows, read, rfl⟩ := map_eq_ok_iff.mp success
    rw [mapM_rearrange read order, ← columnsOfRows_rearrange]
    rfl
  · rintro ⟨columns, success⟩
    obtain ⟨rows, read, -⟩ := map_eq_ok_iff.mp success
    obtain ⟨originals, original⟩ := (exists_mapM_perm (perm_rearrange perm)).mp ⟨rows, read⟩
    exact ⟨_, map_eq_ok_iff.mpr ⟨originals, original, rfl⟩⟩

end Rows

end Delimited

end BenchmarkReport
