/-
This file says which lines are cut off whole by either rule, so that it makes no difference where
the blocks of their text end. Plain lines are: they have no line feed of their own, and quotation
marks only where they are comments.
-/

import BenchmarkReport.Delimited.Block
import BenchmarkReport.Delimited.Record
import BenchmarkReport.Proofs.Delimited.Symbols
import Mathlib.Logic.Function.Iterate

namespace BenchmarkReport.Delimited

open Text

section Machines

variable {State : Type} (machine : LineMachine State)

/-- The state behind a text in which no line ends. -/
def LineMachine.pass? : State → List Char → Option State
  | state, [] => some state
  | state, symbol :: rest =>
    if symbol = '\n' && !machine.keepsLineFeed state then none
    else LineMachine.pass? (machine.next state symbol) rest

theorem LineMachine.pass?_cons {symbol : Char} (different : symbol ≠ '\n') (state : State)
    (rest : List Char) :
    machine.pass? state (symbol :: rest) = machine.pass? (machine.next state symbol) rest := by
  rw [LineMachine.pass?, if_neg (by simp [different])]

theorem LineMachine.pass?_append (state : State) (first second : List Char) :
    machine.pass? state (first ++ second) =
      (machine.pass? state first).bind fun middle => machine.pass? middle second := by
  induction first generalizing state with
  | nil => rfl
  | cons symbol rest inductionHypothesis =>
      rw [List.cons_append, LineMachine.pass?, LineMachine.pass?]
      split
      · rfl
      · exact inductionHypothesis (machine.next state symbol)

/-- A text in which no line ends is cut off whole by the line feed behind it. -/
theorem LineMachine.cutFrom_of_pass? {line : List Char} {state final : State}
    (passed : machine.pass? state line = some final)
    (ends : machine.keepsLineFeed final = false) (rest : List Char) :
    machine.cutFrom state (line ++ '\n' :: rest) = line :: machine.cut rest := by
  induction line generalizing state with
  | nil =>
      obtain rfl := Option.some.inj passed
      simp [LineMachine.cutFrom, ends, LineMachine.cut]
  | cons symbol later inductionHypothesis =>
      rw [LineMachine.pass?] at passed
      split at passed
      · simp at passed
      · rename_i inLine
        rw [List.cons_append, LineMachine.cutFrom, if_neg inLine, inductionHypothesis passed]
        rfl

/-- A line whose symbols keep a machine among states that end at a line feed is cut off whole. -/
theorem LineMachine.cutFrom_line (calm : State → Prop) {line : List Char}
    (ends : ∀ state, calm state → machine.keepsLineFeed state = false)
    (stays : ∀ symbol ∈ line, ∀ state, calm state → calm (machine.next state symbol))
    (single : '\n' ∉ line) {state : State} (started : calm state) (rest : List Char) :
    machine.cutFrom state (line ++ '\n' :: rest) = line :: machine.cut rest := by
  have passes {line : List Char} {state : State}
      (stays : ∀ symbol ∈ line, ∀ state, calm state → calm (machine.next state symbol))
      (single : '\n' ∉ line) (started : calm state) :
      ∃ final, machine.pass? state line = some final ∧ calm final := by
    induction line generalizing state with
    | nil => exact ⟨state, rfl, started⟩
    | cons symbol later inductionHypothesis =>
        have different : symbol ≠ '\n' := fun same => single (by simp [same])
        rw [machine.pass?_cons different]
        exact inductionHypothesis
          (fun other member => stays other (List.mem_cons_of_mem symbol member))
          (fun member => single (List.mem_cons_of_mem symbol member))
          (stays symbol List.mem_cons_self state started)
  obtain ⟨final, passed, calmFinal⟩ := passes stays single started
  exact machine.cutFrom_of_pass? passed (ends final calmFinal) rest

/-- A machine that cuts off each of some lines cuts the text of all of them. -/
theorem LineMachine.cut_unlines {lines : List (List Char)}
    (cuts : ∀ line ∈ lines, ∀ rest, machine.cut (line ++ '\n' :: rest) = line :: machine.cut rest) :
    machine.cut (unlines lines) = lines ++ [[]] := by
  induction lines with
  | nil => rfl
  | cons line others inductionHypothesis =>
      rw [unlines_cons, cuts line List.mem_cons_self, inductionHypothesis]
      · rfl
      · exact fun other member => cuts other (List.mem_cons_of_mem line member)

end Machines

/-- A line without a line feed, in which quotation marks mean nothing. -/
structure IsPlainLine (dialect : Dialect) (line : List Char) : Prop where
  single : '\n' ∉ line
  unquoted : '"' ∉ line ∨ dialect.isComment line = true

section PlainLines

variable {dialect : Dialect} {line : List Char}

theorem LineState.next_ne_inside {state : LineState} {symbol : Char} (unquoted : symbol ≠ '"')
    (outside : state ≠ .inside) : state.next symbol ≠ .inside := by
  cases state <;> simp_all [LineState.next]

theorem FieldState.next_ne_inside {state : FieldState} {separator symbol : Char}
    (unquoted : symbol ≠ '"') (outside : state ≠ .inside) :
    state.next separator symbol ≠ .inside := by
  cases state <;> simp_all [FieldState.next] <;> split <;> simp

theorem RecordState.next_ne_inside {state : RecordState} {separator symbol : Char}
    (unquoted : symbol ≠ '"') (outside : state ≠ .field .inside) :
    state.next separator symbol ≠ .field .inside := by
  cases state with
  | comment => simp [RecordState.next]
  | field state =>
      have calm : state ≠ .inside := fun same => outside (by rw [same])
      have next : state.next separator symbol ≠ .inside :=
        FieldState.next_ne_inside unquoted calm
      simpa [RecordState.next] using next

/-- A plain line is cut off by a machine that keeps line feeds only inside quotes, and that nothing
but a quotation mark outside comments brings there. -/
theorem IsPlainLine.cut {State : Type} (plain : IsPlainLine dialect line)
    (machine : LineMachine State) (comment inside : State)
    (ends : ∀ state, state ≠ inside → machine.keepsLineFeed state = false)
    (stays : ∀ symbol, symbol ≠ '"' → ∀ state, state ≠ inside →
      machine.next state symbol ≠ inside)
    (comments : ∀ symbol, machine.next comment symbol = comment) (apart : comment ≠ inside)
    (starts : ∀ text, machine.start text ≠ inside)
    (marks : ∀ text, dialect.isComment text = true → machine.start text = comment)
    (rest : List Char) : machine.cut (line ++ '\n' :: rest) = line :: machine.cut rest := by
  rcases plain.unquoted with unquoted | isComment
  · refine machine.cutFrom_line (· ≠ inside) ends ?_ plain.single (starts _) rest
    intro symbol member state calm
    exact stays symbol (fun same => unquoted (same ▸ member)) state calm
  · refine machine.cutFrom_line (· = comment) ?_ ?_ plain.single ?_ rest
    · rintro state rfl
      exact ends state apart
    · rintro symbol - state rfl
      exact comments symbol
    · exact marks _ (Dialect.isComment_append isComment _)

/-- The simpler rule cuts off a plain line. -/
theorem IsPlainLine.lineMachine_cut (plain : IsPlainLine dialect line) (rest : List Char) :
    (lineMachine dialect).cut (line ++ '\n' :: rest) =
      line :: (lineMachine dialect).cut rest := by
  refine plain.cut (lineMachine dialect) .comment .inside ?_ ?_ (fun _ => rfl) (by simp) ?_ ?_ rest
  · intro state calm
    simpa [lineMachine] using calm
  · intro symbol unquoted state calm
    exact LineState.next_ne_inside unquoted calm
  · intro text
    simp only [lineMachine]
    split <;> simp
  · intro text isComment
    simp [lineMachine, isComment]

/-- The rule for records cuts off a plain line. -/
theorem IsPlainLine.recordMachine_cut (plain : IsPlainLine dialect line) (rest : List Char) :
    (recordMachine dialect).cut (line ++ '\n' :: rest) =
      line :: (recordMachine dialect).cut rest := by
  refine plain.cut (recordMachine dialect) .comment (.field .inside) ?_ ?_ (fun _ => rfl) (by simp)
    ?_ ?_ rest
  · intro state calm
    simpa [recordMachine] using calm
  · intro symbol unquoted state calm
    exact RecordState.next_ne_inside unquoted calm
  · intro text
    simp only [recordMachine]
    split <;> simp
  · intro text isComment
    simp [recordMachine, isComment]

end PlainLines

/-- Quotation marks come in pairs here, and line feeds stand only within a pair. -/
structure IsClosed (line : List Char) : Prop where
  pairs : line.count '"' % 2 = 0
  within : ∀ front back, line = front ++ '\n' :: back → front.count '"' % 2 = 1

section Closing

variable {dialect : Dialect} {line : List Char}

theorem LineState.next_of_ne {symbol : Char} (other : symbol ≠ '"') (state : LineState) :
    state.next symbol = state := by
  cases state with
  | comment => rfl
  | outside => exact if_neg other
  | inside => exact if_neg other

/-- Nothing but quotation marks moves the machine of lines. -/
theorem eq_iterate_of_pass? {state final : LineState}
    (passed : (lineMachine dialect).pass? state line = some final) :
    final = (LineState.next · '"')^[line.count '"'] state := by
  induction line generalizing state with
  | nil => exact (Option.some.inj passed).symm
  | cons symbol rest inductionHypothesis =>
      have behind : (lineMachine dialect).pass? (state.next symbol) rest = some final := by
        rw [LineMachine.pass?] at passed
        split at passed
        · simp at passed
        · exact passed
      rw [inductionHypothesis behind]
      by_cases quote : symbol = '"'
      · rw [quote, List.count_cons_self, Function.iterate_succ_apply]
      · rw [LineState.next_of_ne quote, List.count_cons_of_ne quote]

theorem iterate_next_outside (count : Nat) :
    (LineState.next · '"')^[count] .outside = if count % 2 = 0 then .outside else .inside := by
  induction count with
  | zero => rfl
  | succ count inductionHypothesis =>
      rw [Function.iterate_succ_apply', inductionHypothesis]
      rcases Nat.mod_two_eq_zero_or_one count with even | odd
      · rw [if_pos even, if_neg (by omega)]
        rfl
      · rw [if_neg (by omega), if_pos (by omega)]
        rfl

/-- A line that the machine leaves as it came has its quotation marks in pairs. -/
theorem isClosed_of_pass? (passed : (lineMachine dialect).pass? .outside line = some .outside) :
    IsClosed line where
  pairs := by
    have final := eq_iterate_of_pass? passed
    rw [iterate_next_outside] at final
    split at final
    · assumption
    · simp at final
  within := by
    rintro front back rfl
    rw [LineMachine.pass?_append] at passed
    obtain ⟨middle, before, behind⟩ := Option.bind_eq_some_iff.mp passed
    have state := eq_iterate_of_pass? before
    rw [iterate_next_outside] at state
    split at state
    · rw [state] at behind
      simp [LineMachine.pass?, lineMachine] at behind
    · omega

end Closing

/-- Lines that both rules cut off whole, in a text whose blocks end between them. -/
structure AreWhole (dialect : Dialect) (lines : List (List Char)) : Prop where
  lineCut : ∀ line ∈ lines, ∀ rest, (lineMachine dialect).cut (line ++ '\n' :: rest) =
    line :: (lineMachine dialect).cut rest
  recordCut : ∀ line ∈ lines, ∀ rest, (recordMachine dialect).cut (line ++ '\n' :: rest) =
    line :: (recordMachine dialect).cut rest
  ends : (∀ line ∈ lines, '\n' ∉ line) ∨ ∀ line ∈ lines, IsClosed line

section WholeTexts

variable {dialect : Dialect} {lines : List (List Char)}

theorem areWhole_of_plain (plain : ∀ line ∈ lines, IsPlainLine dialect line) :
    AreWhole dialect lines where
  lineCut := fun line member => (plain line member).lineMachine_cut
  recordCut := fun line member => (plain line member).recordMachine_cut
  ends := Or.inl fun line member => (plain line member).single

theorem AreWhole.of_subset (whole : AreWhole dialect lines) {others : List (List Char)}
    (within : others ⊆ lines) : AreWhole dialect others where
  lineCut := fun line member => whole.lineCut line (within member)
  recordCut := fun line member => whole.recordCut line (within member)
  ends := whole.ends.imp (fun single line member => single line (within member))
    fun closed line member => closed line (within member)

theorem completeLines_append_nil (lines : List (List Char)) :
    completeLines (lines ++ [[]]) = lines := by
  induction lines with
  | nil => rfl
  | cons line others inductionHypothesis =>
      rw [List.cons_append, completeLines, inductionHypothesis]
      simp

theorem joinPieces_append_nil (lines : List (List Char)) :
    joinPieces (lines ++ [[]]) = unlines lines := by
  induction lines with
  | nil => rfl
  | cons line others inductionHypothesis =>
      rw [List.cons_append, joinPieces, inductionHypothesis, unlines_cons]
      simp

theorem logicalPieces_unlines (whole : AreWhole dialect lines) :
    logicalPieces dialect (unlines lines) = lines ++ [[]] :=
  (lineMachine dialect).cut_unlines whole.lineCut

/-- The records of whole lines are the lines that are no comments. -/
theorem records_unlines (whole : AreWhole dialect lines) :
    records dialect (unlines lines) = lines.filter (!dialect.isComment ·) := by
  unfold records
  rw [(recordMachine dialect).cut_unlines whole.recordCut, completeLines_append_nil]

/-- A reach that is not empty ends with a line feed outside quotes. -/
theorem exists_take_reach {kind : SymbolKind} {inside : Bool} {limit : Nat} {text : List Char}
    (positive : 0 < reach kind inside limit text) :
    ∃ front, text.take (reach kind inside limit text) = front ++ ['\n'] ∧
      (front.count '"' % 2 == 1) = inside := by
  fun_induction reach kind inside limit text with
  | case1 => simp at positive
  | case2 => simp at positive
  | case3 inside limit symbol rest limited later longer inductionHypothesis =>
      obtain ⟨front, same, parity⟩ := inductionHypothesis longer
      refine ⟨symbol :: front, by rw [List.take_succ_cons, same, List.cons_append], ?_⟩
      rw [Bool.eq_iff_iff, beq_iff_eq] at parity ⊢
      rw [List.count_cons]
      by_cases quote : symbol = '"'
      · cases inside <;> simp [quote] at parity ⊢ <;> omega
      · cases inside <;> simp [quote] at parity ⊢ <;> omega
  | case4 inside limit symbol rest limited later shorter ends =>
      have lineFeed : symbol = '\n' := by simp_all
      exact ⟨[], by simp [lineFeed], by simp_all⟩
  | case5 => simp at positive

/-- A line feed outside quotes ends a line. -/
theorem AreWhole.exists_of_unlines_eq_append (whole : AreWhole dialect lines)
    {front back : List Char} (same : unlines lines = front ++ '\n' :: back)
    (outside : front.count '"' % 2 = 0) :
    ∃ first second, lines = first ++ second ∧ front ++ ['\n'] = unlines first ∧
      back = unlines second := by
  rcases whole.ends with single | closed
  · apply @Text.exists_of_unlines_eq_append lines (fun _ => True) _ _ front back same trivial
    · rintro line member start rest rfl
      exact absurd (by simp) (single _ member)
    · exact fun _ _ _ _ => trivial
  · apply @Text.exists_of_unlines_eq_append lines (fun start => start.count '"' % 2 = 0) _ _ front
      back same outside
    · intro line member start rest shape even
      have odd := (closed line member).within start rest shape
      omega
    · intro line member start even
      have pairs := (closed line member).pairs
      rw [List.count_append, List.count_cons_of_ne (by decide)] at even
      omega

/-- Blocks of whole lines end between lines, so that their records are those of the whole text. -/
theorem flatMap_records_blocksWithin (kind : SymbolKind) (limit : Nat)
    (whole : AreWhole dialect lines) :
    (blocksWithin kind limit (unlines lines)).flatMap (records dialect) =
      lines.filter (!dialect.isComment ·) := by
  generalize written : unlines lines = text
  fun_induction blocksWithin kind limit text generalizing lines with
  | case1 limit text empty =>
      have none : lines = [] := unlines_eq_nil_iff.mp (by rw [written]; simpa using empty)
      simp [none]
  | case2 limit text filled all =>
      rw [List.flatMap_singleton, ← written, records_unlines whole]
  | case3 limit text filled part inductionHypothesis =>
      obtain ⟨front, taken, outside⟩ : ∃ front,
          text.take (blockLength kind limit text) = front ++ ['\n'] ∧
            (front.count '"' % 2 == 1) = false :=
        exists_take_reach (Nat.pos_of_ne_zero part)
      have cut : unlines lines = front ++ '\n' :: text.drop (blockLength kind limit text) := by
        calc unlines lines = text := written
          _ = text.take (blockLength kind limit text) ++ text.drop (blockLength kind limit text) :=
            (List.take_append_drop _ text).symm
          _ = front ++ '\n' :: text.drop (blockLength kind limit text) := by simp [taken]
      have even : front.count '"' % 2 = 0 := by
        have notOdd : front.count '"' % 2 ≠ 1 := by simpa using outside
        omega
      obtain ⟨first, second, split, frontSame, backSame⟩ :=
        whole.exists_of_unlines_eq_append cut even
      have firstWhole : AreWhole dialect first :=
        whole.of_subset (split ▸ List.subset_append_left first second)
      have secondWhole : AreWhole dialect second :=
        whole.of_subset (split ▸ List.subset_append_right first second)
      rw [List.flatMap_cons, taken, frontSame, records_unlines firstWhole,
        inductionHypothesis secondWhole backSame.symm, split, List.filter_append]

theorem flatMap_records_blocks (kind : SymbolKind) (whole : AreWhole dialect lines) :
    (blocks kind (unlines lines)).flatMap (records dialect) =
      lines.filter (!dialect.isComment ·) :=
  flatMap_records_blocksWithin kind blockLimit whole

end WholeTexts

end BenchmarkReport.Delimited
