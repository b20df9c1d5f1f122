/-
This file writes texts as quoted fields, in which any symbol can stand, and shows which columns
lines of such fields are read as and what is left of the lines when they are filtered.
-/

import BenchmarkReport.Proofs.Delimited.ColumnTypes
import BenchmarkReport.Proofs.Delimited.Settling
import BenchmarkReport.Proofs.Delimited.UniformLines

namespace BenchmarkReport.Delimited

open Text

/-- A text between quotation marks, with those of its own written twice. -/
def quotedField (cell : String) : List Char :=
  '"' :: (escape cell.toList ++ ['"'])

def quotedLine (row : List String) : List Char :=
  fieldLine (row.map quotedField)

/-- What is left of a text when its lines are filtered. -/
def settled (cell : String) : String :=
  .ofList (settle cell.toList)

/-- The columns of rows of texts. -/
def textColumns (names : List String) (rows : List (List String)) : List Column :=
  names.zipIdx.map fun (name, place) => ⟨name, .texts (rows.map fun row => row[place]?)⟩

section Escaping

variable {cell : List Char}

theorem escape_append (first second : List Char) :
    escape (first ++ second) = escape first ++ escape second := by
  induction first with
  | nil => rfl
  | cons symbol rest inductionHypothesis =>
      by_cases quote : symbol = '"' <;> simp [escape, quote, inductionHypothesis]

theorem escape_of_not_mem (absent : '"' ∉ cell) : escape cell = cell := by
  induction cell with
  | nil => rfl
  | cons symbol rest inductionHypothesis =>
      have different : symbol ≠ '"' := fun same => absent (by simp [same])
      rw [escape, if_neg different, inductionHypothesis]
      exact fun member => absent (List.mem_cons_of_mem symbol member)

/-- A text is plain up to its first quotation mark. -/
theorem escape_append_quote {front : List Char} (absent : '"' ∉ front) (back : List Char) :
    escape (front ++ '"' :: back) = front ++ '"' :: '"' :: escape back := by
  rw [escape_append, escape_of_not_mem absent]
  rfl

/-- The text inside quotes looks like the text itself. -/
theorem textType_escape (cell : List Char) : textType (escape cell) = textType cell := by
  by_cases quoted : '"' ∈ cell
  · obtain ⟨front, back, rfl, absent⟩ := List.eq_append_cons_of_mem quoted
    have written : '"' ∈ escape (front ++ '"' :: back) := by
      rw [escape_append_quote absent]
      simp
    rw [textType_of_isWorded (isWorded_of_mem written (by decide)),
      textType_of_isWorded (isWorded_of_mem quoted (by decide))]
  · rw [escape_of_not_mem quoted]

end Escaping

section Settled

variable {row : List String}

theorem isBlank_quote : isBlank '"' = false := by decide

theorem isBlank_comma : isBlank ',' = false := by decide

/-- Quotation marks are no line ends, so it makes no difference when they are doubled. The induction
is on the number of symbols, from one quotation mark to the next. -/
theorem settle_escape (cell : List Char) : settle (escape cell) = escape (settle cell) := by
  generalize size : cell.length = count
  induction count using Nat.strongRecOn generalizing cell with
  | ind count inductionHypothesis =>
      by_cases quoted : '"' ∈ cell
      · obtain ⟨front, back, rfl, absent⟩ := List.eq_append_cons_of_mem quoted
        have shorter : back.length < count := by
          rw [← size, List.length_append, List.length_cons]
          omega
        have behind : settle (escape back) = escape (settle back) :=
          inductionHypothesis back.length shorter back rfl
        have settledAbsent : '"' ∉ settle front := not_mem_settle absent (by decide)
        calc settle (escape (front ++ '"' :: back))
            = settle (front ++ '"' :: '"' :: escape back) := by rw [escape_append_quote absent]
          _ = settle front ++ '"' :: '"' :: settle (escape back) := by
              rw [settle_append_cons isBlank_quote, settle_cons isBlank_quote]
          _ = settle front ++ '"' :: '"' :: escape (settle back) := by rw [behind]
          _ = escape (settle (front ++ '"' :: back)) := by
              rw [settle_append_cons isBlank_quote, escape_append_quote settledAbsent]
      · rw [escape_of_not_mem quoted, escape_of_not_mem (not_mem_settle quoted (by decide))]

theorem settle_quotedField (cell : String) :
    settle (quotedField cell) = quotedField (settled cell) := by
  rw [quotedField, settle_cons isBlank_quote, settle_concat isBlank_quote, settle_escape,
    quotedField, settled, String.toList_ofList]

theorem settle_fieldLine (fields : List (List Char)) :
    settle (fieldLine fields) = fieldLine (fields.map settle) := by
  induction fields with
  | nil => rfl
  | cons field others inductionHypothesis =>
      cases others with
      | nil => rw [fieldLine_singleton, List.map_singleton, fieldLine_singleton]
      | cons next later =>
          rw [fieldLine_cons field (by simp), settle_append_cons isBlank_comma, inductionHypothesis]
          exact (fieldLine_cons (settle field) (by simp)).symm

/-- Of a line as much is left as of its cells. -/
theorem settle_quotedLine (row : List String) :
    settle (quotedLine row) = quotedLine (row.map settled) := by
  rw [quotedLine, settle_fieldLine, List.map_map, quotedLine, List.map_map]
  congr 1
  apply List.map_congr_left
  intro cell _
  exact settle_quotedField cell

theorem settled_eq_iff (cell : String) : settled cell = cell ↔ Survives cell.toList := by
  rw [← settle_eq_iff, settled, ← String.toList_inj, String.toList_ofList]

/-- A cell of several lines has several lines left. -/
theorem isWorded_settle {cell : List Char} (worded : IsWorded cell) : IsWorded (settle cell) := by
  by_cases several : '\n' ∈ cell
  · exact isWorded_of_mem (lineFeed_mem_settle several) (by decide)
  · rw [settle_of_single several]
    exact worded

/-- A line of fields starts and ends with a quotation mark. -/
theorem exists_quotedLine (present : row ≠ []) :
    ∃ middle, quotedLine row = '"' :: middle ++ ['"'] := by
  induction row with
  | nil => exact absurd rfl present
  | cons cell others inductionHypothesis =>
      cases others with
      | nil => exact ⟨escape cell.toList, fieldLine_singleton (quotedField cell)⟩
      | cons next later =>
          obtain ⟨middle, shape⟩ := inductionHypothesis (List.cons_ne_nil next later)
          refine ⟨escape cell.toList ++ '"' :: ',' :: '"' :: middle, ?_⟩
          have behind : fieldLine ((next :: later).map quotedField) = '"' :: middle ++ ['"'] :=
            shape
          rw [quotedLine, List.map_cons, fieldLine_cons _ (by simp), behind, quotedField]
          simp

end Settled

section Machines

variable {State : Type} {machine : LineMachine State} {start outside inside : State}

/-- A machine that knows whether a symbol is inside the quotes of a field, behind them or at the
start of the next field. -/
structure Quotes (machine : LineMachine State) (start outside inside : State) : Prop where
  opens : machine.next start '"' = inside
  reopens : machine.next outside '"' = inside
  closes : machine.next inside '"' = outside
  stays : ∀ symbol, symbol ≠ '"' → machine.next inside symbol = inside
  separates : machine.next outside ',' = start
  keeps : machine.keepsLineFeed inside = true
  ends : machine.keepsLineFeed outside = false

theorem Quotes.pass?_escape (quotes : Quotes machine start outside inside) (cell : List Char) :
    machine.pass? inside (escape cell) = some inside := by
  induction cell with
  | nil => rfl
  | cons symbol rest inductionHypothesis =>
      by_cases quote : symbol = '"'
      · rw [escape, if_pos quote, machine.pass?_cons (by decide), quotes.closes,
          machine.pass?_cons (by decide), quotes.reopens]
        exact inductionHypothesis
      · rw [escape, if_neg quote, LineMachine.pass?, if_neg (by simp [quotes.keeps]),
          quotes.stays symbol quote]
        exact inductionHypothesis

theorem Quotes.pass?_quotedField (quotes : Quotes machine start outside inside) (cell : String) :
    machine.pass? start (quotedField cell) = some outside := by
  rw [quotedField, machine.pass?_cons (by decide), quotes.opens, machine.pass?_append,
    quotes.pass?_escape, Option.bind_some, machine.pass?_cons (by decide), quotes.closes]
  rfl

/-- No line ends in a line of quoted fields. -/
theorem Quotes.pass?_quotedLine (quotes : Quotes machine start outside inside) {row : List String}
    (present : row ≠ []) : machine.pass? start (quotedLine row) = some outside := by
  unfold quotedLine
  induction row with
  | nil => exact absurd rfl present
  | cons cell others inductionHypothesis =>
      cases others with
      | nil =>
          rw [List.map_singleton, fieldLine_singleton]
          exact quotes.pass?_quotedField cell
      | cons next later =>
          rw [List.map_cons, fieldLine_cons _ (by simp), machine.pass?_append,
            quotes.pass?_quotedField, Option.bind_some, machine.pass?_cons (by decide),
            quotes.separates]
          exact inductionHypothesis (List.cons_ne_nil next later)

theorem Quotes.cut_quotedLine (quotes : Quotes machine start outside inside) {row : List String}
    (present : row ≠ []) (started : ∀ text, machine.start (quotedLine row ++ text) = start)
    (rest : List Char) :
    machine.cut (quotedLine row ++ '\n' :: rest) = quotedLine row :: machine.cut rest := by
  rw [LineMachine.cut, started]
  exact machine.cutFrom_of_pass? (quotes.pass?_quotedLine present) quotes.ends rest

theorem quotes_lineMachine (dialect : Dialect) :
    Quotes (lineMachine dialect) .outside .outside .inside where
  opens := rfl
  reopens := rfl
  closes := rfl
  stays := fun _ other => if_neg other
  separates := rfl
  keeps := rfl
  ends := rfl

theorem quotes_recordMachine :
    Quotes (recordMachine {}) (.field .start) (.field .outside) (.field .inside) where
  opens := rfl
  reopens := rfl
  closes := rfl
  stays := fun _ other => congrArg RecordState.field (if_neg other)
  separates := rfl
  keeps := rfl
  ends := rfl

end Machines

section Fields

theorem foldr_joinFirst (front next : List Char) (later : List (List Char)) :
    front.foldr joinFirst (next :: later) = (front ++ next) :: later := by
  induction front with
  | nil => rfl
  | cons symbol rest inductionHypothesis =>
      rw [List.foldr_cons, inductionHypothesis]
      rfl

/-- Doubled quotation marks end no field. -/
theorem fieldsFrom_escape (cell rest : List Char) :
    fieldsFrom ',' .inside (escape cell ++ rest) =
      (escape cell).foldr joinFirst (fieldsFrom ',' .inside rest) := by
  induction cell with
  | nil => rfl
  | cons symbol others inductionHypothesis =>
      by_cases quote : symbol = '"'
      · rw [escape, if_pos quote, List.foldr_cons, List.foldr_cons, ← inductionHypothesis]
        rfl
      · have stays : FieldState.next ',' .inside symbol = .inside := if_neg quote
        rw [escape, if_neg quote, List.foldr_cons, ← inductionHypothesis, List.cons_append,
          fieldsFrom, if_neg (by simp), stays]
        rfl

theorem fieldsFrom_quotedField (cell : String) {rest next : List Char} {later : List (List Char)}
    (behind : fieldsFrom ',' .outside rest = next :: later) :
    fieldsFrom ',' .start (quotedField cell ++ rest) = (quotedField cell ++ next) :: later := by
  have closed : fieldsFrom ',' .inside ('"' :: rest) = ('"' :: next) :: later := by
    have step : fieldsFrom ',' .inside ('"' :: rest) =
        joinFirst '"' (fieldsFrom ',' .outside rest) := rfl
    rw [step, behind]
    rfl
  have opened : fieldsFrom ',' .start (quotedField cell ++ rest) =
      joinFirst '"' (fieldsFrom ',' .inside (escape cell.toList ++ '"' :: rest)) := by
    rw [quotedField, List.cons_append, List.append_assoc]
    rfl
  rw [opened, fieldsFrom_escape, closed, foldr_joinFirst, quotedField]
  simp [joinFirst]

/-- The fields of a line are those that it was written from. -/
theorem fields_quotedLine {row : List String} (present : row ≠ []) :
    fields ',' (quotedLine row) = row.map quotedField := by
  unfold fields quotedLine
  induction row with
  | nil => exact absurd rfl present
  | cons cell others inductionHypothesis =>
      cases others with
      | nil =>
          have alone := @fieldsFrom_quotedField cell [] [] [] rfl
          rw [List.append_nil] at alone
          rw [List.map_singleton, fieldLine_singleton, alone]
      | cons next later =>
          have behind :
              fieldsFrom ',' .outside (',' :: fieldLine ((next :: later).map quotedField)) =
                [] :: (next :: later).map quotedField :=
            congrArg ([] :: ·) (inductionHypothesis (List.cons_ne_nil next later))
          rw [List.map_cons, fieldLine_cons _ (by simp), fieldsFrom_quotedField cell behind,
            List.append_nil]

end Fields

section Lines

variable {row : List String}

/-- The marker of comments is no quotation mark. -/
theorem isComment_quotedLine (present : row ≠ []) (rest : List Char) :
    Dialect.isComment {} (quotedLine row ++ rest) = false := by
  obtain ⟨middle, shape⟩ := exists_quotedLine present
  rw [Dialect.isComment_eq_startsWith (by decide), shape]
  rfl

/-- Lines of quoted fields are whole under a header without line feeds and quotation marks. -/
theorem areWhole_quotedLines {header : List Char} {rows : List (List String)}
    (single : '\n' ∉ header) (unquoted : '"' ∉ header) (present : ∀ row ∈ rows, row ≠ []) :
    AreWhole {} (header :: rows.map quotedLine) := by
  have plain : IsPlainLine {} header := ⟨single, Or.inl unquoted⟩
  refine ⟨?_, ?_, Or.inr ?_⟩
  · refine List.forall_mem_cons.mpr ⟨plain.lineMachine_cut, List.forall_mem_map.mpr ?_⟩
    intro row member
    apply (quotes_lineMachine {}).cut_quotedLine (present row member)
    exact fun rest => if_neg (by simp [isComment_quotedLine (present row member)])
  · refine List.forall_mem_cons.mpr ⟨plain.recordMachine_cut, List.forall_mem_map.mpr ?_⟩
    intro row member
    apply quotes_recordMachine.cut_quotedLine (present row member)
    exact fun rest => if_neg (by simp [isComment_quotedLine (present row member)])
  · refine List.forall_mem_cons.mpr ⟨⟨?_, ?_⟩, List.forall_mem_map.mpr ?_⟩
    · rw [List.count_eq_zero.mpr unquoted]
    · rintro front back rfl
      exact absurd (by simp) single
    · intro row member
      exact isClosed_of_pass? ((quotes_lineMachine {}).pass?_quotedLine (present row member))

end Lines

section Cells

variable {row : List String} {names : List String} {rows : List (List String)}

theorem dropReturn_quotedField (cell : String) :
    dropReturn (quotedField cell) = quotedField cell := by
  apply dropReturn_eq_iff.mpr
  simp [quotedField, List.getLast?_cons]

/-- A quoted text is read back. -/
theorem readCell_quotedField (cell : String) :
    readCell .character .text (quotedField cell) = .ok (.text cell) := by
  have last : (quotedField cell).getLast? = some '"' := by simp [quotedField, List.getLast?_cons]
  have long : 2 ≤ (quotedField cell).length := by simp [quotedField]
  have inside : (quotedField cell).tail.dropLast = escape cell.toList := by simp [quotedField]
  have read : readText .character (quotedField cell) = .ok (.text cell) := by
    have quoted : isQuoted (quotedField cell) = true := rfl
    rw [readText, quoted, last, inside, unescape_escape]
    simp [long, textCell, SymbolKind.fault?, SymbolKind.decode]
  exact read

theorem fieldType_quotedField (cell : String) :
    fieldType .character (quotedField cell) = textType cell.toList := by
  have inside : SymbolKind.decodeInside .character (quotedField cell) = escape cell.toList := by
    simp [SymbolKind.decodeInside, dropLastByte, quotedField]
  have quoted : (isQuoted (quotedField cell) && 2 ≤ (quotedField cell).length) = true := by
    simp [isQuoted, quotedField]
  rw [fieldType, if_pos quoted, inside, textType_escape]

theorem lineTypes_quotedLine (present : row ≠ []) :
    lineTypes {} row.length (quotedLine row) =
      row.map fun cell => some (textType cell.toList) := by
  have unchanged : dropLineReturn (quotedLine row) = quotedLine row := by
    obtain ⟨middle, shape⟩ := exists_quotedLine present
    have ended : dropReturn (quotedLine row) = quotedLine row := by
      apply dropReturn_eq_iff.mpr
      simp [shape, List.getLast?_cons]
    rw [dropLineReturn, ended, ite_self]
  have types : (row.map quotedField).map (fun field =>
      if field.isEmpty then none else some (fieldType .character field)) =
        row.map fun cell => some (textType cell.toList) := by
    rw [List.map_map]
    apply List.map_congr_left
    intro cell _
    rw [Function.comp_apply, fieldType_quotedField]
    rfl
  rw [lineTypes, unchanged, separator_default, kind_default, fields_quotedLine present,
    List.take_of_length_le (by simp), types]
  simp

theorem joinTypes_of_text {types : List ElementType} (spoken : .text ∈ types) :
    joinTypes types = .text :=
  joinTypes_eq_text ⟨.text, spoken, rfl⟩ fun _ _ same => (same .text spoken).symm

/-- Columns are of texts where one of the first cells is neither a number nor a truth value. -/
theorem inferTypes_quotedLines {count : Nat} (positive : 0 < count)
    (widths : ∀ row ∈ rows, row.length = count)
    (worded : ∀ place < count, ∃ row ∈ rows.take inferenceLength, ∃ cell,
      row[place]? = some cell ∧ IsWorded cell.toList) :
    inferTypes {} count (rows.map quotedLine) = List.replicate count .text := by
  rw [List.eq_replicate_iff]
  refine ⟨inferTypes_length {} count _, List.forall_mem_map.mpr fun place inRange => ?_⟩
  apply joinTypes_of_text
  obtain ⟨row, member, cell, atPlace, isWorded⟩ := worded place (List.mem_range.mp inRange)
  have among : row ∈ rows := List.mem_of_mem_take member
  have present : row ≠ [] := ne_nil_of_widths positive widths row among
  have types : lineTypes {} count (quotedLine row) =
      row.map fun cell => some (textType cell.toList) := by
    rw [← widths row among]
    exact lineTypes_quotedLine present
  refine List.mem_filterMap.mpr ⟨lineTypes {} count (quotedLine row), ?_, ?_⟩
  · apply List.mem_map_of_mem
    rw [← List.map_take]
    refine List.mem_filter.mpr ⟨List.mem_map_of_mem member, ?_⟩
    have uncommented := isComment_quotedLine present []
    rw [List.append_nil] at uncommented
    rw [uncommented]
    rfl
  · rw [types, List.getElem?_map, atPlace, Option.map_some, textType_of_isWorded isWorded]
    rfl

theorem uniformColumns_texts :
    uniformColumns .text Cell.text names rows = textColumns names rows := by
  unfold uniformColumns textColumns
  apply List.map_congr_left
  intro entry _
  have value (row : List String) (place : Nat) :
      Cell.text? ((row[place]?.map Cell.text).getD .missing) = row[place]? := by
    cases row[place]? <;> rfl
  simp [valuesOfCells, Function.comp_def, value]

/-- Lines of quoted fields under a header are read as the columns that they were written from. -/
theorem lineColumns_quotedLines (positive : 0 < names.length)
    (widths : ∀ row ∈ rows, row.length = names.length)
    (worded : ∀ place < names.length, ∃ row ∈ rows.take inferenceLength, ∃ cell,
      row[place]? = some cell ∧ IsWorded cell.toList)
    (distinct : names.Nodup) {header : List Char} (named : headerNames {} header = names)
    (uncommented : Dialect.isComment {} header = false)
    (started : dropEndings (header :: rows.map quotedLine) = header :: rows.map quotedLine) :
    lineColumns {} (header :: rows.map quotedLine) = .ok (textColumns names rows) := by
  have present : ∀ row ∈ rows, row ≠ [] := ne_nil_of_widths positive widths
  have records : ∀ record ∈ header :: rows.map quotedLine,
      Dialect.isComment {} record = false := by
    refine List.forall_mem_cons.mpr ⟨uncommented, List.forall_mem_map.mpr fun row member => ?_⟩
    have noComment := isComment_quotedLine (present row member) []
    rwa [List.append_nil] at noComment
  have reads : ∀ row ∈ rows, ∀ cell ∈ row,
      readCell .character .text (dropReturn (quotedField cell)) = .ok (.text cell) := by
    intro row _ cell _
    rw [dropReturn_quotedField]
    exact readCell_quotedField cell
  rw [← uniformColumns_texts]
  exact lineColumns_uniform started records named distinct
    (inferTypes_quotedLines positive widths worded)
    (fun row member => fields_quotedLine (present row member)) widths reads

end Cells

end BenchmarkReport.Delimited
