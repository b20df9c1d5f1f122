/-
This file says how a report ends. Its first failure decides what is printed: nothing, or all of the
summary.
-/

import BenchmarkReport.Proofs.CommandLine.Session

namespace BenchmarkReport.CommandLine

open Files Log Plot Text

/-- A run that fails has printed so much. It reports the failure after the lines of the log. -/
structure Fails (outcome : Outcome) (printed : String) (failure : Failure) : Prop where
  exitCode : outcome.exitCode = 1
  output : outcome.output = printed
  errors : ∃ log : List String,
    outcome.errors = String.join (log.map endedLine) ++ failureText failure

/-- A report ends with its first failure: that of the format, of the input, of the derivation, of
the description, or of the plot. Only before the last one anything is printed. -/
structure EndsAtFirstFailure (tree : Tree) (settings : Settings) (outcome : Outcome) : Prop where
  noExtension : Path.extension? settings.outputFile.toList = none →
    Fails outcome "" ⟨"Invalid --output-file",
      ["Output path has no file extension: " ++ settings.outputFile]⟩
  unsupported : ∀ {extension : List Char} {lowered : String},
    Path.extension? settings.outputFile.toList = some extension →
    lowered = String.ofList (extension.map Char.toLower) →
    PlotFormat.ofExtension? lowered = none →
    Fails outcome "" ⟨"Invalid --output-file",
      ["Unsupported plot format: ." ++ lowered ++ " (expected png, jpg, jpeg, bmp or svg)"]⟩
  unloaded : ∀ {format : PlotFormat} {fault : TableError},
    PlotFormat.ofPath settings.outputFile = .ok format →
    Table.load inputDialect settings.inputFile (tree.opened settings.inputFile) = .error fault →
    Fails outcome "" ⟨"Failed to load benchmark results from " ++ settings.inputFile, fault.chain⟩
  underived : ∀ {format : PlotFormat} {table : Table} {fault : TableError},
    PlotFormat.ofPath settings.outputFile = .ok format →
    Table.load inputDialect settings.inputFile (tree.opened settings.inputFile) = .ok table →
    table.addThroughput = .error fault →
    Fails outcome "" ⟨"Failed to derive throughput", fault.chain⟩
  undescribed : ∀ {format : PlotFormat} {table derived : Table} {fault : TableError},
    PlotFormat.ofPath settings.outputFile = .ok format →
    Table.load inputDialect settings.inputFile (tree.opened settings.inputFile) = .ok table →
    table.addThroughput = .ok derived → derived.describeByName = .error fault →
    Fails outcome "" ⟨"Failed to summarize benchmark results", fault.chain⟩
  reported : ∀ {format : PlotFormat} {table derived : Table} {description : Description},
    PlotFormat.ofPath settings.outputFile = .ok format →
    Table.load inputDialect settings.inputFile (tree.opened settings.inputFile) = .ok table →
    table.addThroughput = .ok derived → derived.describeByName = .ok description →
    description = derived.describe ∧ ∃ failure,
      Report.plotFailure? settings derived = some failure ∧
      Fails outcome ((derived.head 5).text ++ "\n" ++ "\n" ++ description.text ++ "\n") failure

section Making

variable {opened : String → Opened} {settings : Settings} {format : PlotFormat}

theorem make_of_unsupported {error : PlotError}
    (invalid : PlotFormat.ofPath settings.outputFile = .error error) :
    Report.make opened settings =
      { failure? := some (.during "Invalid --output-file" error.chain) } := by
  rw [Report.make, invalid]

variable (supported : PlotFormat.ofPath settings.outputFile = .ok format)

include supported

theorem make_of_unloaded {fault : TableError}
    (unloaded : Table.load inputDialect settings.inputFile (opened settings.inputFile) =
      .error fault) :
    let undertaking := "Failed to load benchmark results from " ++ settings.inputFile
    Report.make opened settings = { failure? := some (.during undertaking fault.chain) } := by
  rw [Report.make, supported]
  dsimp only
  rw [unloaded]

theorem make_of_loaded {table : Table}
    (loaded : Table.load inputDialect settings.inputFile (opened settings.inputFile) =
      .ok table) : Report.make opened settings = Report.ofTable settings table := by
  rw [Report.make, supported]
  dsimp only
  rw [loaded]

end Making

/-- No plot is saved, so that every report fails at the last. -/
theorem exists_plotFailure (settings : Settings) (table : Table) :
    ∃ failure, Report.plotFailure? settings table = some failure := by
  unfold Report.plotFailure?
  cases ScatterPlot.ofTable table Table.threadCountName Table.throughputName with
  | error error => exact ⟨_, rfl⟩
  | ok plot =>
      obtain ⟨error, unsaved⟩ :=
        (plot.withSize settings.width settings.height).save_isError settings.outputFile
      dsimp only
      rw [unsaved]
      exact ⟨_, rfl⟩

/-- A table always ends in a failure. -/
theorem exists_failure_of_table (settings : Settings) (table : Table) :
    ∃ failure, (Report.ofTable settings table).failure? = some failure := by
  unfold Report.ofTable
  cases table.addThroughput with
  | error fault => exact ⟨_, rfl⟩
  | ok derived => exact exists_plotFailure settings derived

theorem exists_failure_of_make (opened : String → Opened) (settings : Settings) :
    ∃ failure, (Report.make opened settings).failure? = some failure := by
  cases supported : PlotFormat.ofPath settings.outputFile with
  | error error => exact ⟨_, by rw [make_of_unsupported supported]⟩
  | ok format =>
      cases loaded : Table.load inputDialect settings.inputFile (opened settings.inputFile) with
      | error fault => exact ⟨_, by rw [make_of_unloaded supported loaded]⟩
      | ok table =>
          rw [make_of_loaded supported loaded]
          exact exists_failure_of_table settings table

section Running

variable {opened : String → Opened} {environment? : Option String} {arguments : List String}
  {settings : Settings}

/-- The failure of a report is that of the run. -/
theorem fails_of_make {report : Report} {failure : Failure}
    (accepted : Request.parse opened arguments = .ok (.report settings))
    (made : Report.make opened settings = report) (failed : report.failure? = some failure) :
    Fails (run opened environment? arguments) report.printed failure := by
  rw [run, accepted]
  dsimp only
  rw [made]
  refine ⟨?_, rfl, ?_⟩
  · rw [Outcome.ofReport, failed]
    rfl
  · rw [Outcome.ofReport, failed]
    exact ⟨_, rfl⟩

end Running

/-- A report prints its whole summary or nothing, whatever the plot would be drawn with. No file is
changed. -/
theorem runOn_endsAtFirstFailure (draw : Drawer) (environment? : Option String)
    (arguments : List String) (tree : Tree) (settings : Settings)
    (accepted : Request.parse tree.opened arguments = .ok (.report settings)) :
    ∃ outcome, (runOn draw environment? arguments).run tree = (outcome, tree) ∧
      outcome = run tree.opened environment? arguments ∧ outcome.exitCode = 1 ∧
      EndsAtFirstFailure tree settings outcome := by
  have ending : EndsAtFirstFailure tree settings (run tree.opened environment? arguments) := by
    refine ⟨?_, ?_, ?_, ?_, ?_, ?_⟩
    · intro absent
      have invalid : PlotFormat.ofPath settings.outputFile =
          .error (.missingExtension settings.outputFile) := by
        rw [PlotFormat.ofPath, absent]
      exact fails_of_make accepted (make_of_unsupported invalid) rfl
    · rintro extension lowered found rfl unknown
      have invalid : PlotFormat.ofPath settings.outputFile =
          .error (.unsupportedFormat (String.ofList (extension.map Char.toLower))) := by
        rw [PlotFormat.ofPath, found]
        dsimp only
        rw [unknown]
      exact fails_of_make accepted (make_of_unsupported invalid) rfl
    · intro format fault supported unloaded
      exact fails_of_make accepted (make_of_unloaded supported unloaded) rfl
    · intro format table fault supported loaded refused
      have made := make_of_loaded supported loaded
      rw [Report.ofTable, refused] at made
      exact fails_of_make accepted made rfl
    · intro format table derived fault supported loaded success undescribed
      have described := describeByName_of_addThroughput (wellFormed_of_load loaded) success
      rw [described] at undescribed
      simp at undescribed
    · intro format table derived description supported loaded success described
      rw [describeByName_of_addThroughput (wellFormed_of_load loaded) success] at described
      obtain rfl := Except.ok.inj described
      obtain ⟨failure, failed⟩ := exists_plotFailure settings derived
      have made := make_of_loaded supported loaded
      rw [Report.ofTable, success] at made
      refine ⟨rfl, failure, failed, ?_⟩
      have printed := lines_eq_summary derived
      rw [shownRows] at printed
      rw [printed]
      exact fails_of_make accepted made failed
  obtain ⟨failure, failed⟩ := exists_failure_of_make tree.opened settings
  exact ⟨_, runOn_run draw environment? arguments tree, rfl,
    (fails_of_make accepted rfl failed).exitCode, ending⟩

/-- This drawer leaves an empty file at the path of the plot. -/
def emptyPlot : Drawer := fun _ _ path =>
  modify fun tree => { tree with files := (names path, .empty) :: tree.files }

/-- Results without a number of threads can be summarized but not plotted. -/
def unthreadedText : String := "EventCount,ElapsedTime\n4,2\n"

def unthreadedTree : Tree where
  files := [([['i', 'n']], unthreadedText.toUTF8)]
  directories := []

def unthreadedEvents : Column :=
  ⟨"EventCount", .integers .signed64 [some 4]⟩

def unthreadedTimes : Column :=
  ⟨"ElapsedTime", .integers .signed64 [some 2]⟩

def unthreadedTable : Table where
  columns := [unthreadedEvents, unthreadedTimes]

theorem unthreadedTree_reported : ∃ (outcome : Outcome) (derived : Table),
    (runOn emptyPlot none ["--input-file", "in", "--output-file=out.PNG"]).run unthreadedTree =
      (outcome, unthreadedTree) ∧
    derived.columnNames = ["EventCount", "ElapsedTime", "Throughput"] ∧
    Fails outcome ((derived.head 5).text ++ "\n" ++ "\n" ++ derived.describe.text ++ "\n")
      ⟨"Missing column: ThreadCount", []⟩ := by
  let settings : Settings := ⟨"in", "out.PNG", 640, 480, "info"⟩
  have accepted : Request.parse unthreadedTree.opened
      ["--input-file", "in", "--output-file=out.PNG"] = .ok (.report settings) := by decide
  have supported : PlotFormat.ofPath "out.PNG" = .ok .png := rfl
  have loaded : Table.load inputDialect "in" (unthreadedTree.opened "in") =
      .ok unthreadedTable := by
    have opened : unthreadedTree.opened "in" = .file unthreadedText.toUTF8 := rfl
    rw [opened, Table.load, Table.ofBytes, fromUTF8?_toUTF8]
    dsimp only
    rw [Table.ofText_unquoted (by decide)]
    rfl
  have success : unthreadedTable.addThroughput =
      .ok (unthreadedTable.setColumn (Table.throughputColumn unthreadedEvents unthreadedTimes)) :=
    Table.addThroughput_of_numeric rfl rfl rfl rfl
  have described := describeByName_of_addThroughput (wellFormed_of_load loaded) success
  have unplotted : Report.plotFailure? settings (unthreadedTable.setColumn
      (Table.throughputColumn unthreadedEvents unthreadedTimes)) =
        some ⟨"Missing column: ThreadCount", []⟩ := rfl
  obtain ⟨outcome, run, -, -, ending⟩ :=
    runOn_endsAtFirstFailure emptyPlot none _ unthreadedTree settings accepted
  obtain ⟨-, failure, failed, fails⟩ := ending.reported supported loaded success described
  rw [unplotted] at failed
  obtain rfl := Option.some.inj failed
  exact ⟨outcome, _, run, rfl, fails⟩

end BenchmarkReport.CommandLine
