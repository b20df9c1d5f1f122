/-
This file shows which options reach a report: the size of the plot, the name of the plot and the
filter of the log leave the output and the exit code as they are.
-/

import BenchmarkReport.Proofs.CommandLine.Acceptance
import BenchmarkReport.Proofs.CommandLine.Endings

namespace BenchmarkReport

namespace Log.Filter

/-- This filter lets every event pass. -/
def everything : Filter := ⟨[{ threshold := some .trace }]⟩

theorem passes_everything (event : Event) : everything.passes event = true := by
  obtain ⟨level, target, message, fields⟩ := event
  cases level <;> rfl

theorem lines_everything (events : List Event) :
    everything.lines events = events.map Event.line := by
  have all : events.filter everything.passes = events :=
    List.filter_eq_self.mpr fun event _ => passes_everything event
  rw [lines, all]

theorem choose_trace (level : String) : choose (some "trace") level = (everything, []) := by
  have parsed : parseStrict? "trace" = some everything := rfl
  rw [choose, Option.bind_some, parsed]

theorem lines_sublist (filter : Filter) (events : List Event) :
    (filter.lines events).Sublist (everything.lines events) := by
  rw [lines_everything, lines]
  exact List.filter_sublist.map Event.line

end Log.Filter

namespace CommandLine

open Files Log Plot Text

section Table

variable {settings other : Settings} (table : Table)

theorem printed_ofTable :
    (Report.ofTable settings table).printed = (Report.ofTable other table).printed := by
  unfold Report.ofTable
  cases table.addThroughput <;> rfl

/-- The font is needed for a plot of any size. -/
theorem plotFailure?_eq (sameOutput : settings.outputFile = other.outputFile) :
    Report.plotFailure? settings table = Report.plotFailure? other table := by
  unfold Report.plotFailure?
  cases ScatterPlot.ofTable table Table.threadCountName Table.throughputName with
  | error error => rfl
  | ok plot =>
      have anySize : (plot.withSize settings.width settings.height).save settings.outputFile =
          (plot.withSize other.width other.height).save settings.outputFile := rfl
      dsimp only
      rw [anySize, sameOutput]

theorem failure?_ofTable (sameOutput : settings.outputFile = other.outputFile) :
    (Report.ofTable settings table).failure? = (Report.ofTable other table).failure? := by
  unfold Report.ofTable
  cases table.addThroughput with
  | error fault => rfl
  | ok derived => exact plotFailure?_eq derived sameOutput

end Table

/-- A run on an accepted command line whose plot has a supported format. -/
structure Launch where
  tree : Tree
  environment? : Option String
  arguments : List String
  settings : Settings
  format : PlotFormat
  accepted : Request.parse tree.opened arguments = .ok (.report settings)
  supported : PlotFormat.ofPath settings.outputFile = .ok format

namespace Launch

/-- What is found at the path of the input. -/
def input (launch : Launch) : Opened :=
  launch.tree.opened launch.settings.inputFile

/-- The end of the run, with the given way to draw plots. -/
def outcome (draw : Drawer) (launch : Launch) : Outcome :=
  ((runOn draw launch.environment? launch.arguments).run launch.tree).1

def report (launch : Launch) : Report :=
  .make launch.tree.opened launch.settings

def filter (launch : Launch) : Filter :=
  (Filter.choose launch.environment? launch.settings.logLevel).1

/-- The notices about directives that are ignored. -/
def notices (launch : Launch) : List String :=
  (Filter.choose launch.environment? launch.settings.logLevel).2

/-- The events that are written. -/
def log (launch : Launch) : List String :=
  launch.filter.lines launch.report.events

/-- What is written about the failure of the report. -/
def errorReport (launch : Launch) : String :=
  launch.report.failure?.elim "" failureText

/-- The table that the input is read as. -/
def loaded (launch : Launch) : Except TableError Table :=
  Table.load inputDialect launch.settings.inputFile launch.input

/-- The same run with everything enabled in the log. -/
def enabled (launch : Launch) : Launch :=
  { launch with environment? := some "trace" }

section Reporting

variable (draw : Drawer) (launch : Launch)

theorem outcome_eq :
    launch.outcome draw = .ofReport launch.filter launch.notices launch.report := by
  unfold outcome
  rw [runOn_run, run, launch.accepted]
  rfl

/-- A notice and an event have a line each, and the failure comes behind them. -/
theorem outcome_errors : (launch.outcome draw).errors =
    String.join ((launch.notices ++ launch.log).map endedLine) ++ launch.errorReport := by
  rw [outcome_eq]
  rfl

theorem outcome_exitCode : (launch.outcome draw).exitCode = 1 := by
  obtain ⟨failure, failed⟩ := exists_failure_of_make launch.tree.opened launch.settings
  rw [outcome_eq]
  unfold Outcome.ofReport report
  rw [failed]
  rfl

theorem report_of_loaded {table : Table} (loaded : launch.loaded = .ok table) :
    launch.report = .ofTable launch.settings table :=
  make_of_loaded launch.supported loaded

theorem report_of_unloaded {fault : TableError} (unloaded : launch.loaded = .error fault) :
    launch.report = { failure? := some (.during
      ("Failed to load benchmark results from " ++ launch.settings.inputFile) fault.chain) } :=
  make_of_unloaded launch.supported unloaded

theorem log_sublist : launch.log.Sublist launch.enabled.log := by
  have everything : launch.enabled.filter = .everything :=
    congrArg Prod.fst (Filter.choose_trace launch.settings.logLevel)
  rw [log, log, everything]
  exact Filter.lines_sublist launch.filter launch.report.events

theorem log_enabled : launch.enabled.log = launch.report.events.map Event.line := by
  have everything : launch.enabled.filter = .everything :=
    congrArg Prod.fst (Filter.choose_trace launch.settings.logLevel)
  rw [log, everything]
  exact Filter.lines_everything launch.report.events

end Reporting

/-- What is written about an input that makes no table. -/
def unloadedReport (path : String) (fault : TableError) : String :=
  failureText (.during ("Failed to load benchmark results from " ++ path) fault.chain)

/-- Two runs write the same about their failure, but for the path of an input that makes no
table. -/
structure FailAlike (first second : Launch) : Prop where
  sameName : first.settings.inputFile = second.settings.inputFile →
    first.errorReport = second.errorReport
  loaded : ∀ {table : Table}, first.loaded = .ok table → first.errorReport = second.errorReport
  unloaded : ∀ {fault : TableError}, first.loaded = .error fault →
    first.errorReport = unloadedReport first.settings.inputFile fault ∧
      second.errorReport = unloadedReport second.settings.inputFile fault

theorem errorReport_of_unloaded (launch : Launch) {fault : TableError}
    (unloaded : launch.loaded = .error fault) :
    launch.errorReport = unloadedReport launch.settings.inputFile fault := by
  rw [errorReport, report_of_unloaded launch unloaded]
  rfl

section Comparing

variable {first second : Launch} (sameInput : first.input = second.input)

include sameInput

/-- Only a path that could not be opened would be named. -/
theorem loaded_eq : first.loaded = second.loaded := by
  obtain ⟨bytes, opened⟩ := Request.exists_file first.accepted
  have firstInput : first.input = .file bytes := opened
  rw [loaded, loaded, ← sameInput, firstInput]
  rfl

theorem printed_eq : first.report.printed = second.report.printed := by
  have sameLoaded : first.loaded = second.loaded := loaded_eq sameInput
  cases loaded : first.loaded with
  | error fault =>
      rw [report_of_unloaded first loaded, report_of_unloaded second (sameLoaded ▸ loaded)]
  | ok table =>
      rw [report_of_loaded first loaded, report_of_loaded second (sameLoaded ▸ loaded)]
      exact printed_ofTable table

theorem failAlike (sameOutput : first.settings.outputFile = second.settings.outputFile) :
    FailAlike first second := by
  have sameLoaded : first.loaded = second.loaded := loaded_eq sameInput
  have whenLoaded {table : Table} (loaded : first.loaded = .ok table) :
      first.errorReport = second.errorReport := by
    rw [errorReport, errorReport, report_of_loaded first loaded,
      report_of_loaded second (sameLoaded ▸ loaded), failure?_ofTable table sameOutput]
  have whenUnloaded {fault : TableError} (unloaded : first.loaded = .error fault) :
      first.errorReport = unloadedReport first.settings.inputFile fault ∧
        second.errorReport = unloadedReport second.settings.inputFile fault :=
    ⟨errorReport_of_unloaded first unloaded,
      errorReport_of_unloaded second (sameLoaded ▸ unloaded)⟩
  refine ⟨?_, whenLoaded, whenUnloaded⟩
  intro sameName
  cases loaded : first.loaded with
  | ok table => exact whenLoaded loaded
  | error fault =>
      obtain ⟨firstReport, secondReport⟩ := whenUnloaded loaded
      rw [firstReport, secondReport, sameName]

end Comparing

/-- Whatever the options and the drawing are, the output and the exit code come from the input
alone. The failure comes from the input and the path of the plot, and names an input that makes no
table. A filter only leaves out events. -/
theorem options_keep_report (draw otherDraw : Drawer) :
    (∀ first second : Launch, first.input = second.input →
      (first.outcome draw).output = (second.outcome otherDraw).output ∧
      (first.outcome draw).exitCode = (second.outcome otherDraw).exitCode ∧
      (first.settings.outputFile = second.settings.outputFile → FailAlike first second)) ∧
    (∀ launch : Launch,
      (launch.outcome draw).errors =
        String.join ((launch.notices ++ launch.log).map endedLine) ++ launch.errorReport ∧
      launch.log.Sublist launch.enabled.log ∧
      launch.enabled.log = launch.report.events.map Event.line) := by
  constructor
  · intro first second sameInput
    refine ⟨?_, ?_, failAlike sameInput⟩
    · rw [outcome_eq, outcome_eq]
      exact printed_eq sameInput
    · rw [outcome_exitCode, outcome_exitCode]
  · intro launch
    exact ⟨outcome_errors draw launch, log_sublist launch, log_enabled launch⟩

/-- Two names for the results without a number of threads. -/
def namedTree (name : Char) : Tree where
  files := [([[name]], unthreadedText.toUTF8)]
  directories := []

def quietLaunch : Launch where
  tree := namedTree 'i'
  environment? := none
  arguments := ["--input-file", "i", "--output-file=o.png", "--log-level", "off"]
  settings := ⟨"i", "o.png", 640, 480, "off"⟩
  format := .png
  accepted := by decide
  supported := rfl

def largeLaunch : Launch where
  tree := namedTree 'j'
  environment? := some "bench_table=warn"
  arguments := ["--width=9", "--input-file", "j", "--output-file", "p.SVG", "--height", "+9"]
  settings := ⟨"j", "p.SVG", 9, 9, "info"⟩
  format := .svg
  accepted := by decide
  supported := rfl

theorem quietLaunch_alike :
    quietLaunch.input = largeLaunch.input ∧
      (quietLaunch.outcome emptyPlot).output = (largeLaunch.outcome emptyPlot).output ∧
      (largeLaunch.log).Sublist largeLaunch.enabled.log :=
  have options := options_keep_report emptyPlot emptyPlot
  ⟨rfl, (options.1 quietLaunch largeLaunch rfl).1, (options.2 largeLaunch).2.1⟩

/-- An empty file at each of two paths. -/
def emptyTree : Tree where
  files := [([['a']], "".toUTF8), ([['b']], "".toUTF8)]
  directories := []

/-- A run on one of the empty files. -/
def emptyLaunch (name : String) (accepted : Request.parse emptyTree.opened
    ["--input-file", name, "--output-file", "o.png"] =
      .ok (.report ⟨name, "o.png", 640, 480, "info"⟩)) : Launch where
  tree := emptyTree
  environment? := none
  arguments := ["--input-file", name, "--output-file", "o.png"]
  settings := ⟨name, "o.png", 640, 480, "info"⟩
  format := .png
  accepted := accepted
  supported := by
    show PlotFormat.ofPath "o.png" = .ok .png
    rfl

theorem renamedInput_changes : ∃ first second : Launch, first.input = second.input ∧
    first.settings.outputFile = second.settings.outputFile ∧
    first.errorReport ≠ second.errorReport := by
  let first := emptyLaunch "a" (by decide)
  let second := emptyLaunch "b" (by decide)
  have firstInput : first.input = .file "".toUTF8 := by
    show emptyTree.opened "a" = .file "".toUTF8
    rfl
  have secondInput : second.input = .file "".toUTF8 := by
    show emptyTree.opened "b" = .file "".toUTF8
    rfl
  have sameInput : first.input = second.input := firstInput.trans secondInput.symm
  have unloaded : first.loaded = .error .noHeader := by
    rw [loaded, firstInput, Table.load, Table.ofBytes, fromUTF8?_toUTF8]
    rfl
  obtain ⟨firstReport, secondReport⟩ := (failAlike sameInput rfl).unloaded unloaded
  refine ⟨first, second, sameInput, rfl, ?_⟩
  rw [firstReport, secondReport]
  show unloadedReport "a" .noHeader ≠ unloadedReport "b" .noHeader
  decide

end Launch

end CommandLine

end BenchmarkReport
