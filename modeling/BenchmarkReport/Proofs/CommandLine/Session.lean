/-
This file follows a report step by step: it may draw on the files, and its steps stop at the first
failure. Since the font is damaged, the steps never come to the drawing.
-/

import BenchmarkReport.CommandLine.Program
import BenchmarkReport.Files.Tree
import BenchmarkReport.Proofs.Table.Description
import BenchmarkReport.Proofs.Table.Loading

namespace BenchmarkReport

open Files Log Plot

/-- Whatever draws a plot to a path. It may change the files and may fail. -/
abbrev Plot.Drawer := ScatterPlot → PlotFormat → String → ExceptT PlotError (StateM Tree) Unit

/-- The format is checked and the font is loaded before the plot is drawn. -/
def Plot.ScatterPlot.saveWith (draw : Drawer) (plot : ScatterPlot) (path : String) :
    ExceptT PlotError (StateM Tree) PlotFormat := do
  let format ← MonadExcept.ofExcept (PlotFormat.ofPath path)
  MonadExcept.ofExcept loadFont
  draw plot format path
  return format

/-- A plot is not saved, and the files stay as they are. -/
theorem Plot.ScatterPlot.saveWith_run (draw : Drawer) (plot : ScatterPlot) (path : String)
    (tree : Tree) : (plot.saveWith draw path).run.run tree = (plot.save path, tree) := by
  unfold saveWith save
  cases PlotFormat.ofPath path with
  | error error => rfl
  | ok format => rfl

namespace CommandLine

/-- The files, and what a report has printed and logged so far. -/
structure Session where
  tree : Tree
  printed : String := ""
  events : List Event := []

/-- A step of a report goes on or fails. -/
abbrev Step := ExceptT Failure (StateM Session)

namespace Step

/-- A failure is reported with what was undertaken. -/
def attempt {Value Fault : Type} (undertaking : String) (chain : Fault → List String)
    (result : Except Fault Value) : Step Value :=
  match result with
  | .ok value => return value
  | .error fault => throw (.during undertaking (chain fault))

def print (text : String) : Step Unit :=
  modify fun session => { session with printed := session.printed ++ text }

def log (events : List Event) : Step Unit :=
  modify fun session => { session with events := session.events ++ events }

/-- The plot is drawn to the files. -/
def save (draw : Drawer) (plot : ScatterPlot) (path : String) : Step Unit := do
  let session ← get
  let (result, tree) := (plot.saveWith draw path).run.run session.tree
  set { session with tree }
  let _ ← attempt ("Failed to render plot to " ++ path) PlotError.chain result

/-- The steps of a report, with any way to save its plot. -/
def reportWith (save : ScatterPlot → String → Step Unit) (settings : Settings) : Step Unit := do
  let _ ← attempt "Invalid --output-file" PlotError.chain (PlotFormat.ofPath settings.outputFile)
  let table ← attempt ("Failed to load benchmark results from " ++ settings.inputFile)
    TableError.chain
    (Table.load inputDialect settings.inputFile ((← get).tree.opened settings.inputFile))
  log (Report.loadedEvent settings.inputFile table :: Report.metadataEvents table)
  let derived ← attempt "Failed to derive throughput" TableError.chain table.addThroughput
  log (Report.derivedEvents derived)
  let description ← attempt "Failed to summarize benchmark results" TableError.chain
    derived.describeByName
  print ((derived.head shownRows).text ++ "\n")
  print "\n"
  print (description.text ++ "\n")
  match ScatterPlot.ofTable derived Table.threadCountName Table.throughputName with
  | .error error => throw (.ofChain error.chain)
  | .ok plot => save (plot.withSize settings.width settings.height) settings.outputFile

/-- The steps of a report whose plot is drawn to the files. -/
def report (draw : Drawer) : Settings → Step Unit :=
  reportWith (save draw)

end Step

section Steps

variable {Value Fault Result : Type} (session : Session)

theorem attempt_bind (undertaking : String) (chain : Fault → List String)
    (result : Except Fault Value) (next : Value → Step Result) :
    (Step.attempt undertaking chain result >>= next).run.run session =
      match result with
      | .ok value => (next value).run.run session
      | .error fault => (.error (.during undertaking (chain fault)), session) := by
  cases result <;> rfl

theorem get_bind (next : Session → Step Result) :
    (get >>= next).run.run session = (next session).run.run session := rfl

theorem print_bind (text : String) (next : Unit → Step Result) :
    (Step.print text >>= next).run.run session =
      (next ()).run.run { session with printed := session.printed ++ text } := rfl

theorem log_bind (events : List Event) (next : Unit → Step Result) :
    (Step.log events >>= next).run.run session =
      (next ()).run.run { session with events := session.events ++ events } := rfl

theorem save_run (draw : Drawer) (plot : ScatterPlot) (path : String) :
    (Step.save draw plot path).run.run session =
      match plot.save path with
      | .ok _ => (.ok (), session)
      | .error error => (.error (.during ("Failed to render plot to " ++ path) error.chain), session)
    := by
  have saved := plot.saveWith_run draw path session.tree
  have unfolded : (Step.save draw plot path).run.run session =
      match (plot.saveWith draw path).run.run session.tree with
      | (.ok _, tree) => (.ok (), { session with tree })
      | (.error error, tree) =>
        (.error (.during ("Failed to render plot to " ++ path) error.chain),
          { session with tree }) := by
    unfold Step.save
    rw [get_bind]
    cases (plot.saveWith draw path).run.run session.tree with
    | mk result tree => cases result <;> rfl
  rw [unfolded, saved]
  cases plot.save path <;> rfl

end Steps

theorem wellFormed_of_load {dialect : Delimited.Dialect} {path : String} {opened : Opened}
    {table : Table} (success : Table.load dialect path opened = .ok table) : table.WellFormed := by
  unfold Table.load at success
  split at success
  · simp at success
  · simp at success
  · unfold Table.ofBytes at success
    split at success
    · simp at success
    · exact Table.wellFormed_of_ofText success

theorem describeByName_of_addThroughput {table derived : Table} (wellFormed : table.WellFormed)
    (success : table.addThroughput = .ok derived) :
    derived.describeByName = .ok derived.describe := by
  obtain ⟨events, times, eventsFound, eventsNumeric, timesFound, timesNumeric, same⟩ :=
    Table.exists_columns_of_addThroughput success
  have outcome := Table.derived_setColumn wellFormed eventsFound eventsNumeric timesFound
    timesNumeric
  rw [← same] at outcome
  exact Table.describeByName_eq outcome.wellFormed.names

/-- The first rows of a table, an empty line and the description follow each other. -/
theorem lines_eq_summary (table : Table) :
    (table.head shownRows).text ++ "\n" ++ "\n" ++ table.describe.text ++ "\n" =
      Report.summary table := by
  have emptyLine : "\n\n" = "\n" ++ "\n" := rfl
  rw [Report.summary, emptyLine]
  simp only [String.append_assoc]

theorem printed_eq_summary (table : Table) :
    "" ++ ((table.head shownRows).text ++ "\n") ++ "\n" ++ (table.describe.text ++ "\n") =
      Report.summary table := by
  rw [← lines_eq_summary]
  simp only [String.empty_append, String.append_assoc]

section Report

variable (draw : Drawer) (settings : Settings) (tree : Tree)

/-- The steps of a report come to the report, and they leave the files as they were. -/
theorem report_run :
    (Step.report draw settings).run.run { tree } =
      (match (Report.make tree.opened settings).failure? with
        | some failure => .error failure
        | none => .ok (),
      ⟨tree, (Report.make tree.opened settings).printed,
        (Report.make tree.opened settings).events⟩) := by
  unfold Step.report Step.reportWith Report.make
  rw [attempt_bind]
  cases PlotFormat.ofPath settings.outputFile with
  | error error => rfl
  | ok format =>
      simp only [get_bind, attempt_bind]
      cases loaded : Table.load inputDialect settings.inputFile
          (tree.opened settings.inputFile) with
      | error fault => rfl
      | ok table =>
          simp only [log_bind, attempt_bind, print_bind, Report.ofTable]
          cases success : table.addThroughput with
          | error fault => rfl
          | ok derived =>
              simp only [describeByName_of_addThroughput (wellFormed_of_load loaded) success,
                printed_eq_summary, List.nil_append, Report.plotFailure?]
              cases ScatterPlot.ofTable derived Table.threadCountName Table.throughputName with
              | error error => rfl
              | ok plot =>
                  dsimp only
                  rw [save_run]
                  cases (plot.withSize settings.width settings.height).save
                    settings.outputFile <;> rfl

end Report

/-- The report on a tree of files. -/
def reportOn (draw : Drawer) (settings : Settings) : StateM Tree Report := do
  let (result, session) := (Step.report draw settings).run.run { tree := ← get }
  set session.tree
  return {
    printed := session.printed
    events := session.events
    failure? := match result with
      | .ok _ => none
      | .error failure => some failure }

/-- The program on a tree of files. -/
def runOn (draw : Drawer) (environment? : Option String) (arguments : List String) :
    StateM Tree Outcome := do
  match Request.parse (← get).opened arguments with
  | .error error => return .ofUsageError error
  | .ok (.inquiry inquiry) => return .ofInquiry inquiry
  | .ok (.report settings) =>
    let (filter, notices) := Filter.choose environment? settings.logLevel
    return .ofReport filter notices (← reportOn draw settings)

section Program

variable (draw : Drawer) (environment? : Option String) (arguments : List String) (tree : Tree)

theorem reportOn_run (settings : Settings) :
    (reportOn draw settings).run tree = (Report.make tree.opened settings, tree) := by
  have steps : (reportOn draw settings).run tree =
      let (result, session) := (Step.report draw settings).run.run { tree }
      (⟨session.printed, session.events, match result with
        | .ok _ => none
        | .error failure => some failure⟩, session.tree) := rfl
  rw [steps, report_run]
  generalize Report.make tree.opened settings = report
  obtain ⟨printed, events, failure?⟩ := report
  cases failure? <;> rfl

/-- A run on a tree of files has the outcome of the run that only opens them, and all files stay
what they are. -/
theorem runOn_run : (runOn draw environment? arguments).run tree =
    (run tree.opened environment? arguments, tree) := by
  unfold runOn run
  have opening (next : Tree → StateM Tree Outcome) :
      (get >>= next).run tree = (next tree).run tree := rfl
  rw [opening]
  cases Request.parse tree.opened arguments with
  | error error => rfl
  | ok request =>
      cases request with
      | inquiry inquiry => rfl
      | report settings =>
          have reported (next : Report → StateM Tree Outcome) :
              (reportOn draw settings >>= next).run tree =
                (next (Report.make tree.opened settings)).run tree := by
            rw [StateT.run_bind, reportOn_run]
            rfl
          dsimp only
          rw [reported]
          rfl

end Program

end CommandLine

end BenchmarkReport
