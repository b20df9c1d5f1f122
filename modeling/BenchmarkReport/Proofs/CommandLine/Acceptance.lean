/-
This file shows that an accepted command line names an input that was opened as a file.
-/

import BenchmarkReport.CommandLine.Arguments
import BenchmarkReport.Proofs.Delimited.Rows

namespace BenchmarkReport.CommandLine

open Files Delimited

/-- The input that was given leads to a file. -/
def Given.Opens (opened : String → Opened) (given : Given) : Prop :=
  ∀ path, given.inputFile? = some path → ∃ bytes, opened path = .file bytes

section Acceptance

variable {opened : String → Opened} {given later : Given}

/-- An option that is accepted is the input, or leaves it as it was. -/
theorem Given.opens_accept {option : ValueOption} {value : String} (opens : given.Opens opened)
    (accepted : given.accept opened option value = .ok later) : later.Opens opened := by
  unfold accept at accepted
  by_cases repeated : given.has option = true
  · simp [repeated, throw, throwThe, MonadExceptOf.throw, bind, Except.bind] at accepted
  · dsimp only at accepted
    rw [if_neg repeated] at accepted
    cases option with
    | inputFile =>
        obtain ⟨_, checked, stored⟩ := bind_eq_ok_iff.mp accepted
        obtain rfl := Except.ok.inj stored
        rintro path ⟨⟩
        unfold checkInput at checked
        split at checked
        · simp at checked
        · simp at checked
        · rename_i bytes found
          exact ⟨bytes, found⟩
    | outputFile =>
        dsimp only at accepted
        split at accepted
        · simp [throw, throwThe, MonadExceptOf.throw, bind, Except.bind] at accepted
        · obtain rfl := Except.ok.inj accepted
          exact opens
    | width =>
        obtain ⟨_, -, stored⟩ := bind_eq_ok_iff.mp accepted
        obtain rfl := Except.ok.inj stored
        exact opens
    | height =>
        obtain ⟨_, -, stored⟩ := bind_eq_ok_iff.mp accepted
        obtain rfl := Except.ok.inj stored
        exact opens
    | logLevel =>
        obtain rfl := Except.ok.inj accepted
        exact opens

theorem Progress.opens_settle {progress : Progress} (opens : progress.given.Opens opened)
    (settled : progress.settle opened = .ok later) : later.Opens opened := by
  unfold settle at settled
  split at settled
  · obtain rfl := Except.ok.inj settled
    exact opens
  · simp at settled
  · exact Given.opens_accept opens settled

theorem Given.input_of_settings {settings : Settings} (complete : given.settings = .ok settings) :
    given.inputFile? = some settings.inputFile := by
  unfold Given.settings at complete
  split at complete
  · rename_i inputFile outputFile input output
    obtain rfl := Except.ok.inj complete
    exact input
  · simp at complete

theorem Progress.answer_ne_report {progress : Progress} {inquiry? : Option Inquiry} {shown : String}
    {settings : Settings} : progress.answer opened inquiry? shown ≠ .ok (.report settings) := by
  unfold answer
  cases inquiry? with
  | none => simp
  | some inquiry => cases progress.settle opened <;> simp [Except.map]

/-- The last option is settled before the settings are collected. -/
theorem Progress.exists_file_of_end {progress : Progress} {settings : Settings}
    (opens : progress.given.Opens opened)
    (accepted : (do return Request.report (← (← progress.settle opened).settings)) =
      Except.ok (Request.report settings)) :
    ∃ bytes, opened settings.inputFile = .file bytes := by
  obtain ⟨given, settled, rest⟩ := bind_eq_ok_iff.mp accepted
  obtain ⟨found, finished, same⟩ := bind_eq_ok_iff.mp rest
  obtain rfl := Request.report.inj (Except.ok.inj same)
  exact opens_settle opens settled _ (Given.input_of_settings finished)

theorem Progress.exists_file_of_scan {progress : Progress} {arguments : List String}
    {settings : Settings} (opens : progress.given.Opens opened)
    (accepted : progress.scan opened arguments = .ok (.report settings)) :
    ∃ bytes, opened settings.inputFile = .file bytes := by
  fun_induction Progress.scan opened progress arguments with
  | case1 progress => exact exists_file_of_end opens accepted
  | case2 progress argument terminator => exact exists_file_of_end opens accepted
  | case3 progress argument terminator next tail => simp at accepted
  | case4 progress argument later letter short => exact absurd accepted answer_ne_report
  | case5 progress argument later name value? long option known valued waiting =>
      obtain ⟨given, settled, rest⟩ := bind_eq_ok_iff.mp accepted
      have opensGiven : given.Opens opened := opens_settle opens settled
      cases value? with
      | none => exact waiting given opensGiven rest
      | some value =>
          obtain ⟨changed, stored, behind⟩ := bind_eq_ok_iff.mp rest
          exact valued changed (Given.opens_accept opensGiven stored) behind
  | case6 => simp at accepted
  | case7 => exact absurd accepted answer_ne_report
  | case8 progress argument later plain option pending inductionHypothesis =>
      exact inductionHypothesis opens accepted
  | case9 => simp at accepted

/-- The settings of an accepted command line name a file that was opened. -/
theorem Request.exists_file {arguments : List String} {settings : Settings}
    (accepted : Request.parse opened arguments = .ok (.report settings)) :
    ∃ bytes, opened settings.inputFile = .file bytes := by
  apply Progress.exists_file_of_scan _ accepted
  intro path named
  simp at named

end Acceptance

end BenchmarkReport.CommandLine
