/-
This file says which command lines are admitted to a report, and with which settings.
-/

import BenchmarkReport.Proofs.CommandLine.Assignments
import BenchmarkReport.Proofs.CommandLine.Dimension
import Mathlib.Data.List.Nodup

namespace BenchmarkReport.CommandLine

open Delimited Files

/-- The texts that an option takes. -/
def ValueOption.Takes (opened : String → Opened) : ValueOption → String → Prop
  | .inputFile, path => ∃ bytes, opened path = .file bytes
  | .outputFile, path => path ≠ ""
  | .width, text => ∃ value, IsDimension text.toList value
  | .height, text => ∃ value, IsDimension text.toList value
  | .logLevel, _ => True

/-- The value of an option was read from this text. -/
def Given.Holds (given : Given) : ValueOption → String → Prop
  | .inputFile, path => given.inputFile? = some path
  | .outputFile, path => given.outputFile? = some path
  | .width, text => ∃ value, given.width? = some value ∧ IsDimension text.toList value
  | .height, text => ∃ value, given.height? = some value ∧ IsDimension text.toList value
  | .logLevel, level => given.logLevel? = some level

/-- The option has stored the text if it takes it. -/
def Given.Stores (opened : String → Opened) (given : Given) (option : ValueOption) (text : String)
    (later : Given) : Prop :=
  match option with
  | .inputFile => checkInput opened text = .ok () ∧ later = { given with inputFile? := text }
  | .outputFile => text ≠ "" ∧ later = { given with outputFile? := text }
  | .width => ∃ value, dimension .width text = .ok value ∧ later = { given with width? := value }
  | .height => ∃ value, dimension .height text = .ok value ∧
      later = { given with height? := value }
  | .logLevel => later = { given with logLevel? := text }

section Accepting

variable {opened : String → Opened} {given later : Given} {option : ValueOption} {text : String}

theorem Given.has_of_holds (holds : given.Holds option text) : given.has option = true := by
  cases option <;> simp_all [Holds, has] <;> grind

/-- An option that is accepted holds its text, and the other options stay as they are. -/
structure Given.Accepts (opened : String → Opened) (given : Given) (option : ValueOption)
    (text : String) (later : Given) : Prop where
  absent : given.has option = false
  takes : option.Takes opened text
  holds : later.Holds option text
  others : ∀ other, other ≠ option →
    later.has other = given.has other ∧ ∀ text, given.Holds other text → later.Holds other text

theorem Given.absent_of_accept (accepted : given.accept opened option text = .ok later) :
    given.has option = false := by
  unfold accept at accepted
  cases present : given.has option with
  | false => rfl
  | true => simp [present, throw, throwThe, MonadExceptOf.throw, bind, Except.bind] at accepted

theorem Given.checkInput_eq_ok_iff : checkInput opened text = .ok () ↔
    ∃ bytes, opened text = .file bytes := by
  unfold checkInput
  cases opened text <;> simp

/-- What an option stores that has no value yet. -/
theorem Given.accept_eq_ok_iff (absent : given.has option = false) :
    given.accept opened option text = .ok later ↔ given.Stores opened option text later := by
  have stored {found : Given} :
      (pure found : Except UsageError Given) = .ok later ↔ later = found :=
    ⟨fun same => (Except.ok.inj same).symm, fun same => same ▸ rfl⟩
  unfold accept
  simp only [absent, Bool.false_eq_true, if_false]
  cases option with
  | inputFile =>
      have anyUnit (done : Unit) : done = () := rfl
      dsimp only
      rw [bind_eq_ok_iff]
      simp [stored, Stores, anyUnit]
  | outputFile =>
      by_cases empty : text = ""
      · simp [empty, Stores, throw, throwThe, MonadExceptOf.throw, bind, Except.bind]
      · simp [empty, stored, Stores]
  | width =>
      dsimp only
      rw [bind_eq_ok_iff]
      simp only [stored, Stores]
  | height =>
      dsimp only
      rw [bind_eq_ok_iff]
      simp only [stored, Stores]
  | logLevel => exact stored

theorem Given.accepts_of_accept (accepted : given.accept opened option text = .ok later) :
    given.Accepts opened option text later := by
  have absent := absent_of_accept accepted
  have stored := (accept_eq_ok_iff absent).mp accepted
  cases option with
  | inputFile =>
      obtain ⟨checked, rfl⟩ := stored
      refine ⟨absent, checkInput_eq_ok_iff.mp checked, rfl, fun other different => ?_⟩
      cases other <;> first | exact absurd rfl different | exact ⟨rfl, fun _ holds => holds⟩
  | outputFile =>
      obtain ⟨named, rfl⟩ := stored
      refine ⟨absent, named, rfl, fun other different => ?_⟩
      cases other <;> first | exact absurd rfl different | exact ⟨rfl, fun _ holds => holds⟩
  | width =>
      obtain ⟨value, read, rfl⟩ := stored
      have isDimension := dimension_eq_ok_iff.mp read
      refine ⟨absent, ⟨value, isDimension⟩, ⟨value, rfl, isDimension⟩, fun other different => ?_⟩
      cases other <;> first | exact absurd rfl different | exact ⟨rfl, fun _ holds => holds⟩
  | height =>
      obtain ⟨value, read, rfl⟩ := stored
      have isDimension := dimension_eq_ok_iff.mp read
      refine ⟨absent, ⟨value, isDimension⟩, ⟨value, rfl, isDimension⟩, fun other different => ?_⟩
      cases other <;> first | exact absurd rfl different | exact ⟨rfl, fun _ holds => holds⟩
  | logLevel =>
      obtain rfl := stored
      refine ⟨absent, trivial, rfl, fun other different => ?_⟩
      cases other <;> first | exact absurd rfl different | exact ⟨rfl, fun _ holds => holds⟩

end Accepting

/-- What is given reflects all the assignments so far. -/
structure Given.Reflects (opened : String → Opened) (given : Given)
    (assignments : List Assignment) : Prop where
  distinct : (assignments.map Assignment.option).Nodup
  takes : ∀ assignment ∈ assignments, assignment.option.Takes opened assignment.text
  holds : ∀ assignment ∈ assignments, given.Holds assignment.option assignment.text
  has : ∀ option, given.has option = true → option ∈ assignments.map Assignment.option

section Assigning

variable {opened : String → Opened} {given later final : Given} {option : ValueOption}
  {text : String} {assignments further : List Assignment}

theorem Given.Reflects.has_eq_true_iff (reflects : given.Reflects opened assignments) :
    given.has option = true ↔ option ∈ assignments.map Assignment.option := by
  refine ⟨reflects.has option, fun member => ?_⟩
  obtain ⟨assignment, listed, rfl⟩ := List.mem_map.mp member
  exact has_of_holds (reflects.holds assignment listed)

theorem Given.Reflects.accept (reflects : given.Reflects opened assignments)
    (accepted : given.accept opened option text = .ok later) :
    later.Reflects opened (assignments ++ [⟨option, text⟩]) := by
  obtain ⟨absent, takes, holds, others⟩ := accepts_of_accept accepted
  have fresh : option ∉ assignments.map Assignment.option := by
    rw [← reflects.has_eq_true_iff, absent]
    simp
  refine ⟨?_, ?_, ?_, ?_⟩
  · rw [List.map_append, List.nodup_append]
    refine ⟨reflects.distinct, by simp, ?_⟩
    rintro other member _ appended rfl
    obtain rfl := List.mem_singleton.mp appended
    exact fresh member
  · intro assignment member
    rcases List.mem_append.mp member with earlier | appended
    · exact reflects.takes assignment earlier
    · obtain rfl := List.mem_singleton.mp appended
      exact takes
  · intro assignment member
    rcases List.mem_append.mp member with earlier | appended
    · have different : assignment.option ≠ option := by
        rintro rfl
        exact fresh (List.mem_map_of_mem earlier)
      exact (others _ different).2 _ (reflects.holds assignment earlier)
    · obtain rfl := List.mem_singleton.mp appended
      exact holds
  · intro other present
    rw [List.map_append, List.mem_append]
    by_cases same : other = option
    · exact .inr (by simp [same])
    · rw [(others other same).1] at present
      exact .inl (reflects.has other present)

theorem Given.Reflects.assign (reflects : given.Reflects opened assignments)
    (assigned : given.assign opened further = .ok final) :
    final.Reflects opened (assignments ++ further) := by
  induction further generalizing given assignments with
  | nil =>
      obtain rfl := Except.ok.inj assigned
      rwa [List.append_nil]
  | cons assignment behind inductionHypothesis =>
      obtain ⟨changed, accepted, assigned⟩ := assign_cons.mp assigned
      have step := inductionHypothesis (reflects.accept accepted) assigned
      rwa [List.append_assoc, List.singleton_append] at step

end Assigning

/-- The size that the assignments give to a plot in one direction. -/
inductive HasSize (assignments : List Assignment) (option : ValueOption) (default : Nat) : Nat → Prop
  | given {text : String} {value : Nat} (assigned : ⟨option, text⟩ ∈ assignments)
      (read : IsDimension text.toList value) : HasSize assignments option default value
  | default (missing : option ∉ assignments.map Assignment.option) :
      HasSize assignments option default default

/-- The assignments give each option at most once, name an input that is a file and an output, and
come to these settings. -/
structure Admits (opened : String → Opened) (assignments : List Assignment) (settings : Settings) :
    Prop where
  distinct : (assignments.map Assignment.option).Nodup
  input : ⟨.inputFile, settings.inputFile⟩ ∈ assignments
  readable : ∃ bytes, opened settings.inputFile = .file bytes
  output : ⟨.outputFile, settings.outputFile⟩ ∈ assignments
  named : settings.outputFile ≠ ""
  width : HasSize assignments .width 640 settings.width
  height : HasSize assignments .height 480 settings.height
  logLevel : ⟨.logLevel, settings.logLevel⟩ ∈ assignments ∨
    .logLevel ∉ assignments.map Assignment.option ∧ settings.logLevel = "info"

section Settings

variable {opened : String → Opened} {given : Given} {option : ValueOption}
  {assignments : List Assignment} {settings : Settings}

theorem Admits.takes (admits : Admits opened assignments settings) :
    ∀ assignment ∈ assignments, assignment.option.Takes opened assignment.text := by
  have unique {assignment other : Assignment} (first : assignment ∈ assignments)
      (second : other ∈ assignments) (same : assignment.option = other.option) :
      assignment = other := List.inj_on_of_nodup_map admits.distinct first second same
  have sized {option : ValueOption} {default value : Nat} {text : String}
      (size : HasSize assignments option default value) (member : ⟨option, text⟩ ∈ assignments) :
      IsDimension text.toList value := by
    cases size with
    | given assigned read =>
        cases unique member assigned rfl
        exact read
    | default missing => exact absurd (List.mem_map_of_mem member) missing
  rintro ⟨option, text⟩ member
  cases option with
  | inputFile =>
      cases unique member admits.input rfl
      exact admits.readable
  | outputFile =>
      cases unique member admits.output rfl
      exact admits.named
  | width => exact ⟨settings.width, sized admits.width member⟩
  | height => exact ⟨settings.height, sized admits.height member⟩
  | logLevel => trivial

theorem Given.Reflects.not_mem (reflects : given.Reflects opened assignments)
    (absent : given.has option = false) : option ∉ assignments.map Assignment.option := by
  rw [← reflects.has_eq_true_iff, absent]
  simp

end Settings

end BenchmarkReport.CommandLine
