/-
This file reads the directives of a log filter.
-/

import BenchmarkReport.Log.Event
import BenchmarkReport.Log.Pattern
import BenchmarkReport.Number.Reading
import BenchmarkReport.Text.Alphanumeric
import BenchmarkReport.Text.Blank
import BenchmarkReport.Text.Split

namespace BenchmarkReport.Log

open Number Text

/-- A field may have to have a certain value. -/
structure FieldPattern where
  name : List Char
  value? : Option (List Char)
  deriving DecidableEq, Repr

/-- A directive sets the threshold for some events: those of a target, within a span, with some
fields. -/
structure Directive where
  threshold : Threshold := some .trace
  target? : Option (List Char) := none
  span? : Option (List Char) := none
  fields : List FieldPattern := []
  deriving DecidableEq, Repr

inductive DirectiveFault
  | level
  | form
  | value (fault : PatternFault)
  deriving DecidableEq, Repr

def DirectiveFault.message : DirectiveFault → String
  | .level => "error parsing level filter: expected one of \"off\", \"error\", \"warn\", " ++
      "\"info\", \"debug\", \"trace\", or a number 0-5"
  | .form => "invalid filter directive"
  | .value fault => "invalid field filter: " ++ fault.message

/-- The numbers of the thresholds start with the one that nothing passes. -/
def thresholdOfNumber? (number : Nat) : Option Threshold :=
  (none :: Level.all.map some)[number]?

/-- A plus sign may stand in front of a number. -/
def readThresholdNumber? : List Char → Option Threshold
  | '+' :: digits => (readNatural? digits).bind thresholdOfNumber?
  | digits => (readNatural? digits).bind thresholdOfNumber?

/-- The name of a threshold in any case of letters. -/
def readThresholdName? (text : List Char) : Option Threshold :=
  let lowered := text.map Char.toLower
  if lowered = "off".toList then some none
  else (Level.all.find? fun level => level.name.toList.map Char.toLower == lowered).map some

def readThreshold? (text : List Char) : Option Threshold :=
  (readThresholdNumber? text).or (readThresholdName? text)

/-- A truth value or a number stands for itself. -/
def isPlainValue (text : List Char) : Bool :=
  text == "true".toList || text == "false".toList || (readReal? text).isSome

/-- All other values have to be patterns. -/
def valueFault? (text : List Char) : Option PatternFault :=
  if isPlainValue text then none else Pattern.fault? text

/-- A name with an optional value after an equals sign. What follows a second one is left out. -/
def readField (text : List Char) : Except DirectiveFault FieldPattern :=
  match split '=' text with
  | name :: value :: _ =>
    match valueFault? value with
    | none => .ok ⟨name, some value⟩
    | some fault => .error (.value fault)
  | _ => .ok ⟨text, none⟩

/-- The part of a directive that is being read, with the position at which it started. -/
inductive DirectivePart
  | nothing
  | levelOrTarget (start : Nat)
  | span (start : Nat)
  | field (start : Nat)
  | fields
  | target
  | level (start : Nat)
  deriving DecidableEq, Repr

structure DirectiveState where
  part : DirectivePart
  directive : Directive

/-- These characters or a letter or number may come first. -/
def startsTarget (symbol : Char) : Bool :=
  symbol == '-' || symbol == ':' || symbol == '_' || isAlphanumeric symbol

/-- The characters that the first bytes of a text belong to. -/
def takeBytes : Nat → List Char → List Char
  | 0, _ => []
  | _, [] => []
  | count, symbol :: rest => symbol :: takeBytes (count - symbol.utf8Size) rest

def dropBytes : Nat → List Char → List Char
  | 0, text => text
  | _, [] => []
  | count, symbol :: rest => dropBytes (count - symbol.utf8Size) rest

/-- The text from one position to another. Positions count bytes. -/
def slice (text : List Char) (start stop : Nat) : List Char :=
  dropBytes start (takeBytes stop text)

namespace DirectiveState

def initial : DirectiveState := ⟨.nothing, {}⟩

/-- The state after the character at a position. The parts are cut out of the whole text. -/
def next (text : List Char) (state : DirectiveState) (position : Nat) (symbol : Char) :
    Except DirectiveFault DirectiveState :=
  let directive := state.directive
  match state.part with
  | .nothing =>
    if symbol = '[' then .ok ⟨.span (position + 1), directive⟩
    else if startsTarget symbol then .ok ⟨.levelOrTarget position, directive⟩
    else .error .form
  | .levelOrTarget start =>
    let named := { directive with target? := some (slice text start position) }
    if symbol = '=' then .ok ⟨.level (position + 1), named⟩
    else if symbol = '[' then .ok ⟨.span (position + 1), named⟩
    else .ok state
  | .span start =>
    let name := slice text start position
    if symbol = ']' then .ok ⟨.target, { directive with span? := some name }⟩
    else if symbol = '\x7b' then
      let span? := if name.isEmpty then none else some name
      .ok ⟨.field (position + 1), { directive with span? }⟩
    else .ok state
  | .field start =>
    if symbol = '\x7d' then
      let pattern := slice text start position
      if pattern.isEmpty then .error .form
      else do
        let field ← readField pattern
        return ⟨.fields, { directive with fields := directive.fields ++ [field] }⟩
    else .ok state
  | .fields => if symbol = ']' then .ok ⟨.target, directive⟩ else .error .form
  | .target => if symbol = '=' then .ok ⟨.level (position + 1), directive⟩ else .error .form
  | .level _ => .ok state

/-- A lone word is a level if it names one, and a target otherwise. -/
def finish (text : List Char) (state : DirectiveState) : Except DirectiveFault Directive :=
  let directive := state.directive
  match state.part with
  | .levelOrTarget start =>
    let word := dropBytes start text
    match readThreshold? word with
    | some threshold => .ok { directive with threshold, target? := none }
    | none => .ok { directive with threshold := some .trace, target? := some word }
  | .level start =>
    let word := dropBytes start text
    if word.isEmpty then .ok { directive with threshold := some .trace }
    else
      match readThreshold? word with
      | some threshold => .ok { directive with threshold }
      | none => .error .level
  | .target => .ok directive
  | _ => .error .form

/-- The state after some characters, the first of which is at the given position. -/
def run (text : List Char) : DirectiveState → Nat → List Char →
    Except DirectiveFault DirectiveState
  | state, _, [] => .ok state
  | state, position, symbol :: later => do
    run text (← state.next text position symbol) (position + symbol.utf8Size) later

end DirectiveState

/-- Blanks around a directive are skipped, but the positions of its parts count from the first
character of the text. -/
def Directive.parse (text : List Char) : Except DirectiveFault Directive := do
  (← DirectiveState.initial.run text 0 (trim text)).finish text

end BenchmarkReport.Log
