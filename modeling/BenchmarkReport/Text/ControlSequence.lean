/-
This file removes from a text what a terminal would take as a command: control characters, and the
sequences that an escape character starts.
-/

namespace BenchmarkReport.Text

/-- The part of a control sequence that has been read. A control string may be for the device, for
the operating system, or for nobody. -/
inductive ControlState
  | ground
  | escape
  | escapeIntermediate
  | sequenceStart
  | parameters
  | intermediates
  | ignoredSequence
  | deviceStart
  | deviceParameters
  | deviceIntermediates
  | ignoredDevice
  | deviceString
  | systemString
  | otherString
  deriving DecidableEq, Repr

namespace ControlState

/-- The state after the character that follows an escape character. -/
def afterEscape (code : Nat) : ControlState :=
  if code ≤ 0x1F ∨ code = 0x7F then .escape
  else if code ≤ 0x2F then .escapeIntermediate
  else if code = 0x5B then .sequenceStart
  else if code = 0x5D then .systemString
  else if code = 0x50 then .deviceStart
  else if code = 0x58 ∨ code = 0x5E ∨ code = 0x5F then .otherString
  else .ground

/-- A control sequence has parameters, then intermediates, and ends with a letter or the like. One
that has them in another order is ignored up to its end. -/
def afterSequence (state : ControlState) (code : Nat) : ControlState :=
  if code ≤ 0x1F ∨ code = 0x7F then state
  else if 0x40 ≤ code then .ground
  else
    match state with
    | .sequenceStart => if code ≤ 0x2F then .intermediates else .parameters
    | .parameters =>
      if code ≤ 0x2F then .intermediates
      else if code ≤ 0x3B then .parameters
      else .ignoredSequence
    | .intermediates => if code ≤ 0x2F then .intermediates else .ignoredSequence
    | _ => .ignoredSequence

/-- What is written to a device starts in the form of a control sequence. -/
def afterDevice (state : ControlState) (code : Nat) : ControlState :=
  if code ≤ 0x1F ∨ code = 0x7F then state
  else if 0x40 ≤ code then .deviceString
  else
    match state with
    | .deviceStart => if code ≤ 0x2F then .deviceIntermediates else .deviceParameters
    | .deviceParameters =>
      if code ≤ 0x2F then .deviceIntermediates
      else if code ≤ 0x3B then .deviceParameters
      else .ignoredDevice
    | _ => if code ≤ 0x2F then .deviceIntermediates else .ignoredDevice

/-- The state after a character of one byte. Some characters end every sequence. -/
def next (state : ControlState) (code : Nat) : ControlState :=
  if code = 0x1B then .escape
  else if code = 0x18 ∨ code = 0x1A then .ground
  else
    match state with
    | .escape => afterEscape code
    | .escapeIntermediate =>
      if code ≤ 0x2F ∨ code = 0x7F then .escapeIntermediate else .ground
    | .sequenceStart | .parameters | .intermediates | .ignoredSequence => state.afterSequence code
    | .deviceStart | .deviceParameters | .deviceIntermediates => state.afterDevice code
    | .systemString => if code = 7 then .ground else .systemString
    | _ => state

/-- Line ends and the like within a sequence are obeyed at once, but not within a string. -/
def obeysControls : ControlState → Bool
  | .ground | .escape | .escapeIntermediate => true
  | .sequenceStart | .parameters | .intermediates | .ignoredSequence => true
  | _ => false

/-- A byte of a longer character can be the one that ends a string. -/
def afterLonger (state : ControlState) (symbol : Char) : ControlState :=
  match state with
  | .ignoredDevice | .deviceString | .otherString =>
    if (String.utf8EncodeChar symbol).contains 0x9C then .ground else state
  | _ => state

end ControlState

/-- Tabs and ends of lines and pages are shown. -/
def isShownControl (symbol : Char) : Bool :=
  symbol == '\t' || symbol == '\n' || symbol == '\r' || symbol.toNat == 0x0C

/-- These characters are shown where no sequence is being read. -/
def isShown (symbol : Char) : Bool :=
  isShownControl symbol || (0x20 ≤ symbol.toNat && symbol.toNat ≤ 0x7E)

/-- What is shown of a text. Text that is being shown goes on up to the next control character, in
whatever state it was met. -/
def shownFrom (showing : Bool) (state : ControlState) : List Char → List Char
  | [] => []
  | symbol :: rest =>
    if 0x80 ≤ symbol.toNat then
      if showing || state == .ground then symbol :: shownFrom true .ground rest
      else shownFrom false (state.afterLonger symbol) rest
    else if showing && isShown symbol then symbol :: shownFrom true state rest
    else
      let shown := if state == .ground then isShown symbol
        else state.obeysControls && isShownControl symbol
      let later := state.next symbol.toNat
      if shown then symbol :: shownFrom true later rest else shownFrom false later rest

/-- A text without control sequences. -/
def dropControls (text : List Char) : List Char :=
  shownFrom false .ground text

end BenchmarkReport.Text
