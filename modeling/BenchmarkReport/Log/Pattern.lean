/-
This file says which texts are patterns that the value of a field can be compared with. A pattern
is read in one pass, which keeps the groups and classes that are still open.
-/

import BenchmarkReport.Text.Alphanumeric
import BenchmarkReport.Text.Blank

namespace BenchmarkReport.Log

open Text

/-- A text may be no pattern, or a pattern that looks for the ends of words of all scripts, which
cannot be compared. -/
inductive PatternFault
  | malformed
  | wordBoundary
  deriving DecidableEq, Repr

def PatternFault.message : PatternFault → String
  | .malformed => "error building NFA"
  | .wordBoundary =>
    "unsupported regex feature for DFAs: cannot build DFAs for regexes with Unicode word " ++
      "boundaries; switch to ASCII word boundaries, or heuristically enable Unicode word " ++
      "boundaries or use a different regex engine"

namespace Pattern

/-- Where characters of all scripts do not count, a pattern must not ask for a byte of one. In a
verbose pattern blanks and comments say nothing. -/
structure Mode where
  unicode : Bool := true
  verbose : Bool := false
  deriving DecidableEq, Repr

/-- The text after blanks and comments. A comment ends with its line. -/
def skipSilent : Bool → List Char → List Char
  | _, [] => []
  | true, symbol :: rest => skipSilent (symbol != '\n') rest
  | false, symbol :: rest =>
    if isBlank symbol then skipSilent false rest
    else if symbol = '#' then skipSilent true rest
    else symbol :: rest

def Mode.skip (mode : Mode) (text : List Char) : List Char :=
  if mode.verbose then skipSilent false text else text

/-- The first character that is neither a blank nor the sign of a first comment. -/
def firstLoud? : Bool → List Char → Option Char
  | _, [] => none
  | commented, symbol :: rest =>
    if isBlank symbol then firstLoud? commented rest
    else if !commented && symbol == '#' then firstLoud? true rest
    else some symbol

def Mode.peek? (mode : Mode) (text : List Char) : Option Char :=
  if mode.verbose then (firstLoud? false text).or text.head? else text.head?

/-- A backslash and what follows it stand for a character, for a class, or for a place in the
text. -/
inductive Escape
  | literal (code : Nat) (isByte : Bool)
  | letterClass (negated : Bool)
  | property
  | place (isWordBoundary : Bool)
  deriving DecidableEq, Repr

def hexDigit? (symbol : Char) : Option Nat :=
  if '0' ≤ symbol && symbol ≤ '9' then some (symbol.toNat - '0'.toNat)
  else if 'a' ≤ symbol && symbol ≤ 'f' then some (symbol.toNat - 'a'.toNat + 10)
  else if 'A' ≤ symbol && symbol ≤ 'F' then some (symbol.toNat - 'A'.toNat + 10)
  else none

/-- The number with so many digits. Blanks may stand after each of them in a verbose pattern. -/
def readHex? (mode : Mode) (value : Nat) : Nat → List Char → Option (Nat × List Char)
  | 0, text => some (value, text)
  | _ + 1, [] => none
  | count + 1, symbol :: rest => do
    let digit ← hexDigit? symbol
    readHex? mode (16 * value + digit) count (mode.skip rest)

def readHexEscape? (mode : Mode) (count : Nat) (text : List Char) :
    Option (Escape × List Char) := do
  let (code, rest) ← readHex? mode 0 count (mode.skip text)
  if Nat.isValidChar code then some (.literal code (count == 2), rest) else none

/-- A property is named by one letter. -/
def readProperty? (mode : Mode) (text : List Char) : Option (Escape × List Char) :=
  match mode.skip text with
  | [] => none
  | symbol :: rest =>
    if mode.unicode && symbol.toLower ∈ ['c', 'l', 'm', 'n', 'p', 's', 'z'] then
      some (.property, mode.skip rest)
    else none

/-- A sign stands for itself after a backslash. A letter or digit has to have a meaning there. -/
def readEscape? (mode : Mode) : List Char → Option (Escape × List Char)
  | [] => none
  | symbol :: rest =>
    if symbol = 'x' then readHexEscape? mode 2 rest
    else if symbol = 'u' then readHexEscape? mode 4 rest
    else if symbol = 'U' then readHexEscape? mode 8 rest
    else if symbol = 'p' ∨ symbol = 'P' then readProperty? mode rest
    else if symbol ∈ ['d', 's', 'w'] then some (.letterClass false, rest)
    else if symbol ∈ ['D', 'S', 'W'] then
      if mode.unicode then some (.letterClass true, rest) else none
    else if symbol = 'a' then some (.literal 7 false, rest)
    else if symbol = 't' then some (.literal 9 false, rest)
    else if symbol = 'n' then some (.literal 10 false, rest)
    else if symbol = 'v' then some (.literal 11 false, rest)
    else if symbol = 'f' then some (.literal 12 false, rest)
    else if symbol = 'r' then some (.literal 13 false, rest)
    else if symbol ∈ ['A', 'z'] then some (.place false, rest)
    else if symbol ∈ ['b', 'B', '<', '>'] then some (.place true, rest)
    else if symbol.toNat < 128 && !symbol.isAlphanum then
      some (.literal symbol.toNat false, rest)
    else none

/-- What a class holds, for the depth of the pattern. Only bytes of longer characters tell whether
a class is of use where characters of all scripts do not count: it holds all of them or none. -/
structure ClassPart where
  height : Nat := 0
  high : Bool := false

inductive SetOperation
  | intersection
  | difference
  | symmetricDifference
  deriving DecidableEq, Repr

def SetOperation.apply (operation : SetOperation) (first second : Bool) : Bool :=
  match operation with
  | .intersection => first && second
  | .difference => first && !second
  | .symmetricDifference => first != second

/-- A class that is not closed yet: an operation that waits for its second operand, and the parts
of that operand so far. -/
structure OpenClass where
  negated : Bool
  waiting? : Option (SetOperation × ClassPart) := none
  parts : List ClassPart := []

namespace OpenClass

def add (started : OpenClass) (part : ClassPart) : OpenClass :=
  { started with parts := part :: started.parts }

/-- The union of the parts. -/
def union (started : OpenClass) : ClassPart :=
  match started.parts with
  | [] => {}
  | [part] => part
  | parts =>
    { height := (parts.map ClassPart.height).foldl max 0 + 1
      high := parts.any ClassPart.high }

def operand (started : OpenClass) : ClassPart :=
  match started.waiting? with
  | none => started.union
  | some (operation, first) =>
    { height := max first.height started.union.height + 1
      high := operation.apply first.high started.union.high }

/-- The operations are done from left to right. -/
def operate (started : OpenClass) (operation : SetOperation) : OpenClass :=
  { started with waiting? := some (operation, started.operand), parts := [] }

def close? (mode : Mode) (started : OpenClass) : Option ClassPart :=
  let high := started.operand.high != started.negated
  if high && !mode.unicode then none else some { height := started.operand.height + 1, high }

end OpenClass

def minusSigns (mode : Mode) : Nat → OpenClass → List Char → OpenClass × List Char
  | fuel + 1, started, '-' :: rest => minusSigns mode fuel (started.add {}) (mode.skip rest)
  | _, started, text => (started, text)

/-- The start of a class, after its bracket. Minus signs and a closing bracket stand for themselves
there. -/
def openClass (mode : Mode) (text : List Char) : OpenClass × List Char :=
  let (started, rest) : OpenClass × List Char :=
    match mode.skip text with
    | '^' :: rest => ({ negated := true }, mode.skip rest)
    | rest => ({ negated := false }, rest)
  let (filled, rest) := minusSigns mode text.length started rest
  match filled.parts, rest with
  | [], ']' :: later => (filled.add {}, mode.skip later)
  | _, _ => (filled, rest)

def namedClasses : List String :=
  ["alnum", "alpha", "ascii", "blank", "cntrl", "digit", "graph", "lower", "print", "punct",
    "space", "upper", "word", "xdigit"]

/-- A named class, after its bracket. -/
def readNamedClass? : List Char → Option (ClassPart × List Char)
  | ':' :: text =>
    let (negated, rest) : Bool × List Char :=
      match text with
      | '^' :: rest => (true, rest)
      | rest => (false, rest)
    match rest.dropWhile (· != ':') with
    | ':' :: ']' :: later =>
      if namedClasses.contains (.ofList (rest.takeWhile (· != ':'))) then
        some ({ high := negated }, later)
      else none
    | _ => none
  | _ => none

/-- A character or what an escape stands for. -/
def readClassItem? (mode : Mode) : List Char → Option (Escape × List Char)
  | [] => none
  | '\\' :: rest => readEscape? mode rest
  | symbol :: rest => some (.literal symbol.toNat false, rest)

/-- A character that may stand in a class. -/
def classLiteral? (mode : Mode) : Escape → Option Nat
  | .literal code _ => if mode.unicode || code < 128 then some code else none
  | _ => none

def classPart? (mode : Mode) : Escape → Option ClassPart
  | .place _ => none
  | .literal code isByte => (classLiteral? mode (.literal code isByte)).map fun _ => {}
  | _ => some {}

/-- An item, or a range between two characters in ascending order. -/
def readClassRange? (mode : Mode) (text : List Char) : Option (ClassPart × List Char) := do
  let (first, rest) ← readClassItem? mode text
  match mode.skip rest with
  | [] => none
  | '-' :: later =>
    if mode.peek? later = some ']' ∨ mode.peek? later = some '-' then
      return (← classPart? mode first, '-' :: later)
    else
      let (second, rest) ← readClassItem? mode (mode.skip later)
      let least ← classLiteral? mode first
      let greatest ← classLiteral? mode second
      if least ≤ greatest then some ({}, rest) else none
  | other => return (← classPart? mode first, other)

/-- The rest of a class within its outer classes, the innermost first. -/
def readClass? (mode : Mode) : Nat → OpenClass → List OpenClass → List Char →
    Option (ClassPart × List Char)
  | 0, _, _, _ => none
  | fuel + 1, started, outer, text =>
    match mode.skip text with
    | [] => none
    | '[' :: rest =>
      match readNamedClass? rest with
      | some (part, later) => readClass? mode fuel (started.add part) outer later
      | none =>
        let (inner, later) := openClass mode rest
        readClass? mode fuel inner (started :: outer) later
    | ']' :: rest =>
      match started.close? mode, outer with
      | none, _ => none
      | some part, [] => some (part, rest)
      | some part, next :: others => readClass? mode fuel (next.add part) others rest
    | '&' :: '&' :: rest => readClass? mode fuel (started.operate .intersection) outer rest
    | '-' :: '-' :: rest => readClass? mode fuel (started.operate .difference) outer rest
    | '~' :: '~' :: rest =>
      readClass? mode fuel (started.operate .symmetricDifference) outer rest
    | other => do
      let (part, later) ← readClassRange? mode other
      readClass? mode fuel (started.add part) outer later

/-- The options between the question mark and the end of a list of options. The sign that switches
the options after it off is an option too. None is named twice. -/
def readOptions? (seen : List Char) : List Char → Option (List Char × List Char)
  | [] => none
  | symbol :: rest =>
    if symbol = ':' ∨ symbol = ')' then
      if seen.head? = some '-' then none else some (seen.reverse, symbol :: rest)
    else if symbol ∈ ['-', 'i', 'm', 's', 'U', 'u', 'R', 'x'] ∧ symbol ∉ seen then
      readOptions? (symbol :: seen) rest
    else none

/-- The state of an option. An option that is not named keeps its state. -/
def optionState (name : Char) (options : List Char) (before : Bool) : Bool :=
  if name ∈ options.takeWhile (· != '-') then true
  else if name ∈ options then false
  else before

def Mode.set (mode : Mode) (options : List Char) : Mode :=
  { unicode := optionState 'u' options mode.unicode
    verbose := optionState 'x' options mode.verbose }

/-- The start of a group, or a change of the options. -/
inductive Opening
  | group (mode : Mode) (name? : Option (List Char))
  | change (mode : Mode)

def startsName (symbol : Char) : Bool :=
  symbol == '_' || isAlphabetic symbol

def continuesName (symbol : Char) : Bool :=
  symbol == '_' || symbol == '.' || symbol == '[' || symbol == ']' || isAlphanumeric symbol

/-- The name of a group, up to the angle that closes it. -/
def readName? (text : List Char) : Option (List Char × List Char) :=
  match text.takeWhile (· != '>'), text.dropWhile (· != '>') with
  | first :: others, _ :: rest =>
    if startsName first && others.all continuesName then some (first :: others, rest) else none
  | _, _ => none

/-- What follows the parenthesis that opens a group. There is no looking ahead or behind. -/
def readOpening? (mode : Mode) (text : List Char) : Option (Opening × List Char) :=
  let named (rest : List Char) : Option (Opening × List Char) := do
    let (name, later) ← readName? rest
    return (.group mode (some name), later)
  match mode.skip text with
  | '?' :: '=' :: _ => none
  | '?' :: '!' :: _ => none
  | '?' :: '<' :: '=' :: _ => none
  | '?' :: '<' :: '!' :: _ => none
  | '?' :: 'P' :: '<' :: rest => named rest
  | '?' :: '<' :: rest => named rest
  | '?' :: rest =>
    match readOptions? [] rest with
    | some (options, ':' :: later) => some (.group (mode.set options) none, later)
    | some (first :: others, ')' :: later) => some (.change (mode.set (first :: others)), later)
    | _ => none
  | rest => some (.group mode none, rest)

/-- A change of options is no item that can be repeated. The others have a height. -/
abbrev Item := Option Nat

/-- The alternatives of a group: the last one, item by item from its end, and the heights of the
others. -/
structure Alternatives where
  items : List Item := []
  earlier : List Nat := []

namespace Alternatives

def itemHeight (item : Item) : Nat := item.getD 0

def lastHeight (alternatives : Alternatives) : Nat :=
  match alternatives.items with
  | [] => 0
  | [item] => itemHeight item
  | items => (items.map itemHeight).foldl max 0 + 1

def height (alternatives : Alternatives) : Nat :=
  match alternatives.earlier with
  | [] => alternatives.lastHeight
  | heights => heights.foldl max alternatives.lastHeight + 1

def add (alternatives : Alternatives) (item : Item) : Alternatives :=
  { alternatives with items := item :: alternatives.items }

def next (alternatives : Alternatives) : Alternatives :=
  { items := [], earlier := alternatives.lastHeight :: alternatives.earlier }

/-- Only an item can be repeated. -/
def repeat? (alternatives : Alternatives) : Option Alternatives :=
  match alternatives.items with
  | some height :: others => some { alternatives with items := some (height + 1) :: others }
  | _ => none

end Alternatives

/-- A group that is not closed yet, and the options outside of it. -/
structure OpenGroup where
  mode : Mode
  alternatives : Alternatives

/-- What has been read of a pattern. -/
structure State where
  mode : Mode := {}
  alternatives : Alternatives := {}
  outer : List OpenGroup := []
  names : List (List Char) := []
  hasWordBoundary : Bool := false

namespace State

def add (state : State) (item : Item) : State :=
  { state with alternatives := state.alternatives.add item }

def openGroup? (state : State) : Opening → Option State
  | .change mode => some { state.add none with mode }
  | .group mode name? =>
    if name?.any state.names.contains then none
    else some { state with
      mode
      alternatives := {}
      outer := ⟨state.mode, state.alternatives⟩ :: state.outer
      names := name?.toList ++ state.names }

def closeGroup? (state : State) : Option State :=
  match state.outer with
  | [] => none
  | group :: others =>
    some { state with
      mode := group.mode
      alternatives := group.alternatives.add (some (state.alternatives.height + 1))
      outer := others }

def escape? (state : State) : Escape → Option State
  | .literal code isByte =>
    if isByte && 128 ≤ code && !state.mode.unicode then none else some (state.add (some 0))
  | .place isWordBoundary =>
    some { state.add (some 0) with
      hasWordBoundary := state.hasWordBoundary || (isWordBoundary && state.mode.unicode) }
  | _ => some (state.add (some 0))

/-- A sign that asks for few repetitions may follow the sign of a repetition. -/
def repeat? (state : State) (text : List Char) : Option (State × List Char) := do
  let alternatives ← state.alternatives.repeat?
  let rest := match text with
    | '?' :: later => later
    | other => other
  return ({ state with alternatives }, rest)

/-- One step takes at least one character. There are no repetitions with a count, because the brace
that ends one also ends the value of a field. -/
def step? (state : State) : List Char → Option (State × List Char)
  | [] => none
  | symbol :: rest =>
    if symbol = '(' then do
      let (opening, later) ← readOpening? state.mode rest
      return (← state.openGroup? opening, later)
    else if symbol = ')' then state.closeGroup?.map (·, rest)
    else if symbol = '|' then
      some ({ state with alternatives := state.alternatives.next }, rest)
    else if symbol = '[' then do
      let (started, later) := openClass state.mode rest
      let (part, last) ← readClass? state.mode (rest.length + 1) started [] later
      return (state.add (some part.height), last)
    else if symbol = '?' ∨ symbol = '*' ∨ symbol = '+' then state.repeat? rest
    else if symbol = '\x7b' then none
    else if symbol = '\\' then do
      let (escape, later) ← readEscape? state.mode rest
      return (← state.escape? escape, later)
    else if symbol = '.' ∧ !state.mode.unicode then none
    else some (state.add (some 0), rest)

def read? : Nat → State → List Char → Option State
  | 0, _, _ => none
  | fuel + 1, state, text =>
    match state.mode.skip text with
    | [] => some state
    | rest => do
      let (next, later) ← state.step? rest
      next.read? fuel later

end State

/-- A pattern is not nested deeper than this. -/
def greatestHeight : Nat := 250

/-- Why a text is no pattern of use, if it is none. -/
def fault? (text : List Char) : Option PatternFault :=
  match State.read? (text.length + 1) {} text with
  | none => some .malformed
  | some state =>
    if !state.outer.isEmpty || greatestHeight < state.alternatives.height then some .malformed
    else if state.hasWordBoundary then some .wordBoundary
    else none

end Pattern

end BenchmarkReport.Log
