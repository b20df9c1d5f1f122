/-
This file chooses the directives of a log filter and applies them to events.
-/

import BenchmarkReport.Log.Directive

namespace BenchmarkReport.Log

open Text

namespace Directive

/-- Only inside a span do a span and the values of fields count. No event happens inside one. -/
def countsForEvents (directive : Directive) : Bool :=
  directive.span?.isNone && directive.fields.all (·.value?.isNone)

/-- The target of an event starts with the target of the directive, and the event has all of its
fields. -/
def selects (directive : Directive) (event : Event) : Bool :=
  directive.target?.all (·.isPrefixOf event.target.toList) &&
    directive.fields.all fun field => event.fieldNames.contains (String.ofList field.name)

def fieldNames (directive : Directive) : List (List Char) :=
  directive.fields.map FieldPattern.name

/-- Any target is more specific than none. -/
def targetWeight (directive : Directive) : Nat :=
  directive.target?.elim 0 fun target => target.length + 1

/-- Names are ordered by the numbers of their characters. -/
def nameBefore (first second : List Char) : Bool :=
  List.lex first second fun symbol other => symbol.toNat < other.toNat

/-- A longer target is more specific, and so are more fields. The order of the names of the fields
decides between the others. -/
def yields (first second : Directive) : Bool :=
  if first.targetWeight ≠ second.targetWeight then first.targetWeight < second.targetWeight
  else if first.fields.length ≠ second.fields.length then
    first.fields.length < second.fields.length
  else !List.lex second.fieldNames first.fieldNames nameBefore

/-- The more specific of two directives. Of two equal ones the later counts. -/
def moreSpecific (first? : Option Directive) (second : Directive) : Option Directive :=
  match first? with
  | none => some second
  | some first => if first.yields second then some second else some first

end Directive

/-- A filter has its directives in the order in which they are written. -/
structure Filter where
  directives : List Directive

namespace Filter

/-- The most specific directive that selects an event. -/
def directiveFor? (filter : Filter) (event : Event) : Option Directive :=
  (filter.directives.filter fun directive =>
    directive.countsForEvents && directive.selects event).foldl Directive.moreSpecific none

def passes (filter : Filter) (event : Event) : Bool :=
  (filter.directiveFor? event).any (·.threshold.passes event.level)

def lines (filter : Filter) (events : List Event) : List String :=
  (events.filter filter.passes).map Event.line

/-- The directives of a text stand between its commas. Empty ones are left out. -/
def parts (text : String) : List (List Char) :=
  (split ',' text.toList).filter (!·.isEmpty)

/-- All directives of a text have to be readable. A text without any lets nothing pass. -/
def parseStrict? (text : String) : Option Filter :=
  match (parts text).mapM Directive.parse with
  | .ok directives => some ⟨directives⟩
  | .error _ => none

/-- What is said about a directive that cannot be read. -/
def notice (text : List Char) (fault : DirectiveFault) : String :=
  "ignoring " ++ quote ++ String.ofList text ++ quote ++ ": " ++ fault.message
where
  quote : String := "\x60"

/-- The directives that can be read and the notices about the other ones. -/
def parseLenient (text : String) : Filter × List String :=
  let directives := (parts text).filterMap fun part => (Directive.parse part).toOption
  let notices := (parts text).filterMap fun part =>
    match Directive.parse part with
    | .ok _ => none
    | .error fault => some (notice part fault)
  (⟨directives⟩, notices)

/-- The filter of the environment counts if all of it can be read. The level of the command line
stands in for it otherwise. -/
def choose (environment? : Option String) (level : String) : Filter × List String :=
  match environment?.bind parseStrict? with
  | some filter => (filter, [])
  | none => parseLenient level

end Filter

end BenchmarkReport.Log
