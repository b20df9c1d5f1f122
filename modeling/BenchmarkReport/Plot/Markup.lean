/-
This file writes a drawing as a document of vector graphics.
-/

import BenchmarkReport.Number.Decimal
import BenchmarkReport.Plot.Element
import BenchmarkReport.Text.Lines

namespace BenchmarkReport.Plot

open Number Text

namespace Markup

/-- The characters with a meaning of their own are written as entities. -/
def escapeSymbol : Char → List Char
  | '<' => "&lt;".toList
  | '>' => "&gt;".toList
  | '&' => "&amp;".toList
  | '"' => "&quot;".toList
  | '\'' => "&apos;".toList
  | symbol => [symbol]

def escape (text : List Char) : List Char :=
  text.flatMap escapeSymbol

structure Attribute where
  name : String
  value : List Char

def Attribute.text (part : Attribute) : List Char :=
  ' ' :: part.name.toList ++ ['=', '"'] ++ escape part.value ++ ['"']

/-- A tag that is closed by its own end or by a later tag. -/
inductive Closing
  | own
  | later

def tag (name : String) (attributes : List Attribute) (closing : Closing) : List Char :=
  let ending := match closing with
    | .own => ['/', '>']
    | .later => ['>']
  '<' :: name.toList ++ attributes.flatMap Attribute.text ++ ending

def closingTag (name : String) : List Char :=
  '<' :: '/' :: name.toList ++ ['>']

def constant (name value : String) : Attribute := ⟨name, value.toList⟩

def integer (name : String) (value : Int) : Attribute := ⟨name, integerText value⟩

/-- The fewest digits that read back. -/
def real (name : String) (value : Float) : Attribute :=
  match Extended.ofFloat value with
  | .finite exact => ⟨name, shortestText exact⟩
  | .infinity false => constant name "inf"
  | .infinity true => constant name "-inf"
  | .nan => constant name "NaN"

end Markup

open Markup

/-- A line of text is this much higher than the size in the document. -/
def lineHeight : Float := 1.24

def HorizontalAnchor.name : HorizontalAnchor → String
  | .start => "start"
  | .middle => "middle"
  | .stop => "end"

/-- The distance of the baseline from the position of the text. -/
def VerticalAnchor.shift : VerticalAnchor → String
  | .top => "0.76em"
  | .center => "0.5ex"
  | .bottom => "-0.5ex"

def Turn.degrees? : Turn → Option Int
  | .upright => none
  | .quarterRight => some 90
  | .quarterLeft => some 270

def Weight.opacity : Weight → String
  | .light => "0.1"
  | .bold => "0.2"

def pairText (pixel : Pixel) (separator : String) : List Char :=
  integerText pixel.x ++ separator.toList ++ integerText pixel.y

namespace Caption

/-- The attribute that turns a text, if it is turned. -/
def turnAttributes (caption : Caption) : List Attribute :=
  match caption.turn.degrees? with
  | none => []
  | some degrees =>
    [⟨"transform", "rotate(".toList ++ integerText degrees ++ ", ".toList ++
      pairText caption.position ", " ++ [')']⟩]

def attributes (caption : Caption) : List Attribute :=
  [integer "x" caption.position.x, integer "y" caption.position.y,
    constant "dy" caption.vertical.shift, constant "text-anchor" caption.horizontal.name,
    constant "font-family" "sans-serif",
    real "font-size" (Float.ofInt caption.size / lineHeight), constant "opacity" "1",
    constant "fill" "#000000"] ++ caption.turnAttributes

end Caption

namespace Element

/-- The lines of the document that show an element. A text stands between its tags. -/
def lines : Element → List (List Char)
  | .background width height =>
    [tag "rect" [integer "x" 0, integer "y" 0, integer "width" width, integer "height" height,
      constant "opacity" "1", constant "fill" "#FFFFFF", constant "stroke" "none"] .own]
  | .gridLine weight first second =>
    [tag "line" [constant "opacity" weight.opacity, constant "stroke" "#000000",
      constant "stroke-width" "1", integer "x1" first.x, integer "y1" first.y,
      integer "x2" second.x, integer "y2" second.y] .own]
  | .stroke first second =>
    [tag "polyline" [constant "fill" "none", constant "opacity" "1", constant "stroke" "#000000",
      constant "stroke-width" "1",
      ⟨"points", [first, second].flatMap fun pixel => pairText pixel "," ++ [' ']⟩] .own]
  | .caption label =>
    [tag "text" label.attributes .later, escape label.content, closingTag "text"]
  | .dot center =>
    [tag "circle" [integer "cx" center.x, integer "cy" center.y, integer "r" 3,
      constant "opacity" "1", constant "fill" "#000000", constant "stroke" "none",
      constant "stroke-width" "1"] .own]

end Element

namespace Drawing

/-- The tag in front of all elements names the size of the drawing. -/
def openingTag (drawing : Drawing) : List Char :=
  let size := digits drawing.width ++ ' ' :: digits drawing.height
  tag "svg" [integer "width" drawing.width, integer "height" drawing.height,
    ⟨"viewBox", "0 0 ".toList ++ size⟩, constant "xmlns" "http://www.w3.org/2000/svg"] .later

def document (drawing : Drawing) : List Char :=
  unlines
    (drawing.openingTag :: drawing.elements.flatMap Element.lines ++ [closingTag "svg"])

end Drawing

end BenchmarkReport.Plot
