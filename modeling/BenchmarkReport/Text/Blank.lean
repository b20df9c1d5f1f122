/-
This file says which characters count as blank and removes them from the ends of a text.
-/

namespace BenchmarkReport.Text

/-- These characters are the white space of Unicode. -/
def isBlank (symbol : Char) : Bool :=
  let code := symbol.toNat
  (0x9 ≤ code && code ≤ 0xD) || code == 0x20 || code == 0x85 || code == 0xA0 || code == 0x1680 ||
    (0x2000 ≤ code && code ≤ 0x200A) || code == 0x2028 || code == 0x2029 || code == 0x202F ||
    code == 0x205F || code == 0x3000

def trimStart (text : List Char) : List Char :=
  text.dropWhile isBlank

def trimEnd (text : List Char) : List Char :=
  (text.reverse.dropWhile isBlank).reverse

def trim (text : List Char) : List Char :=
  trimEnd (trimStart text)

/-- A blank line holds nothing but white space. -/
def isBlankLine (line : List Char) : Bool :=
  line.all isBlank

theorem isBlankLine_append (first second : List Char) :
    isBlankLine (first ++ second) = (isBlankLine first && isBlankLine second) := by
  simp [isBlankLine]

theorem isBlank_carriageReturn : isBlank '\r' = true := by decide

end BenchmarkReport.Text
