/-
This file measures a text in places of a terminal. A character may take more or less room because
of the text after it, so a text is measured from its end.
-/

import BenchmarkReport.Text.Ranges
import BenchmarkReport.Text.WidthRanges

namespace BenchmarkReport.Text

/-- Letters that may join a letter before them although other characters stand between the two. -/
inductive Ligature
  | lamed
  | buginese
  | bugineseVowel
  | tifinagh
  | tifinaghJoiner
  | lisu
  | turkic
  | khmer
  deriving DecidableEq, Repr

/-- A symbol may join what follows it. This is what the text after the symbol starts with. A
ligature may start with a joiner in front of its letter. Tags are counted. -/
inductive Join
  | plain
  | lineFeed
  | skinTone
  | picture
  | joinedPicture
  | joinedKeycap
  | regional
  | regionals
  | joinedRegional
  | joinedRegionals (odd : Bool)
  | tagLetters (count : Nat)
  | tagDigits (count : Nat)
  | kiratE
  | kiratAi
  | alef
  | ligature (letter : Ligature) (joined : Bool)
  deriving DecidableEq, Repr

/-- The text after a symbol may start with selectors that have not been used so far. -/
structure Following where
  join : Join
  pictureSelector : Bool
  textSelector : Bool
  quoteSelector : Bool
  deriving DecidableEq, Repr

def Following.of (join : Join) : Following := ⟨join, false, false, false⟩

/-- A selector does not hide these letters. -/
def Join.outlastsSelectors : Join → Bool
  | .alef => true
  | .ligature _ _ => true
  | _ => false

def Join.isJoinedPicture : Join → Bool
  | .joinedPicture => true
  | .joinedKeycap => true
  | _ => false

def Following.selectPicture (following : Following) : Following :=
  if following.join.outlastsSelectors || following.join.isJoinedPicture then
    { following with pictureSelector := true }
  else ⟨.plain, true, false, false⟩

def Following.selectText (following : Following) : Following :=
  if following.join.outlastsSelectors then { following with textSelector := true }
  else ⟨.plain, false, true, false⟩

def Following.selectQuote (following : Following) : Following :=
  if following.join.outlastsSelectors then { following with quoteSelector := true }
  else ⟨.plain, false, false, true⟩

/-- What is left where no symbol in front takes the selector. -/
def Following.dropPictureSelector (following : Following) : Following :=
  if !following.pictureSelector then following
  else if following.join.outlastsSelectors then { following with pictureSelector := false }
  else .of .plain

def Following.dropOtherSelector (following : Following) : Following :=
  if following.textSelector then { following with textSelector := false }
  else { following with quoteSelector := false }

def isRegional (symbol : Char) : Bool :=
  0x1F1E6 ≤ symbol.toNat && symbol.toNat ≤ 0x1F1FF

def isSkinTone (symbol : Char) : Bool :=
  0x1F3FB ≤ symbol.toNat && symbol.toNat ≤ 0x1F3FF

def isPicture (symbol : Char) : Bool :=
  inRanges pictureRanges symbol

/-- These pictures become text before a selector. Squared ideographs do not. -/
def becomesText (symbol : Char) : Bool :=
  inRanges selectableRanges symbol && isPicture symbol &&
    !(0x1F200 ≤ symbol.toNat && symbol.toNat ≤ 0x1F2FF)

def isCurvedQuote (symbol : Char) : Bool :=
  symbol.toNat ∈ [0x2018, 0x2019, 0x201C, 0x201D]

def isTagLetter (symbol : Char) : Bool :=
  0xE0061 ≤ symbol.toNat && symbol.toNat ≤ 0xE007A

def isTagDigit (symbol : Char) : Bool :=
  0xE0030 ≤ symbol.toNat && symbol.toNat ≤ 0xE0039

def isTransparent (symbol : Char) : Bool :=
  inRanges zeroWidthRanges symbol && !inRanges opaqueRanges symbol

/-- A character that joins nothing, and what it is for the characters before it. -/
def placeAlone (symbol : Char) : Int × Following :=
  let code := symbol.toNat
  if code = 0x5DC then (1, .of (.ligature .lamed false))
  else if inRanges alefRanges symbol then (1, .of .alef)
  else if inRanges khmerRanges symbol then (1, .of (.ligature .khmer true))
  else if code = 0x17D8 then (3, .of .plain)
  else if code = 0x17A4 then (2, .of .plain)
  else if code = 0x1A10 then (1, .of (.ligature .buginese false))
  else if inRanges tifinaghRanges symbol then (1, .of (.ligature .tifinagh false))
  else if code = 0xA4FC ∨ code = 0xA4FD then (1, .of (.ligature .lisu true))
  else if code = 0x10C03 then (1, .of (.ligature .turkic false))
  else if code = 0x16D67 then (1, .of .kiratE)
  else if code = 0x16D68 then (1, .of .kiratAi)
  else if isRegional symbol then (1, .of .regional)
  else if isSkinTone symbol then (2, .of .skinTone)
  else if isPicture symbol then (2, .of .picture)
  else if inRanges zeroWidthRanges symbol then (0, .of .plain)
  else if inRanges wideRanges symbol then (2, .of .plain)
  else (1, .of .plain)

/-- The letter in front of a ligature's letter, and the room that the pair saves. -/
def placeLigature (symbol : Char) (letter : Ligature) (joined : Bool) : Int × Following :=
  let code := symbol.toNat
  match letter with
  | .lamed => if joined && code == 0x5D0 then (0, .of .plain) else placeAlone symbol
  | .khmer => if code = 0x17D2 then (-1, .of .plain) else placeAlone symbol
  | .buginese =>
    if joined && code == 0x1A17 then (0, .of (.ligature .bugineseVowel true))
    else placeAlone symbol
  | .bugineseVowel => if code = 0x1A15 then (0, .of .plain) else placeAlone symbol
  | .tifinagh =>
    if code = 0x2D7F then (1, .of (.ligature .tifinaghJoiner true))
    else if joined && inRanges tifinaghRanges symbol then (0, .of .plain)
    else placeAlone symbol
  | .tifinaghJoiner =>
    if inRanges tifinaghRanges symbol then (-1, .of .plain) else placeAlone symbol
  | .lisu => if 0xA4F8 ≤ code ∧ code ≤ 0xA4FB then (0, .of .plain) else placeAlone symbol
  | .turkic => if joined && code == 0x10C32 then (0, .of .plain) else placeAlone symbol

/-- A joiner and a picture after it join a character that is one picture with them. -/
def placeJoinedPicture (symbol : Char) : Int × Following :=
  if symbol.toNat = 0x20E3 then (0, .of .joinedKeycap)
  else if isRegional symbol then (1, .of .joinedRegional)
  else if isSkinTone symbol then (0, .of .skinTone)
  else if symbol.toNat = 0xE007F then (0, .of (.tagLetters 0))
  else if isPicture symbol then (0, .of .picture)
  else placeAlone symbol

def isJoiner (symbol : Char) : Bool :=
  symbol.toNat == 0x200D

def isBlackFlag (symbol : Char) : Bool :=
  symbol.toNat == 0x1F3F4

/-- A character in front of a text that starts as given and has no selectors. -/
def placeBefore (symbol : Char) (join : Join) : Int × Following :=
  match join with
  | .ligature letter joined => placeLigature symbol letter joined
  | .alef =>
    if inRanges lamRanges symbol then (0, .of .plain)
    else if isTransparent symbol then (0, .of .alef)
    else placeAlone symbol
  | .skinTone =>
    if inRanges modifierBaseRanges symbol then (0, .of .picture)
    else if isJoiner symbol then (0, .of .joinedPicture)
    else placeAlone symbol
  | .picture => if isJoiner symbol then (0, .of .joinedPicture) else placeAlone symbol
  | .joinedPicture => placeJoinedPicture symbol
  | .regional => if isRegional symbol then (1, .of .regionals) else placeAlone symbol
  | .regionals =>
    if isRegional symbol then (1, .of .regionals)
    else if isJoiner symbol then (0, .of .joinedPicture)
    else placeAlone symbol
  | .joinedRegional =>
    if isRegional symbol then (-1, .of (.joinedRegionals false)) else placeAlone symbol
  | .joinedRegionals odd =>
    if isRegional symbol then (if odd then -1 else 3, .of (.joinedRegionals !odd))
    else if isJoiner symbol then (0, .of .joinedPicture)
    else placeAlone symbol
  | .tagLetters count =>
    if isTagLetter symbol && count < 6 then (0, .of (.tagLetters (count + 1)))
    else if isTagDigit symbol && count < 5 then (0, .of (.tagDigits 1))
    else if isBlackFlag symbol && 3 ≤ count then (0, .of .picture)
    else placeAlone symbol
  | .tagDigits count =>
    if isTagDigit symbol && count < 3 then (0, .of (.tagDigits (count + 1)))
    else if isBlackFlag symbol && count == 3 then (0, .of .picture)
    else placeAlone symbol
  | .kiratE =>
    if symbol.toNat = 0x16D67 then (0, .of .kiratAi)
    else if symbol.toNat = 0x16D68 then (1, .of .kiratE)
    else if symbol.toNat = 0x16D63 ∨ symbol.toNat = 0x16D69 then (0, .of .plain)
    else placeAlone symbol
  | .kiratAi => if symbol.toNat = 0x16D63 then (0, .of .plain) else placeAlone symbol
  | _ => placeAlone symbol

/-- Characters that are not drawn may stand between the letters of a ligature. -/
def placeBetween (symbol : Char) (following : Following) : Int × Following :=
  match following.join with
  | .ligature letter _ =>
    if isJoiner symbol then (0, { following with join := .ligature letter true })
    else if inRanges silentRanges symbol then (0, following)
    else if following.quoteSelector then placeAlone symbol
    else placeBefore symbol following.join
  | join => if following.quoteSelector then placeAlone symbol else placeBefore symbol join

/-- A character takes the selector after it if there is one for it, or is one. -/
def placeSelecting (symbol : Char) (following : Following) : Int × Following :=
  if symbol.toNat = 0xFE0F then (0, following.selectPicture)
  else if symbol.toNat = 0xFE0E then (0, following.selectText)
  else if symbol.toNat = 0xFE01 then (0, following.selectQuote)
  else if following.textSelector && becomesText symbol then (1, .of .plain)
  else if !following.textSelector && following.quoteSelector && isCurvedQuote symbol then
    (2, .of .plain)
  else placeBetween symbol following.dropOtherSelector

/-- Latin characters and control characters take one place, and a line ending takes one too. -/
def placeLatin (symbol : Char) (following : Following) : Int × Following :=
  if symbol = '\n' then (1, .of .lineFeed)
  else if symbol = '\r' ∧ following.join = .lineFeed then (0, .of .plain)
  else (1, .of .plain)

/-- The places that one character adds in front of a text that starts as given. -/
def place (symbol : Char) (following : Following) : Int × Following :=
  if following.pictureSelector && inRanges selectableRanges symbol then
    (if following.join.isJoinedPicture then 0 else 2, .of .picture)
  else if symbol.toNat ≤ 0xA0 then placeLatin symbol following.dropPictureSelector
  else placeSelecting symbol following.dropPictureSelector

/-- The places of a text and what the text starts with. -/
def measure (text : List Char) : Int × Following :=
  text.foldr (fun symbol (width, following) =>
    let (added, next) := place symbol following
    (added + width, next)) (0, .of .plain)

/-- The number of places that a text takes on one line. -/
def displayWidth (text : List Char) : Nat :=
  (measure text).1.toNat

theorem measure_cons (symbol : Char) (rest : List Char) :
    measure (symbol :: rest) =
      ((place symbol (measure rest).2).1 + (measure rest).1, (place symbol (measure rest).2).2) :=
  rfl

/-- A blank always takes one place and joins nothing. -/
theorem place_blank (following : Following) : place ' ' following = (1, .of .plain) := by
  have notSelectable : inRanges selectableRanges ' ' = false := by decide
  simp [place, placeLatin, notSelectable]

end BenchmarkReport.Text
