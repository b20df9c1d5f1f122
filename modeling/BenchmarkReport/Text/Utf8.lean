/-
This file reads bytes as text. Every byte is accounted for, also where the bytes are no text.
-/

namespace BenchmarkReport.Text

/-- A run of bytes is a character, or no character, or the part of a character that the end of the
bytes leaves. -/
inductive ByteRun
  | character (symbol : Char)
  | invalid (length : Nat)
  | incomplete (length : Nat)

/-- A character of which some bytes were read. The next byte lies between the bounds, and all later
ones are continuation bytes. -/
structure OpenCharacter where
  value : Nat
  length : Nat
  missing : Nat
  least : UInt8
  greatest : UInt8

/-- The first byte of a character that has more than one. The bounds keep out longer forms than
needed, surrogates and numbers that are too great. -/
def openCharacter? (first : UInt8) : Option OpenCharacter :=
  let number := first.toNat
  if first < 0xC2 then none
  else if first < 0xE0 then some ⟨number - 0xC0, 1, 1, 0x80, 0xBF⟩
  else if first = 0xE0 then some ⟨0, 1, 2, 0xA0, 0xBF⟩
  else if first = 0xED then some ⟨13, 1, 2, 0x80, 0x9F⟩
  else if first < 0xF0 then some ⟨number - 0xE0, 1, 2, 0x80, 0xBF⟩
  else if first = 0xF0 then some ⟨0, 1, 3, 0x90, 0xBF⟩
  else if first < 0xF4 then some ⟨number - 0xF0, 1, 3, 0x80, 0xBF⟩
  else if first = 0xF4 then some ⟨4, 1, 3, 0x80, 0x8F⟩
  else none

/-- A continuation byte adds six bits. -/
def OpenCharacter.add (started : OpenCharacter) (byte : UInt8) : OpenCharacter :=
  ⟨64 * started.value + (byte.toNat - 0x80), started.length + 1, started.missing - 1, 0x80, 0xBF⟩

def OpenCharacter.accepts (started : OpenCharacter) (byte : UInt8) : Bool :=
  started.least ≤ byte && byte ≤ started.greatest

/-- A byte where no character is open is a run of its own or opens a character. -/
def firstByte (byte : UInt8) : ByteRun ⊕ OpenCharacter :=
  if byte < 0x80 then .inl (.character (Char.ofNat byte.toNat))
  else match openCharacter? byte with
    | some started => .inr started
    | none => .inl (.invalid 1)

/-- The runs of bytes that follow an open character, or none. A byte that an open character does
not accept ends it and is looked at anew. -/
def byteRunsFrom : Option OpenCharacter → List UInt8 → List ByteRun
  | none, [] => []
  | some started, [] => [.incomplete started.length]
  | none, byte :: rest =>
    match firstByte byte with
    | .inl run => run :: byteRunsFrom none rest
    | .inr opened => byteRunsFrom (some opened) rest
  | some started, byte :: rest =>
    if started.accepts byte then
      let longer := started.add byte
      if longer.missing = 0 then .character (Char.ofNat longer.value) :: byteRunsFrom none rest
      else byteRunsFrom (some longer) rest
    else
      .invalid started.length :: match firstByte byte with
        | .inl run => run :: byteRunsFrom none rest
        | .inr opened => byteRunsFrom (some opened) rest

def byteRuns (bytes : List UInt8) : List ByteRun :=
  byteRunsFrom none bytes

/-- The character that stands for bytes without a meaning. -/
def replacement : Char := Char.ofNat 0xFFFD

def ByteRun.symbol : ByteRun → Char
  | .character symbol => symbol
  | .invalid _ => replacement
  | .incomplete _ => replacement

/-- Every run of bytes is one character. -/
def decodeBytes (bytes : List UInt8) : List Char :=
  (byteRuns bytes).map ByteRun.symbol

def encodeBytes (text : List Char) : List UInt8 :=
  text.flatMap String.utf8EncodeChar

/-- The first run that is no character, and the number of bytes before it. -/
structure DecodingFault where
  index : Nat
  length? : Option Nat
  deriving DecidableEq

def decodingFaultFrom (index : Nat) : List ByteRun → Option DecodingFault
  | [] => none
  | .character symbol :: rest => decodingFaultFrom (index + symbol.utf8Size) rest
  | .invalid length :: _ => some ⟨index, some length⟩
  | .incomplete _ :: _ => some ⟨index, none⟩

def decodingFault? (bytes : List UInt8) : Option DecodingFault :=
  decodingFaultFrom 0 (byteRuns bytes)

def DecodingFault.message (fault : DecodingFault) : String :=
  match fault.length? with
  | some length =>
    "invalid utf-8 sequence of " ++ toString length ++ " bytes from index " ++
      toString fault.index
  | none => "incomplete utf-8 byte sequence from index " ++ toString fault.index

end BenchmarkReport.Text
