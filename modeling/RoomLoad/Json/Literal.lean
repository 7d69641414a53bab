import RoomLoad.Text.Numeral

/-!
# Literals of JSON texts

Numbers and strings as they are spelled.  A string literal is a list of pieces:
characters, and 16-bit units given by number, which may be halves of a pair that
only together name a character.
-/

namespace RoomLoad.Json

structure Numeral where
  negative : Bool
  whole : List Char
  /-- The digits behind the point, if there is one. -/
  fraction : Option (List Char)
  /-- Whether the exponent is negative, and its digits, if there is one. -/
  exponent : Option (Bool × List Char)
deriving DecidableEq

/-- The digits at the start of a text, of which there must be some, and the
rest. -/
def readDigits (text : List Char) : Option (List Char × List Char) :=
  let digits := text.takeWhile Char.isDigit
  if digits.isEmpty then none else some (digits, text.dropWhile Char.isDigit)

/-- The fraction at the start of a text, if a point announces one. -/
def readFraction : List Char → Option (Option (List Char) × List Char)
  | '.' :: text => (readDigits text).map fun (digits, rest) => (some digits, rest)
  | text => some (none, text)

/-- The sign of an exponent: not negative unless a minus says so. -/
def readSign : List Char → Bool × List Char
  | '-' :: text => (true, text)
  | '+' :: text => (false, text)
  | text => (false, text)

/-- The exponent at the start of a text, if its mark announces one. -/
def readExponent (text : List Char) : Option (Option (Bool × List Char) × List Char) :=
  match text with
  | mark :: rest =>
      if mark == 'e' || mark == 'E' then
        let sign := readSign rest
        (readDigits sign.2).map fun found => (some (sign.1, found.1), found.2)
      else
        some (none, text)
  | [] => some (none, [])

/-- The number at the start of a text without its minus sign, and the rest.
More than one digit before the point must not start with a zero. -/
def readUnsigned (negative : Bool) (text : List Char) : Option (Numeral × List Char) := do
  let (whole, afterWhole) ← readDigits text
  if whole.head? == some '0' && whole.length > 1 then
    none
  else
    let (fraction, afterFraction) ← readFraction afterWhole
    let (exponent, rest) ← readExponent afterFraction
    return (⟨negative, whole, fraction, exponent⟩, rest)

/-- The number at the start of a text, and the rest. -/
def readNumeral : List Char → Option (Numeral × List Char)
  | '-' :: text => readUnsigned true text
  | text => readUnsigned false text

inductive Piece where
  | char (character : Char)
  | unit (code : Nat)
deriving DecidableEq

def hexValue? (digit : Char) : Option Nat :=
  if '0' ≤ digit && digit ≤ '9' then some (digit.toNat - '0'.toNat)
  else if 'a' ≤ digit && digit ≤ 'f' then some (digit.toNat - 'a'.toNat + 10)
  else if 'A' ≤ digit && digit ≤ 'F' then some (digit.toNat - 'A'.toNat + 10)
  else none

/-- The 16-bit unit that four hexadecimal digits give. -/
def unit? (first second third fourth : Char) : Option Nat := do
  let a ← hexValue? first
  let b ← hexValue? second
  let c ← hexValue? third
  let d ← hexValue? fourth
  return ((a * 16 + b) * 16 + c) * 16 + d

/-- The character that a letter behind a backslash stands for. -/
def escaped? : Char → Option Char
  | '"' => some '"'
  | '\\' => some '\\'
  | '/' => some '/'
  | 'b' => some '\x08'
  | 'f' => some '\x0c'
  | 'n' => some '\n'
  | 'r' => some '\r'
  | 't' => some '\t'
  | _ => none

/-- The pieces of a string literal behind its opening quote, up to the closing
one, and the rest. -/
def readPieces : List Char → Option (List Piece × List Char)
  | [] => none
  | '"' :: rest => some ([], rest)
  | '\\' :: 'u' :: first :: second :: third :: fourth :: rest => do
      let code ← unit? first second third fourth
      let (pieces, rest) ← readPieces rest
      return (.unit code :: pieces, rest)
  | '\\' :: letter :: rest => do
      let character ← escaped? letter
      let (pieces, rest) ← readPieces rest
      return (.char character :: pieces, rest)
  | character :: rest =>
      if character == '\\' || character.toNat < 0x20 then
        none
      else do
        let (pieces, rest) ← readPieces rest
        return (.char character :: pieces, rest)

def isFirstHalf (code : Nat) : Bool :=
  0xD800 ≤ code && code < 0xDC00

def isSecondHalf (code : Nat) : Bool :=
  0xDC00 ≤ code && code < 0xE000

/-- The characters that pieces spell, unless a half stands alone. -/
def spelled? : List Piece → Option (List Char)
  | [] => some []
  | .char character :: rest => (spelled? rest).map (character :: ·)
  | .unit first :: .unit second :: rest =>
      if isFirstHalf first then
        if isSecondHalf second then
          let code := 0x10000 + (first - 0xD800) * 0x400 + (second - 0xDC00)
          (spelled? rest).map (Char.ofNat code :: ·)
        else
          none
      else if isSecondHalf first then
        none
      else
        (spelled? (.unit second :: rest)).map (Char.ofNat first :: ·)
  | .unit code :: rest =>
      if isFirstHalf code || isSecondHalf code then
        none
      else
        (spelled? rest).map (Char.ofNat code :: ·)

end RoomLoad.Json
