import PortMessaging.Text.Hex

/-!
# Json.StringLiteral — how JSON quotes text

Writing escapes the quote, the backslash and the characters below U+0020, and leaves every other
character as it is.  Reading also takes escaped UTF-16 units.  Such units may name half of a
surrogate pair; a literal in which a half stays alone is well formed, but it denotes no text, so
reading separates the pieces of a literal (`readPieces`) from the text they make up (`join`).
-/

namespace PortMessaging
namespace Json
namespace StringLiteral

open PortMessaging.Text

/-! ## Writing -/

/-- The written form of one character. -/
def escape (c : Char) : List Char :=
  if c = '"' then ['\\', '"']
  else if c = '\\' then ['\\', '\\']
  else if c = '\n' then ['\\', 'n']
  else if c = '\r' then ['\\', 'r']
  else if c = '\t' then ['\\', 't']
  else if c = '\x08' then ['\\', 'b']
  else if c = '\x0c' then ['\\', 'f']
  else if c.toNat < 0x20 then ['\\', 'u', '0', '0', hexDigit (c.toNat / 16), hexDigit (c.toNat % 16)]
  else [c]

/-- The literal of a text, in quotes. -/
def write (text : List Char) : List Char :=
  '"' :: text.flatMap escape ++ ['"']

/-! ## Reading -/

/-- A piece of a literal: a character, or an escaped half of a surrogate pair. -/
inductive Piece where
  | scalar (c : Char)
  | half (unit : Nat)
  deriving DecidableEq, Repr

/-- The piece that an escaped unit denotes. -/
def Piece.ofUnit (unit : Nat) : Piece :=
  if 0xD800 ≤ unit ∧ unit < 0xE000 then .half unit else .scalar (Char.ofNat unit)

/-- The character that a one-letter escape denotes. -/
def unescape? : Char → Option Char
  | '"' => some '"'
  | '\\' => some '\\'
  | '/' => some '/'
  | 'b' => some '\x08'
  | 'f' => some '\x0c'
  | 'n' => some '\n'
  | 'r' => some '\r'
  | 't' => some '\t'
  | _ => none

/-- Reads the pieces of a literal after its opening quote, up to and with the closing one.  Control
characters have to be escaped. -/
def readPieces : List Char → Option (List Piece × List Char)
  | [] => none
  | '"' :: rest => some ([], rest)
  | '\\' :: 'u' :: a :: b :: c :: d :: rest => do
    let unit ← ofHex? [a, b, c, d]
    let (pieces, rest) ← readPieces rest
    return (.ofUnit unit :: pieces, rest)
  | '\\' :: e :: rest => do
    let c ← unescape? e
    let (pieces, rest) ← readPieces rest
    return (.scalar c :: pieces, rest)
  | c :: rest =>
    if c = '\\' ∨ c.toNat < 0x20 then none
    else do
      let (pieces, rest) ← readPieces rest
      return (.scalar c :: pieces, rest)

/-- Whether a unit is the first half of a surrogate pair. -/
def isHighHalf (unit : Nat) : Bool := 0xD800 ≤ unit && unit < 0xDC00

/-- Whether a unit is the second half of a surrogate pair. -/
def isLowHalf (unit : Nat) : Bool := 0xDC00 ≤ unit && unit < 0xE000

/-- The character of a surrogate pair. -/
def ofHalves (high low : Nat) : Char :=
  Char.ofNat (0x10000 + (high - 0xD800) * 0x400 + (low - 0xDC00))

/-- The text that pieces make up, if no half of a surrogate pair stays alone. -/
def join : List Piece → Option (List Char)
  | [] => some []
  | .scalar c :: rest => (join rest).map (c :: ·)
  | .half high :: .half low :: rest =>
    if isHighHalf high && isLowHalf low then (join rest).map (ofHalves high low :: ·) else none
  | .half _ :: _ => none

/-- Reads a literal after its opening quote: its text, if it denotes one, and what follows it. -/
def read (cs : List Char) : Option (Option String × List Char) :=
  (readPieces cs).map fun (pieces, rest) => ((join pieces).map String.ofList, rest)

end StringLiteral
end Json
end PortMessaging
