import PortMessaging.Text.Hex

/-!
# Toml.StringLiteral — the four kinds of quoted text

Basic literals stand in double quotes and know escapes, plain ones stand in single quotes and know
none; both come on one line, or between triple quotes on any number of lines.  A line break is a
line feed, alone or after a carriage return, and means a line feed.  Up to two quotes may stand
together inside a literal of several lines; of more, the last three close it.
-/

namespace PortMessaging
namespace Toml

open PortMessaging.Text

/-! ## Characters -/

/-- The characters that may stand between tokens of a line. -/
def isBlank (c : Char) : Bool := c = ' ' || c = '\t'

def skipBlanks (cs : List Char) : List Char := cs.dropWhile isBlank

/-- The characters that may stand in a comment or a literal: all but control characters, of which
the tab is allowed. -/
def isPrintable (c : Char) : Bool := c = '\t' || (0x20 ≤ c.toNat && c.toNat ≠ 0x7f)

/-- Drops a line break, if one comes first. -/
def dropLineBreak? : List Char → Option (List Char)
  | '\n' :: rest => some rest
  | '\r' :: '\n' :: rest => some rest
  | _ => none

/-- The character of a code point given in hexadecimal, if there is one. -/
def ofCodePoint? (digits : List Char) : Option Char := do
  let n ← ofHex? digits
  if n.isValidChar then some (Char.ofNat n) else none

/-- The character that a one-letter escape denotes. -/
def unescape? : Char → Option Char
  | 'b' => some '\x08'
  | 't' => some '\t'
  | 'n' => some '\n'
  | 'f' => some '\x0c'
  | 'r' => some '\r'
  | '"' => some '"'
  | '\\' => some '\\'
  | _ => none

/-! ## Literals on one line -/

/-- Puts a character in front of a text that was read. -/
def consRead (c : Char) (read : Option (List Char × List Char)) : Option (List Char × List Char) :=
  read.map fun (text, rest) => (c :: text, rest)

/-- Reads a basic literal after its opening quote. -/
def readBasic : List Char → Option (List Char × List Char)
  | [] => none
  | '"' :: rest => some ([], rest)
  | '\\' :: 'u' :: a :: b :: c :: d :: rest =>
    (ofCodePoint? [a, b, c, d]).bind fun e => consRead e (readBasic rest)
  | '\\' :: 'U' :: a :: b :: c :: d :: e :: f :: g :: h :: rest =>
    (ofCodePoint? [a, b, c, d, e, f, g, h]).bind fun e => consRead e (readBasic rest)
  | '\\' :: e :: rest => (unescape? e).bind fun e => consRead e (readBasic rest)
  | c :: rest => if isPrintable c ∧ c ≠ '\\' then consRead c (readBasic rest) else none

/-- Reads a plain literal after its opening quote. -/
def readPlain : List Char → Option (List Char × List Char)
  | [] => none
  | '\'' :: rest => some ([], rest)
  | c :: rest => if isPrintable c then consRead c (readPlain rest) else none

/-! ## Literals on several lines -/

/-- Closes a literal of several lines after three quotes: of the quotes that follow at once, up to
two belong to its text. -/
def closeLines (quote : Char) : List Char → List Char × List Char
  | a :: b :: rest =>
    if a = quote then if b = quote then ([quote, quote], rest) else ([quote], b :: rest)
    else ([], a :: b :: rest)
  | [a] => if a = quote then ([quote], []) else ([], [a])
  | [] => ([], [])

/-- Whether a line break follows, blanks apart. -/
def breaksLine (cs : List Char) : Bool := (dropLineBreak? (skipBlanks cs)).isSome

/-- Reads a basic literal of several lines after its opening quotes.  A backslash at the end of a
line takes away the break and the blanks and breaks after it; `trimming` is set while they are
taken away. -/
def readBasicLines (trimming : Bool) : List Char → Option (List Char × List Char)
  | [] => none
  | '"' :: '"' :: '"' :: rest => some (closeLines '"' rest)
  | '\r' :: '\n' :: rest =>
    if trimming then readBasicLines true rest else consRead '\n' (readBasicLines false rest)
  | '\\' :: 'u' :: a :: b :: c :: d :: rest =>
    (ofCodePoint? [a, b, c, d]).bind fun e => consRead e (readBasicLines false rest)
  | '\\' :: 'U' :: a :: b :: c :: d :: e :: f :: g :: h :: rest =>
    (ofCodePoint? [a, b, c, d, e, f, g, h]).bind fun e => consRead e (readBasicLines false rest)
  | '\\' :: e :: rest =>
    if breaksLine (e :: rest) then readBasicLines true (e :: rest)
    else (unescape? e).bind fun e => consRead e (readBasicLines false rest)
  | c :: rest =>
    if trimming && (isBlank c || c = '\n') then readBasicLines true rest
    else if (isPrintable c || c = '\n') && c ≠ '\\' then consRead c (readBasicLines false rest)
    else none

/-- Reads a plain literal of several lines after its opening quotes. -/
def readPlainLines : List Char → Option (List Char × List Char)
  | [] => none
  | '\'' :: '\'' :: '\'' :: rest => some (closeLines '\'' rest)
  | '\r' :: '\n' :: rest => consRead '\n' (readPlainLines rest)
  | c :: rest =>
    if isPrintable c || c = '\n' then consRead c (readPlainLines rest) else none

/-- Drops a line break that follows the opening quotes at once. -/
def dropFirstBreak (cs : List Char) : List Char := (dropLineBreak? cs).getD cs

/-- Reads a literal of any kind, if a quote comes first. -/
def readString? : List Char → Option (Option (List Char × List Char))
  | '"' :: '"' :: '"' :: rest => some (readBasicLines false (dropFirstBreak rest))
  | '"' :: rest => some (readBasic rest)
  | '\'' :: '\'' :: '\'' :: rest => some (readPlainLines (dropFirstBreak rest))
  | '\'' :: rest => some (readPlain rest)
  | _ => none

end Toml
end PortMessaging
