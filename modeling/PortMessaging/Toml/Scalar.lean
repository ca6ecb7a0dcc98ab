import PortMessaging.Toml.Value

/-!
# Toml.Scalar — numbers and points in time

Integers fit 64 bits with a sign and come in four bases; digits may be grouped by single
underscores.  A number with a fraction or an exponent has to be below the range of double
precision, on its positive side.  Dates are checked against the calendar, times against the clock.
-/

namespace PortMessaging
namespace Toml

/-! ## Runs of digits -/

/-- Reads digits in which single underscores may stand between two of them: the digits without the
underscores and what follows.  At least one digit is needed, and an underscore needs one after it. -/
def readDigits (isDigit : Char → Bool) : List Char → Option (List Char × List Char)
  | [] => none
  | [c] => if isDigit c then some ([c], []) else none
  | c :: d :: rest =>
    if isDigit c then
      if d = '_' then (readDigits isDigit rest).map fun (ds, rest) => (c :: ds, rest)
      else if isDigit d then (readDigits isDigit (d :: rest)).map fun (ds, rest) => (c :: ds, rest)
      else some ([c], d :: rest)
    else none

/-- The number that a digit of any base up to sixteen denotes. -/
def digitValue (c : Char) : Nat :=
  if c.isDigit then c.toNat - '0'.toNat
  else if 'a' ≤ c ∧ c ≤ 'f' then c.toNat - 'a'.toNat + 10
  else c.toNat - 'A'.toNat + 10

/-- The number that digits denote in a base. -/
def ofDigits (base : Nat) (digits : List Char) : Nat :=
  digits.foldl (fun n c => base * n + digitValue c) 0

def isHexDigit (c : Char) : Bool := c.isDigit || ('a' ≤ c && c ≤ 'f') || ('A' ≤ c && c ≤ 'F')
def isOctalDigit (c : Char) : Bool := '0' ≤ c && c ≤ '7'
def isBinaryDigit (c : Char) : Bool := c = '0' || c = '1'

/-! ## Numbers -/

/-- An integer that fits 64 bits with a sign. -/
def integer? (n : Int) : Option Toml :=
  if -9223372036854775808 ≤ n ∧ n ≤ 9223372036854775807 then some (.integer n) else none

/-- Reads an unsigned integer after the mark of its base. -/
def readInBase (base : Nat) (isDigit : Char → Bool) (cs : List Char) :
    Option (Toml × List Char) := do
  let (digits, rest) ← readDigits isDigit cs
  return (← integer? (ofDigits base digits), rest)

/-- Whether a positive decimal number `mantissa * 10 ^ exponent` is rounded to infinity in double
precision: whether it reaches the middle between the largest finite number and the next power of
two. -/
def overflows (mantissa : Nat) (exponent : Int) : Bool :=
  let bound := Nat.pow 2 1024 - Nat.pow 2 970
  match exponent with
  | .ofNat e => mantissa ≠ 0 && (310 ≤ e || bound ≤ mantissa * Nat.pow 10 e)
  | .negSucc e => e < mantissa.log2 && bound * Nat.pow 10 (e + 1) ≤ mantissa

/-- Reads the whole part of a decimal number: a zero alone, or digits that do not start with one. -/
def readWhole : List Char → Option (List Char × List Char)
  | '0' :: rest => some (['0'], rest)
  | cs => readDigits Char.isDigit cs

/-- Reads a fraction, if a point comes first: its digits and what follows. -/
def readFraction? : List Char → Option (Option (List Char × List Char))
  | '.' :: rest => some (readDigits Char.isDigit rest)
  | _ => none

/-- Splits off a leading sign; it tells whether the sign is a minus. -/
def spanSign : List Char → Option Bool × List Char
  | '+' :: rest => (some false, rest)
  | '-' :: rest => (some true, rest)
  | rest => (none, rest)

/-- Reads an exponent, if its mark comes first: its value and what follows. -/
def readExponent? : List Char → Option (Option (Int × List Char))
  | c :: rest =>
    if c = 'e' ∨ c = 'E' then
      let (sign, rest) := spanSign rest
      some ((readDigits Char.isDigit rest).map fun (digits, rest) =>
        let n : Int := ofDigits 10 digits
        (if sign = some true then -n else n, rest))
    else none
  | [] => none

/-- The number with a fraction or an exponent. -/
def decimal? (negative : Bool) (whole fraction : List Char) (exponent : Int) : Option Toml :=
  if !negative && overflows (ofDigits 10 (whole ++ fraction)) (exponent - fraction.length) then none
  else
    some (.decimal (String.ofList ((if negative then ['-'] else []) ++ whole ++ '.' :: fraction ++
      'e' :: (toString exponent).toList)))

/-- Reads a decimal number after its sign. -/
def readDecimal (negative : Bool) (cs : List Char) : Option (Toml × List Char) := do
  let (whole, rest) ← readWhole cs
  match readFraction? rest with
  | some fraction => do
    let (fraction, rest) ← fraction
    match readExponent? rest with
    | some exponent => do
      let (exponent, rest) ← exponent
      return (← decimal? negative whole fraction exponent, rest)
    | none => return (← decimal? negative whole fraction 0, rest)
  | none =>
    match readExponent? rest with
    | some exponent => do
      let (exponent, rest) ← exponent
      return (← decimal? negative whole [] exponent, rest)
    | none =>
      let n : Int := ofDigits 10 whole
      return (← integer? (if negative then -n else n), rest)

def readNumber : List Char → Option (Toml × List Char)
  | '0' :: 'x' :: rest => readInBase 16 isHexDigit rest
  | '0' :: 'o' :: rest => readInBase 8 isOctalDigit rest
  | '0' :: 'b' :: rest => readInBase 2 isBinaryDigit rest
  | cs =>
    let (sign, rest) := spanSign cs
    match rest with
    | 'i' :: 'n' :: 'f' :: rest => some (.decimal (if sign = some true then "-inf" else "inf"), rest)
    | 'n' :: 'a' :: 'n' :: rest => some (.decimal "nan", rest)
    | rest => readDecimal (sign = some true) rest

/-! ## Points in time -/

/-- Reads exactly `n` digits. -/
def readField (n : Nat) (cs : List Char) : Option (Nat × List Char) :=
  let digits := cs.take n
  if digits.length = n ∧ digits.all Char.isDigit then some (ofDigits 10 digits, cs.drop n) else none

/-- Reads exactly two digits that denote a number between two bounds. -/
def readBounded (low high : Nat) (cs : List Char) : Option (Nat × List Char) := do
  let (n, rest) ← readField 2 cs
  if low ≤ n ∧ n ≤ high then some (n, rest) else none

def dropChar (c : Char) : List Char → Option (List Char)
  | d :: rest => if d = c then some rest else none
  | [] => none

def daysIn (year month : Nat) : Nat :=
  if month = 2 then
    if year % 4 = 0 ∧ (year % 100 ≠ 0 ∨ year % 400 = 0) then 29 else 28
  else if month = 4 ∨ month = 6 ∨ month = 9 ∨ month = 11 then 30
  else 31

/-- Takes a date from the front. -/
def dropDate (cs : List Char) : Option (List Char) := do
  let (year, rest) ← readField 4 cs
  let (month, rest) ← readBounded 1 12 (← dropChar '-' rest)
  let (day, rest) ← readBounded 1 31 (← dropChar '-' rest)
  if day ≤ daysIn year month then some rest else none

/-- Takes a fraction of a second from the front, if there is one. -/
def dropSubsecond : List Char → List Char
  | '.' :: c :: rest => if c.isDigit then rest.dropWhile Char.isDigit else '.' :: c :: rest
  | rest => rest

/-- Takes a time of day from the front. -/
def dropTime (cs : List Char) : Option (List Char) := do
  let (_, rest) ← readBounded 0 23 cs
  let (_, rest) ← readBounded 0 59 (← dropChar ':' rest)
  let (_, rest) ← readBounded 0 60 (← dropChar ':' rest)
  return dropSubsecond rest

/-- Takes an offset from universal time from the front, if there is one. -/
def dropOffset : List Char → Option (List Char)
  | c :: rest =>
    if c = 'Z' ∨ c = 'z' then some rest
    else if c = '+' ∨ c = '-' then do
      let (_, rest) ← readBounded 0 23 rest
      let (_, rest) ← readBounded 0 59 (← dropChar ':' rest)
      return rest
    else some (c :: rest)
  | [] => some []

/-- Whether a time of day follows a date: a mark or a blank, then an hour and a colon. -/
def startsTime : List Char → Bool
  | c :: rest =>
    (c = 'T' || c = 't' || c = ' ') &&
      match readBounded 0 23 rest with
      | some (_, ':' :: _) => true
      | _ => false
  | [] => false

/-- Takes a date, with or without a time, or a time alone from the front. -/
def dropMoment (cs : List Char) : Option (List Char) :=
  match cs with
  | _ :: _ :: ':' :: _ => dropTime cs
  | _ => do
    let rest ← dropDate cs
    if startsTime rest then dropOffset (← dropTime (rest.drop 1)) else return rest

/-- Whether a point in time comes first: four digits and a hyphen, or an hour and a colon. -/
def startsMoment (cs : List Char) : Bool :=
  (match readField 4 cs with
    | some (_, '-' :: _) => true
    | _ => false) ||
  match readBounded 0 23 cs with
    | some (_, ':' :: _) => true
    | _ => false

def readMoment (cs : List Char) : Option (Toml × List Char) := do
  let rest ← dropMoment cs
  return (.moment (String.ofList (cs.take (cs.length - rest.length))), rest)

/-- Reads a number or a point in time. -/
def readNumeric (cs : List Char) : Option (Toml × List Char) :=
  if startsMoment cs then readMoment cs else readNumber cs

end Toml
end PortMessaging
