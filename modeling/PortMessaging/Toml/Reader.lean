import PortMessaging.Toml.Document
import PortMessaging.Toml.Scalar
import PortMessaging.Toml.StringLiteral

/-!
# Toml.Reader — reading TOML text

Reading has two stages: the text becomes a list of lines (headers and assignments), and the lines
make up a document, which has rules of its own (`Toml.Document`).  Arrays may spread over lines and
hold comments, braces may not.  Values nest at most `maxDepth` deep and a dotted key has at most
that many parts.

The recursion counts down a fuel.  Each character pays for at most two steps of it, so a fuel of
twice the length of the text does not run out before the text does.
-/

namespace PortMessaging
namespace Toml

/-- How deep values may nest, and how many parts a key may have. -/
def maxDepth : Nat := 79

/-! ## Keys, comments and line ends -/

/-- The characters of a key without quotes. -/
def isBare (c : Char) : Bool := c.isAlphanum || c = '-' || c = '_'

def readKeyPart (cs : List Char) : Option (String × List Char) :=
  match cs with
  | '"' :: rest => (readBasic rest).map fun (text, rest) => (String.ofList text, rest)
  | '\'' :: rest => (readPlain rest).map fun (text, rest) => (String.ofList text, rest)
  | cs =>
    let (bare, rest) := cs.span isBare
    if bare = [] then none else some (String.ofList bare, rest)

/-- Reads the parts of a key with the blanks around them. -/
def readKeyParts : Nat → List Char → Option (List String × List Char)
  | 0, _ => none
  | fuel + 1, cs => do
    let (part, rest) ← readKeyPart (skipBlanks cs)
    match skipBlanks rest with
    | '.' :: rest => (readKeyParts fuel rest).map fun (parts, rest) => (part :: parts, rest)
    | rest => some ([part], rest)

def readKey (cs : List Char) : Option (List String × List Char) := readKeyParts maxDepth cs

/-- Drops a comment, if there is one. -/
def skipComment : List Char → List Char
  | '#' :: rest => rest.dropWhile isPrintable
  | rest => rest

/-- Drops what may stand at the end of a line, and the line break.  The last line needs none. -/
def endLine (cs : List Char) : Option (List Char) :=
  match skipComment (skipBlanks cs) with
  | [] => some []
  | rest => dropLineBreak? rest

/-- Drops blanks, line breaks and comments; `commenting` is set within a comment. -/
def skipLines (commenting : Bool) : List Char → List Char
  | [] => []
  | '\n' :: rest => skipLines false rest
  | '\r' :: '\n' :: rest => skipLines false rest
  | c :: rest =>
    if commenting then if isPrintable c then skipLines true rest else c :: rest
    else if isBlank c then skipLines false rest
    else if c = '#' then skipLines true rest
    else c :: rest

/-! ## Values -/

mutual

/-- Reads a value whose arrays and braces nest at most `depth` deep. -/
def readValue : Nat → Nat → List Char → Option (Toml × List Char)
  | 0, _, _ => none
  | fuel + 1, depth, cs =>
    match readString? cs with
    | some read => read.map fun (text, rest) => (.string (String.ofList text), rest)
    | none =>
      match cs with
      | 't' :: 'r' :: 'u' :: 'e' :: rest => some (.boolean true, rest)
      | 'f' :: 'a' :: 'l' :: 's' :: 'e' :: rest => some (.boolean false, rest)
      | '[' :: rest =>
        if depth = 0 then none
        else match skipLines false rest with
          | ']' :: rest => some (.array [], rest)
          | rest => (readItems fuel (depth - 1) rest).map fun (items, rest) => (.array items, rest)
      | '\x7b' :: rest =>
        if depth = 0 then none
        else match skipBlanks rest with
          | '\x7d' :: rest => (ofBraces []).map (·, rest)
          | rest => do
            let (assignments, rest) ← readAssignments fuel (depth - 1) rest
            return (← ofBraces assignments, rest)
      | cs => readNumeric cs

/-- Reads one or more items of an array, up to and with the closing bracket. -/
def readItems : Nat → Nat → List Char → Option (List Toml × List Char)
  | 0, _, _ => none
  | fuel + 1, depth, cs => do
    let (item, rest) ← readValue fuel depth cs
    match skipLines false rest with
    | ']' :: rest => some ([item], rest)
    | ',' :: rest =>
      match skipLines false rest with
      | ']' :: rest => some ([item], rest)
      | rest => (readItems fuel depth rest).map fun (items, rest) => (item :: items, rest)
    | _ => none

/-- Reads one or more assignments in braces, up to and with the closing brace. -/
def readAssignments : Nat → Nat → List Char → Option (List (List String × Toml) × List Char)
  | 0, _, _ => none
  | fuel + 1, depth, cs => do
    let (key, rest) ← readKey cs
    let rest ← dropChar '=' rest
    let (value, rest) ← readValue fuel depth (skipBlanks rest)
    match skipBlanks rest with
    | '\x7d' :: rest => some ([(key, value)], rest)
    | ',' :: rest =>
      (readAssignments fuel depth rest).map fun (more, rest) => ((key, value) :: more, rest)
    | _ => none

end

/-! ## Lines -/

/-- Reads one header or assignment with the end of its line. -/
def readLine (fuel : Nat) (cs : List Char) : Option (Line × List Char) :=
  match cs with
  | '[' :: '[' :: rest => do
    let (path, rest) ← readKey rest
    let rest ← endLine (← dropChar ']' (← dropChar ']' rest))
    return (.doubleHeader path, rest)
  | '[' :: rest => do
    let (path, rest) ← readKey rest
    let rest ← endLine (← dropChar ']' rest)
    return (.header path, rest)
  | cs => do
    let (path, rest) ← readKey cs
    let rest ← dropChar '=' rest
    let (value, rest) ← readValue fuel maxDepth (skipBlanks rest)
    return (.assignment path value, ← endLine rest)

def readLines : Nat → List Char → Option (List Line)
  | 0, _ => none
  | fuel + 1, cs =>
    match skipLines false cs with
    | [] => some []
    | rest => do
      let (line, rest) ← readLine fuel rest
      return line :: (← readLines fuel rest)

/-- Reads a document, before which a byte order mark may stand. -/
def parse? (text : String) : Option Entries := do
  let cs := text.toList
  let cs := if cs.head? = some '\uFEFF' then cs.tail else cs
  ofLines (← readLines (2 * cs.length + 1) cs)

end Toml
end PortMessaging
