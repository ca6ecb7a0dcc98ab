import PortMessaging.MessagePack.Value

/-!
# MessagePack.Reader — reading MessagePack bytes

The reader takes one value from the front of a byte sequence and leaves the rest.  It accepts every
form of a value, not only the shortest.  What a value is made of shows in its first byte, its code
(`Head.ofCode?`).  Arrays, maps and extensions nest at most `maxDepth` deep; the depth that is left
is also what the recursion counts down.
-/

namespace PortMessaging
namespace MessagePack

/-! ## Codes -/

/-- Where the number of parts of a value stands: in the code, or in the bytes after it. -/
inductive Count where
  | known (n : Nat)
  | inBytes (width : Nat)
  deriving DecidableEq, Repr

/-- What a code announces. -/
inductive Head where
  | nil
  | bool (value : Bool)
  | smallUnsigned (value : Nat)
  | smallSigned (value : Int)
  | unsigned (width : Nat)
  | signed (width : Nat)
  | float (width : Nat)
  | string (count : Count)
  | binary (count : Count)
  | array (count : Count)
  | map (count : Count)
  | extension (count : Count)
  deriving DecidableEq, Repr

namespace Head

/-- What the codes from 0xc0 to 0xdf announce; one of them is not in use. -/
def middle : List (Option Head) :=
  [some .nil, none, some (.bool false), some (.bool true),
    some (.binary (.inBytes 1)), some (.binary (.inBytes 2)), some (.binary (.inBytes 4)),
    some (.extension (.inBytes 1)), some (.extension (.inBytes 2)), some (.extension (.inBytes 4)),
    some (.float 4), some (.float 8),
    some (.unsigned 1), some (.unsigned 2), some (.unsigned 4), some (.unsigned 8),
    some (.signed 1), some (.signed 2), some (.signed 4), some (.signed 8),
    some (.extension (.known 1)), some (.extension (.known 2)), some (.extension (.known 4)),
    some (.extension (.known 8)), some (.extension (.known 16)),
    some (.string (.inBytes 1)), some (.string (.inBytes 2)), some (.string (.inBytes 4)),
    some (.array (.inBytes 2)), some (.array (.inBytes 4)),
    some (.map (.inBytes 2)), some (.map (.inBytes 4))]

/-- What a code announces, if it is in use. -/
def ofCode? (code : Nat) : Option Head :=
  if code < 0x80 then some (.smallUnsigned code)
  else if code < 0x90 then some (.map (.known (code - 0x80)))
  else if code < 0xa0 then some (.array (.known (code - 0x90)))
  else if code < 0xc0 then some (.string (.known (code - 0xa0)))
  else if 0xe0 ≤ code then some (.smallSigned (code - 256))
  else middle[code - 0xc0]?.join

end Head

/-! ## Values -/

/-- How deep arrays, maps and extensions may nest. -/
def maxDepth : Nat := 1023

def readCount : Count → Bytes → Option (Nat × Bytes)
  | .known n, bytes => some (n, bytes)
  | .inBytes width, bytes => readNumber width bytes

/-- Takes a count and then that many bytes. -/
def readCounted (count : Count) (bytes : Bytes) : Option (Bytes × Bytes) := do
  let (n, rest) ← readCount count bytes
  readChunk n rest

/-- Takes a count and then that many items. -/
def readCountedItems {α : Type} (read : Bytes → Option (α × Bytes)) (count : Count)
    (bytes : Bytes) : Option (List α × Bytes) := do
  let (n, rest) ← readCount count bytes
  readMany read n rest

def readPair {α : Type} (read : Bytes → Option (α × Bytes)) (bytes : Bytes) :
    Option ((α × α) × Bytes) := do
  let (first, rest) ← read bytes
  let (second, rest) ← read rest
  return ((first, second), rest)

/-- Takes the kind and the content of an extension. -/
def readExtension (count : Count) (bytes : Bytes) : Option (MessagePack × Bytes) := do
  let (n, rest) ← readCount count bytes
  match rest with
  | [] => none
  | kind :: rest => (readChunk n rest).map fun (content, rest) => (.extension kind content, rest)

/-- Takes a value whose containers nest at most `depth` deep. -/
def readWithin (depth : Nat) (bytes : Bytes) : Option (MessagePack × Bytes) :=
  match bytes with
  | [] => none
  | code :: rest =>
    match Head.ofCode? code.toNat, depth with
    | none, _ => none
    | some .nil, _ => some (.nil, rest)
    | some (.bool value), _ => some (.bool value, rest)
    | some (.smallUnsigned n), _ => some (.unsigned n, rest)
    | some (.smallSigned n), _ => some (.signed n, rest)
    | some (.unsigned width), _ =>
      (readNumber width rest).map fun (n, rest) => (.unsigned n, rest)
    | some (.signed width), _ =>
      (readNumber width rest).map fun (n, rest) => (.signed (toSigned width n), rest)
    | some (.float width), _ => (readChunk width rest).map fun (chunk, rest) => (.float chunk, rest)
    | some (.string count), _ =>
      (readCounted count rest).map fun (chunk, rest) => (.string chunk, rest)
    | some (.binary count), _ =>
      (readCounted count rest).map fun (chunk, rest) => (.binary chunk, rest)
    | some (.array _), 0 => none
    | some (.array count), depth + 1 =>
      (readCountedItems (readWithin depth) count rest).map fun (items, rest) => (.array items, rest)
    | some (.map _), 0 => none
    | some (.map count), depth + 1 =>
      (readCountedItems (readPair (readWithin depth)) count rest).map fun (entries, rest) =>
        (.map entries, rest)
    | some (.extension _), 0 => none
    | some (.extension count), _ + 1 => readExtension count rest
termination_by structural depth

/-- After a code stands what it announces, whatever the depth is. -/
theorem readWithin_cons (depth : Nat) (code : UInt8) (rest : Bytes) :
    readWithin depth (code :: rest) =
      match Head.ofCode? code.toNat, depth with
      | none, _ => none
      | some .nil, _ => some (.nil, rest)
      | some (.bool value), _ => some (.bool value, rest)
      | some (.smallUnsigned n), _ => some (.unsigned n, rest)
      | some (.smallSigned n), _ => some (.signed n, rest)
      | some (.unsigned width), _ =>
        (readNumber width rest).map fun (n, rest) => (.unsigned n, rest)
      | some (.signed width), _ =>
        (readNumber width rest).map fun (n, rest) => (.signed (toSigned width n), rest)
      | some (.float width), _ => (readChunk width rest).map fun (chunk, rest) => (.float chunk, rest)
      | some (.string count), _ =>
        (readCounted count rest).map fun (chunk, rest) => (.string chunk, rest)
      | some (.binary count), _ =>
        (readCounted count rest).map fun (chunk, rest) => (.binary chunk, rest)
      | some (.array _), 0 => none
      | some (.array count), depth + 1 =>
        (readCountedItems (readWithin depth) count rest).map fun (items, rest) => (.array items, rest)
      | some (.map _), 0 => none
      | some (.map count), depth + 1 =>
        (readCountedItems (readPair (readWithin depth)) count rest).map fun (entries, rest) =>
          (.map entries, rest)
      | some (.extension _), 0 => none
      | some (.extension count), _ + 1 => readExtension count rest :=
  readWithin.eq_def depth (code :: rest)

/-- Takes a value from the front of a byte sequence. -/
def read (bytes : Bytes) : Option (MessagePack × Bytes) := readWithin maxDepth bytes

end MessagePack
end PortMessaging
