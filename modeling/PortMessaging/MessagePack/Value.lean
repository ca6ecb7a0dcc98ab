import PortMessaging.MessagePack.Bytes

/-!
# MessagePack.Value — MessagePack values and their bytes

The data model of MessagePack: nil, truth values, integers, floating-point numbers, strings, binary
data, arrays, maps and extensions.  The format has separate codes for unsigned and for signed
integers, and the difference can matter to a reader, so the two are separate here.  A string is
kept as its bytes, which need not be text.  Every value is written in the shortest form it has.
-/

namespace PortMessaging

inductive MessagePack where
  | nil
  | bool (value : Bool)
  | unsigned (value : Nat)
  | signed (value : Int)
  /-- A floating-point number of four or eight bytes, as it stands. -/
  | float (bytes : List UInt8)
  | string (bytes : List UInt8)
  | binary (bytes : List UInt8)
  | array (items : List MessagePack)
  | map (entries : List (MessagePack × MessagePack))
  | extension (kind : UInt8) (bytes : List UInt8)
  deriving Inhabited

namespace MessagePack

/-! ## Heads -/

/-- The bytes of an unsigned integer below 2^64. -/
def unsignedBytes (n : Nat) : Bytes :=
  if n < 0x80 then [UInt8.ofNat n]
  else if n < 256 then 0xcc :: bigEndian 1 n
  else if n < 65536 then 0xcd :: bigEndian 2 n
  else if n < 4294967296 then 0xce :: bigEndian 4 n
  else 0xcf :: bigEndian 8 n

/-- The bytes of a negative integer not below -2^63. -/
def signedBytes (n : Int) : Bytes :=
  if -32 ≤ n then bigEndian 1 (ofSigned 1 n)
  else if -128 ≤ n then 0xd0 :: bigEndian 1 (ofSigned 1 n)
  else if -32768 ≤ n then 0xd1 :: bigEndian 2 (ofSigned 2 n)
  else if -2147483648 ≤ n then 0xd2 :: bigEndian 4 (ofSigned 4 n)
  else 0xd3 :: bigEndian 8 (ofSigned 8 n)

/-- The head of a string of `n` bytes. -/
def stringHead (n : Nat) : Bytes :=
  if n < 32 then [UInt8.ofNat (0xa0 + n)]
  else if n < 256 then 0xd9 :: bigEndian 1 n
  else if n < 65536 then 0xda :: bigEndian 2 n
  else 0xdb :: bigEndian 4 n

/-- The head of binary data of `n` bytes. -/
def binaryHead (n : Nat) : Bytes :=
  if n < 256 then 0xc4 :: bigEndian 1 n
  else if n < 65536 then 0xc5 :: bigEndian 2 n
  else 0xc6 :: bigEndian 4 n

/-- The head of an array of `n` items. -/
def arrayHead (n : Nat) : Bytes :=
  if n < 16 then [UInt8.ofNat (0x90 + n)]
  else if n < 65536 then 0xdc :: bigEndian 2 n
  else 0xdd :: bigEndian 4 n

/-- The head of a map of `n` entries. -/
def mapHead (n : Nat) : Bytes :=
  if n < 16 then [UInt8.ofNat (0x80 + n)]
  else if n < 65536 then 0xde :: bigEndian 2 n
  else 0xdf :: bigEndian 4 n

/-- The head of an extension of `n` bytes. -/
def extensionHead (n : Nat) : Bytes :=
  if n < 256 then 0xc7 :: bigEndian 1 n
  else if n < 65536 then 0xc8 :: bigEndian 2 n
  else 0xc9 :: bigEndian 4 n

/-! ## Values -/

mutual

def write : MessagePack → Bytes
  | nil => [0xc0]
  | bool false => [0xc2]
  | bool true => [0xc3]
  | unsigned n => unsignedBytes n
  | signed n => if 0 ≤ n then unsignedBytes n.toNat else signedBytes n
  | float bytes => (if bytes.length = 4 then 0xca else 0xcb) :: bytes
  | string bytes => stringHead bytes.length ++ bytes
  | binary bytes => binaryHead bytes.length ++ bytes
  | array items => arrayHead items.length ++ writeItems items
  | map entries => mapHead entries.length ++ writeEntries entries
  | extension kind bytes => extensionHead bytes.length ++ kind :: bytes

/-- The bytes of the items of an array. -/
def writeItems : List MessagePack → Bytes
  | [] => []
  | item :: rest => item.write ++ writeItems rest

/-- The bytes of the entries of a map. -/
def writeEntries : List (MessagePack × MessagePack) → Bytes
  | [] => []
  | (key, value) :: rest => key.write ++ (value.write ++ writeEntries rest)

end

@[simp] theorem write_unsigned (n : Nat) : (unsigned n).write = unsignedBytes n := rfl

@[simp] theorem write_signed (n : Int) :
    (signed n).write = if 0 ≤ n then unsignedBytes n.toNat else signedBytes n := rfl

@[simp] theorem write_float (bytes : Bytes) :
    (float bytes).write = (if bytes.length = 4 then 0xca else 0xcb) :: bytes := rfl

@[simp] theorem write_string (bytes : Bytes) :
    (string bytes).write = stringHead bytes.length ++ bytes := rfl

@[simp] theorem write_binary (bytes : Bytes) :
    (binary bytes).write = binaryHead bytes.length ++ bytes := rfl

@[simp] theorem write_array (items : List MessagePack) :
    (array items).write = arrayHead items.length ++ writeItems items := rfl

@[simp] theorem write_map (entries : List (MessagePack × MessagePack)) :
    (map entries).write = mapHead entries.length ++ writeEntries entries := rfl

@[simp] theorem write_extension (kind : UInt8) (bytes : Bytes) :
    (extension kind bytes).write = extensionHead bytes.length ++ kind :: bytes := rfl

@[simp] theorem writeItems_cons (item : MessagePack) (items : List MessagePack) :
    writeItems (item :: items) = item.write ++ writeItems items := rfl

@[simp] theorem writeEntries_cons (entry : MessagePack × MessagePack)
    (entries : List (MessagePack × MessagePack)) :
    writeEntries (entry :: entries) =
      entry.1.write ++ (entry.2.write ++ writeEntries entries) := rfl

end MessagePack
end PortMessaging
