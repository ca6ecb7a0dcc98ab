/-!
# MessagePack.Bytes — numbers and runs in a byte sequence

Unsigned numbers of a fixed width, the most significant byte first, and readers that take a known
amount from the front of a byte sequence: a chunk of bytes, or a counted run of items.
-/

namespace PortMessaging
namespace MessagePack

abbrev Bytes := List UInt8

/-! ## Numbers of a fixed width -/

/-- How many numbers a width in bytes can tell apart. -/
def capacity : Nat → Nat
  | 0 => 1
  | width + 1 => 256 * capacity width

/-- The lowest `width` bytes of a number, the most significant first. -/
def bigEndian : Nat → Nat → Bytes
  | 0, _ => []
  | width + 1, n => UInt8.ofNat (n / capacity width) :: bigEndian width n

/-- The number that bytes denote, the most significant first. -/
def ofBigEndian (bytes : Bytes) : Nat := bytes.foldl (fun n b => 256 * n + b.toNat) 0

@[simp] theorem length_bigEndian (width n : Nat) : (bigEndian width n).length = width := by
  induction width with
  | zero => rfl
  | succ width ih => simp [bigEndian, ih]

private theorem foldl_bigEndian (width n acc : Nat) :
    (bigEndian width n).foldl (fun n b => 256 * n + b.toNat) acc =
      capacity width * acc + n % capacity width := by
  induction width generalizing acc with
  | zero => simp [bigEndian, capacity, Nat.mod_one]
  | succ width ih =>
    have hsplit : n % capacity (width + 1) =
        capacity width * (n / capacity width % 256) + n % capacity width := by
      rw [capacity, Nat.mul_comm, Nat.mod_mul, Nat.add_comm]
    have hpow : capacity (width + 1) * acc = capacity width * (256 * acc) := by
      rw [capacity, Nat.mul_comm 256, Nat.mul_assoc]
    have hbyte : (UInt8.ofNat (n / capacity width)).toNat = n / capacity width % 256 := by simp
    simp only [bigEndian, List.foldl_cons]
    rw [ih, hbyte, hsplit, hpow, Nat.mul_add, Nat.add_assoc]

/-- Reading takes a number back, up to the width. -/
theorem ofBigEndian_bigEndian (width n : Nat) :
    ofBigEndian (bigEndian width n) = n % capacity width := by
  simp [ofBigEndian, foldl_bigEndian]

/-- The signed number that an unsigned one of `width` bytes stands for in two's complement. -/
def toSigned (width n : Nat) : Int :=
  if 2 * n < capacity width then n else (n : Int) - capacity width

/-- The unsigned number of `width` bytes that stands for a signed one in two's complement. -/
def ofSigned (width : Nat) (n : Int) : Nat := (n % capacity width).toNat

/-! ## Chunks and counted runs -/

/-- Takes exactly `n` bytes. -/
def readChunk (n : Nat) (bytes : Bytes) : Option (Bytes × Bytes) :=
  if n ≤ bytes.length then some (bytes.take n, bytes.drop n) else none

/-- Takes an unsigned number of `width` bytes. -/
def readNumber (width : Nat) (bytes : Bytes) : Option (Nat × Bytes) :=
  (readChunk width bytes).map fun (chunk, rest) => (ofBigEndian chunk, rest)

/-- Takes `n` items, one after the other. -/
def readMany {α : Type} (read : Bytes → Option (α × Bytes)) : Nat → Bytes → Option (List α × Bytes)
  | 0, bytes => some ([], bytes)
  | n + 1, bytes => do
    let (item, rest) ← read bytes
    let (items, rest) ← readMany read n rest
    return (item :: items, rest)

theorem readChunk_append {n : Nat} {chunk : Bytes} (h : chunk.length = n) (rest : Bytes) :
    readChunk n (chunk ++ rest) = some (chunk, rest) := by
  subst h
  simp [readChunk]

theorem readNumber_bigEndian {width n : Nat} (h : n < capacity width) (rest : Bytes) :
    readNumber width (bigEndian width n ++ rest) = some (n, rest) := by
  simp [readNumber, readChunk_append (length_bigEndian width n), ofBigEndian_bigEndian,
    Nat.mod_eq_of_lt h]

end MessagePack
end PortMessaging
