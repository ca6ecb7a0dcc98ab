import PortMessaging.MessagePack.Reader

/-!
# MessagePackBytes — the bytes of a MessagePack value are read back

A value is written in the shortest form that it has, and which form that is depends on its size: a count or
a number stands in the code itself, or in one, two, four or eight bytes after it.  So reading has to undo a
choice at every head.  This module shows that it does:

* the head of a string, of binary data, of an array, of a map or of an extension announces the number of
  parts that it was written for (`Announces`), whatever form was chosen;
* an integer is read as itself, also where two's complement stands for it (`toSigned_ofSigned`);
* a value that `Fits` below a depth is read from every byte sequence that starts with its bytes, and what
  follows them is left over (`Fits.isRead`).  This is an induction on the value; the depth that is left
  goes down with each container, as it does in the reader.
-/

namespace PortMessaging
namespace MessagePack

theorem capacity_one : capacity 1 = 256 := rfl

theorem capacity_two : capacity 2 = 65536 := rfl

theorem capacity_four : capacity 4 = 4294967296 := rfl

theorem capacity_eight : capacity 8 = 18446744073709551616 := rfl

/-! ## Heads -/

/-- The head tells that `n` parts of a kind follow. -/
def Announces (head : Bytes) (kind : Count → Head) (n : Nat) : Prop :=
  ∃ code tail count, head = code :: tail ∧ Head.ofCode? code.toNat = some (kind count) ∧
    ∀ rest, readCount count (tail ++ rest) = some (n, rest)

/-- A count may stand in the code. -/
theorem announces_known {code n : Nat} {kind : Count → Head} (hcode : code < 256)
    (h : Head.ofCode? code = some (kind (.known n))) :
    Announces [UInt8.ofNat code] kind n := by
  refine ⟨UInt8.ofNat code, [], .known n, rfl, ?_, fun rest => rfl⟩
  rw [UInt8.toNat_ofNat', Nat.mod_eq_of_lt hcode]
  exact h

/-- A count may stand in the bytes after the code, if they are enough for it. -/
theorem announces_inBytes {code : UInt8} {width n : Nat} {kind : Count → Head}
    (hcode : Head.ofCode? code.toNat = some (kind (.inBytes width))) (h : n < capacity width) :
    Announces (code :: bigEndian width n) kind n :=
  ⟨code, bigEndian width n, .inBytes width, rfl, hcode, readNumber_bigEndian h⟩

theorem stringHead_announces {n : Nat} (h : n < 4294967296) : Announces (stringHead n) .string n := by
  unfold stringHead
  split
  next hsmall =>
    refine announces_known (by omega) ?_
    have hlow : ¬0xa0 + n < 0x80 ∧ ¬0xa0 + n < 0x90 ∧ 0xa0 + n < 0xc0 := by omega
    simp [Head.ofCode?, hlow]
  split
  next hbyte => exact announces_inBytes (by decide) (capacity_one ▸ hbyte)
  split
  next hpair => exact announces_inBytes (by decide) (capacity_two ▸ hpair)
  next => exact announces_inBytes (by decide) (capacity_four ▸ h)

theorem binaryHead_announces {n : Nat} (h : n < 4294967296) : Announces (binaryHead n) .binary n := by
  unfold binaryHead
  split
  next hbyte => exact announces_inBytes (by decide) (capacity_one ▸ hbyte)
  split
  next hpair => exact announces_inBytes (by decide) (capacity_two ▸ hpair)
  next => exact announces_inBytes (by decide) (capacity_four ▸ h)

theorem arrayHead_announces {n : Nat} (h : n < 4294967296) : Announces (arrayHead n) .array n := by
  unfold arrayHead
  split
  next hsmall =>
    refine announces_known (by omega) ?_
    have hlow : ¬0x90 + n < 0x80 ∧ 0x90 + n < 0xa0 := by omega
    simp [Head.ofCode?, hlow]
  split
  next hpair => exact announces_inBytes (by decide) (capacity_two ▸ hpair)
  next => exact announces_inBytes (by decide) (capacity_four ▸ h)

theorem mapHead_announces {n : Nat} (h : n < 4294967296) : Announces (mapHead n) .map n := by
  unfold mapHead
  split
  next hsmall =>
    refine announces_known (by omega) ?_
    have hlow : 0x80 + n < 0x90 := by omega
    simp [Head.ofCode?, hlow]
  split
  next hpair => exact announces_inBytes (by decide) (capacity_two ▸ hpair)
  next => exact announces_inBytes (by decide) (capacity_four ▸ h)

theorem extensionHead_announces {n : Nat} (h : n < 4294967296) :
    Announces (extensionHead n) .extension n := by
  unfold extensionHead
  split
  next hbyte => exact announces_inBytes (by decide) (capacity_one ▸ hbyte)
  split
  next hpair => exact announces_inBytes (by decide) (capacity_two ▸ hpair)
  next => exact announces_inBytes (by decide) (capacity_four ▸ h)

/-! ## Integers -/

/-- The two's complement of a negative number that has room in its width. -/
theorem ofSigned_eq {width : Nat} {n : Int} (hlow : -(capacity width : Int) ≤ 2 * n)
    (hhigh : n < 0) : (ofSigned width n : Int) = n + capacity width := by
  have hcomplement : n % (capacity width : Int) = n + capacity width := by
    rw [← Int.add_emod_right, Int.emod_eq_of_lt (by omega) (by omega)]
  unfold ofSigned
  rw [hcomplement]
  omega

/-- A negative number is the one that its two's complement stands for. -/
theorem toSigned_ofSigned {width : Nat} {n : Int} (hlow : -(capacity width : Int) ≤ 2 * n)
    (hhigh : n < 0) : toSigned width (ofSigned width n) = n := by
  have hcomplement := ofSigned_eq hlow hhigh
  unfold toSigned
  rw [if_neg (by omega)]
  omega

theorem ofSigned_lt {width : Nat} {n : Int} (hlow : -(capacity width : Int) ≤ 2 * n) (hhigh : n < 0) :
    ofSigned width n < capacity width := by
  have hcomplement := ofSigned_eq hlow hhigh
  omega

/-- A code that announces an unsigned number is followed by its bytes. -/
theorem readWithin_unsigned {code : UInt8} {width n : Nat}
    (hcode : Head.ofCode? code.toNat = some (.unsigned width)) (h : n < capacity width) (depth : Nat)
    (rest : Bytes) :
    readWithin depth (code :: (bigEndian width n ++ rest)) = some (.unsigned n, rest) := by
  simp only [readWithin_cons, hcode, readNumber_bigEndian h, Option.map_some]

/-- A code that announces a signed number is followed by the bytes of its two's complement. -/
theorem readWithin_signed {code : UInt8} {width : Nat} {n : Int}
    (hcode : Head.ofCode? code.toNat = some (.signed width)) (hlow : -(capacity width : Int) ≤ 2 * n)
    (hhigh : n < 0) (depth : Nat) (rest : Bytes) :
    readWithin depth (code :: (bigEndian width (ofSigned width n) ++ rest)) =
      some (.signed n, rest) := by
  simp only [readWithin_cons, hcode, readNumber_bigEndian (ofSigned_lt hlow hhigh), Option.map_some,
    toSigned_ofSigned hlow hhigh]

theorem readWithin_unsignedBytes {n : Nat} (h : n < 18446744073709551616) (depth : Nat)
    (rest : Bytes) : readWithin depth (unsignedBytes n ++ rest) = some (.unsigned n, rest) := by
  unfold unsignedBytes
  split
  next hsmall =>
    have hcode : (UInt8.ofNat n).toNat = n := by
      rw [UInt8.toNat_ofNat', Nat.mod_eq_of_lt (by omega)]
    simp [readWithin_cons, hcode, Head.ofCode?, hsmall]
  split
  next hbyte => exact readWithin_unsigned (by decide) (capacity_one ▸ hbyte) depth rest
  split
  next hpair => exact readWithin_unsigned (by decide) (capacity_two ▸ hpair) depth rest
  split
  next hfour => exact readWithin_unsigned (by decide) (capacity_four ▸ hfour) depth rest
  next => exact readWithin_unsigned (by decide) (capacity_eight ▸ h) depth rest

theorem readWithin_signedBytes {n : Int} (hlow : -9223372036854775808 ≤ n) (hhigh : n < 0)
    (depth : Nat) (rest : Bytes) :
    readWithin depth (signedBytes n ++ rest) = some (.signed n, rest) := by
  unfold signedBytes
  split
  next hsmall =>
    -- The code itself is the two's complement.
    have hcomplement : (ofSigned 1 n : Int) = n + 256 := ofSigned_eq (by rw [capacity_one]; omega) hhigh
    have hbytes : bigEndian 1 (ofSigned 1 n) = [UInt8.ofNat (ofSigned 1 n)] := by
      simp [bigEndian, capacity]
    have hcode : (UInt8.ofNat (ofSigned 1 n)).toNat = ofSigned 1 n := by
      rw [UInt8.toNat_ofNat', Nat.mod_eq_of_lt (by omega)]
    have hkind : Head.ofCode? (ofSigned 1 n) = some (.smallSigned n) := by
      have hlarge : ¬ofSigned 1 n < 0x80 ∧ ¬ofSigned 1 n < 0x90 ∧ ¬ofSigned 1 n < 0xa0 ∧
          ¬ofSigned 1 n < 0xc0 ∧ 0xe0 ≤ ofSigned 1 n := by omega
      have hvalue : (ofSigned 1 n : Int) - 256 = n := by omega
      simp [Head.ofCode?, hlarge, hvalue]
    simp only [hbytes, List.singleton_append, readWithin_cons, hcode, hkind]
  split
  next hbyte => exact readWithin_signed (by decide) (by rw [capacity_one]; omega) hhigh depth rest
  split
  next hpair => exact readWithin_signed (by decide) (by rw [capacity_two]; omega) hhigh depth rest
  split
  next hfour => exact readWithin_signed (by decide) (by rw [capacity_four]; omega) hhigh depth rest
  next => exact readWithin_signed (by decide) (by rw [capacity_eight]; omega) hhigh depth rest

/-! ## Values -/

/-- A value that has a written form, with containers that nest at most so deep: integers are of 64 bits and
a negative one is kept as signed, floating-point numbers have four or eight bytes, and no part is longer
than a head can tell. -/
inductive Fits : Nat → MessagePack → Prop where
  | nil {depth : Nat} : Fits depth .nil
  | bool {depth : Nat} (b : Bool) : Fits depth (.bool b)
  | unsigned {depth n : Nat} (h : n < 18446744073709551616) : Fits depth (.unsigned n)
  | signed {depth : Nat} {n : Int} (hlow : -9223372036854775808 ≤ n) (hhigh : n < 0) :
      Fits depth (.signed n)
  | float {depth : Nat} {bytes : Bytes} (h : bytes.length = 4 ∨ bytes.length = 8) :
      Fits depth (.float bytes)
  | string {depth : Nat} {bytes : Bytes} (h : bytes.length < 4294967296) : Fits depth (.string bytes)
  | binary {depth : Nat} {bytes : Bytes} (h : bytes.length < 4294967296) : Fits depth (.binary bytes)
  | array {depth : Nat} {items : List MessagePack} (hlength : items.length < 4294967296)
      (hitems : ∀ item ∈ items, Fits depth item) : Fits (depth + 1) (.array items)
  | map {depth : Nat} {entries : List (MessagePack × MessagePack)}
      (hlength : entries.length < 4294967296) (hkeys : ∀ entry ∈ entries, Fits depth entry.1)
      (hvalues : ∀ entry ∈ entries, Fits depth entry.2) : Fits (depth + 1) (.map entries)
  | extension {depth : Nat} (kind : UInt8) {bytes : Bytes} (h : bytes.length < 4294967296) :
      Fits (depth + 1) (.extension kind bytes)

/-- The value is read from every byte sequence that starts with its bytes, and the rest is left. -/
def IsRead (depth : Nat) (value : MessagePack) : Prop :=
  ∀ rest, readWithin depth (value.write ++ rest) = some (value, rest)

/-- What a head announces as counted bytes are these bytes. -/
theorem readCounted_append {count : Count} {tail bytes : Bytes}
    (hcount : ∀ rest, readCount count (tail ++ rest) = some (bytes.length, rest)) (rest : Bytes) :
    readCounted count (tail ++ (bytes ++ rest)) = some (bytes, rest) := by
  unfold readCounted
  rw [hcount]
  exact readChunk_append rfl rest

theorem isRead_string {depth : Nat} {bytes : Bytes} (h : bytes.length < 4294967296) :
    IsRead depth (.string bytes) := by
  intro rest
  rcases stringHead_announces h with ⟨code, tail, count, hhead, hcode, hcount⟩
  rw [write_string, hhead, List.append_assoc, List.cons_append]
  simp only [readWithin_cons, hcode, readCounted_append hcount, Option.map_some]

theorem isRead_binary {depth : Nat} {bytes : Bytes} (h : bytes.length < 4294967296) :
    IsRead depth (.binary bytes) := by
  intro rest
  rcases binaryHead_announces h with ⟨code, tail, count, hhead, hcode, hcount⟩
  rw [write_binary, hhead, List.append_assoc, List.cons_append]
  simp only [readWithin_cons, hcode, readCounted_append hcount, Option.map_some]

theorem isRead_extension {depth : Nat} (kind : UInt8) {bytes : Bytes}
    (h : bytes.length < 4294967296) : IsRead (depth + 1) (.extension kind bytes) := by
  intro rest
  rcases extensionHead_announces h with ⟨code, tail, count, hhead, hcode, hcount⟩
  rw [write_extension, hhead, List.append_assoc, List.cons_append]
  simp only [readWithin_cons, hcode, readExtension, hcount, List.cons_append, Option.bind_eq_bind,
    Option.bind_some, readChunk_append rfl, Option.map_some]

theorem isRead_float {depth : Nat} {bytes : Bytes} (h : bytes.length = 4 ∨ bytes.length = 8) :
    IsRead depth (.float bytes) := by
  intro rest
  rw [write_float, List.cons_append, readWithin_cons]
  rcases h with hfour | height
  · have hcode : Head.ofCode? (0xca : UInt8).toNat = some (.float 4) := by decide
    simp only [hfour, if_true, hcode, readChunk_append hfour, Option.map_some]
  · have hcode : Head.ofCode? (0xcb : UInt8).toNat = some (.float 8) := by decide
    simp only [height, hcode, readChunk_append height, Option.map_some, if_false,
      show ¬8 = 4 by decide]

/-- Items that are read one by one are read together. -/
theorem readMany_writeItems {depth : Nat} {items : List MessagePack}
    (h : ∀ item ∈ items, IsRead depth item) (rest : Bytes) :
    readMany (readWithin depth) items.length (writeItems items ++ rest) = some (items, rest) := by
  induction items with
  | nil => rfl
  | cons item items ih =>
    have hitem := h item List.mem_cons_self (writeItems items ++ rest)
    have hothers := ih fun item hitem => h item (List.mem_cons_of_mem _ hitem)
    rw [writeItems_cons, List.append_assoc, List.length_cons, readMany, hitem]
    simp [hothers]

/-- Entries of which both parts are read are read together. -/
theorem readMany_writeEntries {depth : Nat} {entries : List (MessagePack × MessagePack)}
    (hkeys : ∀ entry ∈ entries, IsRead depth entry.1)
    (hvalues : ∀ entry ∈ entries, IsRead depth entry.2) (rest : Bytes) :
    readMany (readPair (readWithin depth)) entries.length (writeEntries entries ++ rest) =
      some (entries, rest) := by
  induction entries with
  | nil => rfl
  | cons entry entries ih =>
    have hvalue := hvalues entry List.mem_cons_self (writeEntries entries ++ rest)
    have hkey := hkeys entry List.mem_cons_self (entry.2.write ++ (writeEntries entries ++ rest))
    have hothers := ih (fun entry hentry => hkeys entry (List.mem_cons_of_mem _ hentry))
      (fun entry hentry => hvalues entry (List.mem_cons_of_mem _ hentry))
    rw [writeEntries_cons, List.append_assoc, List.append_assoc, List.length_cons, readMany]
    simp [readPair, hkey, hvalue, hothers]

theorem isRead_array {depth : Nat} {items : List MessagePack} (hlength : items.length < 4294967296)
    (h : ∀ item ∈ items, IsRead depth item) : IsRead (depth + 1) (.array items) := by
  intro rest
  rcases arrayHead_announces hlength with ⟨code, tail, count, hhead, hcode, hcount⟩
  rw [write_array, hhead, List.append_assoc, List.cons_append]
  simp only [readWithin_cons, hcode, readCountedItems, hcount, Option.bind_eq_bind, Option.bind_some,
    readMany_writeItems h, Option.map_some]

theorem isRead_map {depth : Nat} {entries : List (MessagePack × MessagePack)}
    (hlength : entries.length < 4294967296) (hkeys : ∀ entry ∈ entries, IsRead depth entry.1)
    (hvalues : ∀ entry ∈ entries, IsRead depth entry.2) : IsRead (depth + 1) (.map entries) := by
  intro rest
  rcases mapHead_announces hlength with ⟨code, tail, count, hhead, hcode, hcount⟩
  rw [write_map, hhead, List.append_assoc, List.cons_append]
  simp only [readWithin_cons, hcode, readCountedItems, hcount, Option.bind_eq_bind, Option.bind_some,
    readMany_writeEntries hkeys hvalues, Option.map_some]

/-- Every value that fits is read from a byte sequence that starts with its bytes. -/
theorem Fits.isRead {depth : Nat} {value : MessagePack} (h : Fits depth value) :
    IsRead depth value := by
  induction h with
  | nil =>
    intro rest
    exact readWithin_cons _ 0xc0 rest
  | bool b =>
    intro rest
    cases b with
    | false => exact readWithin_cons _ 0xc2 rest
    | true => exact readWithin_cons _ 0xc3 rest
  | unsigned h =>
    intro rest
    rw [write_unsigned]
    exact readWithin_unsignedBytes h _ rest
  | signed hlow hhigh =>
    intro rest
    rw [write_signed, if_neg (by omega)]
    exact readWithin_signedBytes hlow hhigh _ rest
  | float h => exact isRead_float h
  | string h => exact isRead_string h
  | binary h => exact isRead_binary h
  | array hlength _ ih => exact isRead_array hlength ih
  | map hlength _ _ ihkeys ihvalues => exact isRead_map hlength ihkeys ihvalues
  | extension kind h => exact isRead_extension kind h

end MessagePack
end PortMessaging
