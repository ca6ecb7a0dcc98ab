import Mathlib.Data.List.Basic
import Mathlib.Data.List.TakeDrop
import PortMessaging.Json.Reader

/-!
# JsonText — the compact text of a JSON value is read back

A JSON value is *plain* if each of its literals denotes a text and each of its numbers is whole.  The
main result of this module is `Plain.parse?_compact`: the reader takes the compact text of a plain value
back to the value.  It is built up in the order of the grammar:

* a literal, character by character (`StringLiteral.readPieces_escape`, `StringLiteral.read_write`);
* a numeral, if what follows it does not go on with it (`Stops`, `readNumber_integerText`);
* a value, by induction on it (`Plain.isRead`).  The statement is about every text that starts with the
  value and about every fuel of at least twice the length of the value's own text, so that it serves for
  the items of an array and for the members of an object.
-/

namespace PortMessaging
namespace Json

/-! ## Literals -/

namespace StringLiteral

open PortMessaging.Text

/-- A piece that is read stands before the pieces that are read after it. -/
theorem bind_pieces (others : Option (List Piece × List Char)) (piece : Piece) :
    (others.bind fun (pieces, rest) => some (piece :: pieces, rest)) =
      others.map fun (pieces, rest) => (piece :: pieces, rest) := by
  cases others <;> rfl

/-- A one-letter escape is read as the character that it denotes. -/
theorem readPieces_letter {letter c : Char} (h : unescape? letter = some c) (cs : List Char) :
    readPieces ('\\' :: letter :: cs) =
      (readPieces cs).map fun (pieces, rest) => (.scalar c :: pieces, rest) := by
  unfold unescape? at h
  -- The letter has to be known for the reader to take the branch of the letters.
  split at h <;> cases h <;> exact bind_pieces (readPieces cs) _

/-- An escaped unit is read as the piece that it denotes. -/
theorem readPieces_unit {a b c d : Char} {unit : Nat} (h : ofHex? [a, b, c, d] = some unit)
    (cs : List Char) :
    readPieces ('\\' :: 'u' :: a :: b :: c :: d :: cs) =
      (readPieces cs).map fun (pieces, rest) => (.ofUnit unit :: pieces, rest) := by
  show (do
    let unit ← ofHex? [a, b, c, d]
    let (pieces, rest) ← readPieces cs
    return (Piece.ofUnit unit :: pieces, rest)) = _
  rw [h]
  exact bind_pieces (readPieces cs) _

/-- A character that stands for itself is read as it is. -/
theorem readPieces_plain {c : Char} (hquote : c ≠ '"') (hbackslash : c ≠ '\\')
    (hcontrol : ¬c.toNat < 0x20) (cs : List Char) :
    readPieces (c :: cs) =
      (readPieces cs).map fun (pieces, rest) => (.scalar c :: pieces, rest) := by
  rw [readPieces]
  · rw [if_neg (by simp [hbackslash, hcontrol])]
    exact bind_pieces (readPieces cs) _
  · exact hquote
  · exact fun _ _ _ _ _ h => absurd h hbackslash
  · exact fun _ _ h => absurd h hbackslash

/-- The hexadecimal form of a control character denotes its number. -/
theorem ofHex?_control {c : Char} (h : c.toNat < 0x20) :
    ofHex? ['0', '0', hexDigit (c.toNat / 16), hexDigit (c.toNat % 16)] = some c.toNat := by
  have hhigh : hexValue? (hexDigit (c.toNat / 16)) = some (c.toNat / 16) :=
    hexValue?_hexDigit (by omega)
  have hlow : hexValue? (hexDigit (c.toNat % 16)) = some (c.toNat % 16) :=
    hexValue?_hexDigit (by omega)
  have hzero : hexValue? '0' = some 0 := by decide
  simp only [ofHex?, List.foldlM_cons, List.foldlM_nil, hzero, hhigh, hlow, Option.map_some,
    Option.bind_eq_bind, Option.bind_some, Option.pure_def, Option.some.injEq]
  omega

/-- The number of a control character denotes the character. -/
theorem ofUnit_toNat {c : Char} (h : c.toNat < 0x20) : Piece.ofUnit c.toNat = .scalar c := by
  unfold Piece.ofUnit
  rw [if_neg (by omega), Char.ofNat_toNat]

/-- The written form of a character is read as this character. -/
theorem readPieces_escape (c : Char) (cs : List Char) :
    readPieces (escape c ++ cs) =
      (readPieces cs).map fun (pieces, rest) => (.scalar c :: pieces, rest) := by
  unfold escape
  -- The cases are those of the written form: seven letters, a unit, the character itself.
  split
  next hc => exact readPieces_letter (by rw [hc]; rfl) cs
  next hquote =>
  split
  next hc => exact readPieces_letter (by rw [hc]; rfl) cs
  next hbackslash =>
  split
  next hc => exact readPieces_letter (by rw [hc]; rfl) cs
  split
  next hc => exact readPieces_letter (by rw [hc]; rfl) cs
  split
  next hc => exact readPieces_letter (by rw [hc]; rfl) cs
  split
  next hc => exact readPieces_letter (by rw [hc]; rfl) cs
  split
  next hc => exact readPieces_letter (by rw [hc]; rfl) cs
  split
  next hcontrol =>
    have h := readPieces_unit (ofHex?_control hcontrol) cs
    rwa [ofUnit_toNat hcontrol] at h
  next hcontrol => exact readPieces_plain hquote hbackslash hcontrol cs

theorem readPieces_flatMap_escape (text rest : List Char) :
    readPieces (text.flatMap escape ++ '"' :: rest) = some (text.map .scalar, rest) := by
  induction text with
  | nil => rfl
  | cons c text ih =>
    rw [List.flatMap_cons, List.append_assoc, readPieces_escape, ih]
    rfl

/-- Characters make up the text that they are taken from. -/
theorem join_map_scalar (text : List Char) : join (text.map .scalar) = some text := by
  induction text with
  | nil => rfl
  | cons c text ih =>
    rw [List.map_cons, join, ih]
    rfl

/-- What is written for a text is read, after its opening quote, as this text. -/
theorem read_write (text : String) (rest : List Char) :
    read (text.toList.flatMap escape ++ '"' :: rest) = some (some text, rest) := by
  simp only [read, readPieces_flatMap_escape, Option.map_some, join_map_scalar, String.ofList_toList]

end StringLiteral

theorem stringText_append (text : String) (rest : List Char) :
    stringText (some text) ++ rest =
      '"' :: (text.toList.flatMap StringLiteral.escape ++ '"' :: rest) := by
  simp [stringText, StringLiteral.write]

/-! ## Numerals -/

/-- What may follow a numeral: nothing, or a character that does not go on with it. -/
def Stops : List Char → Prop
  | [] => True
  | c :: _ => c.isDigit = false ∧ c ≠ '.' ∧ c ≠ 'e' ∧ c ≠ 'E'

theorem spanDigits_append {digits rest : List Char} (hdigits : ∀ c ∈ digits, c.isDigit = true)
    (hrest : Stops rest) : spanDigits (digits ++ rest) = (digits, rest) := by
  have hspan : rest.takeWhile Char.isDigit = [] ∧ rest.dropWhile Char.isDigit = rest := by
    cases rest with
    | nil => exact ⟨rfl, rfl⟩
    | cons c rest => simp [hrest.1]
  unfold spanDigits
  rw [List.span_eq_takeWhile_dropWhile, List.takeWhile_append_of_pos hdigits,
    List.dropWhile_append_of_pos hdigits, hspan.1, hspan.2, List.append_nil]

theorem readFraction_of_stops {rest : List Char} (h : Stops rest) :
    readFraction rest = some ([], rest) := by
  cases rest with
  | nil => rfl
  | cons c rest =>
    rw [readFraction]
    intro cs heq
    cases heq
    exact h.2.1 rfl

theorem readExponent_of_stops {rest : List Char} (h : Stops rest) :
    readExponent rest = some ([], rest) := by
  cases rest with
  | nil => rfl
  | cons c rest => rw [readExponent, if_neg (by simp [h.2.2])]

theorem isDigit_of_mem_toDigits {n : Nat} {c : Char} (h : c ∈ Nat.toDigits 10 n) :
    c.isDigit = true :=
  Nat.isDigit_of_mem_toDigits (by decide) (by decide) h

/-- A decimal numeral starts with a zero only if it is zero. -/
theorem toDigits_leading_zero {n : Nat} (h : (Nat.toDigits 10 n).head? = some '0') :
    Nat.toDigits 10 n = ['0'] := by
  induction n using Nat.strongRecOn with
  | ind n ih =>
    rw [Nat.toDigits_eq_if (by decide)] at h ⊢
    split at h
    next hsmall =>
      rw [if_pos hsmall]
      simpa using h
    next hlarge =>
      rw [List.head?_append_of_ne_nil _ Nat.toDigits_ne_nil] at h
      -- The digits before the last one would be those of zero.
      have hzero : Nat.ofDigitChars 10 (Nat.toDigits 10 (n / 10)) 0 = 0 := by
        rw [ih (n / 10) (by omega) h]
        rfl
      rw [Nat.ofDigitChars_ten_toDigits] at hzero
      omega

/-- The digits of a number have the shape that the grammar asks for. -/
theorem toDigits_shape (n : Nat) : ¬(Nat.toDigits 10 n = [] ∨
    ((Nat.toDigits 10 n).head? = some '0' ∧ Nat.toDigits 10 n ≠ ['0'])) := by
  rintro (hnil | ⟨hhead, hne⟩)
  · exact Nat.toDigits_ne_nil hnil
  · exact hne (toDigits_leading_zero hhead)

theorem ofNumeral_toDigits (n : Nat) : ofNumeral false (Nat.toDigits 10 n) [] = .integer n := by
  simp [ofNumeral, Nat.ofDigitChars_ten_toDigits]

theorem ofNumeral_negative_toDigits (n : Nat) :
    ofNumeral true (Nat.toDigits 10 (n + 1)) [] = .integer (.negSucc n) := by
  simp [ofNumeral, Nat.ofDigitChars_ten_toDigits, Int.negSucc_eq]

/-- The numeral of a whole number is read as this number. -/
theorem readNumber_integerText (n : Int) {rest : List Char} (hrest : Stops rest) :
    readNumber (integerText n ++ rest) = some (.integer n, rest) := by
  have hspan (k : Nat) := spanDigits_append (fun _ hc => isDigit_of_mem_toDigits (n := k) hc) hrest
  cases n with
  | ofNat n =>
    -- The first character is a digit, hence no sign.
    have hsign : ∀ cs, Nat.toDigits 10 n ++ rest ≠ '-' :: cs := by
      intro cs heq
      cases hdigits : Nat.toDigits 10 n with
      | nil => exact Nat.toDigits_ne_nil hdigits
      | cons c digits =>
        rw [hdigits] at heq
        cases heq
        have hdigit : '-'.isDigit = true := isDigit_of_mem_toDigits (hdigits ▸ List.mem_cons_self)
        exact absurd hdigit (by decide)
    unfold readNumber integerText
    simp only [hspan, if_neg (toDigits_shape n), readFraction_of_stops hrest,
      readExponent_of_stops hrest, Option.bind_eq_bind, Option.bind_some, Option.pure_def,
      List.append_nil, ofNumeral_toDigits]
    rfl
  | negSucc n =>
    unfold readNumber integerText
    simp only [List.cons_append, hspan, if_neg (toDigits_shape (n + 1)), readFraction_of_stops hrest,
      readExponent_of_stops hrest, Option.bind_eq_bind, Option.bind_some, Option.pure_def,
      List.append_nil, ofNumeral_negative_toDigits]

/-- A numeral starts with a digit or a minus sign. -/
theorem integerText_head (n : Int) :
    ∃ c cs, integerText n = c :: cs ∧ (c.isDigit = true ∨ c = '-') := by
  cases n with
  | ofNat n =>
    cases hdigits : Nat.toDigits 10 n with
    | nil => exact absurd hdigits Nat.toDigits_ne_nil
    | cons c digits =>
      exact ⟨c, digits, hdigits, .inl (isDigit_of_mem_toDigits (hdigits ▸ List.mem_cons_self))⟩
  | negSucc n => exact ⟨'-', _, rfl, .inr rfl⟩

/-! ## Values -/

/-- A value of which the compact text tells everything: every literal in it denotes a text, and every
number is whole. -/
inductive Plain : Json → Prop where
  | null : Plain .null
  | bool (b : Bool) : Plain (.bool b)
  | integer (n : Int) : Plain (.integer n)
  | string (text : String) : Plain (.string (some text))
  | array {items : List Json} (hitems : ∀ item ∈ items, Plain item) : Plain (.array items)
  | object {members : List (Option String × Json)}
      (hkeys : ∀ member ∈ members, member.1.isSome = true)
      (hvalues : ∀ member ∈ members, Plain member.2) : Plain (.object members)

theorem isBlank_of_isDigit {c : Char} (h : c.isDigit = true) : isBlank c = false := by
  have hne : ∀ blank, blank.isDigit = false → c ≠ blank := by
    rintro blank hblank rfl
    exact absurd h (by simp [hblank])
  simp [isBlank, hne ' ' (by decide), hne '\t' (by decide), hne '\n' (by decide),
    hne '\r' (by decide)]

theorem skipBlanks_cons {c : Char} (h : isBlank c = false) (cs : List Char) :
    skipBlanks (c :: cs) = c :: cs := by
  simp [skipBlanks, h]

/-- The text of a plain value starts with a character that is no blank and closes no array. -/
theorem Plain.head {value : Json} (h : Plain value) :
    ∃ c cs, value.chars = c :: cs ∧ isBlank c = false ∧ c ≠ ']' := by
  cases h with
  | null => exact ⟨'n', _, rfl, by decide, by decide⟩
  | bool b =>
    cases b with
    | false => exact ⟨'f', _, rfl, by decide, by decide⟩
    | true => exact ⟨'t', _, rfl, by decide, by decide⟩
  | integer n =>
    rcases integerText_head n with ⟨c, cs, htext, hdigit | rfl⟩
    · refine ⟨c, cs, htext, isBlank_of_isDigit hdigit, ?_⟩
      rintro rfl
      exact absurd hdigit (by decide)
    · exact ⟨'-', cs, htext, by decide, by decide⟩
  | string text => exact ⟨'"', _, rfl, by decide, by decide⟩
  | array => exact ⟨'[', _, rfl, by decide, by decide⟩
  | object => exact ⟨'\x7b', _, rfl, by decide, by decide⟩

theorem Plain.chars_length_pos {value : Json} (h : Plain value) : 0 < value.chars.length := by
  rcases h.head with ⟨c, cs, htext, -⟩
  simp [htext]

/-- The value is read from every text that starts with its own, if the fuel is at least twice as much
as its own text is long. -/
def IsRead (value : Json) : Prop :=
  ∀ fuel rest, Stops rest → 2 * value.chars.length ≤ fuel →
    readValue fuel (value.chars ++ rest) = some (value, rest)

/-- What starts with a digit or a minus sign is read as a number. -/
theorem readValue_numeral {c : Char} (h : c.isDigit = true ∨ c = '-') (fuel : Nat)
    (cs : List Char) : readValue (fuel + 1) (c :: cs) = readNumber (c :: cs) := by
  have hne : ∀ other, other.isDigit = false → other ≠ '-' → c ≠ other := by
    rintro other hdigit hsign rfl
    exact h.elim (fun h => absurd h (by simp [hdigit])) hsign
  have hblank : isBlank c = false := by
    rcases h with hdigit | rfl
    · exact isBlank_of_isDigit hdigit
    · decide
  rw [readValue, skipBlanks_cons hblank]
  split
  next heq => exact absurd (List.cons.inj heq).1 (hne 'n' (by decide) (by decide))
  next heq => exact absurd (List.cons.inj heq).1 (hne 't' (by decide) (by decide))
  next heq => exact absurd (List.cons.inj heq).1 (hne 'f' (by decide) (by decide))
  next heq => exact absurd (List.cons.inj heq).1 (hne '"' (by decide) (by decide))
  next heq => exact absurd (List.cons.inj heq).1 (hne '[' (by decide) (by decide))
  next heq => exact absurd (List.cons.inj heq).1 (hne '\x7b' (by decide) (by decide))
  next => rfl

theorem stops_comma (cs : List Char) : Stops (',' :: cs) := by
  simp [Stops]

/-- Items that are read one by one are read together, with the bracket that closes the array. -/
theorem readItems_itemChars {items : List Json} (hitems : ∀ item ∈ items, item.IsRead)
    (hne : items ≠ []) (fuel : Nat) (rest : List Char)
    (hfuel : 2 * (itemChars items).length ≤ fuel) :
    readItems fuel (itemChars items ++ rest) = some (items, rest) := by
  induction items generalizing fuel with
  | nil => exact absurd rfl hne
  | cons item items ih =>
    have hitem : item.IsRead := hitems item List.mem_cons_self
    cases items with
    | nil =>
      have htext : itemChars [item] ++ rest = item.chars ++ ']' :: rest := by simp
      have hlength : (itemChars [item]).length = item.chars.length + 1 := by simp
      obtain ⟨fuel, rfl⟩ : ∃ k, fuel = k + 1 := ⟨fuel - 1, by omega⟩
      have hread := hitem fuel (']' :: rest) (by simp [Stops]) (by omega)
      rw [htext, readItems, hread]
      simp [skipBlanks_cons (c := ']') (by decide)]
    | cons next items =>
      have htext : itemChars (item :: next :: items) ++ rest =
          item.chars ++ ',' :: (itemChars (next :: items) ++ rest) := by simp
      have hlength : (itemChars (item :: next :: items)).length =
          item.chars.length + 1 + (itemChars (next :: items)).length := by
        simp
        omega
      obtain ⟨fuel, rfl⟩ : ∃ k, fuel = k + 1 := ⟨fuel - 1, by omega⟩
      have hread := hitem fuel _ (stops_comma (itemChars (next :: items) ++ rest)) (by omega)
      have hothers := ih (fun item h => hitems item (List.mem_cons_of_mem _ h)) (by simp) fuel
        (by omega)
      rw [htext, readItems, hread]
      simp [skipBlanks_cons (c := ',') (by decide), hothers]

/-- Members whose values are read one by one are read together, with the brace that closes the object. -/
theorem readMembers_memberChars {members : List (Option String × Json)}
    (hkeys : ∀ member ∈ members, member.1.isSome = true)
    (hvalues : ∀ member ∈ members, member.2.IsRead) (hne : members ≠ []) (fuel : Nat)
    (rest : List Char) (hfuel : 2 * (memberChars members).length ≤ fuel) :
    readMembers fuel (memberChars members ++ rest) = some (members, rest) := by
  induction members generalizing fuel with
  | nil => exact absurd rfl hne
  | cons member members ih =>
    obtain ⟨key?, value⟩ := member
    obtain ⟨key, rfl⟩ : ∃ key, key? = some key :=
      Option.isSome_iff_exists.1 (hkeys _ List.mem_cons_self)
    have hvalue : value.IsRead := hvalues _ List.mem_cons_self
    have hquote : isBlank '"' = false := by decide
    have hcolon : isBlank ':' = false := by decide
    cases members with
    | nil =>
      have htext : memberChars [(some key, value)] ++ rest =
          stringText (some key) ++ (':' :: (value.chars ++ '\x7d' :: rest)) := by
        simp
      have hlength : (memberChars [(some key, value)]).length =
          (stringText (some key)).length + value.chars.length + 2 := by
        simp
        omega
      obtain ⟨fuel, rfl⟩ : ∃ k, fuel = k + 1 := ⟨fuel - 1, by omega⟩
      have hread := hvalue fuel ('\x7d' :: rest) (by simp [Stops]) (by omega)
      rw [htext, stringText_append, readMembers]
      simp [skipBlanks_cons hquote, StringLiteral.read_write, skipBlanks_cons hcolon, hread,
        skipBlanks_cons (c := '\x7d') (by decide)]
    | cons next members =>
      have htext : memberChars ((some key, value) :: next :: members) ++ rest =
          stringText (some key) ++
            (':' :: (value.chars ++ ',' :: (memberChars (next :: members) ++ rest))) := by
        simp
      have hlength : (memberChars ((some key, value) :: next :: members)).length =
          (stringText (some key)).length + value.chars.length + 2 +
            (memberChars (next :: members)).length := by
        simp
        omega
      obtain ⟨fuel, rfl⟩ : ∃ k, fuel = k + 1 := ⟨fuel - 1, by omega⟩
      have hread := hvalue fuel _ (stops_comma (memberChars (next :: members) ++ rest)) (by omega)
      have hothers := ih (fun member h => hkeys member (List.mem_cons_of_mem _ h))
        (fun member h => hvalues member (List.mem_cons_of_mem _ h)) (by simp) fuel (by omega)
      rw [htext, stringText_append, readMembers]
      simp [skipBlanks_cons hquote, StringLiteral.read_write, skipBlanks_cons hcolon, hread,
        skipBlanks_cons (c := ',') (by decide), hothers]

/-- The items of an array that is not empty start with a character that does not close it. -/
theorem itemChars_head {item : Json} (h : Plain item) (items : List Json) :
    ∃ c cs, itemChars (item :: items) = c :: cs ∧ isBlank c = false ∧ c ≠ ']' := by
  rcases h.head with ⟨c, cs, htext, hc⟩
  cases items with
  | nil => exact ⟨c, cs ++ [']'], by simp [htext], hc⟩
  | cons next items => exact ⟨c, cs ++ ',' :: itemChars (next :: items), by simp [htext], hc⟩

/-- The members of an object that is not empty start with a quote. -/
theorem memberChars_head (key : Option String) (value : Json)
    (members : List (Option String × Json)) :
    ∃ cs, memberChars ((key, value) :: members) = '"' :: cs := by
  cases members with
  | nil => exact ⟨_, by simp [stringText, StringLiteral.write]; rfl⟩
  | cons next members => exact ⟨_, by simp [stringText, StringLiteral.write]; rfl⟩

/-- Reading a value takes one step of the fuel at once. -/
theorem isRead_of_succ {value : Json} (hpos : 0 < value.chars.length)
    (h : ∀ fuel rest, Stops rest → 2 * value.chars.length ≤ fuel + 1 →
      readValue (fuel + 1) (value.chars ++ rest) = some (value, rest)) : value.IsRead := by
  intro fuel rest hrest hfuel
  obtain ⟨fuel, rfl⟩ : ∃ k, fuel = k + 1 := ⟨fuel - 1, by omega⟩
  exact h fuel rest hrest hfuel

theorem isRead_integer (n : Int) : (integer n).IsRead := by
  rcases integerText_head n with ⟨c, cs, htext, hc⟩
  refine isRead_of_succ (by simp [htext]) fun fuel rest hrest _ => ?_
  have hread := readNumber_integerText n hrest
  rw [htext] at hread
  rw [chars_integer, htext, List.cons_append, readValue_numeral hc]
  exact hread

theorem isRead_string (text : String) : (string (some text)).IsRead := by
  refine isRead_of_succ (by simp [stringText, StringLiteral.write]) fun fuel rest _ _ => ?_
  rw [chars_string, stringText_append, readValue_quote, StringLiteral.read_write]
  rfl

theorem isRead_array {items : List Json} (hitems : ∀ item ∈ items, Plain item)
    (h : ∀ item ∈ items, item.IsRead) : (array items).IsRead := by
  refine isRead_of_succ (by simp) fun fuel rest _ hfuel => ?_
  rw [chars_array, List.length_cons] at hfuel
  rw [chars_array, List.cons_append, readValue_bracket]
  cases items with
  | nil => rfl
  | cons item items =>
    rcases itemChars_head (hitems item List.mem_cons_self) items with ⟨c, cs, htext, hblank, hclose⟩
    have hread := readItems_itemChars h (by simp) fuel rest (by omega)
    rw [htext, List.cons_append] at hread
    simp only [htext, List.cons_append, skipBlanks_cons hblank]
    split
    next heq => exact absurd (List.cons.inj heq).1 hclose
    next =>
      rw [hread]
      rfl

theorem isRead_object {members : List (Option String × Json)}
    (hkeys : ∀ member ∈ members, member.1.isSome = true)
    (h : ∀ member ∈ members, member.2.IsRead) : (object members).IsRead := by
  refine isRead_of_succ (by simp) fun fuel rest _ hfuel => ?_
  rw [chars_object, List.length_cons] at hfuel
  rw [chars_object, List.cons_append, readValue_brace]
  cases members with
  | nil => rfl
  | cons member members =>
    rcases memberChars_head member.1 member.2 members with ⟨cs, htext⟩
    have hread := readMembers_memberChars hkeys h (by simp) fuel rest (by omega)
    rw [htext, List.cons_append] at hread
    simp only [htext, List.cons_append, skipBlanks_cons (c := '"') (by decide)]
    split
    next heq => exact absurd (List.cons.inj heq).1 (by decide)
    next =>
      rw [hread]
      rfl

/-- Every plain value is read from a text that starts with its own. -/
theorem Plain.isRead {value : Json} (h : Plain value) : value.IsRead := by
  induction h with
  | null =>
    refine isRead_of_succ (by simp) fun fuel rest _ _ => ?_
    rfl
  | bool b =>
    refine isRead_of_succ (by cases b <;> simp) fun fuel rest _ _ => ?_
    cases b <;> rfl
  | integer n => exact isRead_integer n
  | string text => exact isRead_string text
  | array hitems ih => exact isRead_array hitems ih
  | object hkeys _ ih => exact isRead_object hkeys ih

/-- The compact text of a plain value is read back. -/
theorem Plain.parse?_compact {value : Json} (h : Plain value) : parse? value.compact = some value := by
  have hread := h.isRead (2 * value.chars.length + 1) [] trivial (by omega)
  rw [List.append_nil] at hread
  have htext : value.compact.toList = value.chars := String.toList_ofList
  unfold parse?
  simp only [htext, hread, Option.bind_eq_bind, Option.bind_some]
  -- Nothing follows the text, blanks neither.
  exact if_pos rfl

end Json
end PortMessaging
