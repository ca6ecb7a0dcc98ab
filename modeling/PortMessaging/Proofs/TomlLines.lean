import Mathlib.Data.List.Basic
import Mathlib.Data.List.TakeDrop
import PortMessaging.Proofs.JsonText
import PortMessaging.Toml.Codec

/-!
# TomlLines — one assignment on a line

A TOML document can be as plain as one assignment on each line: a bare key, an equals sign between two
blanks, a value.  `parse?_document` says that such a document is read as its assignments in their order,
however many there are and whatever the values are, if every value is read before the end of a line
(`Field.Written`) and no key comes twice.  Line breaks are of either kind, and the last line may do without.

The values that the library writes are decimal numerals and the two truth values.  A numeral needs care: the
reader takes it for a date or a time if it finds a hyphen or a colon at the right place, for a number of
another base after a zero and a letter, and for a decimal number before a point or an exponent.
-/

namespace PortMessaging
namespace Toml

/-! ## Ends of lines -/

/-- What stands between two lines. -/
inductive LineBreak where
  | lineFeed
  | returnAndLineFeed
  deriving DecidableEq, Repr

def LineBreak.text : LineBreak → String
  | lineFeed => "\n"
  | returnAndLineFeed => "\r\n"

/-- A line is over, and `more` are the lines that follow it. -/
inductive LineEnd : List Char → List Char → Prop where
  | last : LineEnd [] []
  | broken (lineBreak : LineBreak) (more : List Char) :
      LineEnd (lineBreak.text.toList ++ more) more

/-- What follows starts a new line, if there is anything. -/
def Ended (rest : List Char) : Prop := ∀ c ∈ rest.head?, c = '\n' ∨ c = '\r'

variable {rest more : List Char}

theorem LineEnd.ended (h : LineEnd rest more) : Ended rest := by
  cases h with
  | last => nofun
  | broken lineBreak =>
    cases lineBreak with
    | lineFeed => simp [Ended, LineBreak.text]
    | returnAndLineFeed => simp [Ended, LineBreak.text]

theorem endLine_eq (h : LineEnd rest more) : endLine rest = some more := by
  cases h with
  | last => rfl
  | broken lineBreak =>
    cases lineBreak with
    | lineFeed => rfl
    | returnAndLineFeed => rfl

theorem skipLines_break (lineBreak : LineBreak) (cs : List Char) :
    skipLines false (lineBreak.text.toList ++ cs) = skipLines false cs := by
  cases lineBreak with
  | lineFeed => simp [LineBreak.text, skipLines]
  | returnAndLineFeed => simp [LineBreak.text, skipLines]

/-- Characters of which only one belongs to a class are different. -/
theorem ne_of_class {p : Char → Bool} {c d : Char} (hc : p c = true) (hd : p d = false) : c ≠ d := by
  rintro rfl
  exact absurd hc (by simp [hd])

/-! ## Numerals -/

/-- Digits before the end of a line are all taken. -/
theorem readDigits_append {digits : List Char} (hdigits : ∀ c ∈ digits, c.isDigit = true)
    (hne : digits ≠ []) (hrest : Ended rest) :
    readDigits Char.isDigit (digits ++ rest) = some (digits, rest) := by
  induction digits with
  | nil => exact absurd rfl hne
  | cons c digits ih =>
    have hc : c.isDigit = true := hdigits c List.mem_cons_self
    cases digits with
    | nil =>
      cases rest with
      | nil => simp [readDigits, hc]
      | cons d rest =>
        rcases hrest d rfl with rfl | rfl
        · simp [readDigits, hc, show '\n'.isDigit = false from rfl]
        · simp [readDigits, hc, show '\r'.isDigit = false from rfl]
    | cons d digits =>
      have hd : d.isDigit = true := hdigits d (by simp)
      have hothers := ih (fun e he => hdigits e (List.mem_cons_of_mem _ he)) (by simp)
      rw [List.cons_append] at hothers
      have hmark : d ≠ '_' := ne_of_class hd rfl
      simp [readDigits, hc, hd, hmark, hothers]

theorem ofDigits_toDigits (n : Nat) : ofDigits 10 (Nat.toDigits 10 n) = n := by
  have hvalue : ∀ digits : List Char, (∀ c ∈ digits, c.isDigit = true) → ∀ start,
      digits.foldl (fun n c => 10 * n + digitValue c) start = Nat.ofDigitChars 10 digits start := by
    intro digits
    induction digits with
    | nil => exact fun _ _ => rfl
    | cons c digits ih =>
      intro hdigits start
      have hc : digitValue c = c.toNat - '0'.toNat := by
        unfold digitValue
        rw [if_pos (hdigits c List.mem_cons_self)]
      rw [List.foldl_cons, hc, ih fun d hd => hdigits d (List.mem_cons_of_mem _ hd)]
      rfl
  unfold ofDigits
  rw [hvalue _ fun c hc => Json.isDigit_of_mem_toDigits hc]
  exact Nat.ofDigitChars_ten_toDigits

/-- A numeral and what follows it, character by character: first digits, then the end of the line. -/
structure Numeral (n : Nat) (cs rest : List Char) : Prop where
  text : cs = Nat.toDigits 10 n ++ rest
  ended : Ended rest

namespace Numeral

variable {n : Nat} {cs : List Char}

theorem head (h : Numeral n cs rest) : ∃ c others, cs = c :: others ∧ c.isDigit = true := by
  cases hdigits : Nat.toDigits 10 n with
  | nil => exact absurd hdigits Nat.toDigits_ne_nil
  | cons c digits =>
    refine ⟨c, digits ++ rest, ?_, ?_⟩
    · rw [h.text, hdigits, List.cons_append]
    · exact Json.isDigit_of_mem_toDigits (hdigits ▸ List.mem_cons_self)

/-- Digits that are taken from the front are followed by a digit or by the end of the line. -/
theorem head_drop (h : Numeral n cs rest) {k : Nat} (hlength : (cs.take k).length = k)
    (hdigits : ∀ c ∈ cs.take k, c.isDigit = true) :
    ∀ c ∈ (cs.drop k).head?, c.isDigit = true ∨ c = '\n' ∨ c = '\r' := by
  obtain ⟨rfl, hrest⟩ := h
  generalize hall : Nat.toDigits 10 n = digits at hlength hdigits ⊢
  have hchars : ∀ c ∈ digits, c.isDigit = true := by
    intro c hc
    exact Json.isDigit_of_mem_toDigits (hall ▸ hc)
  have hk : k ≤ digits.length := by
    -- Otherwise the character that ends the line would be among the digits.
    by_contra hk
    rw [Nat.not_le] at hk
    cases rest with
    | nil =>
      rw [List.append_nil, List.length_take] at hlength
      omega
    | cons d more =>
      have hmem : d ∈ (digits ++ d :: more).take k := by
        rw [List.take_append]
        refine List.mem_append_right _ ?_
        obtain ⟨j, hj⟩ : ∃ j, k - digits.length = j + 1 := ⟨k - digits.length - 1, by omega⟩
        rw [hj, List.take_succ_cons]
        exact List.mem_cons_self
      have hd := hdigits d hmem
      rcases hrest d rfl with rfl | rfl
      · exact absurd hd (by decide)
      · exact absurd hd (by decide)
  intro c hc
  rw [List.drop_append_of_le_length hk] at hc
  cases hdrop : digits.drop k with
  | nil =>
    rw [hdrop] at hc
    exact .inr (hrest c hc)
  | cons d others =>
    rw [hdrop] at hc
    cases hc
    exact .inl (hchars _ (List.mem_of_mem_drop (hdrop ▸ List.mem_cons_self)))

/-- A numeral is no point in time: no digits of it are followed by a hyphen or a colon. -/
theorem startsMoment_eq_false (h : Numeral n cs rest) : startsMoment cs = false := by
  have hfield : ∀ {k value more}, readField k cs = some (value, more) →
      ∀ c ∈ more.head?, c.isDigit = true ∨ c = '\n' ∨ c = '\r' := by
    intro k value more hread
    simp only [readField] at hread
    split at hread
    next htaken =>
      cases hread
      exact h.head_drop htaken.1 (List.all_eq_true.1 htaken.2)
    next => cases hread
  have hyear : ∀ value others, readField 4 cs ≠ some (value, '-' :: others) := by
    intro value others hread
    simpa using hfield hread '-' rfl
  have hhour : ∀ value others, readBounded 0 23 cs ≠ some (value, ':' :: others) := by
    intro value others hread
    unfold readBounded at hread
    cases htwo : readField 2 cs with
    | none => simp [htwo] at hread
    | some read =>
      obtain ⟨hour, others'⟩ := read
      simp only [htwo, Option.bind_eq_bind, Option.bind_some] at hread
      split at hread
      next =>
        cases hread
        simpa using hfield htwo ':' rfl
      next => cases hread
  unfold startsMoment
  rw [Bool.or_eq_false_iff]
  constructor
  · split
    next value others hread => exact absurd hread (hyear value others)
    next => rfl
  · split
    next value others hread => exact absurd hread (hhour value others)
    next => rfl

theorem readWhole_eq (h : Numeral n cs rest) :
    readWhole cs = some (Nat.toDigits 10 n, rest) := by
  obtain ⟨rfl, hrest⟩ := h
  cases hdigits : Nat.toDigits 10 n with
  | nil => exact absurd hdigits Nat.toDigits_ne_nil
  | cons c digits =>
    by_cases hzero : c = '0'
    · subst hzero
      have halone : Nat.toDigits 10 n = ['0'] := Json.toDigits_leading_zero (by rw [hdigits]; rfl)
      cases hdigits.symm.trans halone
      rfl
    · have hread : readDigits Char.isDigit (Nat.toDigits 10 n ++ rest) = some (Nat.toDigits 10 n, rest) :=
        readDigits_append (fun _ hc => Json.isDigit_of_mem_toDigits hc) Nat.toDigits_ne_nil hrest
      rw [hdigits, List.cons_append] at hread
      rw [List.cons_append, readWhole]
      · exact hread
      · intro others heq
        exact hzero (List.cons.inj heq).1

theorem readDecimal_eq (h : Numeral n cs rest) (hn : n ≤ 9223372036854775807) :
    readDecimal false cs = some (.integer n, rest) := by
  have hfraction : readFraction? rest = none := by
    cases rest with
    | nil => rfl
    | cons d more => rcases h.ended d rfl with rfl | rfl <;> rfl
  have hexponent : readExponent? rest = none := by
    cases rest with
    | nil => rfl
    | cons d more => rcases h.ended d rfl with rfl | rfl <;> rfl
  have hinteger : integer? (n : Int) = some (.integer n) := by
    unfold integer?
    rw [if_pos (by omega)]
  simp [readDecimal, h.readWhole_eq, hfraction, hexponent, ofDigits_toDigits, hinteger]

/-- After a leading zero there is no mark of another base. -/
theorem second (h : Numeral n cs rest) {c d : Char} {others : List Char} (hcs : cs = c :: d :: others) :
    d.isDigit = true ∨ d = '\n' ∨ d = '\r' := by
  rcases h.head with ⟨c', others', hcs', hc⟩
  cases hcs.symm.trans hcs'
  exact h.head_drop (k := 1) (by simp [hcs]) (by simpa [hcs] using hc) d (by simp [hcs])

theorem readNumeric_eq (h : Numeral n cs rest) (hn : n ≤ 9223372036854775807) :
    readNumeric cs = some (.integer n, rest) := by
  rcases h.head with ⟨c, others, hcs, hc⟩
  have hmark : ∀ mark more, mark.isDigit = false → mark ≠ '\n' → mark ≠ '\r' →
      cs ≠ '0' :: mark :: more := by
    intro mark more hdigit hfeed hreturn heq
    rcases h.second heq with hd | hd | hd
    · exact absurd hd (by simp [hdigit])
    · exact hfeed hd
    · exact hreturn hd
  have hsign : spanSign cs = (none, cs) := by
    rw [hcs, spanSign]
    · intro more heq
      exact ne_of_class hc (d := '+') rfl (List.cons.inj heq).1
    · intro more heq
      exact ne_of_class hc (d := '-') rfl (List.cons.inj heq).1
  unfold readNumeric
  rw [h.startsMoment_eq_false, if_neg Bool.false_ne_true, readNumber]
  · rw [hsign]
    dsimp only
    split
    next => exact absurd (List.cons.inj hcs).1.symm (ne_of_class hc rfl)
    next => exact absurd (List.cons.inj hcs).1.symm (ne_of_class hc rfl)
    next => exact h.readDecimal_eq hn
  · exact fun more heq => hmark 'x' more rfl (by decide) (by decide) heq
  · exact fun more heq => hmark 'o' more rfl (by decide) (by decide) heq
  · exact fun more heq => hmark 'b' more rfl (by decide) (by decide) heq

end Numeral

/-! ## Values before the end of a line -/

/-- The text is read as the value wherever a line ends after it. -/
structure Reads (text : List Char) (value : Toml) : Prop where
  head : ∃ c cs, text = c :: cs ∧ isBlank c = false
  read : ∀ fuel depth rest, Ended rest →
    readValue (fuel + 1) depth (text ++ rest) = some (value, rest)

theorem reads_boolean (b : Bool) : Reads (toString b).toList (.boolean b) := by
  cases b with
  | true => exact ⟨⟨'t', _, rfl, rfl⟩, fun fuel depth rest _ => by rfl⟩
  | false => exact ⟨⟨'f', _, rfl, rfl⟩, fun fuel depth rest _ => by rfl⟩

theorem reads_integer {n : Nat} (hn : n ≤ 9223372036854775807) :
    Reads (toString n).toList (.integer n) := by
  have htext : (toString n).toList = Nat.toDigits 10 n := Nat.toList_repr
  rw [htext]
  have hnumeral : ∀ rest, Ended rest → Numeral n (Nat.toDigits 10 n ++ rest) rest :=
    fun rest hrest => ⟨rfl, hrest⟩
  constructor
  · rcases (hnumeral [] nofun).head with ⟨c, cs, hcs, hc⟩
    rw [List.append_nil] at hcs
    refine ⟨c, cs, hcs, ?_⟩
    simp [isBlank, ne_of_class hc (d := ' ') rfl, ne_of_class hc (d := '\t') rfl]
  · intro fuel depth rest hrest
    rcases (hnumeral rest hrest).head with ⟨c, cs, hcs, hc⟩
    have hread := (hnumeral rest hrest).readNumeric_eq hn
    rw [hcs] at hread ⊢
    have hne : ∀ other, other.isDigit = false → ∀ more, c :: cs = other :: more → False := by
      intro other hother more heq
      exact ne_of_class hc hother (List.cons.inj heq).1
    have hstring : readString? (c :: cs) = none := by
      rw [readString?]
      · exact fun more heq => hne '"' rfl _ heq
      · exact fun more heq => hne '"' rfl _ heq
      · exact fun more heq => hne '\'' rfl _ heq
      · exact fun more heq => hne '\'' rfl _ heq
    rw [readValue]
    · simp only [hstring]
      exact hread
    · exact fun more => hne 't' rfl _
    · exact fun more => hne 'f' rfl _
    · exact hne '[' rfl
    · exact hne '\x7b' rfl

/-! ## Lines -/

/-- A key that is written without quotes. -/
structure Bare (key : List Char) : Prop where
  chars : ∀ c ∈ key, isBare c = true
  nonempty : key ≠ []

namespace Bare

variable {key : List Char}

/-- What starts with a bare key starts with none of the marks that tell other lines. -/
theorem append_ne (h : Bare key) {mark : Char} (hmark : isBare mark = false) (cs more : List Char) :
    key ++ cs ≠ mark :: more := by
  obtain ⟨c, others, rfl⟩ := List.exists_cons_of_ne_nil h.nonempty
  intro heq
  exact ne_of_class (h.chars c List.mem_cons_self) hmark (List.cons.inj heq).1

theorem skipBlanks_append (h : Bare key) (cs : List Char) : skipBlanks (key ++ cs) = key ++ cs := by
  obtain ⟨c, others, rfl⟩ := List.exists_cons_of_ne_nil h.nonempty
  have hc := h.chars c List.mem_cons_self
  have hspace : c ≠ ' ' := ne_of_class hc (by decide)
  have htab : c ≠ '\t' := ne_of_class hc (by decide)
  exact List.dropWhile_cons_of_neg (by simp [isBlank, hspace, htab])

theorem skipLines_append (h : Bare key) (cs : List Char) :
    skipLines false (key ++ cs) = key ++ cs := by
  have hne : ∀ mark more, isBare mark = false → key ++ cs ≠ mark :: more :=
    fun mark more hmark => h.append_ne hmark cs more
  obtain ⟨c, others, rfl⟩ := List.exists_cons_of_ne_nil h.nonempty
  have hc := h.chars c List.mem_cons_self
  have hspace : c ≠ ' ' := ne_of_class hc (by decide)
  have htab : c ≠ '\t' := ne_of_class hc (by decide)
  have hcomment : c ≠ '#' := ne_of_class hc (by decide)
  rw [List.cons_append, skipLines]
  · simp [isBlank, hspace, htab, hcomment]
  · exact fun heq => ne_of_class hc (by decide) heq
  · exact fun more heq => absurd heq (ne_of_class hc (by decide))

theorem readKeyPart_eq (h : Bare key) (cs : List Char) :
    readKeyPart (key ++ ' ' :: cs) = some (String.ofList key, ' ' :: cs) := by
  have hspan : (key ++ ' ' :: cs).span isBare = (key, ' ' :: cs) := by
    rw [List.span_eq_takeWhile_dropWhile, List.takeWhile_append_of_pos h.chars,
      List.dropWhile_append_of_pos h.chars]
    simp [show isBare ' ' = false from by decide]
  rw [readKeyPart]
  · rw [hspan]
    exact if_neg h.nonempty
  · exact fun more => h.append_ne (by decide) _ more
  · exact fun more => h.append_ne (by decide) _ more

/-- A bare key before its equals sign is read as a key of one part. -/
theorem readKey_eq (h : Bare key) (cs : List Char) :
    readKey (key ++ ' ' :: '=' :: cs) = some ([String.ofList key], '=' :: cs) := by
  have hequals : skipBlanks (' ' :: '=' :: cs) = '=' :: cs := by
    simp [skipBlanks, isBlank]
  unfold readKey maxDepth readKeyParts
  rw [h.skipBlanks_append, h.readKeyPart_eq]
  simp [hequals]

end Bare

/-- An assignment as it stands on a line: its key, and the text of its value. -/
structure Field where
  key : String
  text : String
  value : Toml

namespace Field

/-- The line of an assignment. -/
def line (field : Field) : String := field.key ++ " = " ++ field.text

/-- The line is written as it is meant: the key needs no quotes, and the text is read as the value. -/
structure Written (field : Field) : Prop where
  bare : Bare field.key.toList
  reads : Reads field.text.toList field.value

variable {field : Field}

theorem line_append (field : Field) (cs : List Char) :
    field.line.toList ++ cs =
      field.key.toList ++ ' ' :: '=' :: ' ' :: (field.text.toList ++ cs) := by
  simp [line]

/-- The line of an assignment is read as the assignment. -/
theorem Written.readLine_eq (h : field.Written) (hend : LineEnd rest more) (fuel : Nat) :
    readLine (fuel + 1) (field.line.toList ++ rest) =
      some (.assignment [field.key] field.value, more) := by
  have hkey := h.bare.readKey_eq (' ' :: (field.text.toList ++ rest))
  have hskip : skipBlanks (' ' :: (field.text.toList ++ rest)) = field.text.toList ++ rest := by
    rcases h.reads.head with ⟨c, cs, htext, hblank⟩
    simp [skipBlanks, htext, hblank, show isBlank ' ' = true from rfl]
  have hvalue := h.reads.read fuel maxDepth rest hend.ended
  rw [field.line_append, readLine]
  · simp [hkey, dropChar, hskip, hvalue, endLine_eq hend]
  · exact fun more => h.bare.append_ne (by decide) _ _
  · exact fun more => h.bare.append_ne (by decide) _ _

theorem Written.readLines_succ (h : field.Written) (hend : LineEnd rest more) (fuel : Nat) :
    readLines (fuel + 2) (field.line.toList ++ rest) =
      (readLines (fuel + 1) more).map (.assignment [field.key] field.value :: ·) := by
  have hline := h.readLine_eq hend fuel
  have hskip : skipLines false (field.line.toList ++ rest) = field.line.toList ++ rest := by
    rw [field.line_append]
    exact h.bare.skipLines_append _
  have hne : field.line.toList ++ rest ≠ [] := by
    rw [field.line_append]
    simp
  rw [readLines, hskip]
  cases hmore : readLines (fuel + 1) more with
  | none => simp [hline, hmore]
  | some lines => simp [hline, hmore]

end Field

/-! ## Documents -/

/-- The text of a document with one assignment on each line. -/
def document (lineBreak : LineBreak) (closed : Bool) (fields : List Field) : String :=
  lineBreak.text.intercalate (fields.map (·.line)) ++ if closed then lineBreak.text else ""

/-- The assignments of a document. -/
def assignments (fields : List Field) : List Line :=
  fields.map fun field => .assignment [field.key] field.value

variable {lineBreak : LineBreak} {closed : Bool}

theorem lineEnd_last (lineBreak : LineBreak) (closed : Bool) :
    LineEnd (if closed then lineBreak.text else "").toList [] := by
  cases closed with
  | false => exact .last
  | true =>
    have hend := LineEnd.broken lineBreak []
    rw [List.append_nil] at hend
    exact hend

theorem toList_document_cons (field next : Field) (fields : List Field) :
    (document lineBreak closed (field :: next :: fields)).toList =
      field.line.toList ++
        (lineBreak.text.toList ++ (document lineBreak closed (next :: fields)).toList) := by
  simp [document, List.append_assoc]

/-- The lines of a document are read one after the other. -/
theorem readLines_document {fields : List Field} (hwritten : ∀ field ∈ fields, field.Written)
    {fuel : Nat} (hfuel : fields.length < fuel) :
    readLines fuel (document lineBreak closed fields).toList = some (assignments fields) := by
  induction fields generalizing fuel with
  | nil =>
    obtain ⟨fuel, rfl⟩ : ∃ k, fuel = k + 1 := ⟨fuel - 1, by omega⟩
    have hblank : skipLines false (document lineBreak closed []).toList = [] := by
      cases closed with
      | false => simp [document, skipLines]
      | true => simpa [document, skipLines] using skipLines_break lineBreak []
    rw [readLines, hblank]
    rfl
  | cons field fields ih =>
    have hothers : ∀ {fuel}, fields.length < fuel →
        readLines fuel (document lineBreak closed fields).toList = some (assignments fields) :=
      ih fun field h => hwritten field (List.mem_cons_of_mem _ h)
    have hfield : field.Written := hwritten field List.mem_cons_self
    rw [List.length_cons] at hfuel
    obtain ⟨fuel, rfl⟩ : ∃ k, fuel = k + 2 := ⟨fuel - 2, by omega⟩
    cases fields with
    | nil =>
      have htext : (document lineBreak closed [field]).toList =
          field.line.toList ++ (if closed then lineBreak.text else "").toList := by
        simp [document]
      rw [htext, hfield.readLines_succ (lineEnd_last lineBreak closed)]
      rfl
    | cons next fields =>
      rw [toList_document_cons, hfield.readLines_succ (.broken lineBreak _), hothers (by omega)]
      rfl

/-- A value is assigned to a free key at the end of a table. -/
theorem alterEntry_free {key : String} {entries : Entries} (hfree : key ∉ entries.map (·.1))
    (f : Option Toml → Option Toml) :
    alterEntry key f entries = (f none).map fun value => entries ++ [(key, value)] := by
  induction entries with
  | nil => rfl
  | cons entry entries ih =>
    rw [List.map_cons, List.mem_cons, not_or] at hfree
    rw [alterEntry, if_neg (Ne.symm hfree.1), ih hfree.2, Option.map_map]
    rfl

/-- The entries that assignments to different keys make up. -/
def entriesOf (fields : List Field) : Entries := fields.map fun field => (field.key, field.value)

theorem foldlM_assignments (fields : List Field) (entries : Entries)
    (hkeys : (entries.map (·.1) ++ fields.map (·.key)).Nodup) :
    (assignments fields).foldlM Draft.add ⟨(.header, entries), []⟩ =
      some ⟨(.header, entries ++ entriesOf fields), []⟩ := by
  induction fields generalizing entries with
  | nil => simp [assignments, entriesOf]
  | cons field fields ih =>
    have hfree : field.key ∉ entries.map (·.1) := by
      rw [List.map_cons, List.nodup_append] at hkeys
      exact fun hmem => hkeys.2.2 _ hmem _ List.mem_cons_self rfl
    have hadd : Draft.add ⟨(.header, entries), []⟩ (.assignment [field.key] field.value) =
        some ⟨(.header, entries ++ [(field.key, field.value)]), []⟩ := by
      simp [Draft.add, alterTable, assign, splitPath, assignIn, alterEntry_free hfree]
    have hothers := ih (entries ++ [(field.key, field.value)]) (by simpa using hkeys)
    simp only [assignments, List.map_cons, List.foldlM_cons, hadd, Option.bind_eq_bind,
      Option.bind_some]
    refine hothers.trans ?_
    simp [entriesOf]

theorem length_le_document (lineBreak : LineBreak) (closed : Bool) (fields : List Field) :
    fields.length ≤ (document lineBreak closed fields).toList.length := by
  induction fields with
  | nil => exact Nat.zero_le _
  | cons field fields ih =>
    have hline := congrArg List.length (field.line_append [])
    simp only [List.length_append, List.length_cons, List.length_nil] at hline
    cases fields with
    | nil =>
      simp [document]
      omega
    | cons next fields =>
      rw [toList_document_cons, List.length_append, List.length_append, List.length_cons]
      omega

/-- No byte order mark stands before a document. -/
theorem head?_document_ne {fields : List Field} (hwritten : ∀ field ∈ fields, field.Written) :
    (document lineBreak closed fields).toList.head? ≠ some '\uFEFF' := by
  cases fields with
  | nil => cases closed <;> cases lineBreak <;> decide
  | cons field fields =>
    obtain ⟨cs, hcs⟩ : ∃ cs, (document lineBreak closed (field :: fields)).toList =
        field.key.toList ++ cs := by
      cases fields with
      | nil => exact ⟨_, by simp [document, Field.line]; rfl⟩
      | cons next fields => exact ⟨_, by rw [toList_document_cons, field.line_append]⟩
    intro hmark
    obtain ⟨more, hmore⟩ := List.head?_eq_some_iff.1 hmark
    exact (hwritten field List.mem_cons_self).bare.append_ne (by decide) cs more (hcs ▸ hmore)

/-- A document with one assignment on each line is read as these assignments, if they are written as they
are meant and are to different keys. -/
theorem parse?_document {fields : List Field} (hwritten : ∀ field ∈ fields, field.Written)
    (hkeys : (fields.map (·.key)).Nodup) :
    parse? (document lineBreak closed fields) = some (entriesOf fields) := by
  have hlength := length_le_document lineBreak closed fields
  have hlines : readLines (2 * (document lineBreak closed fields).toList.length + 1)
      (document lineBreak closed fields).toList = some (assignments fields) :=
    readLines_document hwritten (by omega)
  have hadded := foldlM_assignments fields [] (by simpa using hkeys)
  unfold parse? ofLines Draft.empty
  simp [head?_document_ne hwritten, hlines, hadded]

end Toml
end PortMessaging
