import Mathlib.Algebra.Group.Nat.Defs
import PortMessaging.MessagePack.Codec
import PortMessaging.Proofs.MessagePackBytes
import PortMessaging.Proofs.ReadBack

/-!
# MessagePackForms — the library's data survives its MessagePack bytes

Every kind of data of the library has a MessagePack form, and the form is read as the value that it was
made from, whatever its size (`ReadsBack`).  The bytes of a form hold all of it as long as no text, array or
map has 2^32 elements or more; more than that no head can tell (`Sized`).  A sized value survives its
bytes, also if other bytes follow (`data_survives_messagePack_bytes`).
-/

namespace PortMessaging

namespace MessagePack

/-! ## Scalars and names -/

theorem textOfBytes?_bytesOfText : ReadsBack bytesOfText textOfBytes? := by
  intro text
  have hbytes : (⟨(bytesOfText text).toArray⟩ : ByteArray) = text.toByteArray := by
    simp [bytesOfText]
  rw [textOfBytes?, hbytes, String.fromUTF8?, dif_pos text.isValidUTF8]
  rfl

theorem length_bytesOfText (text : String) : (bytesOfText text).length = text.utf8ByteSize := by
  rw [bytesOfText, Array.length_toList, ByteArray.size_data]
  rfl

theorem text?_ofText : ReadsBack ofText text? := textOfBytes?_bytesOfText

theorem optionalText?_elim :
    ReadsBack (fun text : Option String => text.elim .nil ofText) optionalText? := by
  intro text
  cases text with
  | none => rfl
  | some text => exact congrArg (Option.map some) (text?_ofText text)

/-- An integer between the bounds is read, whichever code is written for it. -/
theorem intBetween?_ofInt {low high n : Int} (h : low ≤ n ∧ n ≤ high) :
    (ofInt n).intBetween? low high = some n := by
  unfold ofInt
  split
  next hnatural =>
    have hn : (n.toNat : Int) = n := Int.toNat_of_nonneg hnatural
    exact (if_pos (by omega)).trans (congrArg some hn)
  next => exact if_pos h

theorem byte?_unsigned : ReadsBack (fun b : UInt8 => unsigned b.toNat) byte? := by
  intro b
  have hinteger : (unsigned b.toNat).intBetween? 0 255 = some (b.toNat : Int) :=
    intBetween?_ofInt (range_byte b)
  rw [byte?, hinteger, Option.map_some, ofInt_toNat_byte]

theorem size?_unsigned : ReadsBack (fun n : UInt64 => unsigned n.toNat) size? := by
  intro n
  have hinteger : (unsigned n.toNat).intBetween? 0 18446744073709551615 = some (n.toNat : Int) :=
    intBetween?_ofInt (range_size n)
  rw [size?, hinteger, Option.map_some, ofInt_toNat_size]

/-- A name is found under its position. -/
theorem namedAmong_ofText (names : List String) (name : String) :
    namedAmong names (ofText name) = some (names.findIdx? (· == name)) := by
  have hsame : (fun other => bytesOfText other == bytesOfText name) = (· == name) := by
    funext other
    rw [Bool.eq_iff_iff, beq_iff_eq, beq_iff_eq]
    exact textOfBytes?_bytesOfText.injective.eq_iff
  exact congrArg (fun isNamed => some (names.findIdx? isNamed)) hsame

end MessagePack

/-! ## Ids, domains, addresses -/

theorem PortId.ofMessagePack?_toMessagePack : ReadsBack toMessagePack ofMessagePack? := by
  intro id
  simp [ofMessagePack?, toMessagePack, MessagePack.intBetween?_ofInt (range_id id)]

theorem TrustDomain.ofMessagePack?_toMessagePack : ReadsBack toMessagePack ofMessagePack? := by
  intro domain
  have hname : ofName? (.ofText domain.text) = some domain := by
    rw [ofName?, MessagePack.namedAmong_ofText]
    cases domain <;> rfl
  exact hname

theorem RemoteAddress.ofMessagePack?_toMessagePack : ReadsBack toMessagePack ofMessagePack? := by
  intro remote
  show ofPackedParts? (.ofText remote.app) (.ofText remote.port) = some remote
  simp [ofPackedParts?, MessagePack.text?_ofText _]

/-! ## Payloads -/

theorem PayloadValue.ofMessagePack?_toMessagePack : ReadsBack toMessagePack ofMessagePack? := by
  intro value
  cases value with
  | text s =>
    simp [ofMessagePack?, toMessagePack, MessagePack.namedAmong_ofText, List.findIdx?_cons,
      MessagePack.text?_ofText _]
  | texts items =>
    simp [ofMessagePack?, toMessagePack, MessagePack.namedAmong_ofText, List.findIdx?_cons,
      MessagePack.text?_ofText.list items]
  | bytes values =>
    simp [ofMessagePack?, toMessagePack, MessagePack.namedAmong_ofText, List.findIdx?_cons,
      MessagePack.byte?_unsigned.list values]

theorem Payload.entryOfMessagePack?_toMessagePack : ReadsBack
    (fun entry : String × PayloadValue => (MessagePack.ofText entry.1, entry.2.toMessagePack))
    entryOfMessagePack? := by
  intro entry
  simp [entryOfMessagePack?, MessagePack.text?_ofText _, PayloadValue.ofMessagePack?_toMessagePack _]

theorem Payload.ofMessagePack?_toMessagePack : ReadsBack toMessagePack ofMessagePack? := by
  intro p
  have hentries : p.toMessagePack =
      .map (p.toList.map fun entry => (.ofText entry.1, entry.2.toMessagePack)) := rfl
  rw [hentries, ofMessagePack?, entryOfMessagePack?_toMessagePack.list p.toList, Option.map_some,
    ofList_toList]

/-! ## Deliveries and configurations -/

theorem DeliveryEvent.ofMessagePack?_toMessagePack : ReadsBack toMessagePack ofMessagePack? := by
  intro event
  show ofPackedParts? event.target.toMessagePack (.ofText event.senderApp)
    (event.senderPort.elim .nil .ofText) (.bool event.senderTrusted) event.payload.toMessagePack =
      some event
  simp [ofPackedParts?, PortId.ofMessagePack?_toMessagePack _, MessagePack.text?_ofText _,
    MessagePack.optionalText?_elim _, Payload.ofMessagePack?_toMessagePack _]

theorem Config.ofMessagePack?_toMessagePack : ReadsBack toMessagePack ofMessagePack? := by
  intro config
  show ofPackedParts? (some (.unsigned config.recommendedPayloadBytes.toNat))
    (some (.bool config.passthroughUnmappedCodes)) (some (.bool config.logPayloadKeys)) = some config
  simp [ofPackedParts?, MessagePack.size?_unsigned _]

/-! ## Sizes -/

/-- A text of fewer than 2^32 bytes. -/
def SizedText (text : String) : Prop := text.utf8ByteSize < 2 ^ 32

instance (text : String) : Decidable (SizedText text) := inferInstanceAs (Decidable (_ < _))

/-- Fewer than 2^32 parts, each of them sized. -/
def PayloadValue.Sized : PayloadValue → Prop
  | text s => SizedText s
  | texts items => items.length < 2 ^ 32 ∧ ∀ item ∈ items, SizedText item
  | bytes values => values.length < 2 ^ 32

instance : (value : PayloadValue) → Decidable value.Sized
  | .text s => inferInstanceAs (Decidable (SizedText s))
  | .texts items => inferInstanceAs (Decidable (items.length < 2 ^ 32 ∧ ∀ item ∈ items, SizedText item))
  | .bytes values => inferInstanceAs (Decidable (values.length < 2 ^ 32))

def Payload.Sized (p : Payload) : Prop :=
  p.size < 2 ^ 32 ∧ ∀ entry ∈ p.toList, SizedText entry.1 ∧ entry.2.Sized

instance (p : Payload) : Decidable p.Sized := inferInstanceAs (Decidable (_ ∧ _))

def RemoteAddress.Sized (remote : RemoteAddress) : Prop :=
  SizedText remote.app ∧ SizedText remote.port

instance (remote : RemoteAddress) : Decidable remote.Sized := inferInstanceAs (Decidable (_ ∧ _))

def DeliveryEvent.Sized (event : DeliveryEvent) : Prop :=
  SizedText event.senderApp ∧ (∀ port ∈ event.senderPort, SizedText port) ∧ event.payload.Sized

instance (event : DeliveryEvent) : Decidable event.Sized := inferInstanceAs (Decidable (_ ∧ _ ∧ _))

theorem SizedText.fits {text : String} (h : SizedText text) (depth : Nat) :
    (MessagePack.ofText text).Fits depth := by
  refine .string ?_
  rw [MessagePack.length_bytesOfText]
  exact h

/-- The names that the library itself writes are sized. -/
theorem fits_domainText (domain : TrustDomain) (depth : Nat) :
    (MessagePack.ofText domain.text).Fits depth := by
  cases domain with
  | openToAll => exact SizedText.fits (by decide) depth
  | trusted => exact SizedText.fits (by decide) depth

theorem PortId.fits_toMessagePack (id : PortId) (depth : Nat) : id.toMessagePack.Fits depth := by
  have hlow := id.value.le_toInt
  have hhigh := id.value.toInt_lt
  unfold toMessagePack MessagePack.ofInt
  split
  next => exact .unsigned (by omega)
  next => exact .signed (by omega) (by omega)

theorem RemoteAddress.Sized.fits {remote : RemoteAddress} (h : remote.Sized) (depth : Nat) :
    remote.toMessagePack.Fits (depth + 1) := by
  refine .array (by simp) ?_
  simp [h.1.fits depth, h.2.fits depth]

/-- The content of a payload value stands one container deep. -/
theorem PayloadValue.Sized.fits {value : PayloadValue} (h : value.Sized) (depth : Nat) :
    value.toMessagePack.Fits (depth + 2) := by
  -- The map that names the kind is the same for every kind.
  have htagged {kind : String} {content : MessagePack} (hkind : SizedText kind)
      (hcontent : content.Fits (depth + 1)) :
      (MessagePack.map [(.ofText kind, content)]).Fits (depth + 2) := by
    refine .map (by simp) ?_ ?_
    · simp [hkind.fits (depth + 1)]
    · simp [hcontent]
  cases value with
  | text s => exact htagged (by decide) (SizedText.fits h (depth + 1))
  | texts items =>
    refine htagged (by decide) (.array (by simpa using h.1) fun item hitem => ?_)
    rcases List.mem_map.1 hitem with ⟨text, htext, rfl⟩
    exact (h.2 text htext).fits depth
  | bytes values =>
    refine htagged (by decide) (.array (by simpa [Sized] using h) fun item hitem => ?_)
    rcases List.mem_map.1 hitem with ⟨b, -, rfl⟩
    exact .unsigned (by have := b.toNat_lt; omega)

theorem Payload.Sized.fits {p : Payload} (h : p.Sized) (depth : Nat) :
    p.toMessagePack.Fits (depth + 3) := by
  have hlength : p.toList.length < 2 ^ 32 := h.1
  refine .map (by simpa using hlength) (fun form hform => ?_) (fun form hform => ?_)
  · rcases List.mem_map.1 hform with ⟨entry, hentry, rfl⟩
    exact (h.2 entry hentry).1.fits (depth + 2)
  · rcases List.mem_map.1 hform with ⟨entry, hentry, rfl⟩
    exact (h.2 entry hentry).2.fits depth

theorem DeliveryEvent.Sized.fits {event : DeliveryEvent} (h : event.Sized) (depth : Nat) :
    event.toMessagePack.Fits (depth + 4) := by
  have hport : (event.senderPort.elim MessagePack.nil MessagePack.ofText).Fits (depth + 3) := by
    cases hsender : event.senderPort with
    | none => exact .nil
    | some port => exact (h.2.1 port hsender).fits (depth + 3)
  refine .array (by simp) ?_
  simp [event.target.fits_toMessagePack (depth + 3), h.1.fits (depth + 3), hport,
    MessagePack.Fits.bool, h.2.2.fits depth]

theorem Config.fits_toMessagePack (config : Config) (depth : Nat) :
    config.toMessagePack.Fits (depth + 1) := by
  have hsize := config.recommendedPayloadBytes.toNat_lt
  refine .array (by simp) ?_
  simp [MessagePack.Fits.unsigned hsize, MessagePack.Fits.bool]

/-! ## Bytes -/

/-- The value at the front of a byte sequence. -/
def MessagePack.first? (bytes : Bytes) : Option MessagePack := (read bytes).map (·.1)

/-- A form that fits and is read back is also read back from its bytes, whatever follows them. -/
theorem ReadsBack.bytes {α : Type} {write : α → MessagePack} {read : MessagePack → Option α}
    (h : ReadsBack write read) {a : α} (hfits : (write a).Fits MessagePack.maxDepth)
    (rest : MessagePack.Bytes) :
    (MessagePack.first? ((write a).write ++ rest)).bind read = some a := by
  rw [MessagePack.first?, MessagePack.read, hfits.isRead rest, Option.map_some, Option.bind_some, h a]

/-- Whatever value is written as MessagePack bytes, reading the bytes gives exactly this value, also if
other bytes follow.  Values that hold texts, lists or entries have to be sized. -/
theorem data_survives_messagePack_bytes (rest : MessagePack.Bytes) :
    (∀ id : PortId, (MessagePack.first? (id.toMessagePack.write ++ rest)).bind
      PortId.ofMessagePack? = some id) ∧
    (∀ domain : TrustDomain, (MessagePack.first? (domain.toMessagePack.write ++ rest)).bind
      TrustDomain.ofMessagePack? = some domain) ∧
    (∀ remote : RemoteAddress, remote.Sized →
      (MessagePack.first? (remote.toMessagePack.write ++ rest)).bind
        RemoteAddress.ofMessagePack? = some remote) ∧
    (∀ value : PayloadValue, value.Sized →
      (MessagePack.first? (value.toMessagePack.write ++ rest)).bind
        PayloadValue.ofMessagePack? = some value) ∧
    (∀ p : Payload, p.Sized →
      (MessagePack.first? (p.toMessagePack.write ++ rest)).bind Payload.ofMessagePack? = some p) ∧
    (∀ event : DeliveryEvent, event.Sized →
      (MessagePack.first? (event.toMessagePack.write ++ rest)).bind
        DeliveryEvent.ofMessagePack? = some event) ∧
    (∀ config : Config, (MessagePack.first? (config.toMessagePack.write ++ rest)).bind
      Config.ofMessagePack? = some config) := by
  refine ⟨fun id => ?_, fun domain => ?_, fun remote h => ?_, fun value h => ?_, fun p h => ?_,
    fun event h => ?_, fun config => ?_⟩
  · exact PortId.ofMessagePack?_toMessagePack.bytes (id.fits_toMessagePack _) rest
  · exact TrustDomain.ofMessagePack?_toMessagePack.bytes (fits_domainText domain _) rest
  · exact RemoteAddress.ofMessagePack?_toMessagePack.bytes (h.fits 1022) rest
  · exact PayloadValue.ofMessagePack?_toMessagePack.bytes (h.fits 1021) rest
  · exact Payload.ofMessagePack?_toMessagePack.bytes (h.fits 1020) rest
  · exact DeliveryEvent.ofMessagePack?_toMessagePack.bytes (h.fits 1019) rest
  · exact Config.ofMessagePack?_toMessagePack.bytes (config.fits_toMessagePack 1022) rest

/-- A delivery from the lowest id with an empty reply port and an empty string of bytes, and the parts of
it, before bytes that would be values of their own. -/
theorem data_survives_messagePack_bytes_before_nil :
    let remote : RemoteAddress := ⟨"app.b", ""⟩
    let value : PayloadValue := .bytes []
    let p := Payload.empty.insert "blob" value
    let event := DeliveryEvent.withReplyPort ⟨-2147483648⟩ "app.a" "" true p
    (remote.Sized ∧ value.Sized ∧ p.Sized ∧ event.Sized) ∧
      (MessagePack.first? (remote.toMessagePack.write ++ [0xc0])).bind
        RemoteAddress.ofMessagePack? = some remote ∧
      (MessagePack.first? (value.toMessagePack.write ++ [0xc0])).bind
        PayloadValue.ofMessagePack? = some value ∧
      (MessagePack.first? (p.toMessagePack.write ++ [0xc0])).bind Payload.ofMessagePack? = some p ∧
      (MessagePack.first? (event.toMessagePack.write ++ [0xc0])).bind
        DeliveryEvent.ofMessagePack? = some event := by
  intro remote value p event
  have hremote : remote.Sized := by decide
  have hvalue : value.Sized := by decide
  have hp : p.Sized := by decide
  have hevent : event.Sized := by decide
  obtain ⟨-, -, hremotes, hvalues, hpayloads, hevents, -⟩ := data_survives_messagePack_bytes [0xc0]
  exact ⟨⟨hremote, hvalue, hp, hevent⟩, hremotes remote hremote, hvalues value hvalue, hpayloads p hp,
    hevents event hevent⟩

end PortMessaging
