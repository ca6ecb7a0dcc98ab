import PortMessaging.Address
import PortMessaging.Config
import PortMessaging.MessagePack.Reader
import PortMessaging.Message

/-!
# MessagePack.Codec — the MessagePack form of the library's data

An id is an integer, a domain the name of it, a payload value a map with one entry from the kind to
the content, a payload a map, and the records (address, delivery, configuration) are arrays of
their fields in order.  Bytes are written as an array of integers.

Reading is more generous than writing: integers of any width and sign code are taken, texts and
bytes may be binary data, a record may be a map from the names or the positions of its fields, and
a kind or a domain may be given by its position.  In a map, unknown fields are passed over and a
known one must not be repeated; a configuration may leave out any field, and a map of a delivery
its reply port.  Whatever follows the value is left unread.
-/

namespace PortMessaging

namespace MessagePack

/-! ## Scalars and lists -/

/-- An integer between two bounds, whatever its code. -/
def intBetween? (low high : Int) : MessagePack → Option Int
  | .unsigned n => if low ≤ n ∧ (n : Int) ≤ high then some n else none
  | .signed n => if low ≤ n ∧ n ≤ high then some n else none
  | _ => none

def textOfBytes? (bytes : Bytes) : Option String := String.fromUTF8? ⟨bytes.toArray⟩

def bytesOfText (text : String) : Bytes := text.toUTF8.data.toList

/-- A text, from a string or from binary data. -/
def text? : MessagePack → Option String
  | .string bytes => textOfBytes? bytes
  | .binary bytes => textOfBytes? bytes
  | _ => none

def bool? : MessagePack → Option Bool
  | .bool b => some b
  | _ => none

@[simp] theorem bool?_bool (b : Bool) : (bool b).bool? = some b := rfl

def byte? (v : MessagePack) : Option UInt8 := (v.intBetween? 0 255).map UInt8.ofInt

def size? (v : MessagePack) : Option UInt64 :=
  (v.intBetween? 0 18446744073709551615).map UInt64.ofInt

def optionalText? : MessagePack → Option (Option String)
  | .nil => some none
  | v => v.text?.map some

/-- A list: an array, or binary data as a list of its bytes. -/
def items? : MessagePack → Option (List MessagePack)
  | .array items => some items
  | .binary bytes => some (bytes.map fun b => .unsigned b.toNat)
  | _ => none

@[simp] theorem items?_array (items : List MessagePack) : (array items).items? = some items := rfl

def ofText (text : String) : MessagePack := .string (bytesOfText text)

def ofInt (n : Int) : MessagePack := if 0 ≤ n then .unsigned n.toNat else .signed n

/-! ## Names by position -/

/-- The position that a value names, by number or by spelling, among given names: refused if the
value cannot name anything, nothing if it names none of them. -/
def namedAmong (names : List String) : MessagePack → Option (Option Nat)
  | .unsigned n => some (if n < names.length then some n else none)
  | .string bytes => some (names.findIdx? fun name => bytesOfText name == bytes)
  | .binary bytes => some (names.findIdx? fun name => bytesOfText name == bytes)
  | _ => none

/-- The entries of a record with a known name, each at most once, under the position of the name. -/
def knownEntries (names : List String) :
    List (MessagePack × MessagePack) → Option (List (Nat × MessagePack))
  | [] => some []
  | (name, value) :: rest => do
    let known ← knownEntries names rest
    match ← namedAmong names name with
    | some i => if (known.lookup i).isSome then none else some ((i, value) :: known)
    | none => some known

end MessagePack

/-! ## Ids, domains, addresses -/

namespace PortId

def toMessagePack (id : PortId) : MessagePack := .ofInt id.value.toInt

def ofMessagePack? (v : MessagePack) : Option PortId :=
  (v.intBetween? (-2147483648) 2147483647).map fun n => ⟨Int32.ofInt n⟩

end PortId

namespace TrustDomain

def toMessagePack (domain : TrustDomain) : MessagePack := .ofText domain.text

/-- The domain that a value names. -/
def ofName? (v : MessagePack) : Option TrustDomain := do
  match ← MessagePack.namedAmong ["open", "trusted"] v with
  | some 0 => some openToAll
  | some 1 => some trusted
  | _ => none

/-- Reads a domain: its name, or a map from the name to nothing. -/
def ofMessagePack? : MessagePack → Option TrustDomain
  | .map [(name, .nil)] => ofName? name
  | .map _ => none
  | v => ofName? v

end TrustDomain

namespace RemoteAddress

def toMessagePack (remote : RemoteAddress) : MessagePack :=
  .array [.ofText remote.app, .ofText remote.port]

def ofPackedParts? (app port : MessagePack) : Option RemoteAddress := do
  return ⟨← app.text?, ← port.text?⟩

/-- Reads an address: an array or a map of both parts. -/
def ofMessagePack? : MessagePack → Option RemoteAddress
  | .array [app, port] => ofPackedParts? app port
  | .map entries => do
    let fields ← MessagePack.knownEntries ["app_id", "port_name"] entries
    ofPackedParts? (← fields.lookup 0) (← fields.lookup 1)
  | _ => none

end RemoteAddress

/-! ## Payloads -/

namespace PayloadValue

def toMessagePack : PayloadValue → MessagePack
  | text s => .map [(.ofText "str", .ofText s)]
  | texts items => .map [(.ofText "str_array", .array (items.map .ofText))]
  | bytes values =>
    .map [(.ofText "bytes", .array (values.map fun b => .unsigned b.toNat))]

/-- Reads a payload value: a map from the kind to the content. -/
def ofMessagePack? : MessagePack → Option PayloadValue
  | .map [(kind, content)] => do
    match ← MessagePack.namedAmong ["str", "str_array", "bytes"] kind with
    | some 0 => content.text?.map text
    | some 1 => (← content.items?).mapM MessagePack.text? |>.map texts
    | some 2 => (← content.items?).mapM MessagePack.byte? |>.map bytes
    | _ => none
  | _ => none

end PayloadValue

namespace Payload

def toMessagePack (p : Payload) : MessagePack :=
  .map (p.toList.map fun (key, value) => (.ofText key, value.toMessagePack))

def entryOfMessagePack? : MessagePack × MessagePack → Option (String × PayloadValue)
  | (key, value) => do return (← key.text?, ← PayloadValue.ofMessagePack? value)

def ofMessagePack? : MessagePack → Option Payload
  | .map entries => (entries.mapM entryOfMessagePack?).map ofList
  | _ => none

end Payload

/-! ## Deliveries -/

namespace DeliveryEvent

def toMessagePack (event : DeliveryEvent) : MessagePack :=
  .array [event.target.toMessagePack, .ofText event.senderApp,
    event.senderPort.elim .nil .ofText, .bool event.senderTrusted, event.payload.toMessagePack]

def ofPackedParts? (target app port trusted payload : MessagePack) : Option DeliveryEvent := do
  return ⟨← PortId.ofMessagePack? target, ← app.text?, ← port.optionalText?, ← trusted.bool?,
    ← Payload.ofMessagePack? payload⟩

/-- Reads a delivery: an array of all five parts, or a map, in which the reply port may be
missing. -/
def ofMessagePack? : MessagePack → Option DeliveryEvent
  | .array [target, app, port, trusted, payload] => ofPackedParts? target app port trusted payload
  | .map entries => do
    let fields ← MessagePack.knownEntries
      ["target", "sender_app_id", "sender_port", "sender_trusted", "payload"] entries
    ofPackedParts? (← fields.lookup 0) (← fields.lookup 1) ((fields.lookup 2).getD .nil)
      (← fields.lookup 3) (← fields.lookup 4)
  | _ => none

end DeliveryEvent

/-! ## Configurations -/

namespace Config

def toMessagePack (config : Config) : MessagePack :=
  .array [.unsigned config.recommendedPayloadBytes.toNat, .bool config.passthroughUnmappedCodes,
    .bool config.logPayloadKeys]

/-- Reads three settings, each of which may be missing and then has its default. -/
def ofPackedParts? (bytes passthrough keys : Option MessagePack) : Option Config := do
  let bytes ← bytes.elim (some defaults.recommendedPayloadBytes) MessagePack.size?
  let passthrough ← passthrough.elim (some defaults.passthroughUnmappedCodes) MessagePack.bool?
  let keys ← keys.elim (some defaults.logPayloadKeys) MessagePack.bool?
  return ⟨bytes, passthrough, keys⟩

/-- Reads a configuration: a list of settings in order or a map, both possibly incomplete. -/
def ofMessagePack? : MessagePack → Option Config
  | .map entries => do
    let fields ← MessagePack.knownEntries
      ["recommended_payload_bytes", "passthrough_unmapped_codes", "log_payload_keys"] entries
    ofPackedParts? (fields.lookup 0) (fields.lookup 1) (fields.lookup 2)
  | v => do
    let items ← v.items?
    if items.length ≤ 3 then ofPackedParts? items[0]? items[1]? items[2]? else none

end Config

end PortMessaging
