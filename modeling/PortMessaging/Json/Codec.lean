import PortMessaging.Address
import PortMessaging.Config
import PortMessaging.Json.Reader
import PortMessaging.Message

/-!
# Json.Codec — the JSON form of the library's data

An id is a number, a domain its name, a payload value an object with one member that names the
kind, a payload an object, and the records (address, delivery, configuration) are objects with
their fields in a fixed order.

Reading is more generous than writing.  A record may also come as an array of its fields in order;
members that a record does not know are passed over, while a known one must not be repeated; a
configuration may leave out any field, and a delivery its reply port.  Of two entries of a payload
with one key the later wins.
-/

namespace PortMessaging

namespace Json

/-! ## Scalars and lists -/

/-- An integer between two bounds. -/
def intBetween? (low high : Int) : Json → Option Int
  | .integer n => if low ≤ n ∧ n ≤ high then some n else none
  | _ => none

theorem intBetween?_integer {low high n : Int} (h : low ≤ n ∧ n ≤ high) :
    (integer n).intBetween? low high = some n := if_pos h

def text? : Json → Option String
  | .string text => text
  | _ => none

def bool? : Json → Option Bool
  | .bool b => some b
  | _ => none

@[simp] theorem bool?_bool (b : Bool) : (bool b).bool? = some b := rfl

def byte? (j : Json) : Option UInt8 := (j.intBetween? 0 255).map UInt8.ofInt

def size? (j : Json) : Option UInt64 := (j.intBetween? 0 18446744073709551615).map UInt64.ofInt

def optionalText? : Json → Option (Option String)
  | .null => some none
  | j => j.text?.map some

/-- An object with one member, as name and value. -/
def single? : Json → Option (String × Json)
  | .object [(some name, value)] => some (name, value)
  | _ => none

/-! ## Records -/

/-- The members of a record: those with a known name, each at most once.  A name that is no text
is refused, an unknown one is passed over. -/
def knownMembers (names : List String) : List (Option String × Json) → Option (List (String × Json))
  | [] => some []
  | (none, _) :: _ => none
  | (some name, value) :: rest => do
    let known ← knownMembers names rest
    if name ∈ names then
      if (known.lookup name).isSome then none else some ((name, value) :: known)
    else some known

@[simp] theorem knownMembers_nil (names : List String) : knownMembers names [] = some [] := rfl

theorem knownMembers_cons (names : List String) (name : String) (value : Json)
    (members : List (Option String × Json)) :
    knownMembers names ((some name, value) :: members) =
      (knownMembers names members).bind fun known =>
        if name ∈ names then
          if (known.lookup name).isSome then none else some ((name, value) :: known)
        else some known := rfl

def ofText (text : String) : Json := .string (some text)

/-- A record as JSON, with its fields in the order given. -/
def ofFields (fields : List (String × Json)) : Json :=
  .object (fields.map fun (name, value) => (some name, value))

end Json

/-! ## Ids, domains, addresses -/

namespace PortId

def toJson (id : PortId) : Json := .integer id.value.toInt

def ofJson? (j : Json) : Option PortId :=
  (j.intBetween? (-2147483648) 2147483647).map fun n => ⟨Int32.ofInt n⟩

end PortId

namespace TrustDomain

def toJson (domain : TrustDomain) : Json := .ofText domain.text

/-- Reads a domain: its name, or an object that maps the name to nothing. -/
def ofJson? : Json → Option TrustDomain
  | .object [(some name, .null)] => ofText? name
  | j => j.text?.bind ofText?

end TrustDomain

namespace RemoteAddress

def toJson (remote : RemoteAddress) : Json :=
  .ofFields [("app_id", .ofText remote.app), ("port_name", .ofText remote.port)]

def ofParts? (app port : Json) : Option RemoteAddress := do
  return ⟨← app.text?, ← port.text?⟩

/-- Reads an address: an object or an array of both parts. -/
def ofJson? : Json → Option RemoteAddress
  | .array [app, port] => ofParts? app port
  | .object members => do
    let fields ← Json.knownMembers ["app_id", "port_name"] members
    ofParts? (← fields.lookup "app_id") (← fields.lookup "port_name")
  | _ => none

end RemoteAddress

/-! ## Payloads -/

namespace PayloadValue

def toJson : PayloadValue → Json
  | text s => .ofFields [("str", .ofText s)]
  | texts items => .ofFields [("str_array", .array (items.map .ofText))]
  | bytes values => .ofFields [("bytes", .array (values.map fun b => .integer b.toNat))]

/-- Reads a payload value from the name of its kind and its content. -/
def ofContent? : String → Json → Option PayloadValue
  | "str", content => content.text?.map text
  | "str_array", .array items => (items.mapM Json.text?).map texts
  | "bytes", .array items => (items.mapM Json.byte?).map bytes
  | _, _ => none

def ofJson? (j : Json) : Option PayloadValue :=
  j.single?.bind fun (name, content) => ofContent? name content

end PayloadValue

namespace Payload

def toJson (p : Payload) : Json := .ofFields (p.toList.map fun (key, value) => (key, value.toJson))

def entryOfJson? : Option String × Json → Option (String × PayloadValue)
  | (key, value) => do return (← key, ← PayloadValue.ofJson? value)

def ofJson? : Json → Option Payload
  | .object members => (members.mapM entryOfJson?).map ofList
  | _ => none

/-- The size of a payload: the number of bytes of its compact JSON text. -/
def encodedLength (p : Payload) : Nat := p.toJson.compact.utf8ByteSize

end Payload

/-! ## Deliveries -/

namespace DeliveryEvent

def toJson (event : DeliveryEvent) : Json :=
  .ofFields [
    ("target", event.target.toJson),
    ("sender_app_id", .ofText event.senderApp),
    ("sender_port", event.senderPort.elim .null .ofText),
    ("sender_trusted", .bool event.senderTrusted),
    ("payload", event.payload.toJson)]

def ofParts? (target app port trusted payload : Json) : Option DeliveryEvent := do
  return ⟨← PortId.ofJson? target, ← app.text?, ← port.optionalText?, ← trusted.bool?,
    ← Payload.ofJson? payload⟩

/-- Reads a delivery: an object, in which the reply port may be missing, or an array of all five
parts. -/
def ofJson? : Json → Option DeliveryEvent
  | .array [target, app, port, trusted, payload] => ofParts? target app port trusted payload
  | .object members => do
    let fields ← Json.knownMembers
      ["target", "sender_app_id", "sender_port", "sender_trusted", "payload"] members
    ofParts? (← fields.lookup "target") (← fields.lookup "sender_app_id")
      ((fields.lookup "sender_port").getD .null) (← fields.lookup "sender_trusted")
      (← fields.lookup "payload")
  | _ => none

end DeliveryEvent

/-! ## Configurations -/

namespace Config

def settingNames : List String :=
  ["recommended_payload_bytes", "passthrough_unmapped_codes", "log_payload_keys"]

def toJson (config : Config) : Json :=
  .ofFields [
    ("recommended_payload_bytes", .integer config.recommendedPayloadBytes.toNat),
    ("passthrough_unmapped_codes", .bool config.passthroughUnmappedCodes),
    ("log_payload_keys", .bool config.logPayloadKeys)]

/-- Reads three settings, each of which may be missing and then has its default. -/
def ofParts? (bytes passthrough keys : Option Json) : Option Config := do
  let bytes ← bytes.elim (some defaults.recommendedPayloadBytes) Json.size?
  let passthrough ← passthrough.elim (some defaults.passthroughUnmappedCodes) Json.bool?
  let keys ← keys.elim (some defaults.logPayloadKeys) Json.bool?
  return ⟨bytes, passthrough, keys⟩

/-- Reads a configuration: an object or an array of settings in order, both possibly incomplete. -/
def ofJson? : Json → Option Config
  | .array items =>
    if items.length ≤ settingNames.length then ofParts? items[0]? items[1]? items[2]? else none
  | .object members => do
    let fields ← Json.knownMembers settingNames members
    ofParts? (fields.lookup "recommended_payload_bytes")
      (fields.lookup "passthrough_unmapped_codes") (fields.lookup "log_payload_keys")
  | _ => none

end Config

end PortMessaging
