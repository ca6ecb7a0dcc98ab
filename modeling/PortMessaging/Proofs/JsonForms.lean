import Mathlib.Data.List.Nodup
import PortMessaging.Json.Codec
import PortMessaging.Proofs.JsonText
import PortMessaging.Proofs.ReadBack

/-!
# JsonForms — the library's data survives its JSON text

Every kind of data of the library (ids, domains, addresses, payload values, payloads, deliveries,
configurations) has a JSON form.  For each kind this module shows two things: the form is plain, so its
compact text tells all of it (`Plain`), and the form is read as the value that it was made from
(`ReadsBack`).  Together they say that a value survives its text, whatever texts, bytes and numbers it
holds (`data_survives_json_text`).
-/

namespace PortMessaging

namespace Json

/-! ## Scalars and records -/

theorem plain_ofText (text : String) : Plain (.ofText text) := .string text

/-- A record is plain if its fields are. -/
theorem plain_ofFields {fields : List (String × Json)} (h : ∀ field ∈ fields, Plain field.2) :
    Plain (.ofFields fields) := by
  refine .object (fun member hmember => ?_) (fun member hmember => ?_)
  · rcases List.mem_map.1 hmember with ⟨field, -, rfl⟩
    rfl
  · rcases List.mem_map.1 hmember with ⟨field, hfield, rfl⟩
    exact h field hfield

theorem text?_ofText : ReadsBack ofText text? := fun _ => rfl

theorem byte?_integer : ReadsBack (fun b : UInt8 => integer b.toNat) byte? := by
  intro b
  rw [byte?, intBetween?_integer (range_byte b), Option.map_some, ofInt_toNat_byte]

theorem size?_integer : ReadsBack (fun n : UInt64 => integer n.toNat) size? := by
  intro n
  rw [size?, intBetween?_integer (range_size n), Option.map_some, ofInt_toNat_size]

theorem optionalText?_elim :
    ReadsBack (fun text : Option String => text.elim .null ofText) optionalText? := by
  intro text
  cases text <;> rfl

end Json

/-! ## Ids, domains, addresses -/

theorem PortId.plain_toJson (id : PortId) : id.toJson.Plain := .integer _

theorem PortId.ofJson?_toJson : ReadsBack toJson ofJson? := by
  intro id
  simp [ofJson?, toJson, Json.intBetween?_integer (range_id id)]

theorem TrustDomain.plain_toJson (domain : TrustDomain) : domain.toJson.Plain := .string _

theorem TrustDomain.ofJson?_toJson : ReadsBack toJson ofJson? := by
  intro domain
  simp [ofJson?, toJson, Json.ofText, Json.text?]

theorem RemoteAddress.plain_toJson (remote : RemoteAddress) : remote.toJson.Plain := by
  refine Json.plain_ofFields ?_
  simp [Json.plain_ofText]

theorem RemoteAddress.ofJson?_toJson : ReadsBack toJson ofJson? := by
  intro remote
  simp [ofJson?, toJson, Json.ofFields, Json.knownMembers_cons, List.lookup_cons, ofParts?,
    Json.text?_ofText _]

/-! ## Payloads -/

namespace PayloadValue

theorem plain_toJson (value : PayloadValue) : value.toJson.Plain := by
  refine value.casesOn (fun s => ?_) (fun items => ?_) (fun bytes => ?_)
  · refine Json.plain_ofFields ?_
    simp [Json.plain_ofText]
  · refine Json.plain_ofFields ?_
    simp only [List.mem_singleton, forall_eq]
    refine .array fun item hitem => ?_
    rcases List.mem_map.1 hitem with ⟨text, -, rfl⟩
    exact Json.plain_ofText text
  · refine Json.plain_ofFields ?_
    simp only [List.mem_singleton, forall_eq]
    refine .array fun item hitem => ?_
    rcases List.mem_map.1 hitem with ⟨b, -, rfl⟩
    exact .integer _

theorem ofJson?_toJson : ReadsBack toJson ofJson? := by
  intro value
  cases value with
  | text s => rfl
  | texts items =>
    simp [ofJson?, toJson, Json.ofFields, Json.single?, ofContent?, Json.text?_ofText.list items]
  | bytes values =>
    simp [ofJson?, toJson, Json.ofFields, Json.single?, ofContent?, Json.byte?_integer.list values]

end PayloadValue

namespace Payload

theorem plain_toJson (p : Payload) : p.toJson.Plain := by
  refine Json.plain_ofFields fun field hfield => ?_
  rcases List.mem_map.1 hfield with ⟨entry, -, rfl⟩
  exact entry.2.plain_toJson

theorem entryOfJson?_toJson : ReadsBack
    (fun entry : String × PayloadValue => (some entry.1, entry.2.toJson)) entryOfJson? := by
  intro entry
  simp [entryOfJson?, PayloadValue.ofJson?_toJson _]

theorem ofJson?_toJson : ReadsBack toJson ofJson? := by
  intro p
  have hmembers : p.toJson =
      .object (p.toList.map fun entry => (some entry.1, entry.2.toJson)) := by
    simp [toJson, Json.ofFields]
  rw [hmembers, ofJson?, entryOfJson?_toJson.list p.toList, Option.map_some, ofList_toList]

end Payload

/-! ## Deliveries and configurations -/

namespace DeliveryEvent

theorem plain_toJson (event : DeliveryEvent) : event.toJson.Plain := by
  refine Json.plain_ofFields ?_
  have hport : (event.senderPort.elim Json.null Json.ofText).Plain := by
    cases event.senderPort with
    | none => exact .null
    | some port => exact Json.plain_ofText port
  simp [event.target.plain_toJson, Json.plain_ofText, hport, Json.Plain.bool,
    event.payload.plain_toJson]

theorem ofJson?_toJson : ReadsBack toJson ofJson? := by
  intro event
  simp [ofJson?, toJson, Json.ofFields, Json.knownMembers_cons, List.lookup_cons, ofParts?,
    PortId.ofJson?_toJson _, Json.text?_ofText _, Json.optionalText?_elim _,
    Payload.ofJson?_toJson _]

end DeliveryEvent

namespace Config

theorem plain_toJson (config : Config) : config.toJson.Plain := by
  refine Json.plain_ofFields ?_
  simp [Json.Plain.integer, Json.Plain.bool]

theorem ofJson?_toJson : ReadsBack toJson ofJson? := by
  intro config
  simp [ofJson?, toJson, Json.ofFields, Json.knownMembers_cons, settingNames, List.lookup_cons,
    ofParts?, Json.size?_integer _]

end Config

/-! ## Texts -/

/-- A form that is plain and is read back is also read back from its text. -/
theorem ReadsBack.text {α : Type} {write : α → Json} {read : Json → Option α}
    (h : ReadsBack write read) (hplain : ∀ a, (write a).Plain) :
    ReadsBack (fun a => (write a).compact) (fun text => (Json.parse? text).bind read) := by
  intro a
  show (Json.parse? (write a).compact).bind read = some a
  rw [(hplain a).parse?_compact, Option.bind_some, h a]

/-- Whatever value is written as JSON text, reading the text gives exactly this value.  So values that
differ have different texts, also where they are all empty. -/
theorem data_survives_json_text :
    (∀ id : PortId, (Json.parse? id.toJson.compact).bind PortId.ofJson? = some id) ∧
    (∀ domain : TrustDomain,
      (Json.parse? domain.toJson.compact).bind TrustDomain.ofJson? = some domain) ∧
    (∀ remote : RemoteAddress,
      (Json.parse? remote.toJson.compact).bind RemoteAddress.ofJson? = some remote) ∧
    (∀ value : PayloadValue,
      (Json.parse? value.toJson.compact).bind PayloadValue.ofJson? = some value) ∧
    (∀ p : Payload, (Json.parse? p.toJson.compact).bind Payload.ofJson? = some p) ∧
    (∀ event : DeliveryEvent,
      (Json.parse? event.toJson.compact).bind DeliveryEvent.ofJson? = some event) ∧
    (∀ config : Config, (Json.parse? config.toJson.compact).bind Config.ofJson? = some config) ∧
    (∀ a b : PayloadValue, a.toJson.compact = b.toJson.compact → a = b) ∧
    ([PayloadValue.text "", .texts [], .bytes []].map (·.toJson.compact)).Nodup := by
  have hvalues := PayloadValue.ofJson?_toJson.text PayloadValue.plain_toJson
  refine ⟨PortId.ofJson?_toJson.text PortId.plain_toJson,
    TrustDomain.ofJson?_toJson.text TrustDomain.plain_toJson,
    RemoteAddress.ofJson?_toJson.text RemoteAddress.plain_toJson, hvalues,
    Payload.ofJson?_toJson.text Payload.plain_toJson,
    DeliveryEvent.ofJson?_toJson.text DeliveryEvent.plain_toJson,
    Config.ofJson?_toJson.text Config.plain_toJson, fun a b heq => hvalues.injective heq, ?_⟩
  -- The three empty values differ by their kind.
  have hkinds : [PayloadValue.text "", .texts [], .bytes []].Nodup := by decide
  exact List.Nodup.map hvalues.injective hkinds

end PortMessaging
