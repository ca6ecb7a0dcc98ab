import Mathlib.Data.List.Perm.Subperm
import PortMessaging.Json.Codec
import PortMessaging.Proofs.FailureCodes
import PortMessaging.Proofs.LoopbackRuns
import PortMessaging.Proofs.SortedMap

/-!
# EncodedSizes — how long a payload is, and what the size limit makes of it

The encoded length of a payload is the number of bytes of its compact JSON text.  This module counts these
bytes without writing the text: a character of a literal takes the bytes of its escape (`escapedSize`), a
list or an object takes its parts and what separates them (`separatedSize`), and a payload takes its entries
(`encodedLength_eq_separatedSize`).

A count of this form does not depend on the order of the entries.  So an insertion adds the bytes of the new
entry wherever its key falls (`encodedLength_insert`), and a payload with more entries is longer
(`encodedLength_le`).  A service that refuses a message for its size thus refuses every message with at least
its entries (`Loopback.Host.request_tooLarge_ends`).
-/

namespace PortMessaging

/-! ## Sums over parts of a list -/

section Sums

variable {α : Type} {measure : α → Nat} {parts others : List α}

theorem tally_perm (h : parts.Perm others) : tally measure parts = tally measure others := by
  induction h with
  | nil => rfl
  | cons a _ ih => rw [tally_cons, tally_cons, ih]
  | swap a b l =>
    simp only [tally_cons]
    omega
  | trans _ _ ih₁ ih₂ => exact ih₁.trans ih₂

theorem tally_le_of_sublist (h : parts.Sublist others) :
    tally measure parts ≤ tally measure others := by
  induction h with
  | slnil => exact Nat.le_refl _
  | cons a _ ih => exact Nat.le_trans ih (Nat.le_add_left _ _)
  | cons_cons a _ ih => exact Nat.add_le_add_left ih _

theorem tally_le_of_subperm (h : parts.Subperm others) :
    tally measure parts ≤ tally measure others := by
  obtain ⟨l, hperm, hsublist⟩ := h
  rw [← tally_perm hperm]
  exact tally_le_of_sublist hsublist

end Sums

/-! ## Bytes of characters -/

/-- The number of bytes of a text is the sum over its characters. -/
theorem utf8ByteSize_ofList (cs : List Char) :
    (String.ofList cs).utf8ByteSize = tally Char.utf8Size cs := by
  induction cs with
  | nil => rfl
  | cons c cs ih =>
    have hhead : (String.ofList [c]).utf8ByteSize = c.utf8Size := String.utf8ByteSize_singleton
    rw [← List.singleton_append, String.ofList_append, String.utf8ByteSize_append, ih, hhead]
    rfl

/-- The characters that JSON itself writes take one byte each. -/
theorem utf8Size_of_ascii {c : Char} (h : c.toNat < 128) : c.utf8Size = 1 :=
  Char.utf8Size_eq_one_iff.2 (UInt32.le_iff_toNat_le.2 (Nat.le_of_lt_succ h))

namespace Json

/-- The number of bytes of the compact text of a value. -/
def byteLength (value : Json) : Nat := value.compact.toUTF8.size

theorem byteLength_eq_tally (value : Json) : value.byteLength = tally Char.utf8Size value.chars :=
  utf8ByteSize_ofList value.chars

/-! ## Literals -/

/-- The bytes that a character takes in a literal: two if it has an escape with a letter, six if only its
number can be written, and its own otherwise. -/
def escapedSize (c : Char) : Nat :=
  if c ∈ ['"', '\\', '\n', '\r', '\t', '\x08', '\x0c'] then 2
  else if c.toNat < 0x20 then 6
  else c.utf8Size

/-- The bytes of the literal of a text, with its quotes. -/
def textSize (text : String) : Nat := 2 + tally escapedSize text.toList

theorem utf8Size_hexDigit (n : Nat) : (Text.hexDigit n).utf8Size = 1 := by
  have hall : ∀ k : Fin 16, (Nat.digitChar k).utf8Size = 1 := by decide
  exact hall ⟨n % 16, Nat.mod_lt _ (by decide)⟩

theorem tally_escape (c : Char) : tally Char.utf8Size (StringLiteral.escape c) = escapedSize c := by
  unfold StringLiteral.escape escapedSize
  -- The cases are those of the written form: seven letters, a unit, the character itself.
  split
  next hc => subst hc; rfl
  next hquote =>
  split
  next hc => subst hc; rfl
  next hbackslash =>
  split
  next hc => subst hc; rfl
  next hnewline =>
  split
  next hc => subst hc; rfl
  next hreturn =>
  split
  next hc => subst hc; rfl
  next htab =>
  split
  next hc => subst hc; rfl
  next hbackspace =>
  split
  next hc => subst hc; rfl
  next hfeed =>
  have hletter : c ∉ ['"', '\\', '\n', '\r', '\t', '\x08', '\x0c'] := by
    simp [hquote, hbackslash, hnewline, hreturn, htab, hbackspace, hfeed]
  rw [if_neg hletter]
  split
  next => simp [utf8Size_hexDigit, utf8Size_of_ascii]
  next => simp

theorem tally_stringText (text : Option String) :
    tally Char.utf8Size (stringText text) = textSize (text.getD "") := by
  have hbody (cs : List Char) :
      tally Char.utf8Size (cs.flatMap StringLiteral.escape) = tally escapedSize cs := by
    induction cs with
    | nil => rfl
    | cons c cs ih => rw [List.flatMap_cons, tally_append, tally_escape, ih, tally_cons]
  have hquote : '"'.utf8Size = 1 := utf8Size_of_ascii (by decide)
  unfold stringText StringLiteral.write textSize
  simp only [tally_append, tally_cons, tally_nil, hbody, hquote]
  omega

theorem byteLength_ofText (text : String) : (ofText text).byteLength = textSize text := by
  rw [byteLength_eq_tally]
  exact tally_stringText (some text)

/-! ## Lists and objects -/

section Separated

variable {α : Type} {measure : α → Nat} {parts others : List α}

/-- The bytes of a list of parts in brackets, with a comma between any two. -/
def separatedSize (measure : α → Nat) (parts : List α) : Nat :=
  2 + tally measure parts + (parts.length - 1)

theorem separatedSize_map {β : Type} (measure : β → Nat) (f : α → β) (parts : List α) :
    separatedSize measure (parts.map f) = separatedSize (fun a => measure (f a)) parts := by
  unfold separatedSize
  rw [tally_map, List.length_map]

theorem separatedSize_perm (h : parts.Perm others) :
    separatedSize measure parts = separatedSize measure others := by
  unfold separatedSize
  rw [tally_perm h, h.length_eq]

theorem separatedSize_cons (measure : α → Nat) (a : α) (parts : List α) :
    separatedSize measure (a :: parts) =
      separatedSize measure parts + measure a + if parts.isEmpty then 0 else 1 := by
  unfold separatedSize
  cases parts with
  | nil => simp
  | cons b parts =>
    simp only [tally_cons, List.length_cons, List.isEmpty_cons, Bool.false_eq_true, if_false]
    omega

theorem separatedSize_le (h : parts.Subperm others) :
    separatedSize measure parts ≤ separatedSize measure others := by
  unfold separatedSize
  have hsum : tally measure parts ≤ tally measure others := tally_le_of_subperm h
  have hlength := h.length_le
  omega

/-- If no part is empty, more parts take more bytes. -/
theorem separatedSize_lt (hpos : ∀ a, 0 < measure a) (h : parts.Subperm others)
    (hmore : parts.length < others.length) :
    separatedSize measure parts < separatedSize measure others := by
  obtain ⟨a, hcons⟩ := h.exists_of_length_lt hmore
  have hle : separatedSize measure (a :: parts) ≤ separatedSize measure others :=
    separatedSize_le hcons
  rw [separatedSize_cons] at hle
  have ha := hpos a
  omega

end Separated

theorem tally_itemChars (items : List Json) :
    1 + tally Char.utf8Size (itemChars items) = separatedSize byteLength items := by
  have hcomma : ','.utf8Size = 1 := utf8Size_of_ascii (by decide)
  have hclose : ']'.utf8Size = 1 := utf8Size_of_ascii (by decide)
  unfold separatedSize
  induction items with
  | nil => rfl
  | cons item rest ih =>
    cases rest with
    | nil =>
      simp only [itemChars_singleton, tally_append, tally_cons, tally_nil, byteLength_eq_tally,
        hclose, List.length_cons, List.length_nil]
      omega
    | cons next rest =>
      simp only [itemChars_cons_cons, tally_append, tally_cons, hcomma, List.length_cons] at ih ⊢
      rw [← byteLength_eq_tally item]
      omega

/-- The bytes of a member: its key as a literal, a colon and its value. -/
def memberSize (member : Option String × Json) : Nat :=
  textSize (member.1.getD "") + 1 + member.2.byteLength

theorem tally_memberChars (members : List (Option String × Json)) :
    1 + tally Char.utf8Size (memberChars members) = separatedSize memberSize members := by
  have hcolon : ':'.utf8Size = 1 := utf8Size_of_ascii (by decide)
  have hcomma : ','.utf8Size = 1 := utf8Size_of_ascii (by decide)
  have hclose : '\x7d'.utf8Size = 1 := utf8Size_of_ascii (by decide)
  unfold separatedSize
  induction members with
  | nil => rfl
  | cons member rest ih =>
    cases rest with
    | nil =>
      simp only [memberChars_singleton, tally_append, tally_cons, tally_nil, tally_stringText,
        memberSize, byteLength_eq_tally, hcolon, hclose, List.length_cons, List.length_nil]
      omega
    | cons next rest =>
      have hmember : memberSize member =
          textSize (member.1.getD "") + 1 + tally Char.utf8Size member.2.chars := by
        rw [memberSize, byteLength_eq_tally]
      simp only [memberChars_cons_cons, tally_append, tally_cons, tally_stringText, hcolon, hcomma,
        List.length_cons] at ih ⊢
      omega

theorem byteLength_array (items : List Json) :
    (array items).byteLength = separatedSize byteLength items := by
  rw [← tally_itemChars, byteLength_eq_tally, chars_array, tally_cons,
    utf8Size_of_ascii (by decide)]

theorem byteLength_object (members : List (Option String × Json)) :
    (object members).byteLength = separatedSize memberSize members := by
  rw [← tally_memberChars, byteLength_eq_tally, chars_object, tally_cons,
    utf8Size_of_ascii (by decide)]

theorem byteLength_ofFields (fields : List (String × Json)) :
    (ofFields fields).byteLength =
      separatedSize (fun field => textSize field.1 + 1 + field.2.byteLength) fields := by
  unfold ofFields
  rw [byteLength_object, separatedSize_map]
  rfl

/-- An object with one member. -/
theorem byteLength_single (name : String) (content : Json) :
    (ofFields [(name, content)]).byteLength = textSize name + 3 + content.byteLength := by
  rw [byteLength_ofFields, separatedSize_cons]
  simp only [separatedSize, tally_nil, List.length_nil, List.isEmpty_nil, if_true]
  omega

end Json

/-! ## Payloads -/

/-- The digits of a byte. -/
def decimalSize (b : UInt8) : Nat := if b < 10 then 1 else if b < 100 then 2 else 3

theorem byteLength_byte (b : UInt8) : (Json.integer b.toNat).byteLength = decimalSize b := by
  have hall : ∀ n : Fin 256,
      tally Char.utf8Size (Nat.toDigits 10 n) = decimalSize (UInt8.ofNat n) := by decide +kernel
  have hb := hall ⟨b.toNat, b.toNat_lt⟩
  rw [UInt8.ofNat_toNat] at hb
  rw [Json.byteLength_eq_tally]
  exact hb

namespace PayloadValue

/-- The bytes of a value: what names its kind, and its texts or bytes. -/
def encodedSize : PayloadValue → Nat
  | text s => 8 + Json.textSize s
  | texts items => 14 + Json.separatedSize Json.textSize items
  | bytes values => 10 + Json.separatedSize decimalSize values

theorem byteLength_toJson (value : PayloadValue) : value.toJson.byteLength = value.encodedSize := by
  cases value with
  | text s =>
    have hkind : Json.textSize "str" = 5 := by decide
    rw [toJson, Json.byteLength_single, Json.byteLength_ofText, hkind]
    rfl
  | texts items =>
    have hkind : Json.textSize "str_array" = 11 := by decide
    rw [toJson, Json.byteLength_single, Json.byteLength_array, Json.separatedSize_map,
      funext Json.byteLength_ofText, hkind]
    rfl
  | bytes values =>
    have hkind : Json.textSize "bytes" = 7 := by decide
    rw [toJson, Json.byteLength_single, Json.byteLength_array, Json.separatedSize_map,
      funext byteLength_byte, hkind]
    rfl

end PayloadValue

namespace Payload

variable {p q : Payload} {key : String} {value : PayloadValue}

/-- The bytes of an entry: its key, a colon and its value. -/
def entrySize (entry : String × PayloadValue) : Nat :=
  Json.textSize entry.1 + 1 + entry.2.encodedSize

theorem encodedLength_eq_separatedSize (p : Payload) :
    p.encodedLength = Json.separatedSize entrySize p.toList := by
  have hfields : p.toJson.byteLength = Json.separatedSize entrySize p.toList := by
    unfold toJson
    rw [Json.byteLength_ofFields, Json.separatedSize_map]
    simp only [PayloadValue.byteLength_toJson]
    rfl
  exact hfields

/-- A new key makes a payload longer by its entry, and by a comma if there are others. -/
theorem encodedLength_insert (habsent : p.get? key = none) (value : PayloadValue) :
    (p.insert key value).encodedLength =
      p.encodedLength + entrySize (key, value) + if p.isEmpty then 0 else 1 := by
  have hperm : (p.insert key value).toList.Perm ((key, value) :: p.toList) := by
    have h := p.entries.entries_insert_perm key value
    rwa [SortedMap.erase_eq_self habsent] at h
  rw [encodedLength_eq_separatedSize, encodedLength_eq_separatedSize, Json.separatedSize_perm hperm,
    Json.separatedSize_cons]
  rfl

theorem toList_subperm (h : ∀ key value, p.get? key = some value → q.get? key = some value) :
    p.toList.Subperm q.toList := by
  have hnodup : p.toList.Nodup := List.Nodup.of_map _ p.entries.nodup_keys
  refine List.subperm_of_subset hnodup fun entry hentry => ?_
  exact SortedMap.get?_eq_some_iff.1 (h entry.1 entry.2 (SortedMap.get?_eq_some_iff.2 hentry))

/-- A payload with all entries of another is at least as long. -/
theorem encodedLength_le (h : ∀ key value, p.get? key = some value → q.get? key = some value) :
    p.encodedLength ≤ q.encodedLength := by
  rw [encodedLength_eq_separatedSize, encodedLength_eq_separatedSize]
  exact Json.separatedSize_le (toList_subperm h)

/-- With further entries it is longer. -/
theorem encodedLength_lt (h : ∀ key value, p.get? key = some value → q.get? key = some value)
    (hmore : p.size < q.size) : p.encodedLength < q.encodedLength := by
  have hpos : ∀ entry, 0 < entrySize entry := fun entry => by
    unfold entrySize
    omega
  rw [encodedLength_eq_separatedSize, encodedLength_eq_separatedSize]
  exact Json.separatedSize_lt hpos (toList_subperm h) hmore

theorem get?_of_get?_erase {other : String} (h : (p.erase key).get? other = some value) :
    p.get? other = some value := by
  by_cases hother : other = key
  · rw [hother, get?_erase_self] at h
    cases h
  · rwa [get?_erase_of_ne p hother] at h

/-- To remove keys makes no payload longer. -/
theorem encodedLength_erase_le (keys : List String) (p : Payload) :
    (keys.foldl erase p).encodedLength ≤ p.encodedLength := by
  induction keys generalizing p with
  | nil => exact Nat.le_refl _
  | cons key keys ih =>
    have hone : (p.erase key).encodedLength ≤ p.encodedLength :=
      encodedLength_le fun _ _ => get?_of_get?_erase
    exact Nat.le_trans (ih (p.erase key)) hone

end Payload

/-! ## The size limit -/

namespace Loopback

variable {ω S : Type}

theorem Service.resolve_ne_tooLarge (service : Service S) (app : String) (remote : RemoteAddress)
    (domain : TrustDomain) : service.resolve app remote domain ≠ .error .tooLarge := by
  unfold resolve
  repeat' split
  all_goals simp

/-- A message is too large for its size only. -/
theorem Service.route_eq_tooLarge_iff {service : Service S} {alive : S → Bool} {app : String}
    {remote : RemoteAddress} {domain : TrustDomain} {payload : Payload} {reply : Option Binding} :
    service.route alive app remote domain payload reply = .error .tooLarge ↔
      service.maxPayloadBytes < payload.encodedLength := by
  unfold route
  by_cases hsize : service.maxPayloadBytes < payload.encodedLength
  · simp [hsize]
  · rw [if_neg hsize]
    have hresolve := service.resolve_ne_tooLarge app remote domain
    cases hfound : service.resolve app remote domain with
    | error code =>
      rw [hfound] at hresolve
      simpa [hsize] using hresolve
    | ok found =>
      cases hsink : found.2.sink.filter alive with
      | none => simp [hsink, hsize]
      | some sink => simp [hsink, hsize]

namespace Host

variable {host : Host ω S} {app : String} {remote : RemoteAddress} {domain : TrustDomain}
  {p q : Payload} {w : ω}

theorem transmit_refused_ends {reply : Option Binding} {code : TransportCode}
    (hroute : (host.service.get w).route (host.alive w) app remote domain p reply = .error code) :
    (host.transmit app remote domain p reply).Ends w (.ok (.error code)) w := by
  unfold transmit
  refine Effect.ends_bind (Effect.ends_getState w) ?_
  rw [hroute]
  exact ⟨rfl, rfl⟩

/-- What is handed over is not refused, whatever its sink does with it. -/
theorem transmit_handed_result {reply : Option Binding} {sink : S} {event : DeliveryEvent}
    (hroute : (host.service.get w).route (host.alive w) app remote domain p reply = .ok (sink, event)) :
    ((host.transmit app remote domain p reply).run w).result =
      ((host.deliver sink event).run w).result.map fun _ => .ok () := by
  unfold transmit
  rw [Effect.run_bind]
  simp only [Effect.run_getState, hroute, Effect.run_bind, Effect.run_log]
  cases ((host.deliver sink event).run w).result with
  | error fault => rfl
  | ok => rfl

theorem transmit_tooLarge_ends (h : (host.service.get w).maxPayloadBytes < p.encodedLength)
    (reply : Option Binding) :
    (host.transmit app remote domain p reply).Ends w (.ok (.error .tooLarge)) w :=
  transmit_refused_ends (Service.route_eq_tooLarge_iff.2 h)

theorem size_of_transmit_tooLarge {reply : Option Binding}
    (h : ((host.transmit app remote domain p reply).run w).result = .ok (.error .tooLarge)) :
    (host.service.get w).maxPayloadBytes < p.encodedLength := by
  cases hroute : (host.service.get w).route (host.alive w) app remote domain p reply with
  | error code =>
    rw [(transmit_refused_ends hroute).result] at h
    cases h
    exact Service.route_eq_tooLarge_iff.1 hroute
  | ok way =>
    rw [transmit_handed_result hroute] at h
    cases hdeliver : ((host.deliver way.1 way.2).run w).result with
    | error fault =>
      rw [hdeliver] at h
      cases h
    | ok =>
      rw [hdeliver] at h
      cases h

variable {reply : Option PortId}

/-- If a request is refused for the size of its payload, so is the same request with a payload that is not
shorter, and nothing else happens. -/
theorem request_tooLarge_ends
    (h : (((host.endpoint app).request remote domain p reply).run w).result = .ok (.error .tooLarge))
    (hle : p.encodedLength ≤ q.encodedLength) :
    ((host.endpoint app).request remote domain q reply).Ends w (.ok (.error .tooLarge)) w := by
  cases reply with
  | none => exact transmit_tooLarge_ends (Nat.lt_of_lt_of_le (size_of_transmit_tooLarge h) hle) none
  | some id =>
    -- The reply port is looked at first, and in the same state for both.
    have hask : (host.ask (·.replyBinding app id)).Ends w
        (.ok ((host.service.get w).replyBinding app id)) w := ⟨rfl, rfl⟩
    cases hbinding : (host.service.get w).replyBinding app id with
    | error code =>
      rw [hbinding] at hask
      have hends (payload : Payload) :
          ((host.endpoint app).request remote domain payload (some id)).Ends w (.ok (.error code)) w :=
        Effect.ends_bind hask ⟨rfl, rfl⟩
      rw [(hends p).result] at h
      cases h
      exact hends q
    | ok binding =>
      rw [hbinding] at hask
      have hrun : (((host.endpoint app).request remote domain p (some id)).run w).result =
          ((host.transmit app remote domain p (some binding)).run w).result :=
        (Effect.ends_bind hask ⟨rfl, rfl⟩).result
      rw [hrun] at h
      exact Effect.ends_bind hask
        (transmit_tooLarge_ends (Nat.lt_of_lt_of_le (size_of_transmit_tooLarge h) hle) (some binding))

end Host
end Loopback

theorem Translator.errorOf_eq_tooLarge_iff {translator : Translator} {code : TransportCode} :
    translator.errorOf code = .tooLarge ↔ code = .tooLarge := by
  cases code with
  | other raw => cases hpass : translator.passthrough <;> simp [errorOf, hpass]
  | _ => simp [errorOf]

/-- So it is with the sends of a gateway over a service. -/
theorem Gateway.attempt_tooLarge_ends {ω S : Type} {host : Loopback.Host ω S} {app : String}
    {gateway : Gateway} {registry : Registry} {remote : RemoteAddress} {domain : TrustDomain}
    {p q : Payload} {reply : Option PortId} {w : ω}
    (h : ((gateway.attempt registry (host.endpoint app) remote domain (some p) reply).run w).result =
      .ok (.error .tooLarge))
    (hle : p.encodedLength ≤ q.encodedLength) :
    (gateway.attempt registry (host.endpoint app) remote domain (some q) reply).Ends w
      (.ok (.error .tooLarge)) w := by
  cases hverdict : verdict (sendConditions registry remote (some p) reply) with
  | error e =>
    -- The conditions of a gateway are not about the size.
    rw [(attempt_refused_ends hverdict w).result] at h
    cases h
    cases foundHere_of_sendConditions hverdict
  | ok =>
    have hverdict' : verdict (sendConditions registry remote (some q) reply) = .ok () := by
      rw [verdict_sendConditions_some] at hverdict ⊢
      exact hverdict
    obtain ⟨_, hp, hendsp⟩ := gateway.attempt_passed_ends (host.endpoint app) domain hverdict w
    obtain ⟨_, hq, hendsq⟩ := gateway.attempt_passed_ends (host.endpoint app) domain hverdict' w
    cases hp
    cases hq
    have hasked : (((host.endpoint app).request remote domain p reply).run w).result =
        .ok (.error .tooLarge) := by
      rw [hendsp.result] at h
      cases hresult : (((host.endpoint app).request remote domain p reply).run w).result with
      | error fault =>
        rw [hresult] at h
        cases h
      | ok answer =>
        cases answer with
        | ok =>
          rw [hresult] at h
          cases h
        | error code =>
          rw [hresult] at h
          have hcode : gateway.translator.errorOf code = .tooLarge := by
            simpa [Except.map, Except.mapError] using h
          rw [Translator.errorOf_eq_tooLarge_iff.1 hcode]
    have hends := Loopback.Host.request_tooLarge_ends hasked hle
    rw [hends.result, hends.state] at hendsq
    exact hendsq

/-! ## The laws -/

namespace Payload

/-- Whatever request to send the first payload is refused for its size, the same request with the second is
refused for its size, and that is all that happens. -/
structure RefusedWith (p q : Payload) : Prop where
  endpoint : ∀ {ω S : Type} (host : Loopback.Host ω S) (app : String) (remote : RemoteAddress)
    (domain : TrustDomain) (reply : Option PortId) (w : ω),
    (((host.endpoint app).request remote domain p reply).run w).result = .ok (.error .tooLarge) →
      ((host.endpoint app).request remote domain q reply).Ends w (.ok (.error .tooLarge)) w
  gateway : ∀ {ω S : Type} (host : Loopback.Host ω S) (app : String) (gateway : Gateway)
    (registry : Registry) (remote : RemoteAddress) (domain : TrustDomain) (reply : Option PortId) (w : ω),
    ((gateway.attempt registry (host.endpoint app) remote domain (some p) reply).run w).result =
        .ok (.error .tooLarge) →
      (gateway.attempt registry (host.endpoint app) remote domain (some q) reply).Ends w
        (.ok (.error .tooLarge)) w

/-- The encoded length is the number of bytes of the compact text, and can be counted entry by entry.  A new
key adds its literal, a colon, its value and perhaps a comma; more entries are longer, and a request that is
too large with some of them is too large with all; to remove keys makes nothing longer. -/
theorem encodedLength_over_entries (p : Payload) :
    p.encodedLength = p.toJson.compact.toUTF8.size ∧
    p.encodedLength = Json.separatedSize entrySize p.toList ∧
    (∀ key value, p.get? key = none →
      (p.insert key value).encodedLength =
        p.encodedLength + (Json.ofText key).byteLength + 1 + value.toJson.byteLength +
          if p.isEmpty then 0 else 1) ∧
    (∀ q, (∀ key value, p.get? key = some value → q.get? key = some value) →
      p.encodedLength ≤ q.encodedLength ∧ (p.size < q.size → p.encodedLength < q.encodedLength) ∧
        p.RefusedWith q) ∧
    (∀ keys : List String, (keys.foldl erase p).encodedLength ≤ p.encodedLength) := by
  refine ⟨rfl, p.encodedLength_eq_separatedSize, ?_, ?_, fun keys => encodedLength_erase_le keys p⟩
  · intro key value habsent
    rw [encodedLength_insert habsent, Json.byteLength_ofText, PayloadValue.byteLength_toJson]
    simp only [entrySize, Nat.add_assoc]
  · intro q hentries
    have hle : p.encodedLength ≤ q.encodedLength := encodedLength_le hentries
    refine ⟨hle, encodedLength_lt hentries, ?_⟩
    exact
      { endpoint := fun _ _ _ _ _ _ h => Loopback.Host.request_tooLarge_ends h hle
        gateway := fun _ _ _ _ _ _ _ _ h => Gateway.attempt_tooLarge_ends h hle }

/-- A payload with one line feed in it, and a key that goes before the one that is there. -/
theorem encodedLength_over_entries_of_lineFeed :
    let p := empty.insert "a" (.text "\n")
    let q := p.insert "A" (.bytes [7, 200])
    p.encodedLength = 18 ∧ q.encodedLength = 40 ∧
      ((Loopback.Host.bare.endpoint "app").request ⟨"app", "p"⟩ .openToAll q none).Ends (.empty 17)
        (.ok (.error .tooLarge)) (.empty 17) := by
  intro p q
  obtain ⟨-, hcounted, hinsert, hmore, -⟩ := encodedLength_over_entries p
  have hp : p.encodedLength = 18 := hcounted.trans (by decide)
  have hA : p.get? "A" = none := by decide
  have hq : q.encodedLength = 40 := by
    rw [hinsert "A" (.bytes [7, 200]) hA, hp, Json.byteLength_ofText, PayloadValue.byteLength_toJson]
    decide
  have hentries : ∀ key value, p.get? key = some value → q.get? key = some value := by
    intro key value h
    have hkey : key ≠ "A" := by
      rintro rfl
      rw [hA] at h
      cases h
    rwa [get?_insert_of_ne p hkey]
  have hlarge : (Loopback.Host.bare.service.get (.empty 17)).maxPayloadBytes < p.encodedLength := by
    rw [hp]
    decide
  have hrefused : (((Loopback.Host.bare.endpoint "app").request ⟨"app", "p"⟩ .openToAll p none).run
      (.empty 17)).result = .ok (.error .tooLarge) :=
    (Loopback.Host.transmit_tooLarge_ends hlarge none).result
  exact ⟨hp, hq, (hmore q hentries).2.2.endpoint _ _ _ _ _ _ hrefused⟩

end Payload

end PortMessaging
