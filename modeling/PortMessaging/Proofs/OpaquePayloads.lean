import PortMessaging.Proofs.AlikePayloads

/-!
# OpaquePayloads — the library does not look into payloads

The operations of the library on any transport that does not look into payloads (`Transport.Opaque`).  With
another payload of the same encoded length in the place of the one that is sent or delivered, an operation
ends in the same way and writes the same log.  There is one place where more of a payload is seen: a router
that logs keys logs them with each delivery.
-/

namespace PortMessaging

open Effect

variable {σ α : Type} {look : Look σ} {f : Payload → Payload} {keys : Bool}

/-- A transport that does with another payload in the place of the one that is sent what it does with that
one.  Its own states are looked at through `look`. -/
structure Transport.Opaque (look : Look σ) (f : Payload → Payload) (transport : Transport σ) :
    Prop where
  bind : ∀ name domain, Blind look (transport.bind name domain)
  unbind : ∀ id, Blind look (transport.unbind id)
  checkRemote : ∀ remote domain, Blind look (transport.checkRemote remote domain)
  send : ∀ remote domain payload, Commutes look id (transport.send remote domain payload)
    (transport.send remote domain (f payload))
  sendWithReply : ∀ reply remote domain payload,
    Commutes look id (transport.sendWithReply reply remote domain payload)
      (transport.sendWithReply reply remote domain (f payload))

/-! ## Translated answers -/

theorem Translator.blind_translate (translator : Translator) (code : TransportCode) :
    Blind look (translator.translate code) := by
  unfold Translator.translate
  split
  · exact blind_log.bind fun _ => blind_pure _
  · exact blind_pure _

theorem Translator.blind_result (translator : Translator) (answer : Except TransportCode α) :
    Blind look (translator.result answer) := by
  cases answer with
  | ok a => exact blind_pure _
  | error code => exact (translator.blind_translate code).bind_pure _

/-! ## The registry -/

namespace Registry

variable {transport : Transport σ}

theorem blind_releaseRejected (h : transport.Opaque look f) (outcome : BindOutcome) :
    Blind (look.beside Registry) (releaseRejected transport outcome) := by
  cases outcome with
  | existing id => exact blind_pure ()
  | created id =>
    refine Blind.bind (h.unbind id).beside fun released => ?_
    cases released with
    | ok => exact blind_pure ()
    | error code => exact blind_log

theorem blind_evictStale (h : transport.Opaque look f) (name : String) (domain : TrustDomain)
    (id : PortId) : Blind (look.beside Registry) (evictStale transport name domain id) := by
  refine blind_held.bind fun registry => ?_
  cases (registry.idOfName? name domain).filter (· != id) with
  | none => exact blind_pure ()
  | some stale =>
    refine blind_log.bind fun _ => Blind.bind (h.unbind stale).beside fun released => ?_
    cases released with
    | ok => exact blind_modifyHeld _
    | error code => exact blind_log.bind fun _ => blind_modifyHeld _

theorem blind_seat (name : String) (domain : TrustDomain) (listener : Listener)
    (outcome : BindOutcome) : Blind (look.beside Registry) (seat name domain listener outcome) := by
  refine blind_held.bind fun registry => ?_
  cases registry.lookup outcome.id domain with
  | some entry => exact (blind_modifyHeld _).bind fun _ => blind_log
  | none =>
    have hadd : Blind (look.beside Registry) (do
        modifyHeld (·.add outcome.id name domain listener)
        log .info "Registered local port" [("domain", .text domain.text), ("port", .text name),
          ("port_id", .text outcome.id.text)]) :=
      (blind_modifyHeld _).bind fun _ => blind_log
    cases outcome with
    | existing id => exact blind_log.bind fun _ => hadd
    | created id => exact (blind_pure ()).bind fun _ => hadd

theorem blind_accept (h : transport.Opaque look f) (name : String) (domain : TrustDomain)
    (listener : Listener) (outcome : BindOutcome) :
    Blind (look.beside Registry) (accept transport name domain listener outcome) := by
  refine blind_held.bind fun registry => ?_
  cases registry.refusal? domain outcome.id with
  | some reason =>
    exact blind_log.bind fun _ => (blind_releaseRejected h outcome).bind_pure _
  | none =>
    exact (blind_evictStale h name domain outcome.id).bind fun _ =>
      (blind_seat name domain listener outcome).bind_pure _

theorem blind_register (h : transport.Opaque look f) (translator : Translator) (name : String)
    (domain : TrustDomain) (listener : Option Listener) :
    Blind (look.beside Registry) (register translator transport name domain listener) := by
  unfold register
  split
  · exact blind_log.bind_pure _
  · cases listener with
    | none => exact blind_log.bind_pure _
    | some listener =>
      refine Blind.bind (h.bind name domain).beside fun answer =>
        (translator.blind_result answer).bind fun result => ?_
      cases result with
      | error e => exact blind_pure _
      | ok outcome => exact blind_accept h name domain listener outcome

theorem blind_retire (h : transport.Opaque look f) (translator : Translator) (entry : PortEntry)
    (id : PortId) (domain : TrustDomain) :
    Blind (look.beside Registry) (retire translator transport entry id domain) := by
  refine Blind.bind (h.unbind id).beside fun answer =>
    (translator.blind_result answer).bind fun result => ?_
  cases result with
  | error e => exact blind_pure _
  | ok => exact (blind_modifyHeld _).bind fun _ => blind_log.bind_pure _

theorem blind_unregister (h : transport.Opaque look f) (translator : Translator) (id : PortId)
    (domain : TrustDomain) :
    Blind (look.beside Registry) (unregister translator transport id domain) := by
  unfold unregister
  split
  · exact blind_log.bind_pure _
  · refine blind_held.bind fun registry => ?_
    cases registry.lookup id domain with
    | none =>
      dsimp only
      split
      · exact blind_log.bind_pure _
      · exact blind_log.bind_pure _
    | some entry => exact blind_retire h translator entry id domain

end Registry

/-! ## The router -/

/-- A delivery is logged in the same way as one with an alike payload. -/
theorem Router.fields_mapPayload (router : Router) (hf : ∀ p, Payload.Alike keys (f p) p)
    (hrouter : router.logPayloadKeys = true → keys = true) (domain : TrustDomain)
    (event : DeliveryEvent) :
    router.fields domain (event.mapPayload f) = router.fields domain event := by
  unfold Router.fields
  cases hlogs : router.logPayloadKeys with
  | false => rfl
  | true =>
    have hkeys : (f event.payload).keys = event.payload.keys := (hf event.payload).2 (hrouter hlogs)
    simp only [DeliveryEvent.mapPayload, hkeys]

theorem Router.commutes_dispatch (router : Router) (hf : ∀ p, Payload.Alike keys (f p) p)
    (hrouter : router.logPayloadKeys = true → keys = true) (registry : Registry)
    {post post' : Delivery → Effect σ Bool}
    (hpost : ∀ delivery, Commutes look id (post delivery) (post' (delivery.mapPayload f)))
    (event : DeliveryEvent) :
    Commutes look id (router.dispatch registry post event)
      (router.dispatch registry post' (event.mapPayload f)) := by
  have htarget : (event.mapPayload f).target = event.target := rfl
  unfold Router.dispatch
  rw [htarget]
  cases registry.domainOf? event.target with
  | none => exact blind_log.bind_pure _
  | some domain =>
    dsimp only
    rw [router.fields_mapPayload hf hrouter]
    refine blind_log.bind fun _ => (hpost ⟨domain, event⟩).bind fun taken => ?_
    cases taken with
    | true => exact blind_pure _
    | false => exact blind_log.bind_pure _

/-- A delivery runs like one with another payload if the listeners that they call do. -/
theorem Delivery.commutes_run (delivery : Delivery) (registry : Registry)
    {call call' : Listener → InboundMessage → Effect σ Unit}
    (hcall : ∀ listener message,
      Commutes look id (call listener message) (call' listener (message.mapPayload f))) :
    Commutes look id (delivery.run registry call) ((delivery.mapPayload f).run registry call') := by
  unfold Delivery.run
  have hlistener : (delivery.mapPayload f).listener? registry = delivery.listener? registry := rfl
  rw [hlistener]
  cases delivery.listener? registry with
  | none => exact blind_log
  | some listener => exact hcall listener delivery.event.inbound

/-! ## The gateway -/

namespace Gateway

variable {transport : Transport σ}

theorem commutes_validate (gateway : Gateway) (hf : ∀ p, Payload.Alike keys (f p) p)
    (remote : RemoteAddress) (payload : Option Payload) :
    Commutes look (Except.map f) (gateway.validate remote payload)
      (gateway.validate remote (payload.map f)) := by
  unfold validate
  cases remote.validate with
  | error e => exact blind_log.bind fun _ => commutes_pure rfl
  | ok =>
    cases payload with
    | none => exact blind_log.bind fun _ => commutes_pure rfl
    | some payload =>
      dsimp only [Option.map]
      rw [(hf payload).1]
      split
      · exact blind_log.bind fun _ => commutes_pure rfl
      · exact (blind_pure ()).bind fun _ => commutes_pure rfl

theorem commutes_send (gateway : Gateway) (hf : ∀ p, Payload.Alike keys (f p) p)
    (h : transport.Opaque look f) (remote : RemoteAddress) (domain : TrustDomain)
    (payload : Option Payload) :
    Commutes look id (gateway.send transport remote domain payload)
      (gateway.send transport remote domain (payload.map f)) := by
  refine (gateway.commutes_validate hf remote payload).bind fun valid => ?_
  cases valid with
  | error e => exact blind_pure _
  | ok payload =>
    exact blind_log.bind fun _ => (h.send remote domain payload).bind fun answer =>
      gateway.translator.blind_result answer

theorem blind_validateReply (registry : Registry) (domain : TrustDomain) (reply : PortId) :
    Blind look (validateReply registry domain reply) := by
  unfold validateReply
  split
  · exact blind_log.bind_pure _
  · cases registry.domainOf? reply with
    | none => exact blind_log.bind_pure _
    | some replyDomain =>
      dsimp only
      split
      · exact blind_log.bind_pure _
      · exact blind_pure _

theorem commutes_sendWithReply (gateway : Gateway) (hf : ∀ p, Payload.Alike keys (f p) p)
    (h : transport.Opaque look f) (registry : Registry) (remote : RemoteAddress)
    (domain : TrustDomain) (payload : Option Payload) (reply : PortId) :
    Commutes look id (gateway.sendWithReply registry transport remote domain payload reply)
      (gateway.sendWithReply registry transport remote domain (payload.map f) reply) := by
  refine (gateway.commutes_validate hf remote payload).bind fun valid => ?_
  cases valid with
  | error e => exact blind_pure _
  | ok payload =>
    refine (blind_validateReply registry domain reply).bind fun checked => ?_
    cases checked with
    | error e => exact blind_pure _
    | ok =>
      exact blind_log.bind fun _ => (h.sendWithReply reply remote domain payload).bind fun answer =>
        gateway.translator.blind_result answer

theorem blind_checkRemote (gateway : Gateway) (h : transport.Opaque look f)
    (remote : RemoteAddress) (domain : TrustDomain) :
    Blind look (gateway.checkRemote transport remote domain) := by
  unfold checkRemote
  cases remote.validate with
  | error e => exact blind_log.bind_pure _
  | ok =>
    refine blind_log.bind fun _ => Blind.bind (h.checkRemote remote domain) fun answer => ?_
    split
    · exact blind_pure _
    · exact blind_pure _
    · exact (gateway.translator.blind_translate _).bind_pure _

end Gateway

/-! ## Questions about local ports -/

namespace Messenger

theorem blind_validateId (id : PortId) : Blind look (validateId id) := by
  unfold validateId
  split
  · exact blind_pure _
  · exact blind_log.bind_pure _

theorem blind_localPortName (registry : Registry) (id : PortId) :
    Blind look (localPortName registry id) := by
  refine (blind_validateId id).bind fun checked => ?_
  cases checked with
  | error e => exact blind_pure _
  | ok => cases registry.nameOf? id <;> exact blind_pure _

theorem blind_isTrustedLocalPort (registry : Registry) (id : PortId) :
    Blind look (isTrustedLocalPort registry id) := by
  refine (blind_validateId id).bind fun checked => ?_
  cases checked with
  | error e => exact blind_pure _
  | ok => cases registry.domainOf? id <;> exact blind_pure _

theorem blind_unregisterPort {transport : Transport σ} (messenger : Messenger)
    (h : transport.Opaque look f) (id : PortId) (trusted : Bool) :
    Blind (look.beside Registry) (messenger.unregisterPort transport id trusted) := by
  refine (Registry.blind_unregister h messenger.translator id (.ofTrusted trusted)).bind
    fun answer => ?_
  cases answer <;> exact blind_pure _

end Messenger

end PortMessaging
