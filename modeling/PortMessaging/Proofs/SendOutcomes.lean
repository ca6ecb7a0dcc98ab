import PortMessaging.Proofs.Attachments
import PortMessaging.Proofs.Sends

/-!
# SendOutcomes — what decides a send over a loopback service

A send is decided by conditions that are looked at one after the other (`verdict`): first by those of the
gateway of the sender, which are about the address and the reply port, then by those of the service,
which are about the reply port again, the size, the addressed name, the certificates and the sink.  The
first one that fails is what the sender is told of.  If none fails the sink takes one delivery, and that
is all that happens.
-/

namespace PortMessaging

variable {σ : Type}

/-! ## Conditions -/

/-- A condition of a request, and the error that is answered if it is the first one to fail. -/
structure Condition where
  holds : Bool
  error : PortError

/-- What is answered to a request with conditions that are looked at in this order. -/
def verdict : List Condition → Except PortError Unit
  | [] => .ok ()
  | condition :: rest => if condition.holds then verdict rest else .error condition.error

theorem verdict_append (conditions more : List Condition) :
    verdict (conditions ++ more) = (verdict conditions).bind fun _ => verdict more := by
  induction conditions with
  | nil => rfl
  | cons condition rest ih =>
    cases hholds : condition.holds with
    | true => simpa [verdict, hholds] using ih
    | false => simp [verdict, hholds, Except.bind]

/-! ## The gateway -/

/-- What is looked at in an address. -/
def RemoteAddress.conditions (remote : RemoteAddress) : List Condition :=
  [⟨remote.app ≠ "", .invalidParameter .remoteAppEmpty⟩,
   ⟨remote.port ≠ "", .invalidParameter .remotePortEmpty⟩]

theorem RemoteAddress.validate_eq_verdict (remote : RemoteAddress) :
    remote.validate = verdict remote.conditions := by
  unfold validate conditions
  by_cases happ : remote.app = ""
  · simp [verdict, happ]
  · by_cases hport : remote.port = ""
    · simp [verdict, happ, hport]
    · simp [verdict, happ, hport]

/-- A send of a transport, with or without a reply port. -/
def Transport.request (transport : Transport σ) (remote : RemoteAddress) (domain : TrustDomain)
    (payload : Payload) : Option PortId → Effect σ (Except TransportCode Unit)
  | none => transport.send remote domain payload
  | some reply => transport.sendWithReply reply remote domain payload

namespace Gateway

/-- A send of a gateway, with or without a reply port. -/
def request (gateway : Gateway) (registry : Registry) (transport : Transport σ)
    (remote : RemoteAddress) (domain : TrustDomain) (payload : Payload) :
    Option PortId → Effect σ (Except PortError Unit)
  | none => gateway.send transport remote domain (some payload)
  | some reply => gateway.sendWithReply registry transport remote domain (some payload) reply

/-- What is looked at in a reply port: its id, and whether it is active in either domain. -/
def replyConditions (registry : Registry) (reply : PortId) : List Condition :=
  [⟨0 < reply.value, .invalidParameter (.replyIdNotPositive reply)⟩,
   ⟨(registry.lookup reply .openToAll).isSome ∨ (registry.lookup reply .trusted).isSome,
     .portNotFound (.inEither reply)⟩]

/-- What a gateway looks at before it asks its transport. -/
def conditions (registry : Registry) (remote : RemoteAddress) (reply : Option PortId) :
    List Condition :=
  remote.conditions ++ reply.elim [] (replyConditions registry)

variable {gateway : Gateway} {registry : Registry} {transport : Transport σ} {remote : RemoteAddress}
  {domain : TrustDomain} {payload : Payload} {reply : Option PortId}

/-- The check of a reply port ends as its conditions say. -/
theorem validateReply_ends_verdict (registry : Registry) (domain : TrustDomain) (reply : PortId)
    (s : σ) :
    (validateReply registry domain reply : Effect σ (Except PortError Unit)).Ends s
      (.ok (verdict (replyConditions registry reply))) s := by
  have hdomain : (registry.domainOf? reply).isSome =
      decide ((registry.lookup reply .openToAll).isSome ∨ (registry.lookup reply .trusted).isSome) := by
    simp [Registry.domainOf?, Registry.lookupEither, Option.isSome_or]
  refine ⟨?_, silent_validateReply domain registry reply s⟩
  unfold replyConditions
  rw [← hdomain]
  by_cases hvalid : 0 < reply.value
  · cases hactive : registry.domainOf? reply with
    | none =>
      simp only [validateReply, PortId.isValid, hvalid, hactive, verdict]
      rfl
    | some d =>
      have hactive' : (registry.domainOf? reply).isSome := by simp [hactive]
      have hpositive : reply.isValid = true := by simpa [PortId.isValid] using hvalid
      have hends : (validateReply registry domain reply : Effect σ (Except PortError Unit)).Ends s
          (.ok (.ok ())) s := validateReply_ends hpositive hactive' s
      rw [hends.result]
      simp [verdict, hvalid]
  · simp only [validateReply, PortId.isValid, hvalid, verdict]
    rfl

/-- What fails the conditions of the gateway is answered there, and the transport is not asked. -/
theorem request_refused_ends {e : PortError} (h : verdict (conditions registry remote reply) = .error e)
    (s : σ) :
    (gateway.request registry transport remote domain payload reply).Ends s (.ok (.error e)) s := by
  unfold conditions at h
  rw [verdict_append, ← remote.validate_eq_verdict] at h
  cases hremote : remote.validate with
  | error e' =>
    rw [hremote] at h
    cases h
    have hends := validate_refused_ends gateway hremote (some payload) s
    cases reply with
    | none => exact Effect.ends_bind hends ⟨rfl, rfl⟩
    | some id => exact Effect.ends_bind hends ⟨rfl, rfl⟩
  | ok =>
    rw [hremote] at h
    cases reply with
    | none => cases h
    | some id =>
      have hreply : verdict (replyConditions registry id) = .error e := h
      refine Effect.ends_bind (validate_ends hremote payload s) ?_
      have hends := validateReply_ends_verdict registry domain id s
      rw [hreply] at hends
      exact Effect.ends_bind hends ⟨rfl, rfl⟩

/-- What passes them is what the transport makes of it, with its answer translated. -/
theorem request_passed_ends (gateway : Gateway) (transport : Transport σ) (domain : TrustDomain)
    (payload : Payload) (h : verdict (conditions registry remote reply) = .ok ()) (s : σ) :
    (gateway.request registry transport remote domain payload reply).Ends s
      (((transport.request remote domain payload reply).run s).result.map
        (·.mapError gateway.translator.errorOf))
      ((transport.request remote domain payload reply).run s).state := by
  unfold conditions at h
  rw [verdict_append, ← remote.validate_eq_verdict] at h
  cases hremote : remote.validate with
  | error e =>
    rw [hremote] at h
    cases h
  | ok =>
    rw [hremote] at h
    cases reply with
    | none =>
      exact Effect.ends_bind (validate_ends hremote payload s)
        (Effect.ends_bind (Effect.ends_log _ _ _ s) (Effect.ends_answered _ _ s))
    | some id =>
      have hreply : verdict (replyConditions registry id) = .ok () := h
      have hends := validateReply_ends_verdict registry domain id s
      rw [hreply] at hends
      exact Effect.ends_bind (validate_ends hremote payload s) (Effect.ends_bind hends
        (Effect.ends_bind (Effect.ends_log _ _ _ s) (Effect.ends_answered _ _ s)))

theorem request_accepted_ends (gateway : Gateway)
    (h : verdict (conditions registry remote reply) = .ok ()) {s s' : σ}
    {answer : Except TransportCode Unit}
    (hrequest : (transport.request remote domain payload reply).Ends s (.ok answer) s') :
    (gateway.request registry transport remote domain payload reply).Ends s
      (.ok (answer.mapError gateway.translator.errorOf)) s' := by
  have hpassed := gateway.request_passed_ends transport domain payload h s
  rw [hrequest.result, hrequest.state] at hpassed
  exact hpassed

end Gateway

/-! ## The service -/

namespace Loopback.Service

variable {S : Type} {service : Service S} {alive : S → Bool} {sender : String}
  {remote : RemoteAddress} {domain : TrustDomain} {payload : Payload}

/-- What a service looks at before it hands a message over.  An application that never connected has no
names bound. -/
def routeConditions (service : Service S) (alive : S → Bool) (sender : String)
    (remote : RemoteAddress) (domain : TrustDomain) (payload : Payload) : List Condition :=
  [⟨payload.encodedLength ≤ service.maxPayloadBytes, .tooLarge⟩,
   ⟨(service.boundId? remote.app domain remote.port).isSome, .portNotFound .reportedByTransport⟩,
   ⟨domain = .trusted → service.certificate? sender = service.certificate? remote.app,
     .certificateMismatch⟩,
   ⟨(service.sink? remote.app).any alive, .portNotFound .reportedByTransport⟩]

/-- What a service looks at in a request: first whether the sender still has its reply port bound. -/
def conditions (service : Service S) (alive : S → Bool) (sender : String) (remote : RemoteAddress)
    (domain : TrustDomain) (payload : Payload) (reply : Option PortId) : List Condition :=
  (reply.elim [] fun id => [⟨service.binds sender id, .portNotFound .reportedByTransport⟩]) ++
    service.routeConditions alive sender remote domain payload

/-- How an address resolves for an application that has connected, by what can be seen of the service. -/
theorem resolve_cases (hknown : (service.certificate? sender).isSome) (remote : RemoteAddress)
    (domain : TrustDomain) :
    (service.boundId? remote.app domain remote.port = none ∧
      service.resolve sender remote domain = .error .portNotFound) ∨
    ∃ id, service.boundId? remote.app domain remote.port = some id ∧
      ((¬ (domain = .trusted → service.certificate? sender = service.certificate? remote.app) ∧
        service.resolve sender remote domain = .error .certificateMismatch) ∨
      ((domain = .trusted → service.certificate? sender = service.certificate? remote.app) ∧
        ∃ target, service.resolve sender remote domain = .ok (id, target) ∧
          service.sink? remote.app = target.sink)) := by
  rcases Option.isSome_iff_exists.1 hknown with ⟨certificate, hcertificate⟩
  rcases Option.map_eq_some_iff.1 hcertificate with ⟨own, hown, -⟩
  cases htarget : service.apps.get? remote.app with
  | none => exact .inl ⟨by simp [boundId?, htarget], by simp [resolve, hown, htarget]⟩
  | some target =>
    cases hid : target.idOf? domain remote.port with
    | none => exact .inl ⟨by simp [boundId?, htarget, hid], by simp [resolve, hown, htarget, hid]⟩
    | some id =>
      refine .inr ⟨id, by simp [boundId?, htarget, hid], ?_⟩
      -- The service asks for equality the other way round, and of trusted requests only.
      have hequal : (domain = .trusted → service.certificate? sender = service.certificate? remote.app) ↔
          ¬ (domain.isTrusted ∧ target.certificate ≠ own.certificate) := by
        cases domain with
        | trusted => simp [certificate?, hown, htarget, TrustDomain.isTrusted, eq_comm]
        | openToAll => simp [TrustDomain.isTrusted]
      by_cases hcertificates : domain.isTrusted ∧ target.certificate ≠ own.certificate
      · exact .inl ⟨by simp [hequal, hcertificates], by simp [resolve, hown, htarget, hid, hcertificates]⟩
      · refine .inr ⟨hequal.2 hcertificates, target, ?_, by simp [sink?, htarget]⟩
        simp only [resolve, hown, htarget, hid, if_neg hcertificates]

/-- The conditions of a route decide it. -/
theorem route_decided (hknown : (service.certificate? sender).isSome) (alive : S → Bool)
    (remote : RemoteAddress) (domain : TrustDomain) (payload : Payload) (binding : Option Binding)
    (translator : Translator) :
    (∃ sink event, verdict (service.routeConditions alive sender remote domain payload) = .ok () ∧
      service.route alive sender remote domain payload binding = .ok (sink, event)) ∨
    ∃ code, verdict (service.routeConditions alive sender remote domain payload) =
        .error (translator.errorOf code) ∧
      service.route alive sender remote domain payload binding = .error code := by
  unfold routeConditions route
  by_cases hsize : service.maxPayloadBytes < payload.encodedLength
  · exact .inr ⟨.tooLarge, by simp [verdict, Nat.not_le.2 hsize, Translator.errorOf], by simp [hsize]⟩
  · have hfits := Nat.not_lt.1 hsize
    rcases resolve_cases hknown remote domain with ⟨hbound, hresolve⟩ |
      ⟨id, hbound, ⟨hcertificates, hresolve⟩ | ⟨hcertificates, target, hresolve, hsink⟩⟩
    · exact .inr ⟨.portNotFound, by simp [verdict, hfits, hbound, Translator.errorOf],
        by simp [hsize, hresolve]⟩
    · exact .inr ⟨.certificateMismatch,
        by simp [verdict, hfits, hbound, hcertificates, Translator.errorOf], by simp [hsize, hresolve]⟩
    · have hallowed := decide_eq_true hcertificates
      have hany : target.sink.any alive = (target.sink.filter alive).isSome := Option.isSome_filter.symm
      cases hattended : target.sink.filter alive with
      | none =>
        rw [hattended] at hany
        exact .inr ⟨.portNotFound,
          by simp [verdict, hfits, hbound, hallowed, hsink, hany, Translator.errorOf],
          by simp [hsize, hresolve, hattended]⟩
      | some sink =>
        rw [hattended] at hany
        exact .inl ⟨sink, deliveryOf id sender binding payload,
          by simp [verdict, hfits, hbound, hallowed, hsink, hany],
          by simp [hsize, hresolve, hattended]⟩

/-- Whether an application that has connected can give a reply port is told by its bindings. -/
theorem replyBinding_cases (hknown : (service.certificate? sender).isSome) (id : PortId) :
    (service.binds sender id = true ∧ ∃ binding, service.replyBinding sender id = .ok binding) ∨
    (service.binds sender id = false ∧ service.replyBinding sender id = .error .portNotFound) := by
  rcases Option.isSome_iff_exists.1 hknown with ⟨certificate, hcertificate⟩
  rcases Option.map_eq_some_iff.1 hcertificate with ⟨record, hrecord, -⟩
  have hbinds : service.binds sender id = (record.bindingOf? id).isSome := by
    unfold binds AppRecord.bindingOf?
    rw [hrecord, Option.any_some, Bool.eq_iff_iff, List.find?_isSome, List.any_eq_true]
  rw [hbinds]
  unfold replyBinding
  simp only [hrecord]
  cases record.bindingOf? id with
  | none => exact .inr ⟨rfl, rfl⟩
  | some binding => exact .inl ⟨rfl, binding, rfl⟩

/-- What is delivered carries the payload, and a sink that is alive takes it. -/
theorem carried_of_route {binding : Option Binding} {sink : S} {event : DeliveryEvent}
    (h : service.route alive sender remote domain payload binding = .ok (sink, event)) :
    event.payload = payload ∧ alive sink = true := by
  rcases of_route h with ⟨id, target, -, hsink, rfl⟩
  refine ⟨?_, (Option.filter_eq_some_iff.1 hsink).2⟩
  cases binding with
  | none => rfl
  | some binding => rfl

end Loopback.Service

/-! ## Endpoints -/

namespace Scenario.World

open Loopback (Service Binding)

variable {w : World} {app : String}

/-- A request of an endpoint that passes the condition on its reply port goes the way of its message. -/
theorem endpoint_way_ends (hknown : (w.service.certificate? app).isSome) (translator : Translator)
    (remote : RemoteAddress) (domain : TrustDomain) (payload : Payload) {reply : Option PortId}
    {binding : Option Binding} (hreply : w.service.Replies app reply binding)
    {x : Effect World (Except TransportCode Unit)}
    (hx : let way := w.route app remote domain payload binding
      x.Ends w (.ok (way.map fun _ => ())) (w.afterRoute way)) :
    let decided := verdict (w.service.routeConditions w.isAlive app remote domain payload)
    (∃ code, decided = .error (translator.errorOf code) ∧ x.Ends w (.ok (.error code)) w) ∨
    ∃ sink event, decided = .ok () ∧ w.service.Routes app remote domain reply sink event ∧
      event.payload = payload ∧ w.isAlive sink = true ∧
      x.Ends w (.ok (.ok ())) ((deliver sink event).run w).state := by
  intro decided
  rcases w.service.route_decided hknown w.isAlive remote domain payload binding translator with
    ⟨sink, event, hdecided, hroute⟩ | ⟨code, hdecided, hroute⟩
  · have hway : w.route app remote domain payload binding = .ok (sink, event) := hroute
    rcases Service.carried_of_route hroute with ⟨hpayload, halive⟩
    rw [hway] at hx
    exact .inr ⟨sink, event, hdecided, Service.routes_of_route hreply hroute, hpayload, halive, hx⟩
  · have hway : w.route app remote domain payload binding = .error code := hroute
    rw [hway] at hx
    exact .inl ⟨code, hdecided, hx⟩

/-- A request of an endpoint whose application has connected ends as the conditions of the service have
it: with a code and nothing done, or with one delivery. -/
theorem endpoint_request_ends (hknown : (w.service.certificate? app).isSome) (translator : Translator)
    (remote : RemoteAddress) (domain : TrustDomain) (payload : Payload) (reply : Option PortId) :
    let decided := verdict (w.service.conditions w.isAlive app remote domain payload reply)
    let request := (host.endpoint app).request remote domain payload reply
    (∃ code, decided = .error (translator.errorOf code) ∧ request.Ends w (.ok (.error code)) w) ∨
    ∃ sink event, decided = .ok () ∧ w.service.Routes app remote domain reply sink event ∧
      event.payload = payload ∧ w.isAlive sink = true ∧
      request.Ends w (.ok (.ok ())) ((deliver sink event).run w).state := by
  intro decided request
  cases reply with
  | none =>
    exact endpoint_way_ends hknown translator remote domain payload .nowhere
      (transmit_ends w app remote domain payload none)
  | some id =>
    rcases w.service.replyBinding_cases hknown id with
      ⟨hbinds, binding, hbinding⟩ | ⟨hbinds, hmissing⟩
    · have hdecided : decided =
          verdict (w.service.routeConditions w.isAlive app remote domain payload) := by
        show verdict ([⟨w.service.binds app id, _⟩] ++ _) = _
        rw [hbinds]
        rfl
      rw [hdecided]
      exact endpoint_way_ends hknown translator remote domain payload (.port hbinding)
        (endpoint_sendWithReply_ends hbinding remote domain payload)
    · have hdecided : decided = .error (translator.errorOf .portNotFound) := by
        show verdict ([⟨w.service.binds app id, _⟩] ++ _) = _
        rw [hbinds]
        rfl
      have hask : (host.ask (·.replyBinding app id)).Ends w (.ok (.error .portNotFound)) w := by
        refine ⟨?_, rfl⟩
        show Except.ok (w.service.replyBinding app id) = _
        rw [hmissing]
      exact .inl ⟨.portNotFound, hdecided, Effect.ends_bind hask ⟨rfl, rfl⟩⟩

/-! ## Messengers -/

/-- The call that a request to send makes through a tap. -/
def Call.ofRequest (remote : RemoteAddress) (domain : TrustDomain) (payload : Payload) :
    Option PortId → Call
  | none => .send remote domain payload
  | some reply => .sendWithReply reply remote domain payload

/-- A send of a messenger, with or without a reply port. -/
def Desk.request (desk : Desk) (remote : RemoteAddress) (trusted named : Bool) (payload : Payload) :
    Option PortId → Effect World (Except PortError Unit)
  | none => desk.send remote trusted named payload
  | some reply => desk.sendWithReply remote trusted named payload reply

theorem Desk.run_request (desk : Desk) (remote : RemoteAddress) (trusted named : Bool)
    (payload : Payload) (reply : Option PortId) (w : World) :
    (desk.request remote trusted named payload reply).run w =
      (desk.messenger.gateway.request ((registryPart desk.site).get w) desk.transport remote
        (.ofTrusted trusted) payload reply).run w := by
  cases reply with
  | none =>
    show (desk.send remote trusted named payload).run w = _
    rw [desk.send_eq]
    rfl
  | some id => exact desk.run_sendWithReply remote trusted named payload id w

/-- Without a script a request through a tap is noted, and then it is the request of the endpoint. -/
theorem tapped_request_ends {name : String} (h : w.Unscripted name) {remote : RemoteAddress}
    {domain : TrustDomain} {payload : Payload} {reply : Option PortId}
    {result : Except Fault (Except TransportCode Unit)} {w' : World}
    (hreal : ((host.endpoint app).request remote domain payload reply).Ends
      (w.addCall name (Call.ofRequest remote domain payload reply)) result w') :
    ((tapped name app).request remote domain payload reply).Ends w result w' := by
  cases reply with
  | none => exact tap_ends h .send _ doneBy hreal
  | some id => exact tap_ends h .sendWithReply _ doneBy hreal

/-- What becomes of a send of a handle's messenger: the answer, and the world then. -/
structure SendDecided (w : World) (name : String) (handle : Handle) (desk : Desk)
    (remote : RemoteAddress) (domain : TrustDomain) (payload : Payload) (reply : Option PortId)
    (answer : Except PortError Unit) (w' : World) : Prop where
  /-- The first condition that fails is told; those of the gateway come first. -/
  told : answer = verdict (Gateway.conditions ((registryPart desk.site).get w) remote reply ++
    w.service.conditions w.isAlive handle.app remote domain payload reply)
  /-- If a condition of the gateway fails nothing happens at all. -/
  unasked : verdict (Gateway.conditions ((registryPart desk.site).get w) remote reply) ≠ .ok () →
    w' = w
  /-- If only a condition of the service fails the call has been noted, and nothing else. -/
  refused : verdict (Gateway.conditions ((registryPart desk.site).get w) remote reply) = .ok () →
    answer ≠ .ok () → w' = w.addCall name (Call.ofRequest remote domain payload reply)
  /-- If none fails the sink has taken one delivery besides: for the id that the address is bound to, from
  the sender, with the payload and with the name and the domain of the reply port. -/
  delivered : answer = .ok () → ∃ sink event,
    w.service.Routes handle.app remote domain reply sink event ∧ event.payload = payload ∧
    w.isAlive sink = true ∧
    w' = ((deliver sink event).run
      (w.addCall name (Call.ofRequest remote domain payload reply))).state

/-- A send of a messenger whose application has connected and whose handle has no script is decided by its
conditions. -/
theorem DeskAt.request_decided {name : String} {handle : Handle} {n : Nat} {place : Place} {desk : Desk}
    (h : DeskAt w name handle n place desk) (hscript : handle.script = [])
    (hknown : (w.service.certificate? handle.app).isSome) (remote : RemoteAddress)
    (trusted named : Bool) (payload : Payload) (reply : Option PortId) :
    ∃ answer w', (desk.request remote trusted named payload reply).Ends w (.ok answer) w' ∧
      SendDecided w name handle desk remote (.ofTrusted trusted) payload reply answer w' := by
  let domain := TrustDomain.ofTrusted trusted
  let gateway := desk.messenger.gateway
  let asked := w.addCall name (Call.ofRequest remote domain payload reply)
  have hdesk : ∀ {result : Except Fault (Except PortError Unit)} {w' : World},
      (gateway.request ((registryPart desk.site).get w) (tapped name handle.app) remote domain payload
        reply).Ends w result w' →
      (desk.request remote trusted named payload reply).Ends w result w' := by
    intro result w' hends
    have hrun := desk.run_request remote trusted named payload reply w
    rw [h.transport] at hrun
    exact ⟨(congrArg Outcome.result hrun).trans hends.result,
      (congrArg Outcome.state hrun).trans hends.state⟩
  cases hown : verdict (Gateway.conditions ((registryPart desk.site).get w) remote reply) with
  | error e =>
    refine ⟨.error e, w, hdesk (Gateway.request_refused_ends hown w), ?_, fun _ => rfl, ?_, nofun⟩
    · rw [verdict_append, hown]
      rfl
    · intro hok
      cases hown.symm.trans hok
  | ok =>
    -- The service is asked after the call was noted, which it does not see.
    have hasked : (asked.service.certificate? handle.app).isSome := hknown
    have hunscripted := unscripted_of_get? h.holder hscript
    rcases endpoint_request_ends hasked gateway.translator remote domain payload reply with
      ⟨code, hothers, hends⟩ | ⟨sink, event, hothers, hroutes, hpayload, halive, hends⟩
    · have htold := gateway.request_accepted_ends hown (tapped_request_ends hunscripted hends)
      refine ⟨_, _, hdesk htold, ?_, fun hne => absurd hown hne, fun _ _ => rfl, nofun⟩
      rw [verdict_append, hown]
      exact hothers.symm
    · have htold := gateway.request_accepted_ends hown (tapped_request_ends hunscripted hends)
      refine ⟨_, _, hdesk htold, ?_, fun hne => absurd hown hne, fun _ hne => absurd rfl hne,
        fun _ => ⟨sink, event, hroutes, hpayload, halive, rfl⟩⟩
      rw [verdict_append, hown]
      exact hothers.symm

/-- After any run the service has the limit that the run started with, the certificate of the last
connection of each application, and the sink that was attached for it last.  A send of a messenger whose
handle has no script, with or without a reply port, is then decided by the first of these conditions that
fails: the address names an application, then a port; the reply port has a positive id, is active in a
domain of the sender's registry, and is bound by the sender on the service; the payload is not larger than
the limit; the address is bound; for a trusted send the certificates are equal; the sink of the addressed
application is alive.  If none fails, one delivery to that sink is all that the send does. -/
theorem sends_decided_over_runs (limit : Nat) (moves : List Move) :
    let w := (initial limit).after moves
    w.service.maxPayloadBytes = limit ∧
    (∀ app, w.service.certificate? app = (certificatesOf app moves).getLast?) ∧
    (∀ app, w.service.sink? app = ((initial limit).sinksOf app moves).getLast?) ∧
    ∀ name handle desk, w.handles.get? name = some handle → handle.script = [] →
      w.deskOf? name handle = some desk → ∀ remote trusted named payload reply,
        ∃ answer w', (desk.request remote trusted named payload reply).Ends w (.ok answer) w' ∧
          SendDecided w name handle desk remote (.ofTrusted trusted) payload reply answer w' := by
  intro w
  have hknown := (acquainted_initial limit).after moves
  refine ⟨maxPayloadBytes_after _ moves, ?_, ?_, ?_⟩
  · intro app
    exact (certificate?_after _ moves app).trans Option.or_none
  · intro app
    exact ((acquainted_initial limit).sink?_after moves app).trans Option.or_none
  · intro name handle desk hhandle hscript hdesk remote trusted named payload reply
    rcases deskAt_of_deskOf? hhandle hdesk with ⟨n, place, hat⟩
    exact hat.request_decided hscript (hknown name handle hhandle) remote trusted named payload reply

/-- Two applications with a port each.  The first one gets the certificate of the second, and a bare
endpoint takes the deliveries of the second in place of its messenger. -/
def renewedCertificate : List Move :=
  [.connect "alice" "app.a" "old" .defaults .threaded true,
   .connect "bob" "app.b" "new" .defaults .threaded true,
   .act none (.onMessenger "bob" (.register "inbox" true false (.fresh "listener" none [] 0))),
   .act none (.onMessenger "alice" (.register "outbox" false false (.tagged "listener"))),
   .connectEndpoint "renewal" "app.a" "new",
   .connectEndpoint "tap" "app.b" "new",
   .act none (.onEndpoint "tap" .attachCollector)]

/-- A trusted message that is just as large as allowed goes to the bare endpoint; of a request in which
both ports are wrong the reply port is told. -/
theorem sends_decided_in_renewedCertificate :
    let w := (initial 2).after renewedCertificate
    let alice : Handle := ⟨"app.a", some 0, none, []⟩
    ∃ desk, w.handles.get? "alice" = some alice ∧ alice.script = [] ∧
      w.deskOf? "alice" alice = some desk ∧
      (∃ event, event.senderApp = "app.a" ∧ event.senderPort = some "outbox" ∧
        event.payload = .empty ∧
        (desk.request ⟨"app.b", "inbox"⟩ true false .empty (some ⟨2⟩)).Ends w (.ok (.ok ()))
          ((deliver (.collector 0) event).run
            (w.addCall "alice" (.sendWithReply ⟨2⟩ ⟨"app.b", "inbox"⟩ .trusted .empty))).state) ∧
      (desk.request ⟨"app.b", "outbox"⟩ true true .empty (some ⟨1⟩)).Ends w
        (.ok (.error (.portNotFound (.inEither ⟨1⟩)))) w := by
  intro w alice
  let desk : Desk := ⟨⟨.defaults⟩, 0, tapped "alice" "app.a"⟩
  have hhandle : w.handles.get? "alice" = some alice := rfl
  have hdesk : w.deskOf? "alice" alice = some desk := rfl
  rcases sends_decided_over_runs 2 renewedCertificate with ⟨-, -, hsinks, hsends⟩
  refine ⟨desk, hhandle, rfl, hdesk, ?_, ?_⟩
  · rcases hsends "alice" alice desk hhandle rfl hdesk ⟨"app.b", "inbox"⟩ true false .empty (some ⟨2⟩)
      with ⟨answer, w', hends, hdecided⟩
    have hanswer : answer = .ok () := hdecided.told.trans (by decide +kernel)
    rcases hdecided.delivered hanswer with ⟨sink, event, hroutes, hpayload, -, hafter⟩
    -- The sink is the one that was attached last, not the router of the messenger.
    have hsink : w.service.sink? "app.b" = some (.collector 0) :=
      (hsinks "app.b").trans (by decide +kernel)
    rw [Option.some.inj (hroutes.sink.symm.trans hsink)] at hafter
    rw [hanswer, hafter] at hends
    rcases hroutes.reply with ⟨binding, hreplies, hport, -⟩
    cases hreplies with
    | @port _ binding hbinding =>
      have houtbox : w.service.replyBinding "app.a" ⟨2⟩ = .ok ⟨.openToAll, "outbox", ⟨2⟩⟩ := rfl
      rw [houtbox] at hbinding
      cases hbinding
      exact ⟨event, hroutes.sender, hport, hpayload, hends⟩
  · rcases hsends "alice" alice desk hhandle rfl hdesk ⟨"app.b", "outbox"⟩ true true .empty (some ⟨1⟩)
      with ⟨answer, w', hends, hdecided⟩
    have hanswer : answer = .error (.portNotFound (.inEither ⟨1⟩)) :=
      hdecided.told.trans (by decide +kernel)
    have hown : verdict (Gateway.conditions ((registryPart desk.site).get w) ⟨"app.b", "outbox"⟩
        (some ⟨1⟩)) = .error (.portNotFound (.inEither ⟨1⟩)) := by
      decide +kernel
    have hunasked : w' = w := by
      refine hdecided.unasked ?_
      intro hok
      cases hown.symm.trans hok
    rw [hanswer, hunasked] at hends
    exact hends

end Scenario.World

end PortMessaging
