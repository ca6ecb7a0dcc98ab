import PortMessaging.Proofs.SoundWorlds

/-!
# Sends — what becomes of a message to a bound name

A message of a connected application to a name that is bound can become four things only, and only one
of them is a delivery, namely to the id of the name (`Service.Reached`).  That the name is unknown is not
among them.  The way of a message decides all of a request to send, what it answers and what it leaves
behind, whether an endpoint is asked or a messenger whose handle has no script (`SendsFollow`).
-/

namespace PortMessaging

/-! ## Routes to bound names -/

namespace Loopback.Service

variable {S : Type} {service : Service S} {alive : S → Bool} {app sender port : String}
  {domain : TrustDomain} {target : PortId}

/-- What becomes of a message to a port that is bound: it is refused for its size, because the sender has
another certificate, or because nobody alive takes the deliveries; or it is delivered, to that port. -/
inductive Reached (service : Service S) (alive : S → Bool) (sender app : String)
    (domain : TrustDomain) (target : PortId) (payload : Payload) :
    Except TransportCode (S × DeliveryEvent) → Prop where
  | tooLarge (hsize : service.maxPayloadBytes < payload.encodedLength) :
      Reached service alive sender app domain target payload (.error .tooLarge)
  | mismatch (htrusted : domain = .trusted)
      (hcertificates : service.certificate? sender ≠ service.certificate? app) :
      Reached service alive sender app domain target payload (.error .certificateMismatch)
  | unattended (hnobody : ∀ sink, service.sink? app = some sink → alive sink = false) :
      Reached service alive sender app domain target payload (.error .portNotFound)
  | delivered {sink : S} {event : DeliveryEvent} (hsink : service.sink? app = some sink)
      (halive : alive sink = true) (htarget : event.target = target) :
      Reached service alive sender app domain target payload (.ok (sink, event))

theorem route_reached (hbound : service.boundId? app domain port = some target)
    (hknown : (service.certificate? sender).isSome) (alive : S → Bool) (payload : Payload)
    (reply : Option Binding) :
    Reached service alive sender app domain target payload
      (service.route alive sender ⟨app, port⟩ domain payload reply) := by
  rcases Option.bind_eq_some_iff.1 hbound with ⟨record, hrecord, hid⟩
  rcases Option.isSome_iff_exists.1 hknown with ⟨certificate, hcertificate⟩
  rcases Option.map_eq_some_iff.1 hcertificate with ⟨own, hown, -⟩
  have hsink : service.sink? app = record.sink := by simp [sink?, hrecord]
  by_cases hsize : service.maxPayloadBytes < payload.encodedLength
  · simpa [route, hsize] using Reached.tooLarge hsize
  by_cases hcertificates : domain.isTrusted ∧ record.certificate ≠ own.certificate
  · have hresolve : service.resolve sender ⟨app, port⟩ domain = .error .certificateMismatch := by
      simp [resolve, hown, hrecord, hid, hcertificates]
    have htrusted : domain = .trusted := by
      cases domain with
      | trusted => rfl
      | openToAll => simp [TrustDomain.isTrusted] at hcertificates
    have hdiffer : service.certificate? sender ≠ service.certificate? app := by
      simpa [certificate?, hown, hrecord] using Ne.symm hcertificates.2
    simpa [route, hsize, hresolve] using Reached.mismatch htrusted hdiffer
  · have hresolve : service.resolve sender ⟨app, port⟩ domain = .ok (target, record) := by
      simp only [resolve, hown, hrecord, hid, if_neg hcertificates]
    cases hattended : record.sink.filter alive with
    | none =>
      have hnobody : ∀ sink, service.sink? app = some sink → alive sink = false := by
        intro sink hfound
        simpa using Option.filter_eq_none_iff.1 hattended sink (hsink.symm.trans hfound)
      simpa [route, hsize, hresolve, hattended] using Reached.unattended hnobody
    | some sink =>
      rcases Option.filter_eq_some_iff.1 hattended with ⟨hfound, halive⟩
      simpa [route, hsize, hresolve, hattended] using Reached.delivered (hsink.trans hfound) halive
        (target_deliveryOf target sender reply payload)

end Loopback.Service

/-! ## Requests at a desk -/

namespace Scenario.World.DeskAt

variable {w : World} {name : String} {handle : Handle} {n : Nat} {place : Place} {desk : Desk}
  {remote : RemoteAddress}

/-- A send to a complete address goes the way of the message, and tells with public errors what became
of it. -/
theorem send_ends (h : DeskAt w name handle n place desk) (hscript : handle.script = [])
    (hremote : remote.validate = .ok ()) (trusted named : Bool) (payload : Payload) :
    let domain := TrustDomain.ofTrusted trusted
    let way := w.route handle.app remote domain payload none
    (desk.send remote trusted named payload).Ends w
      (.ok ((way.map fun _ => ()).mapError desk.messenger.translator.errorOf))
      ((w.addCall name (.send remote domain payload)).afterRoute way) := by
  intro domain way
  let w₁ := w.addCall name (.send remote domain payload)
  have hreal : ((host.endpoint handle.app).send remote domain payload).Ends w₁
      (.ok (way.map fun _ => ())) (w₁.afterRoute way) :=
    transmit_ends w₁ handle.app remote domain payload none
  have htap : ((tapped name handle.app).send remote domain payload).Ends w
      (.ok (way.map fun _ => ())) (w₁.afterRoute way) :=
    tap_ends (unscripted_of_get? h.holder hscript) .send _ doneBy hreal
  rw [desk.send_eq, h.transport]
  exact Gateway.send_ends hremote htap

/-- So does a send with an active reply port, if the port is bound on the service. -/
theorem sendWithReply_ends (h : DeskAt w name handle n place desk) (hscript : handle.script = [])
    (hremote : remote.validate = .ok ()) {reply : PortId} (hvalid : reply.isValid = true)
    (hactive : (place.registry.domainOf? reply).isSome) {binding : Loopback.Binding}
    (hbinding : w.service.replyBinding handle.app reply = .ok binding) (trusted named : Bool)
    (payload : Payload) :
    let domain := TrustDomain.ofTrusted trusted
    let way := w.route handle.app remote domain payload (some binding)
    (desk.sendWithReply remote trusted named payload reply).Ends w
      (.ok ((way.map fun _ => ()).mapError desk.messenger.translator.errorOf))
      ((w.addCall name (.sendWithReply reply remote domain payload)).afterRoute way) := by
  intro domain way
  let w₁ := w.addCall name (.sendWithReply reply remote domain payload)
  have hbinding₁ : w₁.service.replyBinding handle.app reply = .ok binding := hbinding
  have hreal : ((host.endpoint handle.app).sendWithReply reply remote domain payload).Ends w₁
      (.ok (way.map fun _ => ())) (w₁.afterRoute way) :=
    endpoint_sendWithReply_ends hbinding₁ remote domain payload
  have hregistry : (registryPart desk.site).get w = place.registry := h.registryPart_get
  have htap : ((tapped name handle.app).sendWithReply reply remote domain payload).Ends w
      (.ok (way.map fun _ => ())) (w₁.afterRoute way) :=
    tap_ends (unscripted_of_get? h.holder hscript) .sendWithReply _ doneBy hreal
  have hrun := desk.run_sendWithReply remote trusted named payload reply w
  rw [hregistry, h.transport] at hrun
  -- The messenger reads its registry first; the rest is the gateway's request.
  refine ⟨?_, ?_⟩
  · rw [hrun]
    exact (Gateway.sendWithReply_ends hremote hvalid hactive htap).result
  · rw [hrun]
    exact (Gateway.sendWithReply_ends hremote hvalid hactive htap).state

end Scenario.World.DeskAt

/-! ## All who can send -/

namespace Scenario.World

/-- Whoever sends to an address: what is answered and what is left behind is told by the way of the
message.  A reply port has to be one that the sender can give. -/
structure SendsFollow (w : World) (remote : RemoteAddress) (trusted : Bool) : Prop where
  send : ∀ sender payload,
    let way := w.route sender remote (.ofTrusted trusted) payload none
    ((host.endpoint sender).send remote (.ofTrusted trusted) payload).Ends w
      (.ok (way.map fun _ => ())) (w.afterRoute way)
  sendWithReply : ∀ sender payload reply binding,
    w.service.replyBinding sender reply = .ok binding →
    let way := w.route sender remote (.ofTrusted trusted) payload (some binding)
    ((host.endpoint sender).sendWithReply reply remote (.ofTrusted trusted) payload).Ends w
      (.ok (way.map fun _ => ())) (w.afterRoute way)
  messengerSend : ∀ name handle desk, w.handles.get? name = some handle → handle.script = [] →
    w.deskOf? name handle = some desk → ∀ named payload,
    let way := w.route handle.app remote (.ofTrusted trusted) payload none
    (desk.send remote trusted named payload).Ends w
      (.ok ((way.map fun _ => ()).mapError desk.messenger.translator.errorOf))
      ((w.addCall name (.send remote (.ofTrusted trusted) payload)).afterRoute way)
  messengerSendWithReply : ∀ name handle desk, w.handles.get? name = some handle →
    handle.script = [] → w.deskOf? name handle = some desk → ∀ named payload reply binding,
    (((registryPart desk.site).get w).domainOf? reply).isSome →
    w.service.replyBinding handle.app reply = .ok binding →
    let way := w.route handle.app remote (.ofTrusted trusted) payload (some binding)
    (desk.sendWithReply remote trusted named payload reply).Ends w
      (.ok ((way.map fun _ => ()).mapError desk.messenger.translator.errorOf))
      ((w.addCall name (.sendWithReply reply remote (.ofTrusted trusted) payload)).afterRoute way)
  /-- Who has a handle has connected. -/
  connected : ∀ name handle, w.handles.get? name = some handle →
    (w.service.certificate? handle.app).isSome

theorem Sound.sendsFollow {w : World} {minted : List Loopback.PortKey} (h : Sound minted w)
    {remote : RemoteAddress} (hremote : remote.validate = .ok ()) (trusted : Bool) :
    w.SendsFollow remote trusted where
  send sender payload := transmit_ends w sender remote (.ofTrusted trusted) payload none
  sendWithReply sender payload reply binding hbinding :=
    endpoint_sendWithReply_ends hbinding remote (.ofTrusted trusted) payload
  messengerSend name handle desk hhandle hscript hdesk named payload := by
    rcases deskAt_of_deskOf? hhandle hdesk with ⟨n, place, hat⟩
    exact hat.send_ends hscript hremote trusted named payload
  messengerSendWithReply name handle desk hhandle hscript hdesk named payload reply binding hactive
      hbinding := by
    rcases deskAt_of_deskOf? hhandle hdesk with ⟨n, place, hat⟩
    rw [hat.number, registryPart_get hat.place] at hactive
    -- Active ids are positive.
    have hr := h.registries n place hat.place
    rcases Option.isSome_iff_exists.1 hactive with ⟨d, hdomain⟩
    rcases Option.isSome_iff_exists.1 (hr.domainOf?_eq_some_iff.1 hdomain) with ⟨entry, hlookup⟩
    have hvalid : reply.isValid = true := by simpa [PortId.isValid] using hr.positive hlookup
    exact hat.sendWithReply_ends hscript hremote hvalid hactive hbinding trusted named payload
  connected := h.known

/-- Every message to an address by an application that has connected reaches a port. -/
def Reaches (w : World) (remote : RemoteAddress) (domain : TrustDomain) (target : PortId) : Prop :=
  ∀ sender payload reply, (w.service.certificate? sender).isSome →
    w.service.Reached w.isAlive sender remote.app domain target payload
      (w.route sender remote domain payload reply)

/-- No message to an address is delivered to a port. -/
def Misses (w : World) (remote : RemoteAddress) (domain : TrustDomain) (target : PortId) : Prop :=
  ∀ sender payload reply sink event, w.route sender remote domain payload reply = .ok (sink, event) →
    event.target ≠ target

end Scenario.World
end PortMessaging
