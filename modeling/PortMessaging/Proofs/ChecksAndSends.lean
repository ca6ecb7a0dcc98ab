import PortMessaging.Proofs.GatewayFilter

/-!
# ChecksAndSends — what a check tells about a send

A check of an address and a message to it resolve the address alike (`Service.resolve`).  A check then only
tells whether the port is there; a message looks at its size before, and for a sink that is alive after.
So of a payload that is not too large there are five ways in which both can end (`Service.Answered`), and
they differ in one of them only: the port is there and nobody attends to its application.

What comes after the service keeps the five apart: the endpoint hands the answers on, and the gateway of a
messenger tells them with public errors.
-/

namespace PortMessaging

variable {S : Type}

/-! ## The service -/

namespace Loopback.Service

variable {service : Service S} {alive : S → Bool} {sender : String} {remote : RemoteAddress}
  {domain : TrustDomain} {payload : Payload}

/-- An application that has connected may send to a port that is bound, to a trusted one with the same
certificate only. -/
def Admits (service : Service S) (sender : String) (remote : RemoteAddress) (domain : TrustDomain) :
    Prop :=
  (service.certificate? sender).isSome ∧ (service.boundId? remote.app domain remote.port).isSome ∧
    (domain = .trusted → service.certificate? sender = service.certificate? remote.app)

/-- Whether somebody attends to the deliveries of an application. -/
def Attended (service : Service S) (alive : S → Bool) (app : String) : Prop :=
  (service.sink? app).any alive = true

/-- What is answered to a check of an address, and beside it the way of a message to the address. -/
inductive Answered (service : Service S) (alive : S → Bool) (sender : String) (remote : RemoteAddress)
    (domain : TrustDomain) :
    Except TransportCode Bool → Except TransportCode (S × DeliveryEvent) → Prop where
  /-- The sender never connected. -/
  | stranger (hsender : service.certificate? sender = none) :
      Answered service alive sender remote domain (.error .io) (.error .io)
  | missing (hunbound : service.boundId? remote.app domain remote.port = none) :
      Answered service alive sender remote domain (.ok false) (.error .portNotFound)
  | mismatch
      (hdiffer : ¬ (domain = .trusted →
        service.certificate? sender = service.certificate? remote.app)) :
      Answered service alive sender remote domain (.error .certificateMismatch)
        (.error .certificateMismatch)
  | unattended (hadmits : service.Admits sender remote domain)
      (hnobody : ¬ service.Attended alive remote.app) :
      Answered service alive sender remote domain (.ok true) (.error .portNotFound)
  | delivered {sink : S} {event : DeliveryEvent} (hadmits : service.Admits sender remote domain)
      (hattended : service.Attended alive remote.app) :
      Answered service alive sender remote domain (.ok true) (.ok (sink, event))

theorem answered (hfits : payload.encodedLength ≤ service.maxPayloadBytes) (alive : S → Bool)
    (sender : String) (remote : RemoteAddress) (domain : TrustDomain) (reply : Option Binding) :
    Answered service alive sender remote domain (service.checkRemote sender remote domain)
      (service.route alive sender remote domain payload reply) := by
  unfold checkRemote route
  rw [if_neg (Nat.not_lt.2 hfits)]
  cases hsender : service.certificate? sender with
  | none =>
    have hown : service.apps.get? sender = none := Option.map_eq_none_iff.1 hsender
    have hresolve : service.resolve sender remote domain = .error .io := by simp [resolve, hown]
    rw [hresolve]
    exact .stranger hsender
  | some certificate =>
    have hknown : (service.certificate? sender).isSome := by simp [hsender]
    rcases resolve_cases hknown remote domain with ⟨hunbound, hresolve⟩ |
      ⟨id, hbound, ⟨hdiffer, hresolve⟩ | ⟨hequal, target, hresolve, hsink⟩⟩
    · rw [hresolve]
      exact .missing hunbound
    · rw [hresolve]
      exact .mismatch hdiffer
    · have hadmits : service.Admits sender remote domain := ⟨hknown, by simp [hbound], hequal⟩
      have hattends : service.Attended alive remote.app ↔ (target.sink.filter alive).isSome := by
        rw [Attended, hsink, Option.isSome_filter]
      rw [hresolve]
      cases hsome : target.sink.filter alive with
      | none =>
        rw [hsome] at hattends
        simpa [hsome] using Answered.unattended hadmits (mt hattends.1 (by simp))
      | some sink =>
        rw [hsome] at hattends
        simpa [hsome] using Answered.delivered hadmits (hattends.2 rfl)

end Loopback.Service

/-! ## Agreement -/

/-- What is said of a check and of a send agrees.  They may differ over a port to which the sender is
admitted, if nobody attends to its application. -/
structure Agree {ε : Type} (mismatch missing : ε) (admitted attended : Prop) (found : Except ε Bool)
    (sent : Except ε Unit) : Prop where
  found_iff : found = .ok true ↔ admitted
  found_of_sent : sent = .ok () → found = .ok true ∧ attended
  mismatch_iff : found = .error mismatch ↔ sent = .error mismatch
  missing_of_not_found : found = .ok false → sent = .error missing
  unattended_of_unsent : found = .ok true → sent ≠ .ok () → sent = .error missing ∧ ¬ attended

/-- Only what the transport found is told to be there. -/
theorem Translator.found_eq_true_iff (translator : Translator) {answer : Except TransportCode Bool} :
    translator.found answer = .ok true ↔ answer = .ok true := by
  cases answer with
  | ok answer => simp [found]
  | error code => cases code <;> simp [found]

namespace Loopback.Service

variable {service : Service S} {alive : S → Bool} {sender : String} {remote : RemoteAddress}
  {domain : TrustDomain} {check : Except TransportCode Bool}
  {way : Except TransportCode (S × DeliveryEvent)}

namespace Answered

theorem found_iff (h : Answered service alive sender remote domain check way) :
    check = .ok true ↔ service.Admits sender remote domain := by
  constructor
  · rintro rfl
    cases h with
    | unattended hadmits hnobody => exact hadmits
    | delivered hadmits hattended => exact hadmits
  · rintro ⟨hknown, hbound, hequal⟩
    cases h with
    | stranger hsender => simp [hsender] at hknown
    | missing hunbound => simp [hunbound] at hbound
    | mismatch hdiffer => exact absurd hequal hdiffer
    | unattended => rfl
    | delivered => rfl

/-- The answers of the service agree. -/
theorem agree (h : Answered service alive sender remote domain check way) :
    Agree .certificateMismatch .portNotFound (service.Admits sender remote domain)
      (service.Attended alive remote.app) check (way.map fun _ => ()) := by
  have hfound := h.found_iff
  cases h with
  | stranger => exact ⟨hfound, nofun, ⟨nofun, nofun⟩, nofun, nofun⟩
  | missing => exact ⟨hfound, nofun, ⟨nofun, nofun⟩, fun _ => rfl, nofun⟩
  | mismatch => exact ⟨hfound, nofun, ⟨fun _ => rfl, fun _ => rfl⟩, nofun, nofun⟩
  | unattended _ hnobody => exact ⟨hfound, nofun, ⟨nofun, nofun⟩, nofun, fun _ _ => ⟨rfl, hnobody⟩⟩
  | delivered _ hattended =>
    exact ⟨hfound, fun _ => ⟨rfl, hattended⟩, ⟨nofun, nofun⟩, nofun,
      fun _ hunsent => absurd rfl hunsent⟩

/-- So do they when a gateway has told them. -/
theorem agree_told (h : Answered service alive sender remote domain check way)
    (translator : Translator) :
    Agree .certificateMismatch (.portNotFound .reportedByTransport)
      (service.Admits sender remote domain) (service.Attended alive remote.app)
      (translator.found check) ((way.map fun _ => ()).mapError translator.errorOf) := by
  have hfound := translator.found_eq_true_iff.trans h.found_iff
  cases h with
  | stranger => exact ⟨hfound, nofun, ⟨nofun, nofun⟩, nofun, nofun⟩
  | missing => exact ⟨hfound, nofun, ⟨nofun, nofun⟩, fun _ => rfl, nofun⟩
  | mismatch => exact ⟨hfound, nofun, ⟨fun _ => rfl, fun _ => rfl⟩, nofun, nofun⟩
  | unattended _ hnobody => exact ⟨hfound, nofun, ⟨nofun, nofun⟩, nofun, fun _ _ => ⟨rfl, hnobody⟩⟩
  | delivered _ hattended =>
    exact ⟨hfound, fun _ => ⟨rfl, hattended⟩, ⟨nofun, nofun⟩, nofun,
      fun _ hunsent => absurd rfl hunsent⟩

end Answered
end Loopback.Service

/-! ## Endpoints and messengers -/

namespace Gateway

variable {σ : Type} {gateway : Gateway} {transport : Transport σ} {remote : RemoteAddress}
  {domain : TrustDomain} {s s' : σ}

/-- A check of a complete address tells what the transport answered. -/
theorem checkRemote_ends (hremote : remote.validate = .ok ()) {answer : Except TransportCode Bool}
    (hcheck : (transport.checkRemote remote domain).Ends s (.ok answer) s') :
    (gateway.checkRemote transport remote domain).Ends s (.ok (gateway.translator.found answer)) s' := by
  have hpasses : verdict remote.conditions = .ok () := remote.validate_eq_verdict.symm.trans hremote
  have hends := gateway.checkRemote_passed_ends transport domain hpasses s
  rw [hcheck.result, hcheck.state] at hends
  exact hends

end Gateway

namespace Scenario.World

/-- In every state of the service, with any sender and for an address in which no part is empty, a check
changes nothing, and what it says agrees with what is said of a message to the address whose payload is not
too large.  That holds of the endpoint of the sender and of a messenger on it. -/
theorem checks_agree_with_sends (w : World) (sender : String) {app port : String} (happ : app ≠ "")
    (hport : port ≠ "") (trusted : Bool) {payload : Payload}
    (hfits : payload.encodedLength ≤ w.service.maxPayloadBytes) :
    let endpoint := host.endpoint sender
    let admitted := w.service.Admits sender ⟨app, port⟩ (.ofTrusted trusted)
    let attended := w.service.Attended w.isAlive app
    (∃ found sent w',
      (endpoint.checkRemote ⟨app, port⟩ (.ofTrusted trusted)).Ends w (.ok found) w ∧
      (endpoint.send ⟨app, port⟩ (.ofTrusted trusted) payload).Ends w (.ok sent) w' ∧
      Agree .certificateMismatch .portNotFound admitted attended found sent) ∧
    ∀ messenger : Messenger, ∃ found sent w',
      (messenger.checkRemote endpoint app port trusted).Ends w (.ok found) w ∧
      (messenger.send endpoint app port trusted payload).Ends w (.ok sent) w' ∧
      Agree .certificateMismatch (.portNotFound .reportedByTransport) admitted attended found sent := by
  intro endpoint admitted attended
  let remote : RemoteAddress := ⟨app, port⟩
  let domain := TrustDomain.ofTrusted trusted
  let check := w.service.checkRemote sender remote domain
  let way := w.route sender remote domain payload none
  have hremote : remote.validate = .ok () := remote.validate_eq_ok_iff.2 ⟨happ, hport⟩
  have hanswered : w.service.Answered w.isAlive sender remote domain check way :=
    Loopback.Service.answered hfits w.isAlive sender remote domain none
  have hcheck : (endpoint.checkRemote remote domain).Ends w (.ok check) w := ⟨rfl, rfl⟩
  have hsend : (endpoint.send remote domain payload).Ends w (.ok (way.map fun _ => ()))
      (w.afterRoute way) := transmit_ends w sender remote domain payload none
  refine ⟨⟨check, way.map fun _ => (), _, hcheck, hsend, hanswered.agree⟩, ?_⟩
  intro messenger
  exact ⟨_, _, _, Gateway.checkRemote_ends hremote hcheck, Gateway.send_ends hremote hsend,
    hanswered.agree_told messenger.gateway.translator⟩

/-- Two applications with equal certificates; the second one registers a trusted port and then gives up its
messenger. -/
def givenUp : List Move :=
  [.connect "alice" "app.a" "cert" .defaults .threaded true,
   .connect "bob" "app.b" "cert" .defaults .threaded true,
   .act none (.onMessenger "bob" (.register "inbox" true false (.fresh "listener" none [] 0))),
   .act none (.onEndpoint "bob" .dropMessenger)]

/-- Its port is still found, but messages to it are told that there is none. -/
theorem checks_agree_with_sends_in_givenUp :
    let w := (initial 64).after givenUp
    let endpoint := host.endpoint "app.a"
    ¬ w.service.Attended w.isAlive "app.b" ∧
    ∀ messenger : Messenger, ∃ w',
      (messenger.checkRemote endpoint "app.b" "inbox" true).Ends w (.ok (.ok true)) w ∧
      (messenger.send endpoint "app.b" "inbox" true .empty).Ends w
        (.ok (.error (.portNotFound .reportedByTransport))) w' := by
  intro w endpoint
  have happ : "app.b" ≠ "" := by decide
  have hport : "inbox" ≠ "" := by decide
  have hfits : Payload.empty.encodedLength ≤ w.service.maxPayloadBytes := by decide +kernel
  have hadmits : w.service.Admits "app.a" ⟨"app.b", "inbox"⟩ .trusted := ⟨rfl, rfl, fun _ => rfl⟩
  have hnobody : ¬ w.service.Attended w.isAlive "app.b" := by
    unfold Loopback.Service.Attended
    decide +kernel
  refine ⟨hnobody, ?_⟩
  intro messenger
  rcases (checks_agree_with_sends w "app.a" happ hport true hfits).2 messenger with
    ⟨found, sent, w', hcheck, hsend, hagree⟩
  have hfound : found = .ok true := hagree.found_iff.2 hadmits
  have hunsent : sent ≠ .ok () := by
    intro hsent
    exact hnobody (hagree.found_of_sent hsent).2
  rw [hfound] at hcheck
  rw [(hagree.unattended_of_unsent hfound hunsent).1] at hsend
  exact ⟨w', hcheck, hsend⟩

end Scenario.World
end PortMessaging
