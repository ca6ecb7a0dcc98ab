import PortMessaging.Proofs.Recordings
import PortMessaging.Proofs.SendOutcomes

/-!
# GatewayFilter — which requests a gateway lets through

A gateway looks at a list of conditions (`Gateway.sendConditions`, `RemoteAddress.conditions`).  If one
fails the request is answered with the error of the first that does, the transport is not asked, and nothing
has happened.  If none fails the transport is asked once, for just what was requested, and its answer is
told with public errors; what it left behind is all that the request left behind.

The conditions do not speak of the size of the payload nor of the domain of the reply port.  The messenger's
operations, in the canonical and in the named forms, are the requests of its gateway.
-/

namespace PortMessaging

open Scenario (Call)
open Scenario.World (Call.ofRequest)

variable {σ ω α : Type}

/-! ## Conditions and answers -/

namespace Gateway

/-- A send of a gateway, of a payload that may be missing, with or without a reply port. -/
def attempt (gateway : Gateway) (registry : Registry) (transport : Transport σ)
    (remote : RemoteAddress) (domain : TrustDomain) (payload : Option Payload) :
    Option PortId → Effect σ (Except PortError Unit)
  | none => gateway.send transport remote domain payload
  | some reply => gateway.sendWithReply registry transport remote domain payload reply

/-- What a gateway looks at in a send, from the first condition to the last. -/
def sendConditions (registry : Registry) (remote : RemoteAddress) (payload : Option Payload)
    (reply : Option PortId) : List Condition :=
  remote.conditions ++ ⟨payload.isSome, .invalidParameter .payloadMissing⟩ ::
    reply.elim [] (replyConditions registry)

end Gateway

/-- What is told of the answer to a check: that there is no such port is not a failure. -/
def Translator.found (translator : Translator) : Except TransportCode Bool → Except PortError Bool
  | .ok found => .ok found
  | .error .portNotFound => .ok false
  | .error code => .error (translator.errorOf code)

namespace Gateway

variable {gateway : Gateway} {registry : Registry} {transport : Transport σ} {remote : RemoteAddress}
  {domain : TrustDomain} {payload : Option Payload} {reply : Option PortId}

theorem attempt_some (gateway : Gateway) (registry : Registry) (transport : Transport σ)
    (remote : RemoteAddress) (domain : TrustDomain) (payload : Payload) (reply : Option PortId) :
    gateway.attempt registry transport remote domain (some payload) reply =
      gateway.request registry transport remote domain payload reply := by
  cases reply with
  | none => rfl
  | some id => rfl

theorem verdict_sendConditions_some (payload : Payload) :
    verdict (sendConditions registry remote (some payload) reply) =
      verdict (conditions registry remote reply) := by
  unfold sendConditions conditions
  rw [verdict_append, verdict_append]
  rfl

theorem verdict_sendConditions_none :
    verdict (sendConditions registry remote none reply) =
      (remote.validate).bind fun _ => .error (.invalidParameter .payloadMissing) := by
  unfold sendConditions
  rw [verdict_append, ← remote.validate_eq_verdict]
  rfl

/-- A send that fails a condition is answered with the error of the first such condition, on the spot. -/
theorem attempt_refused_ends {e : PortError}
    (h : verdict (sendConditions registry remote payload reply) = .error e) (s : σ) :
    (gateway.attempt registry transport remote domain payload reply).Ends s (.ok (.error e)) s := by
  cases payload with
  | some payload =>
    rw [verdict_sendConditions_some] at h
    rw [attempt_some]
    exact request_refused_ends h s
  | none =>
    rw [verdict_sendConditions_none] at h
    have hends : (gateway.validate remote none : Effect σ (Except PortError Payload)).Ends s
        (.ok (.error e)) s := by
      cases hremote : remote.validate with
      | error e' =>
        rw [hremote] at h
        cases h
        exact validate_refused_ends gateway hremote none s
      | ok =>
        rw [hremote] at h
        cases h
        exact validate_missing_ends gateway hremote s
    cases reply with
    | none => exact Effect.ends_bind hends ⟨rfl, rfl⟩
    | some id => exact Effect.ends_bind hends ⟨rfl, rfl⟩

/-- A send that passes them has a payload, and is what the transport makes of it, with its answer
translated. -/
theorem attempt_passed_ends (gateway : Gateway) (transport : Transport σ) (domain : TrustDomain)
    (h : verdict (sendConditions registry remote payload reply) = .ok ()) (s : σ) :
    ∃ p, payload = some p ∧
      (gateway.attempt registry transport remote domain payload reply).Ends s
        (((transport.request remote domain p reply).run s).result.map
          (·.mapError gateway.translator.errorOf))
        ((transport.request remote domain p reply).run s).state := by
  cases payload with
  | none =>
    rw [verdict_sendConditions_none] at h
    cases hremote : remote.validate with
    | error e =>
      rw [hremote] at h
      cases h
    | ok =>
      rw [hremote] at h
      cases h
  | some p =>
    rw [verdict_sendConditions_some] at h
    rw [attempt_some]
    exact ⟨p, rfl, gateway.request_passed_ends transport domain p h s⟩

/-- A check fails for the address only, and then on the spot. -/
theorem checkRemote_refused_ends (gateway : Gateway) (transport : Transport σ) (domain : TrustDomain)
    {e : PortError} (h : verdict remote.conditions = .error e) (s : σ) :
    (gateway.checkRemote transport remote domain).Ends s (.ok (.error e)) s := by
  rw [← remote.validate_eq_verdict] at h
  unfold checkRemote
  rw [h]
  exact ⟨rfl, rfl⟩

/-- A check of a complete address is what the transport makes of it, with its answer told. -/
theorem checkRemote_passed_ends (gateway : Gateway) (transport : Transport σ) (domain : TrustDomain)
    (h : verdict remote.conditions = .ok ()) (s : σ) :
    (gateway.checkRemote transport remote domain).Ends s
      (((transport.checkRemote remote domain).run s).result.map gateway.translator.found)
      ((transport.checkRemote remote domain).run s).state := by
  rw [← remote.validate_eq_verdict] at h
  unfold checkRemote
  rw [h]
  refine Effect.ends_bind (Effect.ends_log _ _ _ s) ?_
  rcases Effect.ends_cases (transport.checkRemote remote domain) s with
    ⟨fault, s', hasked⟩ | ⟨answer, s', hasked⟩
  · rw [hasked.result, hasked.state]
    exact Effect.ends_bind_error hasked
  · rw [hasked.result, hasked.state]
    refine Effect.ends_bind hasked ?_
    cases answer with
    | ok found => exact ⟨rfl, rfl⟩
    | error code =>
      cases code with
      | portNotFound => exact ⟨rfl, rfl⟩
      | _ => exact Effect.ends_bind (Effect.ends_translate gateway.translator _ s') ⟨rfl, rfl⟩

end Gateway

/-! ## Calls -/

/-- Done on the transport, the operation ends with `result` in the state `s'`; done on the recorded one it
does the same, and leaves just these calls in the record. -/
structure Transport.Serves (transport : Transport σ) (op : (τ : Type) → Transport τ → Effect τ α) (s : σ)
    (calls : List Call) (result : Except Fault α) (s' : σ) : Prop where
  ends : (op σ transport).Ends s result s'
  record : (op (List Call × σ) transport.recorded).Ends ([], s) result (calls, s')

theorem Transport.recorded_request (transport : Transport σ) (remote : RemoteAddress)
    (domain : TrustDomain) (payload : Payload) (reply : Option PortId) :
    transport.recorded.request remote domain payload reply =
      (transport.request remote domain payload reply).noted
        (Call.ofRequest remote domain payload reply) := by
  cases reply with
  | none => rfl
  | some id => rfl

theorem verdict_eq_ok_iff {conditions : List Condition} :
    verdict conditions = .ok () ↔ ∀ condition ∈ conditions, condition.holds = true := by
  induction conditions with
  | nil => simp [verdict]
  | cons condition rest ih =>
    cases hholds : condition.holds with
    | true => simpa [verdict, hholds] using ih
    | false => simp [verdict, hholds]

namespace Gateway

variable {gateway : Gateway} {registry : Registry} {transport : Transport σ} {remote : RemoteAddress}
  {domain : TrustDomain} {payload : Option Payload} {reply : Option PortId}

theorem sendConditions_pass_iff :
    verdict (sendConditions registry remote payload reply) = .ok () ↔
      remote.app ≠ "" ∧ remote.port ≠ "" ∧ payload.isSome ∧
        ∀ id, reply = some id → 0 < id.value ∧ ∃ d, (registry.lookup id d).isSome := by
  have heither : ∀ id, (∃ d, (registry.lookup id d).isSome = true) ↔
      (registry.lookup id .openToAll).isSome = true ∨ (registry.lookup id .trusted).isSome = true := by
    intro id
    constructor
    · rintro ⟨d, hd⟩
      cases d with
      | openToAll => exact .inl hd
      | trusted => exact .inr hd
    · rintro (hopen | htrusted)
      · exact ⟨_, hopen⟩
      · exact ⟨_, htrusted⟩
  rw [verdict_eq_ok_iff]
  cases reply with
  | none => simp [sendConditions, RemoteAddress.conditions]
  | some id => simp [sendConditions, RemoteAddress.conditions, replyConditions, heither]

theorem attempt_serves (gateway : Gateway) (transport : Transport σ) (domain : TrustDomain)
    (h : verdict (sendConditions registry remote payload reply) = .ok ()) (s : σ) :
    ∃ p, payload = some p ∧
      transport.Serves (fun _ t => gateway.attempt registry t remote domain payload reply) s
        [Call.ofRequest remote domain p reply]
        (((transport.request remote domain p reply).run s).result.map
          (·.mapError gateway.translator.errorOf))
        ((transport.request remote domain p reply).run s).state := by
  rcases gateway.attempt_passed_ends transport domain h s with ⟨p, hpayload, hends⟩
  rcases gateway.attempt_passed_ends transport.recorded domain h ([], s) with ⟨p', hpayload', hrecord⟩
  -- The same payload is sent on both.
  cases Option.some.inj (hpayload.symm.trans hpayload')
  rw [transport.recorded_request] at hrecord
  exact ⟨p, hpayload, hends, hrecord⟩

theorem checkRemote_serves (gateway : Gateway) (transport : Transport σ) (domain : TrustDomain)
    (h : verdict remote.conditions = .ok ()) (s : σ) :
    transport.Serves (fun _ t => gateway.checkRemote t remote domain) s [.check remote domain]
      (((transport.checkRemote remote domain).run s).result.map gateway.translator.found)
      ((transport.checkRemote remote domain).run s).state :=
  ⟨gateway.checkRemote_passed_ends transport domain h s,
    gateway.checkRemote_passed_ends transport.recorded domain h ([], s)⟩

/-! ## The filter -/

/-- How a gateway filters the requests to an address, in a state with a registry in it. -/
structure Filters (gateway : Gateway) (transport : Transport ω) (lock : Part ω Registry)
    (remote : RemoteAddress) (domain : TrustDomain) (w : ω) : Prop where
  refusedSend : ∀ payload reply e,
    verdict (sendConditions (lock.get w) remote payload reply) = .error e →
      transport.Serves (fun _ t => gateway.attempt (lock.get w) t remote domain payload reply) w []
        (.ok (.error e)) w
  passedSend : ∀ payload reply,
    verdict (sendConditions (lock.get w) remote payload reply) = .ok () → ∃ p, payload = some p ∧
      let asked := (transport.request remote domain p reply).run w
      transport.Serves (fun _ t => gateway.attempt (lock.get w) t remote domain payload reply) w
        [Call.ofRequest remote domain p reply]
        (asked.result.map (·.mapError gateway.translator.errorOf)) asked.state
  /-- The size of the payload is no condition, nor is the domain of the reply port. -/
  passes_iff : ∀ payload reply,
    verdict (sendConditions (lock.get w) remote payload reply) = .ok () ↔
      remote.app ≠ "" ∧ remote.port ≠ "" ∧ payload.isSome ∧
        ∀ id, reply = some id → 0 < id.value ∧ ∃ d, ((lock.get w).lookup id d).isSome
  refusedCheck : ∀ e, verdict remote.conditions = .error e →
    transport.Serves (fun _ t => gateway.checkRemote t remote domain) w [] (.ok (.error e)) w
  passedCheck : verdict remote.conditions = .ok () →
    let asked := (transport.checkRemote remote domain).run w
    transport.Serves (fun _ t => gateway.checkRemote t remote domain) w [.check remote domain]
      (asked.result.map gateway.translator.found) asked.state
  /-- The registry stays as it is, unless the transport itself reaches for it. -/
  registryAfterSend : ∀ payload reply,
    (∀ p, lock.get ((transport.request remote domain p reply).run w).state = lock.get w) →
      lock.get ((gateway.attempt (lock.get w) transport remote domain payload reply).run w).state =
        lock.get w
  registryAfterCheck :
    lock.get ((transport.checkRemote remote domain).run w).state = lock.get w →
      lock.get ((gateway.checkRemote transport remote domain).run w).state = lock.get w

theorem filters (gateway : Gateway) (transport : Transport ω) (lock : Part ω Registry)
    (remote : RemoteAddress) (domain : TrustDomain) (w : ω) :
    gateway.Filters transport lock remote domain w where
  refusedSend _ _ _ h := ⟨attempt_refused_ends h w, attempt_refused_ends h ([], w)⟩
  passedSend _ _ h := gateway.attempt_serves transport domain h w
  passes_iff _ _ := sendConditions_pass_iff
  refusedCheck _ h :=
    ⟨gateway.checkRemote_refused_ends transport domain h w,
      gateway.checkRemote_refused_ends transport.recorded domain h ([], w)⟩
  passedCheck h := gateway.checkRemote_serves transport domain h w
  registryAfterSend payload reply hkept := by
    cases h : verdict (sendConditions (lock.get w) remote payload reply) with
    | error e => rw [(attempt_refused_ends h w).state]
    | ok =>
      rcases gateway.attempt_passed_ends transport domain h w with ⟨p, -, hends⟩
      rw [hends.state]
      exact hkept p
  registryAfterCheck hkept := by
    cases h : verdict remote.conditions with
    | error e => rw [(gateway.checkRemote_refused_ends transport domain h w).state]
    | ok =>
      rw [(gateway.checkRemote_passed_ends transport domain h w).state]
      exact hkept

end Gateway

/-! ## Messengers -/

/-- The operations of a messenger are those of its registry and of its gateway in the domain that is
meant, and the named forms fix the flag. -/
structure Messenger.Forwards (messenger : Messenger) (transport : Transport σ) (registry : Registry) :
    Prop where
  register : ∀ name listener,
    messenger.registerLocalPort transport name listener =
      messenger.registerPort transport name false listener ∧
    messenger.registerTrustedLocalPort transport name listener =
      messenger.registerPort transport name true listener
  unregister : ∀ id,
    messenger.unregisterLocalPort transport id = messenger.unregisterPort transport id false ∧
    messenger.unregisterTrustedLocalPort transport id = messenger.unregisterPort transport id true
  check : ∀ app port,
    (∀ trusted, messenger.checkRemote transport app port trusted =
      messenger.gateway.checkRemote transport ⟨app, port⟩ (.ofTrusted trusted)) ∧
    messenger.checkRemotePort transport app port = messenger.checkRemote transport app port false ∧
    messenger.checkTrustedRemotePort transport app port =
      messenger.checkRemote transport app port true
  send : ∀ app port payload,
    (∀ trusted, messenger.send transport app port trusted payload =
      messenger.gateway.attempt registry transport ⟨app, port⟩ (.ofTrusted trusted) (some payload)
        none) ∧
    messenger.sendMessage transport app port payload =
      messenger.send transport app port false payload ∧
    messenger.sendTrustedMessage transport app port payload =
      messenger.send transport app port true payload
  sendWithReply : ∀ app port payload reply,
    (∀ trusted, messenger.sendWithReply registry transport app port trusted payload reply =
      messenger.gateway.attempt registry transport ⟨app, port⟩ (.ofTrusted trusted) (some payload)
        (some reply)) ∧
    messenger.sendMessageWithReply registry transport app port payload reply =
      messenger.sendWithReply registry transport app port false payload reply ∧
    messenger.sendTrustedMessageWithReply registry transport app port payload reply =
      messenger.sendWithReply registry transport app port true payload reply

theorem Messenger.forwards (messenger : Messenger) (transport : Transport σ) (registry : Registry) :
    messenger.Forwards transport registry where
  register _ _ := ⟨rfl, rfl⟩
  unregister _ := ⟨rfl, rfl⟩
  check _ _ := ⟨fun _ => rfl, rfl, rfl⟩
  send _ _ _ := ⟨fun _ => rfl, rfl, rfl⟩
  sendWithReply _ _ _ _ := ⟨fun _ => rfl, rfl, rfl⟩

/-- For every transport, every configuration, every registry and all arguments: a request that fails a
condition makes no call and is answered with the error of the first one that fails; one that passes makes
one call, for just what was requested, and is answered with what the transport said, told with public
errors.  The operations of a messenger are such requests, in the domain that the flag or the name says. -/
theorem requests_filtered_exactly (transport : Transport ω) (lock : Part ω Registry) (w : ω) :
    (∀ (gateway : Gateway) (remote : RemoteAddress) (domain : TrustDomain),
      gateway.Filters transport lock remote domain w) ∧
    ∀ (messenger : Messenger) (τ : Type) (t : Transport τ), messenger.Forwards t (lock.get w) :=
  ⟨fun gateway remote domain => gateway.filters transport lock remote domain w,
    fun messenger _ t => messenger.forwards t (lock.get w)⟩

end PortMessaging
