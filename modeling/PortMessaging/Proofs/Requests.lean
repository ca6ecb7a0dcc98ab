import PortMessaging.Proofs.Ends
import PortMessaging.Scenario.Perform

/-!
# Requests — what a messenger asks of its transport

A request that passes the checks of the gateway asks the transport once; a request that fails them
asks nothing.  What the transport did is then all that the request did.  The named forms of a request
are the same request with the flag fixed.
-/

namespace PortMessaging

variable {σ : Type}

/-! ## The gateway -/

namespace Gateway

variable (gateway : Gateway) (transport : Transport σ) (remote : RemoteAddress)
  (domain : TrustDomain)

theorem silent_validate (payload : Option Payload) :
    (gateway.validate remote payload : Effect σ (Except PortError Payload)).Silent := by
  unfold validate
  cases remote.validate with
  | error e => exact fun _ => rfl
  | ok =>
    cases payload with
    | none => exact fun _ => rfl
    | some payload =>
      by_cases hsize : gateway.recommendedPayloadBytes.toNat < payload.encodedLength
      · simp only [if_pos hsize]
        exact fun _ => rfl
      · simp only [if_neg hsize]
        exact fun _ => rfl

theorem silent_validateReply (registry : Registry) (reply : PortId) :
    (validateReply registry domain reply : Effect σ (Except PortError Unit)).Silent := by
  unfold validateReply
  split
  · exact fun _ => rfl
  · cases registry.domainOf? reply with
    | none => exact fun _ => rfl
    | some replyDomain =>
      by_cases hdomain : replyDomain ≠ domain
      · simp only [if_pos hdomain]
        exact fun _ => rfl
      · simp only [if_neg hdomain]
        exact fun _ => rfl

/-- A send does what the transport's send does, or nothing. -/
theorem state_send (payload : Option Payload) (s : σ) :
    ((gateway.send transport remote domain payload).run s).state = s ∨
      ∃ p, ((gateway.send transport remote domain payload).run s).state =
        ((transport.send remote domain p).run s).state := by
  unfold send
  -- The checks change nothing; if they let the payload through, the transport is asked.
  rcases Effect.state_silent_bind (gateway.silent_validate remote payload) _ s with
    hsame | ⟨checked, -, hstate⟩
  · exact .inl hsame
  · rw [hstate]
    cases checked with
    | error e => exact .inl rfl
    | ok p =>
      refine .inr ⟨p, ?_⟩
      exact Effect.state_bind_silent _ (Effect.silent_translated gateway.translator) s

/-- A send with a reply port does what the transport's send does, or nothing. -/
theorem state_sendWithReply (registry : Registry) (payload : Option Payload) (reply : PortId)
    (s : σ) :
    ((gateway.sendWithReply registry transport remote domain payload reply).run s).state = s ∨
      ∃ p, ((gateway.sendWithReply registry transport remote domain payload reply).run s).state =
        ((transport.sendWithReply reply remote domain p).run s).state := by
  unfold sendWithReply
  rcases Effect.state_silent_bind (gateway.silent_validate remote payload) _ s with
    hsame | ⟨checked, -, hstate⟩
  · exact .inl hsame
  · rw [hstate]
    cases checked with
    | error e => exact .inl rfl
    | ok p =>
      rcases Effect.state_silent_bind (silent_validateReply domain registry reply) _ s with
        hsame | ⟨replyChecked, -, hstate'⟩
      · exact .inl hsame
      · rw [hstate']
        cases replyChecked with
        | error e => exact .inl rfl
        | ok =>
          refine .inr ⟨p, ?_⟩
          exact Effect.state_bind_silent _ (Effect.silent_translated gateway.translator) s

section Accepted

variable {gateway transport remote domain}

/-- A payload for a complete address passes the checks. -/
theorem validate_ends (hremote : remote.validate = .ok ()) (payload : Payload) (s : σ) :
    (gateway.validate remote (some payload) : Effect σ (Except PortError Payload)).Ends s
      (.ok (.ok payload)) s := by
  refine ⟨?_, gateway.silent_validate remote (some payload) s⟩
  unfold validate
  simp only [hremote]
  by_cases hsize : gateway.recommendedPayloadBytes.toNat < payload.encodedLength
  · simp only [if_pos hsize]
    rfl
  · simp only [if_neg hsize]
    rfl

/-- What is wrong with the address is told first. -/
theorem validate_refused_ends (gateway : Gateway) {e : PortError}
    (h : remote.validate = .error e) (payload : Option Payload) (s : σ) :
    (gateway.validate remote payload : Effect σ (Except PortError Payload)).Ends s
      (.ok (.error e)) s := by
  unfold validate
  simp only [h]
  exact ⟨rfl, rfl⟩

theorem validate_missing_ends (gateway : Gateway) (hremote : remote.validate = .ok ()) (s : σ) :
    (gateway.validate remote none : Effect σ (Except PortError Payload)).Ends s
      (.ok (.error (.invalidParameter .payloadMissing))) s := by
  unfold validate
  simp only [hremote]
  exact ⟨rfl, rfl⟩

/-- A valid id of an active port passes the check of reply ports. -/
theorem validateReply_ends {registry : Registry} {reply : PortId} (hvalid : reply.isValid = true)
    (hactive : (registry.domainOf? reply).isSome) (s : σ) :
    (validateReply registry domain reply : Effect σ (Except PortError Unit)).Ends s
      (.ok (.ok ())) s := by
  refine ⟨?_, silent_validateReply domain registry reply s⟩
  rcases Option.isSome_iff_exists.1 hactive with ⟨replyDomain, hreplyDomain⟩
  simp only [validateReply, hvalid, hreplyDomain]
  -- That the domains differ is only noted.
  by_cases hdomain : replyDomain ≠ domain
  · simp only [if_pos hdomain]
    rfl
  · simp only [if_neg hdomain]
    rfl

/-- What is wrong with the address or with the payload of a request, if anything is. -/
def fault? (remote : RemoteAddress) (payload : Option Payload) : Option PortError :=
  match remote.validate with
  | .error e => some e
  | .ok () => if payload.isNone then some (.invalidParameter .payloadMissing) else none

/-- A send with a reply port that is not registered never reaches the transport: it fails for its address
or its payload, if there is something wrong with them, and otherwise because there is no such port. -/
theorem sendWithReply_missing_ends (gateway : Gateway) (transport : Transport σ)
    (remote : RemoteAddress) (domain : TrustDomain) (payload : Option Payload) {registry : Registry}
    {reply : PortId} (hvalid : reply.isValid = true) (hmissing : registry.domainOf? reply = none)
    (s : σ) :
    (gateway.sendWithReply registry transport remote domain payload reply).Ends s
      (.ok (.error ((fault? remote payload).getD (.portNotFound (.inEither reply))))) s := by
  cases hremote : remote.validate with
  | error e =>
    simp only [fault?, hremote]
    exact Effect.ends_bind (validate_refused_ends gateway hremote payload s) ⟨rfl, rfl⟩
  | ok =>
    cases payload with
    | none =>
      simp only [fault?, hremote]
      exact Effect.ends_bind (validate_missing_ends gateway hremote s) ⟨rfl, rfl⟩
    | some payload =>
      have hends : (validateReply registry domain reply : Effect σ (Except PortError Unit)).Ends s
          (.ok (.error (.portNotFound (.inEither reply)))) s := by
        simp only [validateReply, hvalid, hmissing]
        exact ⟨rfl, rfl⟩
      simp only [fault?, hremote]
      refine Effect.ends_bind (validate_ends hremote payload s) ?_
      exact Effect.ends_bind hends ⟨rfl, rfl⟩

/-- A send that passes the checks tells the translated answer of the transport. -/
theorem send_ends (hremote : remote.validate = .ok ()) {payload : Payload} {s s' : σ}
    {answer : Except TransportCode Unit}
    (hsend : (transport.send remote domain payload).Ends s (.ok answer) s') :
    (gateway.send transport remote domain (some payload)).Ends s
      (.ok (answer.mapError gateway.translator.errorOf)) s' := by
  refine Effect.ends_bind (validate_ends hremote payload s) ?_
  refine Effect.ends_bind (Effect.ends_log _ _ _ s) ?_
  exact Effect.ends_bind hsend (Effect.ends_translated gateway.translator answer s')

/-- So does a send with a reply port. -/
theorem sendWithReply_ends (hremote : remote.validate = .ok ()) {payload : Payload}
    {registry : Registry} {reply : PortId} (hvalid : reply.isValid = true)
    (hactive : (registry.domainOf? reply).isSome) {s s' : σ} {answer : Except TransportCode Unit}
    (hsend : (transport.sendWithReply reply remote domain payload).Ends s (.ok answer) s') :
    (gateway.sendWithReply registry transport remote domain (some payload) reply).Ends s
      (.ok (answer.mapError gateway.translator.errorOf)) s' := by
  refine Effect.ends_bind (validate_ends hremote payload s) ?_
  refine Effect.ends_bind (validateReply_ends hvalid hactive s) ?_
  refine Effect.ends_bind (Effect.ends_log _ _ _ s) ?_
  exact Effect.ends_bind hsend (Effect.ends_translated gateway.translator answer s')

end Accepted

/-- A check does what the transport's check does, or nothing. -/
theorem state_checkRemote (s : σ) :
    ((gateway.checkRemote transport remote domain).run s).state = s ∨
      ((gateway.checkRemote transport remote domain).run s).state =
        ((transport.checkRemote remote domain).run s).state := by
  unfold checkRemote
  cases remote.validate with
  | error e => exact .inl rfl
  | ok =>
    refine .inr ((Effect.state_log_bind _ _ _ _ s).trans ?_)
    refine Effect.state_bind_silent _ (fun answer => ?_) s
    -- That there is no such port is an answer, not an error.
    cases answer with
    | ok found => exact Effect.silent_pure _
    | error code =>
      cases code with
      | portNotFound => exact Effect.silent_pure _
      | _ => exact Effect.silent_bind (Effect.silent_translate _ _) fun _ => Effect.silent_pure _

end Gateway

/-! ## Named forms -/

namespace Scenario.World.Desk

variable (desk : Desk)

theorem register_eq (name : String) (trusted named : Bool) (listener : Listener) :
    desk.register name trusted named listener =
      Registry.register desk.messenger.translator desk.transport name (.ofTrusted trusted)
        (some listener) := by
  cases named <;> cases trusted <;> rfl

theorem state_unregister (id : PortId) (trusted named : Bool) (w : World) :
    ((desk.onRegistry (desk.unregister id trusted named)).run w).state =
      ((desk.onRegistry (Registry.unregister desk.messenger.translator desk.transport id
        (.ofTrusted trusted))).run w).state := by
  let start := ((registryPart desk.site).get w, w)
  have hforms : desk.unregister id trusted named =
      desk.messenger.unregisterPort desk.transport id trusted := by
    cases named <;> cases trusted <;> rfl
  -- What the messenger adds to the answer comes after the registry is done.
  have hstate : ((desk.messenger.unregisterPort desk.transport id trusted).run start).state =
      ((Registry.unregister desk.messenger.translator desk.transport id (.ofTrusted trusted)).run
        start).state := by
    refine Effect.state_bind_silent _ (fun answer => ?_) start
    cases answer with
    | error e => exact Effect.silent_pure _
    | ok entry => exact Effect.silent_pure _
  rw [hforms]
  show (registryPart desk.site).set _ _ = (registryPart desk.site).set _ _
  rw [hstate]

theorem check_eq (remote : RemoteAddress) (trusted named : Bool) :
    desk.check remote trusted named =
      desk.messenger.gateway.checkRemote desk.transport remote (.ofTrusted trusted) := by
  cases named <;> cases trusted <;> rfl

theorem send_eq (remote : RemoteAddress) (trusted named : Bool) (payload : Payload) :
    desk.send remote trusted named payload =
      desk.messenger.gateway.send desk.transport remote (.ofTrusted trusted) (some payload) := by
  cases named <;> cases trusted <;> rfl

theorem run_sendWithReply (remote : RemoteAddress) (trusted named : Bool) (payload : Payload)
    (reply : PortId) (w : World) :
    (desk.sendWithReply remote trusted named payload reply).run w =
      (desk.messenger.gateway.sendWithReply ((registryPart desk.site).get w) desk.transport remote
        (.ofTrusted trusted) (some payload) reply).run w := by
  cases named <;> cases trusted <;> rfl

end Scenario.World.Desk
end PortMessaging
