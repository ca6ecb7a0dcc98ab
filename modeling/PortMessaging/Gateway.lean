import PortMessaging.Config
import PortMessaging.Json.Codec
import PortMessaging.Registry

/-!
# Gateway — checks before a message leaves

Every outgoing request passes the gateway.  Faults of the arguments and a reply port that is not
registered are found here, before the transport hears of the request; whether certificates match is
the transport's business.  A payload above the recommended size is only warned about.

The checks come in a fixed order, and the first that fails decides: application of the address, port
of the address, payload, sign of the reply id, registration of the reply port.
-/

namespace PortMessaging

/-- The settings of a gateway. -/
structure Gateway where
  translator : Translator
  recommendedPayloadBytes : UInt64
  deriving DecidableEq, Repr

namespace Gateway

variable {σ : Type}

def ofConfig (config : Config) : Gateway :=
  ⟨⟨config.passthroughUnmappedCodes⟩, config.recommendedPayloadBytes⟩

/-- Checks the address and the presence of the payload, and warns about a large one. -/
def validate (gateway : Gateway) (remote : RemoteAddress) (payload : Option Payload) :
    Effect σ (Except PortError Payload) := do
  match remote.validate with
  | .error e => do
    Effect.log .warn "Rejected send" [("error", .text e.message)]
    return .error e
  | .ok () =>
    match payload with
    | none => do
      Effect.log .warn "Rejected send: payload is missing" [("remote", .text remote.text)]
      return .error (.invalidParameter .payloadMissing)
    | some payload => do
      let size := payload.encodedLength
      let recommended := gateway.recommendedPayloadBytes.toNat
      if recommended < size then
        Effect.log .warn "Payload is larger than recommended"
          [("remote", .text remote.text), ("size", .number size),
            ("recommended", .number recommended)]
      return .ok payload

/-- Sends without a reply port. -/
def send (gateway : Gateway) (transport : Transport σ) (remote : RemoteAddress)
    (domain : TrustDomain) (payload : Option Payload) : Effect σ (Except PortError Unit) := do
  match ← gateway.validate remote payload with
  | .error e => return .error e
  | .ok payload => do
    Effect.log .debug "Sending message"
      [("remote", .text remote.text), ("domain", .text domain.text)]
    gateway.translator.result (← transport.send remote domain payload)

/-- Checks that a reply port is registered, in either domain. -/
def validateReply (registry : Registry) (domain : TrustDomain) (reply : PortId) :
    Effect σ (Except PortError Unit) := do
  if !reply.isValid then do
    Effect.log .warn "Rejected send: reply port id must be positive" [("port_id", .text reply.text)]
    return .error (.invalidParameter (.replyIdNotPositive reply))
  else
    match registry.domainOf? reply with
    | none => do
      Effect.log .warn "Rejected send: reply port is not registered" [("port_id", .text reply.text)]
      return .error (.portNotFound (.inEither reply))
    | some replyDomain => do
      if replyDomain ≠ domain then
        Effect.log .debug "Reply port and send use different trust domains"
          [("port_id", .text reply.text), ("reply_domain", .text replyDomain.text),
            ("send_domain", .text domain.text)]
      return .ok ()

/-- Sends with a registered port as the reply port. -/
def sendWithReply (gateway : Gateway) (registry : Registry) (transport : Transport σ)
    (remote : RemoteAddress) (domain : TrustDomain) (payload : Option Payload) (reply : PortId) :
    Effect σ (Except PortError Unit) := do
  match ← gateway.validate remote payload with
  | .error e => return .error e
  | .ok payload =>
    match ← validateReply registry domain reply with
    | .error e => return .error e
    | .ok () => do
      Effect.log .debug "Sending message with reply port"
        [("remote", .text remote.text), ("domain", .text domain.text),
          ("port_id", .text reply.text)]
      gateway.translator.result (← transport.sendWithReply reply remote domain payload)

/-- Tells whether a remote port exists.  That the transport knows no such port is an answer, not a
failure. -/
def checkRemote (gateway : Gateway) (transport : Transport σ) (remote : RemoteAddress)
    (domain : TrustDomain) : Effect σ (Except PortError Bool) := do
  match remote.validate with
  | .error e => do
    Effect.log .warn "Rejected remote port check" [("error", .text e.message)]
    return .error e
  | .ok () => do
    Effect.log .debug "Checking remote port"
      [("remote", .text remote.text), ("domain", .text domain.text)]
    match ← transport.checkRemote remote domain with
    | .ok found => return .ok found
    -- Some transports report a missing port as a failure, which it is not here.
    | .error .portNotFound => return .ok false
    | .error code => return .error (← gateway.translator.translate code)

end Gateway

end PortMessaging
