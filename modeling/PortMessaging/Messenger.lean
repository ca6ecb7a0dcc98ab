import PortMessaging.Dispatch
import PortMessaging.Gateway

/-!
# Messenger — the message ports of one application

The public face of the library for one application: registering ports, checking and sending to
remote ones, and asking about the application's own ports.  Every operation says with a flag whether
it means the trusted domain, and each has two named forms that fix the flag.

The registry is the messenger's state and is kept by whoever holds the messenger; the operations that
only read it take it as an argument.
-/

namespace PortMessaging

/-- The message ports of one application, by their configuration. -/
structure Messenger where
  config : Config
  deriving DecidableEq, Repr

namespace Messenger

variable {σ : Type}

/-- The translator that the configuration asks for. -/
def translator (messenger : Messenger) : Translator := ⟨messenger.config.passthroughUnmappedCodes⟩

/-- The gateway that the configuration asks for. -/
def gateway (messenger : Messenger) : Gateway := .ofConfig messenger.config

/-- The router that the configuration asks for. -/
def router (messenger : Messenger) : Router := ⟨messenger.config.logPayloadKeys⟩

def configText (config : Config) : String :=
  "MessagePortConfig \x7b recommended_payload_bytes: " ++
    toString config.recommendedPayloadBytes.toNat ++
    ", passthrough_unmapped_codes: " ++ toString config.passthroughUnmappedCodes ++
    ", log_payload_keys: " ++ toString config.logPayloadKeys ++ " \x7d"

/-- The written form of a messenger with its registry. -/
def text (messenger : Messenger) (registry : Registry) : String :=
  "MessagePort \x7b config: " ++ configText messenger.config ++ ", registry: " ++ registry.text ++
    " \x7d"

/-! ## Operations -/

/-- Registers a local port and tells its id. -/
def registerPort (messenger : Messenger) (transport : Transport σ) (name : String) (trusted : Bool)
    (listener : Listener) : Effect (Registry × σ) (Except PortError PortId) :=
  Registry.register messenger.translator transport name (.ofTrusted trusted) (some listener)

/-- Unregisters a local port of the domain that is meant. -/
def unregisterPort (messenger : Messenger) (transport : Transport σ) (id : PortId)
    (trusted : Bool) : Effect (Registry × σ) (Except PortError Unit) := do
  match ← Registry.unregister messenger.translator transport id (.ofTrusted trusted) with
  | .error e => return .error e
  | .ok _ => return .ok ()

def checkRemote (messenger : Messenger) (transport : Transport σ) (app port : String)
    (trusted : Bool) : Effect σ (Except PortError Bool) :=
  messenger.gateway.checkRemote transport ⟨app, port⟩ (.ofTrusted trusted)

def send (messenger : Messenger) (transport : Transport σ) (app port : String) (trusted : Bool)
    (payload : Payload) : Effect σ (Except PortError Unit) :=
  messenger.gateway.send transport ⟨app, port⟩ (.ofTrusted trusted) (some payload)

/-- Sends with a local port as the reply port. -/
def sendWithReply (messenger : Messenger) (registry : Registry) (transport : Transport σ)
    (app port : String) (trusted : Bool) (payload : Payload) (reply : PortId) :
    Effect σ (Except PortError Unit) :=
  messenger.gateway.sendWithReply registry transport ⟨app, port⟩ (.ofTrusted trusted) (some payload)
    reply

/-! ## Questions about local ports -/

/-- Refuses an id that cannot name a port. -/
def validateId (id : PortId) : Effect σ (Except PortError Unit) := do
  if id.isValid then return .ok ()
  else do
    Effect.log .warn "Rejected lookup: id must be positive" [("port_id", .text id.text)]
    return .error (.invalidParameter (.portIdNotPositive id))

def localPortName (registry : Registry) (id : PortId) : Effect σ (Except PortError String) := do
  match ← validateId id with
  | .error e => return .error e
  | .ok () =>
    match registry.nameOf? id with
    | some name => return .ok name
    | none => return .error (.portNotFound (.inEither id))

/-- Whether a local port is a trusted one. -/
def isTrustedLocalPort (registry : Registry) (id : PortId) :
    Effect σ (Except PortError Bool) := do
  match ← validateId id with
  | .error e => return .error e
  | .ok () =>
    match registry.domainOf? id with
    | some domain => return .ok domain.isTrusted
    | none => return .error (.portNotFound (.inEither id))

/-! ## Named forms -/

/-- Registers a port that is open to all. -/
def registerLocalPort (messenger : Messenger) (transport : Transport σ) (name : String)
    (listener : Listener) : Effect (Registry × σ) (Except PortError PortId) :=
  messenger.registerPort transport name false listener

def registerTrustedLocalPort (messenger : Messenger) (transport : Transport σ) (name : String)
    (listener : Listener) : Effect (Registry × σ) (Except PortError PortId) :=
  messenger.registerPort transport name true listener

/-- Unregisters a port that is open to all. -/
def unregisterLocalPort (messenger : Messenger) (transport : Transport σ) (id : PortId) :
    Effect (Registry × σ) (Except PortError Unit) :=
  messenger.unregisterPort transport id false

def unregisterTrustedLocalPort (messenger : Messenger) (transport : Transport σ) (id : PortId) :
    Effect (Registry × σ) (Except PortError Unit) :=
  messenger.unregisterPort transport id true

/-- Tells whether a remote port that is open to all exists. -/
def checkRemotePort (messenger : Messenger) (transport : Transport σ) (app port : String) :
    Effect σ (Except PortError Bool) :=
  messenger.checkRemote transport app port false

def checkTrustedRemotePort (messenger : Messenger) (transport : Transport σ) (app port : String) :
    Effect σ (Except PortError Bool) :=
  messenger.checkRemote transport app port true

/-- Sends to a port that is open to all. -/
def sendMessage (messenger : Messenger) (transport : Transport σ) (app port : String)
    (payload : Payload) : Effect σ (Except PortError Unit) :=
  messenger.send transport app port false payload

def sendTrustedMessage (messenger : Messenger) (transport : Transport σ) (app port : String)
    (payload : Payload) : Effect σ (Except PortError Unit) :=
  messenger.send transport app port true payload

/-- Sends to a port that is open to all, with a reply port. -/
def sendMessageWithReply (messenger : Messenger) (registry : Registry) (transport : Transport σ)
    (app port : String) (payload : Payload) (reply : PortId) : Effect σ (Except PortError Unit) :=
  messenger.sendWithReply registry transport app port false payload reply

/-- Sends to a trusted port, with a reply port. -/
def sendTrustedMessageWithReply (messenger : Messenger) (registry : Registry)
    (transport : Transport σ) (app port : String) (payload : Payload) (reply : PortId) :
    Effect σ (Except PortError Unit) :=
  messenger.sendWithReply registry transport app port true payload reply

end Messenger

end PortMessaging
