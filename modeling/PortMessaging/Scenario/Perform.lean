import PortMessaging.Scenario.Endpoint

/-!
# Scenario.Perform — what the actions do

An action is looked at in a fixed order.  Its handle has to exist; an action on a messenger needs
the handle to have one; only then a listener that the action asks for is made, and it has its tag
before the registration is tried.
-/

namespace PortMessaging
namespace Scenario

/-! ## Replies -/

namespace Reply

/-- The reply to a request of the library. -/
def ofResult {α : Type} (shown : α → Reply) : Except PortError α → Reply
  | .ok a => shown a
  | .error e => .failed e

/-- The reply to a request of a transport. -/
def ofTransport {α : Type} (shown : α → Reply) : Except TransportCode α → Reply
  | .ok a => shown a
  | .error code => .transportFailed code

/-- The reply to a question that may have no answer. -/
def ofOption {α : Type} (shown : α → Reply) : Option α → Reply
  | some a => shown a
  | none => .nothing

end Reply

namespace World

/-! ## Endpoints -/

/-- Posts a mark to the main loop of a handle, if the handle has the posting side. -/
def postMark (handle : Handle) (mark : String) : Effect World Reply := do
  match handle.site with
  | none => return .noLoop
  | some n =>
    if ← MainLoop.post (queuePart n) (.mark mark) then return .nothing
    else return .loopClosed

/-- Makes a collector that a handle holds, and directs the deliveries of its application there. -/
def attachCollector (name app : String) : Effect World Reply := do
  let number := (← Effect.getState).collectors
  -- A collector that the handle held before is given up here.
  Effect.modifyState fun w =>
    { w with collectors := number + 1 }.modifyHandle name ({ · with collector := some number })
  host.attach app (.collector number)
  return .nothing

/-- Performs an action that needs no messenger. -/
def performOnEndpoint (name : String) (handle : Handle) : EndpointAction → Effect World Reply
  | .appId => return .text handle.app
  | .bind port domain => do
    return .ofTransport .bound (← (host.endpoint handle.app).bind port domain)
  | .unbind id => do
    return .ofTransport (fun _ => .nothing) (← (host.endpoint handle.app).unbind id)
  | .check remote domain => do
    return .ofTransport .flag (← (host.endpoint handle.app).checkRemote remote domain)
  | .send remote domain payload => do
    return .ofTransport (fun _ => .nothing)
      (← (host.endpoint handle.app).send remote domain payload)
  | .sendWithReply reply remote domain payload => do
    return .ofTransport (fun _ => .nothing)
      (← (host.endpoint handle.app).sendWithReply reply remote domain payload)
  | .attachCollector => attachCollector name handle.app
  | .detachCollector => do
    Effect.modifyState (·.modifyHandle name ({ · with collector := none }))
    return .nothing
  | .script method replies => do
    let more : Script := replies.map fun reply => (method, reply)
    Effect.modifyState (·.modifyHandle name fun h => { h with script := h.script ++ more })
    return .nothing
  | .post mark => postMark handle mark
  | .dropMessenger => do
    Effect.modifyState (·.dropMessenger name)
    return .flag handle.site.isSome

/-! ## Messengers -/

/-- Gets the listener that is asked for. -/
def obtain (request : ListenerRequest) : Effect World Listener where
  run w :=
    let (listener, w') := w.obtainListener request
    ⟨.ok listener, w', []⟩

/-- Where the actions on a messenger are performed: the messenger, the number of its site, and its
transport. -/
structure Desk where
  messenger : Messenger
  site : Nat
  transport : Transport World

namespace Desk

/-- Runs an effect on the registry of a desk and the rest of the world. -/
def onRegistry {α : Type} (desk : Desk) (x : Effect (Registry × World) α) : Effect World α :=
  Effect.holding (registryPart desk.site) x

def registry (desk : Desk) : Effect World Registry := do
  return (registryPart desk.site).get (← Effect.getState)

/-- Registers a port by the messenger, in the named form if that is asked for. -/
def register (desk : Desk) (name : String) (trusted named : Bool) (listener : Listener) :
    Effect (Registry × World) (Except PortError PortId) :=
  match named, trusted with
  | true, true => desk.messenger.registerTrustedLocalPort desk.transport name listener
  | true, false => desk.messenger.registerLocalPort desk.transport name listener
  | false, _ => desk.messenger.registerPort desk.transport name trusted listener

/-- Unregisters a port by the messenger, in the named form if that is asked for. -/
def unregister (desk : Desk) (id : PortId) (trusted named : Bool) :
    Effect (Registry × World) (Except PortError Unit) :=
  match named, trusted with
  | true, true => desk.messenger.unregisterTrustedLocalPort desk.transport id
  | true, false => desk.messenger.unregisterLocalPort desk.transport id
  | false, _ => desk.messenger.unregisterPort desk.transport id trusted

/-- Checks a remote port by the messenger, in the named form if that is asked for. -/
def check (desk : Desk) (remote : RemoteAddress) (trusted named : Bool) :
    Effect World (Except PortError Bool) :=
  match named, trusted with
  | true, true => desk.messenger.checkTrustedRemotePort desk.transport remote.app remote.port
  | true, false => desk.messenger.checkRemotePort desk.transport remote.app remote.port
  | false, _ => desk.messenger.checkRemote desk.transport remote.app remote.port trusted

/-- Sends by the messenger, in the named form if that is asked for. -/
def send (desk : Desk) (remote : RemoteAddress) (trusted named : Bool) (payload : Payload) :
    Effect World (Except PortError Unit) :=
  match named, trusted with
  | true, true => desk.messenger.sendTrustedMessage desk.transport remote.app remote.port payload
  | true, false => desk.messenger.sendMessage desk.transport remote.app remote.port payload
  | false, _ => desk.messenger.send desk.transport remote.app remote.port trusted payload

/-- Sends with a reply port by the messenger, in the named form if that is asked for. -/
def sendWithReply (desk : Desk) (remote : RemoteAddress) (trusted named : Bool)
    (payload : Payload) (reply : PortId) : Effect World (Except PortError Unit) := do
  let registry ← desk.registry
  match named, trusted with
  | true, true =>
    desk.messenger.sendTrustedMessageWithReply registry desk.transport remote.app remote.port
      payload reply
  | true, false =>
    desk.messenger.sendMessageWithReply registry desk.transport remote.app remote.port payload
      reply
  | false, _ =>
    desk.messenger.sendWithReply registry desk.transport remote.app remote.port trusted payload
      reply

/-- Answers a message at its reply port, with the payload of the message unless there is another
one. -/
def answer (desk : Desk) (message? : Option InboundMessage) (payload : Option Payload)
    (reply : Option PortId) : Effect World Reply := do
  match message?.bind fun m => m.remotePort.map fun port => (m, port) with
  | none => return .text "no reply port"
  | some (message, port) => do
    let remote : RemoteAddress := ⟨message.remoteApp, port⟩
    let payload := payload.getD message.payload
    let result ← match reply with
      | none => desk.send remote message.trustedRemotePort false payload
      | some id => desk.sendWithReply remote message.trustedRemotePort false payload id
    return .ofResult (fun _ => .nothing) result

/-- Dispatches a delivery by the router of the messenger. -/
def dispatch (desk : Desk) (event : DeliveryEvent) : Effect World DispatchOutcome := do
  let post (delivery : Delivery) : Effect World Bool :=
    MainLoop.post (queuePart desk.site) (.delivery delivery)
  desk.messenger.router.dispatch (← desk.registry) post event

def perform (desk : Desk) (message? : Option InboundMessage) :
    MessengerAction → Effect World Reply
  | .register name trusted named request => do
    let listener ← obtain request
    return .ofResult .portId (← desk.onRegistry (desk.register name trusted named listener))
  | .unregister id trusted named => do
    return .ofResult (fun _ => .nothing) (← desk.onRegistry (desk.unregister id trusted named))
  | .check remote trusted named => do
    return .ofResult .flag (← desk.check remote trusted named)
  | .send remote trusted named payload => do
    return .ofResult (fun _ => .nothing) (← desk.send remote trusted named payload)
  | .sendWithReply remote trusted named payload reply => do
    return .ofResult (fun _ => .nothing) (← desk.sendWithReply remote trusted named payload reply)
  | .answer payload reply => desk.answer message? payload reply
  | .portName id => do
    return .ofResult .text (← Messenger.localPortName (← desk.registry) id)
  | .isTrusted id => do
    return .ofResult .flag (← Messenger.isTrustedLocalPort (← desk.registry) id)
  | .config => return .config desk.messenger.config
  | .describe => do
    let registry ← desk.registry
    return .texts [desk.messenger.text registry, registry.text, Router.text registry]
  | .registryRegister name domain request => do
    let listener ← match request with
      | none => pure none
      | some request => do pure (some (← obtain request))
    return .ofResult .portId (← desk.onRegistry
      (Registry.register desk.messenger.translator desk.transport name domain listener))
  | .registryUnregister id domain => do
    let retired ← desk.onRegistry
      (Registry.unregister desk.messenger.translator desk.transport id domain)
    let w ← Effect.getState
    return .ofResult (fun entry => .port (w.view entry)) retired
  | .lookup id domain => do
    let w ← Effect.getState
    return .ofOption (fun entry => .port (w.view entry)) ((← desk.registry).lookup id domain)
  | .lookupEither id => do
    let w ← Effect.getState
    return .ofOption (fun entry => .port (w.view entry)) ((← desk.registry).lookupEither id)
  | .nameOf id => do return .ofOption .text ((← desk.registry).nameOf? id)
  | .domainOf id => do return .ofOption .domain ((← desk.registry).domainOf? id)
  | .activePorts domain => do
    let w ← Effect.getState
    return .ports (((← desk.registry).activePorts domain).map w.view)
  | .activeCount => do return .count (← desk.registry).activeCount
  | .gatewayCheck remote domain => do
    return .ofResult .flag (← desk.messenger.gateway.checkRemote desk.transport remote domain)
  | .gatewaySend remote domain payload => do
    return .ofResult (fun _ => .nothing)
      (← desk.messenger.gateway.send desk.transport remote domain payload)
  | .gatewaySendWithReply remote domain payload reply => do
    return .ofResult (fun _ => .nothing)
      (← desk.messenger.gateway.sendWithReply (← desk.registry) desk.transport remote domain
        payload reply)
  | .dispatch event => do return .dispatched (← desk.dispatch event)
  | .deliver event => do
    let _ ← desk.dispatch event
    return .nothing

end Desk

/-! ## Actions -/

/-- The desk of a handle, if the handle has a messenger. -/
def deskOf? (w : World) (name : String) (handle : Handle) : Option Desk :=
  (w.siteOf? handle).map fun (n, site) => ⟨site.messenger, n, tapped name handle.app⟩

/-- Performs an action, with the message that the acting listener was called with. -/
def perform (message? : Option InboundMessage) : Action → Effect World Reply
  | .breakOff => Effect.abort .listener
  | .boundCount => do return .count (← Effect.getState).service.boundCount
  | .snapshot => do return .snapshot (← Effect.getState).snapshot
  | .onEndpoint name action => do
    match (← Effect.getState).handles.get? name with
    | none => return .noHandle
    | some handle => performOnEndpoint name handle action
  | .onMessenger name action => do
    let w ← Effect.getState
    match w.handles.get? name with
    | none => return .noHandle
    | some handle =>
      match w.deskOf? name handle with
      | none => return .noMessenger
      | some desk => desk.perform message? action

end World

end Scenario
end PortMessaging
