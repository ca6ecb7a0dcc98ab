import PortMessaging.Json.Codec
import PortMessaging.Tally
import PortMessaging.Transport

/-!
# Loopback — several applications in one process

A loopback service stands for the message port service of a device.  It knows, for every application
that ever connected, its certificate, the names it has bound and the sink that takes its deliveries.
Port ids come from one counter for all applications.  A name is bound at most once for each
application and domain.  Trusted requests need equal certificates on both sides, and a payload above
the service's limit is refused.

The service itself is data with pure operations (`Service`).  An application's transport
(`endpoint`) is made of them inside a host, a state that holds the service and knows which sinks are
alive and how to hand a delivery over.  Handing over happens at once, while the sender waits.
-/

namespace PortMessaging
namespace Loopback

/-- A bound name of an application. -/
structure Binding where
  domain : TrustDomain
  name : String
  id : PortId
  deriving DecidableEq, Repr

/-- What the service knows of an application; its sinks are named by `S`. -/
structure AppRecord (S : Type) where
  certificate : String
  sink : Option S
  bindings : List Binding
  deriving Repr

structure Service (S : Type) where
  /-- The id that was handed out last. -/
  lastId : Int32
  apps : SortedMap String (AppRecord S)
  maxPayloadBytes : Nat

/-- The limit on a payload, unless another one is asked for. -/
def defaultMaxPayloadBytes : Nat := 16384

namespace AppRecord

variable {S : Type}

/-- The id that a name is bound to in a domain. -/
def idOf? (record : AppRecord S) (domain : TrustDomain) (name : String) : Option PortId :=
  (record.bindings.find? fun b => b.domain == domain && b.name == name).map (·.id)

def bindingOf? (record : AppRecord S) (id : PortId) : Option Binding :=
  record.bindings.find? (·.id == id)

end AppRecord

/-! ## The service -/

namespace Service

variable {S : Type}

def empty (maxPayloadBytes : Nat) : Service S := ⟨0, .empty, maxPayloadBytes⟩

def modifyApp (service : Service S) (app : String) (f : AppRecord S → AppRecord S) : Service S :=
  { service with apps := service.apps.modify app f }

/-- Connects an application.  One that connected before keeps its bindings and its sink and gets the
new certificate. -/
def connect (service : Service S) (app certificate : String) : Service S :=
  match service.apps.get? app with
  | some _ => service.modifyApp app ({ · with certificate := certificate })
  | none => { service with apps := service.apps.insert app ⟨certificate, none, []⟩ }

/-- The number of bound names of all applications. -/
def boundCount (service : Service S) : Nat :=
  tally (·.bindings.length) service.apps.values

/-- Directs the deliveries of an application to a sink. -/
def attach (service : Service S) (app : String) (sink : S) : Service S :=
  service.modifyApp app ({ · with sink := some sink })

/-- Binds a name of an application: to its id if it has one, otherwise to the next one. -/
def bind (service : Service S) (app name : String) (domain : TrustDomain) :
    Except TransportCode BindOutcome × Service S :=
  match service.apps.get? app with
  | none => (.error .io, service)
  | some record =>
    match record.idOf? domain name with
    | some id => (.ok (.existing id), service)
    | none =>
      let id : PortId := ⟨service.lastId + 1⟩
      let record := { record with bindings := record.bindings ++ [⟨domain, name, id⟩] }
      (.ok (.created id),
        { service with lastId := service.lastId + 1, apps := service.apps.insert app record })

/-- Releases an id of an application. -/
def unbind (service : Service S) (app : String) (id : PortId) :
    Except TransportCode Unit × Service S :=
  match service.apps.get? app with
  | none => (.error .io, service)
  | some record =>
    -- Every binding of the id goes; that none did tells that there was none.
    let kept := record.bindings.filter (·.id != id)
    if kept.length = record.bindings.length then (.error .portNotFound, service)
    else (.ok (), service.modifyApp app ({ · with bindings := kept }))

/-- Finds the port that an application addresses: its id and the record of its application.  A
trusted request needs equal certificates. -/
def resolve (service : Service S) (app : String) (remote : RemoteAddress) (domain : TrustDomain) :
    Except TransportCode (PortId × AppRecord S) :=
  match service.apps.get? app with
  | none => .error .io
  | some own =>
    match service.apps.get? remote.app with
    | none => .error .portNotFound
    | some target =>
      match target.idOf? domain remote.port with
      | none => .error .portNotFound
      | some id =>
        -- Whether the port exists comes before whether it may be reached.
        if domain.isTrusted ∧ target.certificate ≠ own.certificate then .error .certificateMismatch
        else .ok (id, target)

/-- Tells whether a port exists for an application. -/
def checkRemote (service : Service S) (app : String) (remote : RemoteAddress)
    (domain : TrustDomain) : Except TransportCode Bool :=
  match service.resolve app remote domain with
  | .ok _ => .ok true
  | .error .portNotFound => .ok false
  | .error code => .error code

/-- The name and the domain of the port that an application gives as its reply port. -/
def replyBinding (service : Service S) (app : String) (reply : PortId) :
    Except TransportCode Binding :=
  match service.apps.get? app with
  | none => .error .io
  | some record =>
    match record.bindingOf? reply with
    | none => .error .portNotFound
    | some binding => .ok binding

/-- The delivery that a message becomes. -/
def deliveryOf (target : PortId) (app : String) (reply : Option Binding) (payload : Payload) :
    DeliveryEvent :=
  match reply with
  | none => .oneWay target app payload
  | some binding => .withReplyPort target app binding.name binding.domain.isTrusted payload

/-- Routes a message of an application: the sink that takes it and the delivery.  The size is
checked first, then the address, then the sink. -/
def route (service : Service S) (alive : S → Bool) (app : String) (remote : RemoteAddress)
    (domain : TrustDomain) (payload : Payload) (reply : Option Binding) :
    Except TransportCode (S × DeliveryEvent) :=
  if service.maxPayloadBytes < payload.encodedLength then .error .tooLarge
  else
    match service.resolve app remote domain with
    | .error code => .error code
    | .ok (id, target) =>
      match target.sink.filter alive with
      | none => .error .portNotFound
      | some sink => .ok (sink, deliveryOf id app reply payload)

end Service

/-! ## Endpoints -/

/-- A state that holds a loopback service. -/
structure Host (ω S : Type) where
  service : Part ω (Service S)
  /-- Whether a sink still takes deliveries. -/
  alive : ω → S → Bool
  /-- Hands a delivery to a sink. -/
  deliver : S → DeliveryEvent → Effect ω Unit

namespace Host

variable {ω S α : Type}

def ask (host : Host ω S) (f : Service S → α) : Effect ω α := do
  return f (host.service.get (← Effect.getState))

/-- Lets the service answer and change. -/
def update (host : Host ω S) (f : Service S → α × Service S) : Effect ω α where
  run w :=
    let (a, service) := f (host.service.get w)
    ⟨.ok a, host.service.set service w, []⟩

def connect (host : Host ω S) (app certificate : String) : Effect ω Unit := do
  host.update fun service => ((), service.connect app certificate)
  Effect.log .info "Loopback application connected" [("app", .text app)]

/-- Directs the deliveries of an application to a sink. -/
def attach (host : Host ω S) (app : String) (sink : S) : Effect ω Unit :=
  host.update fun service => ((), service.attach app sink)

/-- Sends a message of an application, with or without a reply binding. -/
def transmit (host : Host ω S) (app : String) (remote : RemoteAddress) (domain : TrustDomain)
    (payload : Payload) (reply : Option Binding) : Effect ω (Except TransportCode Unit) := do
  let w ← Effect.getState
  match (host.service.get w).route (host.alive w) app remote domain payload reply with
  | .error code => return .error code
  | .ok (sink, event) => do
    Effect.log .debug "Loopback delivery"
      [("from", .text app), ("to", .text remote.text), ("port_id", .text event.target.text)]
    host.deliver sink event
    return .ok ()

/-- The transport of an application. -/
def endpoint (host : Host ω S) (app : String) : Transport ω where
  bind name domain := host.update (·.bind app name domain)
  unbind id := host.update (·.unbind app id)
  checkRemote remote domain := host.ask (·.checkRemote app remote domain)
  send remote domain payload := host.transmit app remote domain payload none
  sendWithReply reply remote domain payload := do
    match ← host.ask (·.replyBinding app reply) with
    | .error code => return .error code
    | .ok binding => host.transmit app remote domain payload (some binding)

end Host

end Loopback
end PortMessaging
