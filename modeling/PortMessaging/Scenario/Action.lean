import PortMessaging.Config
import PortMessaging.Transport

/-!
# Scenario.Action — what a scenario is written in

A scenario plays several applications against one loopback service.  It names its participants by
handles.  A handle stands for an endpoint of the service and, once connected, for a messenger with
its main loop.  This module holds the vocabulary: replies that a scripted transport gives in place of
the service, listeners described by what they do, and the actions on handles.

Listeners act too: their description holds actions, and an action may register a listener.
-/

namespace PortMessaging
namespace Scenario

/-- The operations of a transport, as a script names them. -/
inductive Method where
  | bind
  | unbind
  | check
  | send
  | sendWithReply
  deriving DecidableEq, Repr

/-- What a scripted transport does with a call. -/
inductive ScriptedReply where
  /-- Answers that the name is newly bound. -/
  | created (id : PortId)
  /-- Answers that the name was bound before. -/
  | existing (id : PortId)
  /-- Answers whether the remote port exists. -/
  | found (answer : Bool)
  | done
  | refused (code : TransportCode)
  /-- Passes the call on to the service. -/
  | passOn
  | breakOff
  deriving DecidableEq, Repr

/-- Actions that need no messenger: they speak to the endpoint of a handle, to its script or to its
main loop. -/
inductive EndpointAction where
  | appId
  | bind (name : String) (domain : TrustDomain)
  | unbind (id : PortId)
  | check (remote : RemoteAddress) (domain : TrustDomain)
  | send (remote : RemoteAddress) (domain : TrustDomain) (payload : Payload)
  | sendWithReply (reply : PortId) (remote : RemoteAddress) (domain : TrustDomain)
      (payload : Payload)
  /-- Attaches a sink that only collects deliveries. -/
  | attachCollector
  | detachCollector
  /-- Adds replies to the script of a method. -/
  | script (method : Method) (replies : List ScriptedReply)
  /-- Posts a task that does nothing but leave a mark. -/
  | post (mark : String)
  /-- Gives up the messenger and the posting side of the main loop. -/
  | dropMessenger
  deriving Repr

mutual

/-- The listener that a registration asks for. -/
inductive ListenerRequest where
  /-- A new listener with a tag.  It acts at its first calls, as many as `limit`.  A context makes it
  a bidirectional one. -/
  | fresh (tag : String) (context : Option String) (actions : List Action) (limit : Nat)
  /-- The listener that had a tag last. -/
  | tagged (tag : String)

/-- Actions on the messenger of a handle, its registry, its gateway or its router. -/
inductive MessengerAction where
  | register (name : String) (trusted : Bool) (named : Bool) (listener : ListenerRequest)
  | unregister (id : PortId) (trusted : Bool) (named : Bool)
  | check (remote : RemoteAddress) (trusted : Bool) (named : Bool)
  | send (remote : RemoteAddress) (trusted : Bool) (named : Bool) (payload : Payload)
  | sendWithReply (remote : RemoteAddress) (trusted : Bool) (named : Bool) (payload : Payload)
      (reply : PortId)
  /-- Answers the message that a listener was called with. -/
  | answer (payload : Option Payload) (reply : Option PortId)
  | portName (id : PortId)
  | isTrusted (id : PortId)
  | config
  | describe
  | registryRegister (name : String) (domain : TrustDomain) (listener : Option ListenerRequest)
  | registryUnregister (id : PortId) (domain : TrustDomain)
  | lookup (id : PortId) (domain : TrustDomain)
  | lookupEither (id : PortId)
  | nameOf (id : PortId)
  | domainOf (id : PortId)
  | activePorts (domain : TrustDomain)
  | activeCount
  | gatewayCheck (remote : RemoteAddress) (domain : TrustDomain)
  | gatewaySend (remote : RemoteAddress) (domain : TrustDomain) (payload : Option Payload)
  | gatewaySendWithReply (remote : RemoteAddress) (domain : TrustDomain)
      (payload : Option Payload) (reply : PortId)
  | dispatch (event : DeliveryEvent)
  /-- Dispatches without asking what became of the delivery. -/
  | deliver (event : DeliveryEvent)

inductive Action where
  | breakOff
  | boundCount
  | snapshot
  | onEndpoint (handle : String) (action : EndpointAction)
  | onMessenger (handle : String) (action : MessengerAction)

end

/-- The kinds of main loop, by how they are drained. -/
inductive LoopKind where
  /-- Drained in one go by the thread that owns it. -/
  | threaded
  /-- Drained task by task, by whoever polls it. -/
  | polled
  deriving DecidableEq, Repr

/-- One step of a scenario. -/
inductive Step where
  /-- Connects a handle with a messenger and a main loop; an earlier handle of the name is
  dropped. -/
  | connect (handle app certificate : String) (config : Config) (kind : LoopKind) (attach : Bool)
  /-- Connects a handle without a messenger. -/
  | connectEndpoint (handle app certificate : String)
  | act (action : Action)
  | runPending (handle : String)
  | runUntilIdle (handle : String)
  /-- Runs at most a number of tasks, or none if the deadline has passed. -/
  | runUntil (handle : String) (limit : Nat) (expired : Bool)
  | pendingCount (handle : String)
  | loopInfo (handle : String)
  | runOne (handle : String)
  /-- Gives up the messenger and the posting side, and runs the loop to its end. -/
  | runToEnd (handle : String)
  | closeLoop (handle : String)

end Scenario
end PortMessaging
