import PortMessaging.Address
import PortMessaging.Effect
import PortMessaging.Message

/-!
# Transport — what carries messages between applications

A transport binds port names to ids, releases ids, knows whether a remote port exists, and sends.
Here it is a record of its five operations on a state of its own.  Nothing is promised about them:
an operation may answer anything, change its state in any way, write to the log or break off.  What
the library guarantees with an unreliable transport is therefore a statement about all such records;
the loopback service (`Loopback`) is one of them.
-/

namespace PortMessaging

/-- The answer to a request to bind a name. -/
inductive BindOutcome where
  /-- The name is newly bound, to a fresh id. -/
  | created (id : PortId)
  /-- The name was bound before, to this id. -/
  | existing (id : PortId)
  deriving DecidableEq, Repr

namespace BindOutcome

/-- The id that the name is bound to. -/
def id : BindOutcome → PortId
  | created id => id
  | existing id => id

end BindOutcome

/-- The operations of a transport with states of type `σ`. -/
structure Transport (σ : Type) where
  /-- Binds a local name in a domain. -/
  bind : String → TrustDomain → Effect σ (Except TransportCode BindOutcome)
  /-- Releases a bound id. -/
  unbind : PortId → Effect σ (Except TransportCode Unit)
  /-- Tells whether a remote port exists in a domain. -/
  checkRemote : RemoteAddress → TrustDomain → Effect σ (Except TransportCode Bool)
  /-- Sends without a reply port. -/
  send : RemoteAddress → TrustDomain → Payload → Effect σ (Except TransportCode Unit)
  /-- Sends with a local port as the reply port. -/
  sendWithReply :
    PortId → RemoteAddress → TrustDomain → Payload → Effect σ (Except TransportCode Unit)

end PortMessaging
