import PortMessaging.Payload
import PortMessaging.Port

/-!
# Message — deliveries and what a listener receives

A transport announces a message as a `DeliveryEvent`; a listener receives it as an
`InboundMessage`.  The two carry the same data, once from the transport's and once from the
receiver's point of view.
-/

namespace PortMessaging

/-- A message as a transport delivers it. -/
structure DeliveryEvent where
  /-- The local port that the message is for. -/
  target : PortId
  /-- The application that sent it. -/
  senderApp : String
  /-- The sender's reply port, if it gave one. -/
  senderPort : Option String
  /-- Whether the reply port is a trusted one. -/
  senderTrusted : Bool
  payload : Payload
  deriving DecidableEq, Repr

namespace DeliveryEvent

/-- A delivery without a reply port. -/
def oneWay (target : PortId) (senderApp : String) (payload : Payload) : DeliveryEvent :=
  ⟨target, senderApp, none, false, payload⟩

/-- A delivery that names the sender's reply port. -/
def withReplyPort (target : PortId) (senderApp senderPort : String) (senderTrusted : Bool)
    (payload : Payload) : DeliveryEvent :=
  ⟨target, senderApp, some senderPort, senderTrusted, payload⟩

end DeliveryEvent

/-- A message as a listener receives it. -/
structure InboundMessage where
  /-- The local port on which the message arrived. -/
  localPort : PortId
  remoteApp : String
  /-- The sender's reply port, if it gave one. -/
  remotePort : Option String
  /-- Whether the reply port is a trusted one. -/
  trustedRemotePort : Bool
  payload : Payload
  deriving DecidableEq, Repr

/-- The message that a delivery brings to its listener. -/
def DeliveryEvent.inbound (event : DeliveryEvent) : InboundMessage :=
  ⟨event.target, event.senderApp, event.senderPort, event.senderTrusted, event.payload⟩

end PortMessaging
