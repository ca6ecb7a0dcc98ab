import PortMessaging.MainLoop
import PortMessaging.Registry
import PortMessaging.Text.Quoted

/-!
# Dispatch — from a transport's delivery to a listener

A delivery is looked up when it arrives and posted to the main loop as a task; when the task runs,
the port is looked up again, in the domain that it had on arrival.  So a port that was retired in
between gets nothing, and a listener that was replaced in between is not called: the new one is.

A delivery that finds no port, or whose main loop is closed, is dropped with a log entry.  The
sender has its acknowledgement by then, and there is nobody to report to.
-/

namespace PortMessaging

/-- What became of a delivery on arrival. -/
inductive DispatchOutcome where
  | scheduled
  | noListener
  | loopClosed
  deriving DecidableEq, Repr

/-- A delivery that waits for the main loop, with the domain that its target had on arrival. -/
structure Delivery where
  domain : TrustDomain
  event : DeliveryEvent
  deriving DecidableEq, Repr

/-- The settings of a router. -/
structure Router where
  /-- Whether the log names the keys of a payload. -/
  logPayloadKeys : Bool
  deriving DecidableEq, Repr

variable {σ : Type}

namespace Router

/-- The written form of the router of a registry. -/
def text (registry : Registry) : String :=
  "DispatchRouter \x7b registry: " ++ registry.text ++ " \x7d"

/-- The fields with which the log shows a delivery. -/
def fields (router : Router) (domain : TrustDomain) (event : DeliveryEvent) :
    List (String × LogValue) :=
  [("port_id", .text event.target.text), ("domain", .text domain.text),
    ("sender", .text event.senderApp), ("sender_port", .text (Text.quoteOption event.senderPort)),
    ("trusted_sender", .flag event.senderTrusted)] ++
  if router.logPayloadKeys then [("keys", .text (Text.quoteList event.payload.keys))] else []

/-- Takes a delivery: posts it to the main loop if its target is an active port.  `post` tells
whether the main loop took the task. -/
def dispatch (router : Router) (registry : Registry) (post : Delivery → Effect σ Bool)
    (event : DeliveryEvent) : Effect σ DispatchOutcome := do
  -- The domain is fixed here and goes along with the task.
  match registry.domainOf? event.target with
  | none => do
    Effect.log .debug "No listener for delivery, dropped"
      [("port_id", .text event.target.text), ("sender", .text event.senderApp)]
    return .noListener
  | some domain => do
    Effect.log .debug "Message received" (router.fields domain event)
    if ← post ⟨domain, event⟩ then return .scheduled
    else do
      Effect.log .warn "Delivery dropped"
        [("port_id", .text event.target.text), ("domain", .text domain.text),
          ("error", .text MainLoop.closedText)]
      return .loopClosed

end Router

namespace Delivery

/-- The listener that a delivery calls now, if its port is still active in its domain. -/
def listener? (delivery : Delivery) (registry : Registry) : Option Listener :=
  (registry.lookup delivery.event.target delivery.domain).map (·.listener)

/-- Runs a delivery on the main loop. -/
def run (delivery : Delivery) (registry : Registry)
    (call : Listener → InboundMessage → Effect σ Unit) : Effect σ Unit := do
  match delivery.listener? registry with
  | none =>
    Effect.log .debug "Port retired before delivery ran, dropped"
      [("port_id", .text delivery.event.target.text), ("domain", .text delivery.domain.text)]
  | some listener => call listener delivery.event.inbound

end Delivery

end PortMessaging
