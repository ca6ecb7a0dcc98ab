import PortMessaging.Scenario.World

/-!
# Scenario.Endpoint — the transports of a scenario

The world hosts the loopback service: a delivery for a router is dispatched on the spot with the
registry of its site, and a delivery for a collector is noted.  What a handle's messenger speaks to
is the endpoint of its application behind a tap (`World.tapped`).  The tap notes every call, and it
answers from the script of the handle while the script has replies for the method.
-/

namespace PortMessaging
namespace Scenario

namespace Script

/-- Takes the first reply for a method out of a script. -/
def next? (script : Script) (method : Method) : Option (ScriptedReply × Script) :=
  (script.find? (·.1 == method)).map fun entry =>
    (entry.2, script.eraseP (·.1 == method))

end Script

namespace World

/-! ## Deliveries -/

/-- Hands a delivery to a sink. -/
def deliver : Sink → DeliveryEvent → Effect World Unit
  | .router n, event => do
    match (← Effect.getState).sites[n]? with
    | none => return ()
    | some site => do
      let post (delivery : Delivery) : Effect World Bool :=
        MainLoop.post (queuePart n) (.delivery delivery)
      -- The sender is not told what became of the delivery.
      let _ ← site.messenger.router.dispatch site.registry post event
      return ()
  | .collector k, event =>
    Effect.modifyState fun w =>
      match w.holderOf? k with
      | none => w
      | some name => w.addReceipt (.collected name event)

/-- The world as the host of its loopback service. -/
def host : Loopback.Host World Sink where
  service := servicePart
  alive := isAlive
  deliver := deliver

/-! ## Taps -/

/-- Notes a call that reached the transport of a handle. -/
def addCall (w : World) (name : String) (call : Call) : World :=
  { w with calls := w.calls ++ [(name, call)] }

/-- Takes the next scripted reply of a handle for a method. -/
def takeReply (name : String) (method : Method) : Effect World (Option ScriptedReply) := do
  let w ← Effect.getState
  match (w.handles.get? name).bind fun handle => handle.script.next? method with
  | none => return none
  | some (reply, rest) => do
    Effect.modifyState (·.modifyHandle name ({ · with script := rest }))
    return some reply

/-- A call through the tap of a handle.  A scripted reply that does not fit the method counts as
passing the call on. -/
def tap {α : Type} (name : String) (method : Method) (call : Call)
    (fits : ScriptedReply → Option α) (real : Effect World (Except TransportCode α)) :
    Effect World (Except TransportCode α) := do
  -- The call counts as made whatever the script says, so it is noted first.
  Effect.modifyState (·.addCall name call)
  match ← takeReply name method with
  | none => real
  | some .breakOff => Effect.abort .transport
  | some (.refused code) => return .error code
  | some reply =>
    match fits reply with
    | some answer => return .ok answer
    | none => real

/-- The answer to a request to bind that a scripted reply gives. -/
def boundBy : ScriptedReply → Option BindOutcome
  | .created id => some (.created id)
  | .existing id => some (.existing id)
  | _ => none

/-- The answer to a check that a scripted reply gives. -/
def foundBy : ScriptedReply → Option Bool
  | .found answer => some answer
  | _ => none

/-- The answer to any other call that a scripted reply gives. -/
def doneBy : ScriptedReply → Option Unit
  | .done => some ()
  | _ => none

/-- The transport of a handle: the endpoint of its application behind its tap. -/
def tapped (name app : String) : Transport World :=
  let endpoint := host.endpoint app
  { bind := fun port domain =>
      tap name .bind (.bind port domain) boundBy (endpoint.bind port domain)
    unbind := fun id => tap name .unbind (.unbind id) doneBy (endpoint.unbind id)
    checkRemote := fun remote domain =>
      tap name .check (.check remote domain) foundBy (endpoint.checkRemote remote domain)
    send := fun remote domain payload =>
      tap name .send (.send remote domain payload) doneBy (endpoint.send remote domain payload)
    sendWithReply := fun reply remote domain payload =>
      tap name .sendWithReply (.sendWithReply reply remote domain payload) doneBy
        (endpoint.sendWithReply reply remote domain payload) }

end World

end Scenario
end PortMessaging
