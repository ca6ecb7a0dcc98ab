import PortMessaging.Scenario.Play

/-!
# Moves — a scenario as a sequence of single moves

A step of a scenario may run many tasks, and a task may call a listener that acts before the next task
runs.  Here all of that is laid out as one sequence of moves.  A task that runs is a move of its own,
which ends where the listener has just been called; what the listener does then are the moves that
follow, in the order in which it does them.  Statements about all runs are statements about all lists
of moves from the initial world.

Some readings of a move are used in such statements: whose bindings it works on (`Move.binder?`) and
which id it wants unregistered (`Move.unregistration?`), what it asks the loopback service to send
(`World.sending?`) and with which reply port (`Move.reply?`), and whom it connects (`Move.connection?`)
and which sink it attaches (`World.attachment?`).
-/

namespace PortMessaging
namespace Scenario

/-- One thing that happens in a scenario. -/
inductive Move where
  /-- The record of calls and receipts starts anew. -/
  | beginStep
  | connect (handle app certificate : String) (config : Config) (kind : LoopKind) (attach : Bool)
  | connectEndpoint (handle app certificate : String)
  /-- An action: of a listener that was called with a message, or of nobody in particular. -/
  | act (message? : Option InboundMessage) (action : Action)
  /-- The oldest task of a site runs.  A listener that it calls has only just been called. -/
  | runNext (site : Nat)
  | closeLoop (handle : String)
  /-- The results of what a listener did are noted. -/
  | noteReplies (position : Nat) (replies : List Reply)

namespace World

/-! ## Runs -/

/-- Notes that a listener is called. -/
def noteHearing (listener : Listener) (message : InboundMessage) : Effect World Unit := do
  let w ← Effect.getState
  match w.behaviours[listener.callback]? with
  | none => return ()
  | some behaviour => Effect.modifyState (·.noteCall listener behaviour message)

/-- Runs a task of a site up to the call of its listener. -/
def startTask (n : Nat) : Task → Effect World Unit
  | .mark tag => Effect.modifyState (·.addReceipt (.mark tag))
  | .delivery delivery => do
    delivery.run ((registryPart n).get (← Effect.getState)) noteHearing

/-- The world after a move, however it ended. -/
def next (w : World) : Move → World
  | .beginStep => { w with calls := [], receipts := [] }
  | .connect name app certificate config kind attach =>
    ((connect name app certificate config kind attach).run w).state
  | .connectEndpoint name app certificate => ((connectEndpoint name app certificate).run w).state
  | .act message? action => ((perform message? action).run w).state
  | .runNext n => ((MainLoop.runNext ⟨queuePart n, startTask n⟩).run w).state
  | .closeLoop name => w.dropLoop name
  | .noteReplies position replies => w.setReplies position replies

/-- The world after some moves. -/
def after (w : World) (moves : List Move) : World := moves.foldl next w

@[simp] theorem after_nil (w : World) : w.after [] = w := rfl

@[simp] theorem after_cons (w : World) (move : Move) (rest : List Move) :
    w.after (move :: rest) = (w.next move).after rest := rfl

theorem after_append (w : World) (moves more : List Move) :
    w.after (moves ++ more) = (w.after moves).after more := List.foldl_append

/-! ## Fresh bindings -/

/-- The number of fresh bindings that a move makes: one if the counter of ids goes on. -/
def freshBy (w : World) (move : Move) : Nat :=
  if (w.next move).service.lastId = w.service.lastId then 0 else 1

/-- The number of fresh bindings that are made in a run. -/
def freshBindings (w : World) : List Move → Nat
  | [] => 0
  | move :: rest => w.freshBy move + (w.next move).freshBindings rest

theorem freshBindings_append (w : World) (moves more : List Move) :
    w.freshBindings (moves ++ more) = w.freshBindings moves + (w.after moves).freshBindings more := by
  induction moves generalizing w with
  | nil => exact (Nat.zero_add _).symm
  | cons move rest ih =>
    show w.freshBy move + (w.next move).freshBindings (rest ++ more) = _
    rw [ih (w.next move)]
    exact (Nat.add_assoc _ _ _).symm

end World

/-! ## Readings of a move -/

/-- The ways in which a move works on the bindings of a handle's application. -/
inductive Binder where
  /-- A change of the registry of the handle's messenger. -/
  | registry
  /-- A request straight to the endpoint. -/
  | endpoint
  /-- Replies that the transport of the messenger shall give in place of the service. -/
  | script
  deriving DecidableEq

/-- The handle on whose bindings a move works, and the way. -/
def Move.binder? : Move → Option (String × Binder)
  | .act _ (.onMessenger name (.register _ _ _ _)) => some (name, .registry)
  | .act _ (.onMessenger name (.unregister _ _ _)) => some (name, .registry)
  | .act _ (.onMessenger name (.registryRegister _ _ _)) => some (name, .registry)
  | .act _ (.onMessenger name (.registryUnregister _ _)) => some (name, .registry)
  | .act _ (.onEndpoint name (.bind _ _)) => some (name, .endpoint)
  | .act _ (.onEndpoint name (.unbind _)) => some (name, .endpoint)
  | .act _ (.onEndpoint name (.script _ _)) => some (name, .script)
  | _ => none

/-- The delivery that a move hands straight to a router, past every transport. -/
def Move.injected? : Move → Option DeliveryEvent
  | .act _ (.onMessenger _ (.dispatch event)) => some event
  | .act _ (.onMessenger _ (.deliver event)) => some event
  | _ => none

/-- A message on its way to the loopback service. -/
structure Sending where
  sender : String
  remote : RemoteAddress
  domain : TrustDomain

/-- The handle that a move asks to send, the address, and the domain in which the send is made. -/
def Move.request? : Move → Option (String × RemoteAddress × TrustDomain)
  | .act _ (.onEndpoint name (.send remote domain _)) => some (name, remote, domain)
  | .act _ (.onEndpoint name (.sendWithReply _ remote domain _)) => some (name, remote, domain)
  | .act _ (.onMessenger name (.send remote trusted _ _)) => some (name, remote, .ofTrusted trusted)
  | .act _ (.onMessenger name (.sendWithReply remote trusted _ _ _)) =>
    some (name, remote, .ofTrusted trusted)
  | .act message? (.onMessenger name (.answer _ _)) => do
    let message ← message?
    let port ← message.remotePort
    return (name, ⟨message.remoteApp, port⟩, .ofTrusted message.trustedRemotePort)
  | .act _ (.onMessenger name (.gatewaySend remote domain _)) => some (name, remote, domain)
  | .act _ (.onMessenger name (.gatewaySendWithReply remote domain _ _)) =>
    some (name, remote, domain)
  | _ => none

/-- The reply port that a move gives with the message that it asks to send. -/
def Move.reply? : Move → Option PortId
  | .act _ (.onEndpoint _ (.sendWithReply reply _ _ _)) => some reply
  | .act _ (.onMessenger _ (.sendWithReply _ _ _ _ reply)) => some reply
  | .act _ (.onMessenger _ (.answer _ reply)) => reply
  | .act _ (.onMessenger _ (.gatewaySendWithReply _ _ _ reply)) => some reply
  | _ => none

/-- The id that a move asks a messenger to unregister, and the domain. -/
def Move.unregistration? : Move → Option (PortId × TrustDomain)
  | .act _ (.onMessenger _ (.unregister id trusted _)) => some (id, .ofTrusted trusted)
  | .act _ (.onMessenger _ (.registryUnregister id domain)) => some (id, domain)
  | _ => none

/-- The application that a move connects, and the certificate. -/
def Move.connection? : Move → Option (String × String)
  | .connect _ app certificate _ _ _ => some (app, certificate)
  | .connectEndpoint _ app certificate => some (app, certificate)
  | _ => none

/-- The application for which a move attaches a sink, and the sink. -/
def World.attachment? (w : World) : Move → Option (String × Sink)
  | .connect _ app _ _ _ true => some (app, .router w.sites.length)
  | .act _ (.onEndpoint name .attachCollector) =>
    (w.handles.get? name).map fun handle => (handle.app, .collector w.collectors)
  | _ => none

/-- A move that asks to send hands nothing straight to a router. -/
theorem Move.injected?_of_request? {move : Move} {request : String × RemoteAddress × TrustDomain}
    (h : move.request? = some request) : move.injected? = none := by
  cases move with
  | act message? action =>
    cases action with
    | onMessenger name action =>
      cases action with
      | dispatch => cases h
      | deliver => cases h
      | _ => rfl
    | _ => rfl
  | _ => rfl

/-- A move that asks to send does not ask to unregister. -/
theorem Move.unregistration?_of_request? {move : Move}
    {request : String × RemoteAddress × TrustDomain} (h : move.request? = some request) :
    move.unregistration? = none := by
  cases move with
  | act message? action =>
    cases action with
    | onMessenger name action =>
      cases action with
      | unregister => cases h
      | registryUnregister => cases h
      | _ => rfl
    | _ => rfl
  | _ => rfl

/-- The message that a move asks to send, by the application of the handle that is asked. -/
def World.sending? (w : World) (move : Move) : Option Sending := do
  let (name, remote, domain) ← move.request?
  let handle ← w.handles.get? name
  return ⟨handle.app, remote, domain⟩

theorem World.request?_of_sending? {w : World} {move : Move} {sending : Sending}
    (h : w.sending? move = some sending) : ∃ request, move.request? = some request := by
  rcases Option.bind_eq_some_iff.1 h with ⟨request, hrequest, -⟩
  exact ⟨request, hrequest⟩

end Scenario
end PortMessaging
