import PortMessaging.Message

/-!
# Listener — what is attached to a local port

A listener is a callback, alone or with a context of its owner that is handed back with every
message.  The library never looks inside either of them: it knows callbacks and contexts by their
identity, and whoever runs the main loop calls them.
-/

namespace PortMessaging

/-- The identity of a callback. -/
abbrev CallbackId := Nat

/-- The identity of a context. -/
abbrev ContextId := Nat

/-- A callback attached to a local port. -/
inductive Listener where
  /-- A callback that takes the message alone. -/
  | oneWay (callback : CallbackId)
  /-- A callback that takes the message and the owner's context. -/
  | bidirectional (callback : CallbackId) (context : ContextId)
  deriving DecidableEq, Repr, Inhabited

namespace Listener

def callback : Listener → CallbackId
  | oneWay callback => callback
  | bidirectional callback _ => callback

/-- The context of a listener, if it has one. -/
def context? : Listener → Option ContextId
  | oneWay _ => none
  | bidirectional _ context => some context

/-- Whether two listeners are of one kind and wrap the same callback and the same context. -/
def sameAs (a b : Listener) : Bool := a = b

/-- The written form of a listener tells its kind only. -/
def text : Listener → String
  | oneWay _ => "Listener::OneWay"
  | bidirectional _ _ => "Listener::Bidirectional"

end Listener

end PortMessaging
