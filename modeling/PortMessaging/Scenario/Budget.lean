import PortMessaging.Scenario.World

/-!
# Scenario.Budget — how many tasks a scenario can still run

A listener may post tasks when it is called, so a loop that runs until its queue is empty needs a
reason to end.  The reason is that every listener acts at most as often as its limit says.  An
action posts a bounded number of tasks at once, and what a listener that it registers will post later
is bounded in advance as well (`Action.budget`).  The tasks that wait, together with what the
listeners made so far may still cause, are therefore an upper bound on what can run before the next
step begins (`World.budget`).
-/

namespace PortMessaging
namespace Scenario

/-! ## Actions -/

mutual

/-- The tasks that a listener made for a request can cause in all its calls. -/
def ListenerRequest.budget : ListenerRequest → Nat
  | .fresh _ _ actions limit => limit * budgetOfAll actions
  | .tagged _ => 0

/-- The tasks that an action on a messenger can cause, now or later. -/
def MessengerAction.budget : MessengerAction → Nat
  | .register _ _ _ listener => listener.budget
  | .registryRegister _ _ (some listener) => listener.budget
  | .send _ _ _ _ | .sendWithReply _ _ _ _ _ | .answer _ _ => 1
  | .gatewaySend _ _ _ | .gatewaySendWithReply _ _ _ _ => 1
  | .dispatch _ | .deliver _ => 1
  | _ => 0

/-- The tasks that an action can cause, now or later. -/
def Action.budget : Action → Nat
  | .onMessenger _ action => action.budget
  | .onEndpoint _ (.send _ _ _) | .onEndpoint _ (.sendWithReply _ _ _ _) => 1
  | .onEndpoint _ (.post _) => 1
  | _ => 0

/-- The tasks that some actions can cause together. -/
def budgetOfAll : List Action → Nat
  | [] => 0
  | action :: rest => action.budget + budgetOfAll rest

end

/-! ## The world -/

/-- The tasks that a listener can still cause. -/
def Behaviour.budget (behaviour : Behaviour) : Nat :=
  (behaviour.limit - behaviour.calls) * budgetOfAll behaviour.actions

namespace World

/-- The tasks that wait in the loops of all sites. -/
def waiting (w : World) : Nat := tally (·.queue.size) w.sites

/-- The tasks that wait and those that listeners can still cause. -/
def budget (w : World) : Nat := w.waiting + tally Behaviour.budget w.behaviours

end World

end Scenario
end PortMessaging
