import PortMessaging.Loopback
import PortMessaging.Messenger
import PortMessaging.Scenario.Action

/-!
# Scenario.World — the state of a scenario

The world holds one loopback service, the messengers that were ever connected (`Site`), the handles
through which the scenario speaks to them, the listeners made so far, and what happened since the
last step began: the calls that reached a transport and the receipts of listeners, tasks and
collectors.

A site outlives its handle: its queue may still hold tasks, and they refer to its registry.  Whether
its router takes deliveries is told by its queue, because the router holds a posting side of it.
-/

namespace PortMessaging
namespace Scenario

/-! ## What a step shows -/

/-- A call that reached the transport of a messenger. -/
inductive Call where
  | bind (name : String) (domain : TrustDomain)
  | unbind (id : PortId)
  | check (remote : RemoteAddress) (domain : TrustDomain)
  | send (remote : RemoteAddress) (domain : TrustDomain) (payload : Payload)
  | sendWithReply (reply : PortId) (remote : RemoteAddress) (domain : TrustDomain)
      (payload : Payload)
  deriving DecidableEq, Repr

/-- A port as a scenario shows it: its entry, the tags of its listener, and the context. -/
structure PortView where
  entry : PortEntry
  tags : List String
  context : Option String
  deriving DecidableEq, Repr

structure PortsView where
  openPorts : List PortView
  trustedPorts : List PortView
  count : Nat
  deriving DecidableEq, Repr

/-- All that can be seen at rest: the names bound on the service and the ports of every handle. -/
structure Snapshot where
  boundCount : Nat
  ports : List (String × PortsView)
  deriving DecidableEq, Repr

/-- The result of an action or a step. -/
inductive Reply where
  | nothing
  | text (value : String)
  | texts (values : List String)
  | flag (value : Bool)
  | count (value : Nat)
  | portId (id : PortId)
  | domain (domain : TrustDomain)
  | bound (outcome : BindOutcome)
  | port (view : PortView)
  | ports (views : List PortView)
  | snapshot (snapshot : Snapshot)
  | config (config : Config)
  | dispatched (outcome : DispatchOutcome)
  /-- The loop belongs to the thread that asks. -/
  | ownLoop
  | failed (error : PortError)
  | transportFailed (code : TransportCode)
  | loopClosed
  | noHandle
  | noMessenger
  | noLoop
  | wrongLoop
  | brokenOff (fault : Fault)
  deriving DecidableEq, Repr

/-- What arrived somewhere. -/
inductive Receipt where
  /-- A listener was called; `replies` are the results of what it did. -/
  | heard (tag : String) (message : InboundMessage) (context : Option String)
      (replies : Option (List Reply))
  /-- A mark that was posted came to run. -/
  | mark (tag : String)
  /-- The collector of a handle took a delivery. -/
  | collected (handle : String) (event : DeliveryEvent)
  deriving DecidableEq, Repr

/-! ## The parts of the world -/

inductive Task where
  | delivery (delivery : Delivery)
  | mark (tag : String)
  deriving DecidableEq, Repr

/-- A messenger with all that belongs to it. -/
structure Site where
  /-- The application that the messenger serves. -/
  app : String
  messenger : Messenger
  registry : Registry
  queue : TaskQueue Task
  kind : LoopKind
  deriving Repr

/-- Who takes the deliveries of an application. -/
inductive Sink where
  | router (site : Nat)
  /-- A sink that a handle holds to collect deliveries. -/
  | collector (number : Nat)
  deriving DecidableEq, Repr

/-- The replies that are left for each method. -/
abbrev Script := List (Method × ScriptedReply)

/-- A participant. -/
structure Handle where
  app : String
  /-- The site of its messenger. -/
  site : Option Nat
  collector : Option Nat
  script : Script
  deriving Repr

/-- What a listener does when it is called. -/
structure Behaviour where
  tag : String
  context : Option String
  actions : List Action
  limit : Nat
  /-- How often it was called. -/
  calls : Nat

/-- The state of a scenario. -/
structure World where
  service : Loopback.Service Sink
  sites : List Site
  handles : SortedMap String Handle
  /-- The sites whose loops are held, by handle. -/
  loops : SortedMap String Nat
  /-- The listener that each tag named last. -/
  tagged : SortedMap String Listener
  /-- What listeners do, by their callback. -/
  behaviours : List Behaviour
  /-- The number of collectors made. -/
  collectors : Nat
  calls : List (String × Call)
  receipts : List Receipt

namespace World

/-- The world before the first step. -/
def initial (maxPayloadBytes : Nat) : World where
  service := .empty maxPayloadBytes
  sites := []
  handles := .empty
  loops := .empty
  tagged := .empty
  behaviours := []
  collectors := 0
  calls := []
  receipts := []

/-! ## Access -/

def modifySite (w : World) (n : Nat) (f : Site → Site) : World :=
  { w with sites := w.sites.modify n f }

def modifyHandle (w : World) (name : String) (f : Handle → Handle) : World :=
  { w with handles := w.handles.modify name f }

/-- The loopback service of the world. -/
def servicePart : Part World (Loopback.Service Sink) where
  get w := w.service
  set service w := { w with service := service }

/-- The registry of a site; a site that does not exist has an empty one. -/
def registryPart (n : Nat) : Part World Registry where
  get w := (w.sites[n]?).elim .empty (·.registry)
  set registry w := w.modifySite n ({ · with registry := registry })

/-- The queue of a site; a site that does not exist has one without sides. -/
def queuePart (n : Nat) : Part World (TaskQueue Task) where
  get w := (w.sites[n]?).elim ⟨[], false, false⟩ (·.queue)
  set queue w := w.modifySite n ({ · with queue := queue })

/-- The site of a handle's messenger, with its number. -/
def siteOf? (w : World) (handle : Handle) : Option (Nat × Site) := do
  let n ← handle.site
  return (n, ← w.sites[n]?)

/-- The handle that holds a collector. -/
def holderOf? (w : World) (collector : Nat) : Option String :=
  (w.handles.entries.find? fun e => e.2.collector == some collector).map (·.1)

/-- Whether a sink still takes deliveries. -/
def isAlive (w : World) : Sink → Bool
  | .router n => ((queuePart n).get w).posting
  | .collector k => (w.holderOf? k).isSome

def addReceipt (w : World) (receipt : Receipt) : World :=
  { w with receipts := w.receipts ++ [receipt] }

/-- Gives up the messenger of a handle and the posting side of its loop. -/
def dropMessenger (w : World) (name : String) : World :=
  match (w.handles.get? name).bind (·.site) with
  | none => w
  | some n =>
    (w.modifySite n fun site => { site with queue := site.queue.dropPosting }).modifyHandle name
      ({ · with site := none })

/-- Gives up the loop that a handle holds, with the tasks that wait in it. -/
def dropLoop (w : World) (name : String) : World :=
  match w.loops.get? name with
  | none => w
  | some n =>
    { w.modifySite n fun site => { site with queue := site.queue.dropDraining } with
      loops := w.loops.erase name }

/-! ## Listeners -/

/-- Makes a listener and gives it a tag. -/
def makeListener (w : World) (tag : String) (context : Option String) (actions : List Action)
    (limit : Nat) : Listener × World :=
  let n := w.behaviours.length
  let listener := if context.isSome then Listener.bidirectional n n else .oneWay n
  (listener, { w with
    behaviours := w.behaviours ++ [⟨tag, context, actions, limit, 0⟩]
    tagged := w.tagged.insert tag listener })

/-- The listener that is asked for.  A tag that names none yet gets a listener that does nothing. -/
def obtainListener (w : World) : ListenerRequest → Listener × World
  | .fresh tag context actions limit => w.makeListener tag context actions limit
  | .tagged tag =>
    match w.tagged.get? tag with
    | some listener => (listener, w)
    | none => w.makeListener tag none [] 1

/-- The value of a listener's context. -/
def contextOf? (w : World) (listener : Listener) : Option String :=
  listener.context?.bind fun n => (w.behaviours[n]?).bind (·.context)

/-! ## Views -/

def view (w : World) (entry : PortEntry) : PortView where
  entry := entry
  tags := (w.tagged.entries.filter fun e => e.2.sameAs entry.listener).map (·.1)
  context := w.contextOf? entry.listener

def portsView (w : World) (registry : Registry) : PortsView where
  openPorts := (registry.activePorts .openToAll).map w.view
  trustedPorts := (registry.activePorts .trusted).map w.view
  count := registry.activeCount

def snapshot (w : World) : Snapshot where
  boundCount := w.service.boundCount
  ports := w.handles.entries.filterMap fun (name, handle) =>
    (w.siteOf? handle).map fun (_, site) => (name, w.portsView site.registry)

end World

end Scenario
end PortMessaging
