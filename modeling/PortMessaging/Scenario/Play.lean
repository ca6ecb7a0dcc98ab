import PortMessaging.Scenario.Budget
import PortMessaging.Scenario.Perform

/-!
# Scenario.Play — tasks, steps and whole scenarios

A step is an action or it moves a main loop.  A step that breaks off says so, and the scenario goes
on with the state of that moment.  Loops run within the budget of the world, which is at least what
they can run at all, so the budget never shows.
-/

namespace PortMessaging
namespace Scenario

namespace World

/-! ## Tasks -/

/-- Stores the results of what a listener did in the receipt of its call. -/
def setReplies (w : World) (position : Nat) (replies : List Reply) : World :=
  { w with receipts := w.receipts.modify position fun
    | .heard tag message context _ => .heard tag message context (some replies)
    | other => other }

/-- Counts a call of a callback. -/
def countCall (w : World) (callback : CallbackId) : World :=
  { w with behaviours := w.behaviours.modify callback fun b => { b with calls := b.calls + 1 } }

/-- Notes the call of a listener: its receipt, and that it was called. -/
def noteCall (w : World) (listener : Listener) (behaviour : Behaviour) (message : InboundMessage) :
    World :=
  (w.addReceipt (.heard behaviour.tag message (w.contextOf? listener) none)).countCall
    listener.callback

/-- Calls a listener.  The receipt is noted first; then the listener acts, unless it has acted as
often as its limit says. -/
def hear (listener : Listener) (message : InboundMessage) : Effect World Unit := do
  let w ← Effect.getState
  match w.behaviours[listener.callback]? with
  | none => return ()
  | some behaviour => do
    Effect.modifyState (·.noteCall listener behaviour message)
    -- If an action breaks off, the call stays counted and its receipt stays without results.
    if behaviour.calls < behaviour.limit ∧ behaviour.actions ≠ [] then do
      let replies ← behaviour.actions.mapM (perform (some message))
      Effect.modifyState (·.setReplies w.receipts.length replies)

def runTask (n : Nat) : Task → Effect World Unit
  | .mark tag => Effect.modifyState (·.addReceipt (.mark tag))
  | .delivery delivery => do
    delivery.run ((registryPart n).get (← Effect.getState)) hear

def mainLoop (n : Nat) : MainLoop.Loop World Task := ⟨queuePart n, runTask n⟩

/-- Runs the tasks of a site until none waits. -/
def drain (n : Nat) : Effect World Nat := do
  MainLoop.runUpTo (mainLoop n) (← Effect.getState).budget

/-! ## Loops -/

/-- Does something with the loop that a handle holds, if its kind is accepted. -/
def onLoop (name : String) (accepted : LoopKind → Bool) (x : Nat → Effect World Reply) :
    Effect World Reply := do
  let w ← Effect.getState
  match (w.loops.get? name).bind fun n => w.sites[n]?.map fun site => (n, site.kind) with
  | none => return .noLoop
  | some (n, kind) => if accepted kind then x n else return .wrongLoop

def poll (n : Nat) : Effect World Reply := do
  match ← MainLoop.poll (mainLoop n) with
  | .ran => return .flag true
  | .idle => return .nothing
  | .ended => return .flag false

/-- Runs the loop of a site that a handle holds to its end and gives the loop up. -/
def runOut (name : String) (n : Nat) : Effect World Nat :=
  Effect.ensuring
    (do MainLoop.runToEnd (mainLoop n) (← Effect.getState).budget)
    (·.dropLoop name)

/-! ## Steps -/

/-- Connects a handle with a new site. -/
def connect (name app certificate : String) (config : Config) (kind : LoopKind) (attach : Bool) :
    Effect World Reply := do
  host.connect app certificate
  -- Sites are never removed, so the next number is free for ever.
  let n := (← Effect.getState).sites.length
  Effect.modifyState fun w =>
    let w := (w.dropMessenger name).dropLoop name
    { w with
      sites := w.sites ++ [⟨app, ⟨config⟩, .empty, .fresh, kind⟩]
      handles := w.handles.insert name ⟨app, some n, none, []⟩
      loops := w.loops.insert name n }
  if attach then host.attach app (.router n)
  return .text app

/-- Connects a handle without a messenger.  A loop that the handle holds stays. -/
def connectEndpoint (name app certificate : String) : Effect World Reply := do
  host.connect app certificate
  Effect.modifyState fun w =>
    let w := w.dropMessenger name
    { w with handles := w.handles.insert name ⟨app, none, none, []⟩ }
  return .text app

def step : Step → Effect World Reply
  | .connect name app certificate config kind attach =>
    connect name app certificate config kind attach
  | .connectEndpoint name app certificate => connectEndpoint name app certificate
  | .act action => perform none action
  | .runPending name => onLoop name (fun _ => true) fun n => do return .count (← drain n)
  | .runUntilIdle name => onLoop name (· == .threaded) fun n => do return .count (← drain n)
  | .runUntil name limit expired => onLoop name (· == .threaded) fun n => do
    if expired then return .count 0
    else return .count (← MainLoop.runUpTo (mainLoop n) limit)
  | .pendingCount name => onLoop name (· == .threaded) fun n => do
    return .count ((queuePart n).get (← Effect.getState)).size
  | .loopInfo name => onLoop name (· == .threaded) fun _ => return .ownLoop
  | .runOne name => onLoop name (· == .polled) poll
  | .runToEnd name => do
    -- The messenger and its posting side go first, even if the handle holds no loop to run.
    Effect.modifyState (·.dropMessenger name)
    onLoop name (fun _ => true) fun n => do return .count (← runOut name n)
  | .closeLoop name => do
    let held := ((← Effect.getState).loops.get? name).isSome
    Effect.modifyState (·.dropLoop name)
    return .flag held

end World

/-! ## Scenarios -/

/-- What a step showed. -/
structure Answer where
  reply : Reply
  calls : List (String × Call)
  receipts : List Receipt
  log : List LogEntry
  deriving DecidableEq, Repr

/-- What a scenario showed, and what can be seen in the end. -/
structure Transcript where
  answers : List Answer
  final : Snapshot
  deriving DecidableEq, Repr

/-- The reply to a computation that may have broken off. -/
def Reply.ofFault : Except Fault Reply → Reply
  | .ok reply => reply
  | .error fault => .brokenOff fault

/-- Takes one step and shows what happened in it. -/
def playStep (w : World) (step : Step) : Answer × World :=
  let out := (World.step step).run { w with calls := [], receipts := [] }
  (⟨.ofFault out.result, out.state.calls, out.state.receipts, out.log⟩, out.state)

/-- Takes the steps one after the other. -/
def playFrom (w : World) : List Step → Transcript
  | [] => ⟨[], w.snapshot⟩
  | step :: rest =>
    let (answer, next) := playStep w step
    let later := playFrom next rest
    ⟨answer :: later.answers, later.final⟩

/-- Plays a scenario against a fresh service. -/
def play (maxPayloadBytes : Nat) (steps : List Step) : Transcript :=
  playFrom (.initial maxPayloadBytes) steps

end Scenario
end PortMessaging
