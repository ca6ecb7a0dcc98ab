import Mathlib.Data.Quot
import PortMessaging.Proofs.Looks
import PortMessaging.Scenario.Play

/-!
# AlikePayloads — scenarios with other payloads in their place

Two payloads are alike if they are encoded in the same number of bytes, and, where the log may name their
keys, have the same keys.  This module puts other payloads in the place of those that stand in a delivery, a
task, an action, a world and so on (`mapPayload`), and shows of every operation on worlds that it does not
matter whether the payloads are exchanged before it or after it.

To exchange each payload for a representative of those that are alike (`Payload.representative`) makes two
worlds equal exactly if they differ in alike payloads only.
-/

namespace PortMessaging

/-! ## Alike payloads -/

namespace Payload

variable {keys : Bool}

/-- Two payloads of the same encoded length; if `keys` is set, with the same keys as well. -/
def Alike (keys : Bool) (p q : Payload) : Prop :=
  p.encodedLength = q.encodedLength ∧ (keys = true → p.keys = q.keys)

/-- A view of payloads that shows nothing but what alike payloads have in common. -/
def Blurs (keys : Bool) (view : Payload → Payload) : Prop :=
  ∀ p q, Alike keys p q → view p = view q

def alikeSetoid (keys : Bool) : Setoid Payload where
  r := Alike keys
  iseqv := {
    refl := fun _ => ⟨rfl, fun _ => rfl⟩
    symm := fun h => ⟨h.1.symm, fun hkeys => (h.2 hkeys).symm⟩
    trans := fun h₁ h₂ => ⟨h₁.1.trans h₂.1, fun hkeys => (h₁.2 hkeys).trans (h₂.2 hkeys)⟩ }

/-- One of the payloads that are alike, the same for all of them. -/
noncomputable def representative (keys : Bool) (p : Payload) : Payload :=
  (Quotient.mk (alikeSetoid keys) p).out

theorem representative_alike (keys : Bool) (p : Payload) : Alike keys (representative keys p) p :=
  Quotient.exact (s := alikeSetoid keys) (Quotient.out_eq _)

theorem representative_blurs (keys : Bool) : Blurs keys (representative keys) :=
  fun _ _ h => congrArg Quotient.out (Quotient.sound (s := alikeSetoid keys) h)

/-- A view shows a payload as it shows its representative. -/
theorem Blurs.representative {view : Payload → Payload} (h : Blurs keys view) (p : Payload) :
    view (p.representative keys) = view p :=
  h _ _ (representative_alike keys p)

end Payload

/-! ## Data with other payloads -/

section MapPayload

variable (f : Payload → Payload)

def DeliveryEvent.mapPayload (event : DeliveryEvent) : DeliveryEvent :=
  { event with payload := f event.payload }

def InboundMessage.mapPayload (message : InboundMessage) : InboundMessage :=
  { message with payload := f message.payload }

def Delivery.mapPayload (delivery : Delivery) : Delivery :=
  { delivery with event := delivery.event.mapPayload f }

/-- A queue with other tasks in the place of its own. -/
def TaskQueue.map {τ : Type} (g : τ → τ) (queue : TaskQueue τ) : TaskQueue τ :=
  { queue with waiting := queue.waiting.map g }

namespace Scenario

def Call.mapPayload : Call → Call
  | .send remote domain payload => .send remote domain (f payload)
  | .sendWithReply reply remote domain payload => .sendWithReply reply remote domain (f payload)
  | call => call

def Receipt.mapPayload : Receipt → Receipt
  | .heard tag message context replies => .heard tag (message.mapPayload f) context replies
  | .collected handle event => .collected handle (event.mapPayload f)
  | receipt => receipt

def Task.mapPayload : Task → Task
  | .delivery waiting => .delivery (waiting.mapPayload f)
  | task => task

def EndpointAction.mapPayload : EndpointAction → EndpointAction
  | .send remote domain payload => .send remote domain (f payload)
  | .sendWithReply reply remote domain payload => .sendWithReply reply remote domain (f payload)
  | action => action

mutual

def ListenerRequest.mapPayload : ListenerRequest → ListenerRequest
  | .fresh tag context actions limit => .fresh tag context (mapPayloads actions) limit
  | .tagged tag => .tagged tag

def MessengerAction.mapPayload : MessengerAction → MessengerAction
  | .register name trusted named listener =>
    .register name trusted named (listener.mapPayload)
  | .registryRegister name domain (some listener) =>
    .registryRegister name domain (some listener.mapPayload)
  | .send remote trusted named payload => .send remote trusted named (f payload)
  | .sendWithReply remote trusted named payload reply =>
    .sendWithReply remote trusted named (f payload) reply
  | .answer payload reply => .answer (payload.map f) reply
  | .gatewaySend remote domain payload => .gatewaySend remote domain (payload.map f)
  | .gatewaySendWithReply remote domain payload reply =>
    .gatewaySendWithReply remote domain (payload.map f) reply
  | .dispatch event => .dispatch (event.mapPayload f)
  | .deliver event => .deliver (event.mapPayload f)
  | action => action

def Action.mapPayload : Action → Action
  | .onEndpoint handle action => .onEndpoint handle (action.mapPayload f)
  | .onMessenger handle action => .onMessenger handle action.mapPayload
  | action => action

def mapPayloads : List Action → List Action
  | [] => []
  | action :: rest => action.mapPayload :: mapPayloads rest

end

theorem mapPayloads_eq_map (actions : List Action) :
    mapPayloads f actions = actions.map (Action.mapPayload f) := by
  induction actions with
  | nil => rfl
  | cons action rest ih => rw [mapPayloads, ih, List.map_cons]

def Step.mapPayload : Step → Step
  | .act action => .act (action.mapPayload f)
  | step => step

def Site.mapPayload (site : Site) : Site :=
  { site with queue := site.queue.map (Task.mapPayload f) }

def Behaviour.mapPayload (behaviour : Behaviour) : Behaviour :=
  { behaviour with actions := behaviour.actions.map (Action.mapPayload f) }

def World.mapPayload (w : World) : World :=
  { w with
    sites := w.sites.map (Site.mapPayload f)
    behaviours := w.behaviours.map (Behaviour.mapPayload f)
    calls := w.calls.map fun (handle, call) => (handle, call.mapPayload f)
    receipts := w.receipts.map (Receipt.mapPayload f) }

def Answer.mapPayload (answer : Answer) : Answer :=
  { answer with
    calls := answer.calls.map fun (handle, call) => (handle, call.mapPayload f)
    receipts := answer.receipts.map (Receipt.mapPayload f) }

/-! ## Budgets -/

mutual

/-- The budget of what is asked for does not depend on payloads. -/
theorem ListenerRequest.budget_mapPayload :
    ∀ request : ListenerRequest, (request.mapPayload f).budget = request.budget
  | .fresh tag context actions limit => by
    rw [ListenerRequest.mapPayload, ListenerRequest.budget, ListenerRequest.budget,
      budgetOfAll_mapPayloads actions]
  | .tagged tag => rfl

theorem MessengerAction.budget_mapPayload :
    ∀ action : MessengerAction, (action.mapPayload f).budget = action.budget
  | .register name trusted named listener => by
    rw [MessengerAction.mapPayload, MessengerAction.budget, MessengerAction.budget,
      listener.budget_mapPayload]
  | .registryRegister name domain (some listener) => by
    rw [MessengerAction.mapPayload, MessengerAction.budget, MessengerAction.budget,
      listener.budget_mapPayload]
  | .registryRegister _ _ none => rfl
  | .send _ _ _ _ => rfl
  | .sendWithReply _ _ _ _ _ => rfl
  | .answer _ _ => rfl
  | .gatewaySend _ _ _ => rfl
  | .gatewaySendWithReply _ _ _ _ => rfl
  | .dispatch _ => rfl
  | .deliver _ => rfl
  | .unregister _ _ _ => rfl
  | .check _ _ _ => rfl
  | .portName _ => rfl
  | .isTrusted _ => rfl
  | .config => rfl
  | .describe => rfl
  | .registryUnregister _ _ => rfl
  | .lookup _ _ => rfl
  | .lookupEither _ => rfl
  | .nameOf _ => rfl
  | .domainOf _ => rfl
  | .activePorts _ => rfl
  | .activeCount => rfl
  | .gatewayCheck _ _ => rfl

theorem Action.budget_mapPayload :
    ∀ action : Action, (action.mapPayload f).budget = action.budget
  | .onMessenger handle action => by
    rw [Action.mapPayload, Action.budget, Action.budget, action.budget_mapPayload]
  | .onEndpoint handle action => by cases action <;> rfl
  | .breakOff => rfl
  | .boundCount => rfl
  | .snapshot => rfl

theorem budgetOfAll_mapPayloads :
    ∀ actions : List Action, budgetOfAll (mapPayloads f actions) = budgetOfAll actions
  | [] => rfl
  | action :: rest => by
    rw [mapPayloads, budgetOfAll, budgetOfAll, action.budget_mapPayload,
      budgetOfAll_mapPayloads rest]

end

end Scenario
end MapPayload
namespace Scenario

/-! ## Worlds with other payloads -/

section Worlds

variable {f : Payload → Payload}

theorem Behaviour.budget_mapPayload (behaviour : Behaviour) :
    (behaviour.mapPayload f).budget = behaviour.budget := by
  unfold Behaviour.budget Behaviour.mapPayload
  rw [← mapPayloads_eq_map, budgetOfAll_mapPayloads]

/-- To change one member of a list and all of them can be done in either order. -/
theorem modify_map {α : Type} (g h h' : α → α) (hh : ∀ a, h' (g a) = g (h a)) (items : List α)
    (n : Nat) : (items.map g).modify n h' = (items.modify n h).map g := by
  apply List.ext_getElem?
  intro k
  rw [List.getElem?_modify, List.getElem?_map, List.getElem?_map, List.getElem?_modify]
  cases items[k]? with
  | none => rfl
  | some a => split <;> simp [hh]

namespace World

theorem mapPayload_sites_getElem? (w : World) (n : Nat) :
    (w.mapPayload f).sites[n]? = (w.sites[n]?).map (Site.mapPayload f) := List.getElem?_map

theorem mapPayload_behaviours_getElem? (w : World) (n : Nat) :
    (w.mapPayload f).behaviours[n]? = (w.behaviours[n]?).map (Behaviour.mapPayload f) :=
  List.getElem?_map

theorem mapPayload_modifySite (w : World) (n : Nat) (g g' : Site → Site)
    (h : ∀ site, g' (site.mapPayload f) = (g site).mapPayload f) :
    (w.mapPayload f).modifySite n g' = (w.modifySite n g).mapPayload f := by
  show ({ w.mapPayload f with sites := (w.sites.map (Site.mapPayload f)).modify n g' } : World) = _
  rw [modify_map _ g g' h]
  rfl

theorem mapPayload_registry_get (w : World) (n : Nat) :
    (registryPart n).get (w.mapPayload f) = (registryPart n).get w := by
  show ((w.mapPayload f).sites[n]?).elim _ _ = (w.sites[n]?).elim _ _
  rw [mapPayload_sites_getElem?]
  cases w.sites[n]? <;> rfl

theorem mapPayload_registry_set (w : World) (n : Nat) (registry : Registry) :
    (registryPart n).set registry (w.mapPayload f) = ((registryPart n).set registry w).mapPayload f :=
  mapPayload_modifySite w n _ _ fun _ => rfl

theorem mapPayload_queue_get (w : World) (n : Nat) :
    (queuePart n).get (w.mapPayload f) = ((queuePart n).get w).map (Task.mapPayload f) := by
  show ((w.mapPayload f).sites[n]?).elim _ _ = ((w.sites[n]?).elim _ _ : TaskQueue Task).map _
  rw [mapPayload_sites_getElem?]
  cases w.sites[n]? <;> rfl

theorem mapPayload_queue_set (w : World) (n : Nat) (queue : TaskQueue Task) :
    (queuePart n).set (queue.map (Task.mapPayload f)) (w.mapPayload f) =
      ((queuePart n).set queue w).mapPayload f :=
  mapPayload_modifySite w n (fun site => { site with queue := queue }) _ fun _ => rfl

theorem mapPayload_dropMessenger (w : World) (name : String) :
    (w.mapPayload f).dropMessenger name = (w.dropMessenger name).mapPayload f := by
  have hhandles : (w.mapPayload f).handles = w.handles := rfl
  unfold dropMessenger
  rw [hhandles]
  cases (w.handles.get? name).bind (·.site) with
  | none => rfl
  | some n =>
    let g (site : Site) : Site := { site with queue := site.queue.dropPosting }
    exact congrArg (modifyHandle · name ({ · with site := none }))
      (mapPayload_modifySite w n g g fun _ => rfl)

theorem mapPayload_dropLoop (w : World) (name : String) :
    (w.mapPayload f).dropLoop name = (w.dropLoop name).mapPayload f := by
  have hloops : (w.mapPayload f).loops = w.loops := rfl
  unfold dropLoop
  rw [hloops]
  cases w.loops.get? name with
  | none => rfl
  | some n =>
    let g (site : Site) : Site := { site with queue := site.queue.dropDraining }
    exact congrArg (fun v : World => { v with loops := w.loops.erase name })
      (mapPayload_modifySite w n g g fun _ => rfl)

theorem mapPayload_budget (w : World) : (w.mapPayload f).budget = w.budget := by
  show tally _ (w.sites.map _) + tally _ (w.behaviours.map _) = _
  rw [tally_map, tally_map, funext Behaviour.budget_mapPayload]
  have hsize : (fun site : Site => (site.mapPayload f).queue.size) = (·.queue.size) :=
    funext fun _ => List.length_map ..
  rw [hsize]
  rfl

theorem mapPayload_contextOf? (w : World) (listener : Listener) :
    (w.mapPayload f).contextOf? listener = w.contextOf? listener := by
  unfold contextOf?
  congr 1
  funext n
  rw [mapPayload_behaviours_getElem?]
  cases w.behaviours[n]? <;> rfl

theorem mapPayload_view (w : World) (entry : PortEntry) :
    (w.mapPayload f).view entry = w.view entry := by
  unfold view
  rw [mapPayload_contextOf?]
  rfl

theorem mapPayload_siteOf? (w : World) (handle : Handle) :
    (w.mapPayload f).siteOf? handle =
      (w.siteOf? handle).map fun (n, site) => (n, site.mapPayload f) := by
  unfold siteOf?
  cases handle.site with
  | none => rfl
  | some n =>
    show ((w.mapPayload f).sites[n]?).bind _ = ((w.sites[n]?).bind _).map _
    rw [mapPayload_sites_getElem?]
    cases w.sites[n]? <;> rfl

theorem mapPayload_snapshot (w : World) : (w.mapPayload f).snapshot = w.snapshot := by
  unfold snapshot
  congr 2
  funext entry
  show ((w.mapPayload f).siteOf? entry.2).map _ = (w.siteOf? entry.2).map _
  rw [mapPayload_siteOf?, Option.map_map]
  cases w.siteOf? entry.2 with
  | none => rfl
  | some found =>
    show some (entry.1, portsView _ found.2.registry) = some (entry.1, portsView w found.2.registry)
    unfold portsView
    rw [funext (mapPayload_view w)]

theorem mapPayload_isAlive (w : World) : (w.mapPayload f).isAlive = w.isAlive := by
  funext sink
  cases sink with
  | router n =>
    show ((queuePart n).get (w.mapPayload f)).posting = ((queuePart n).get w).posting
    rw [mapPayload_queue_get]
    rfl
  | collector k => rfl

theorem mapPayload_makeListener (w : World) (tag : String) (context : Option String)
    (actions : List Action) (limit : Nat) :
    (w.mapPayload f).makeListener tag context (actions.map (Action.mapPayload f)) limit =
      ((w.makeListener tag context actions limit).1,
        (w.makeListener tag context actions limit).2.mapPayload f) := by
  have hlength : (w.mapPayload f).behaviours.length = w.behaviours.length := List.length_map ..
  have hbehaviours : (w.mapPayload f).behaviours ++
      [(⟨tag, context, actions.map (Action.mapPayload f), limit, 0⟩ : Behaviour)] =
        (w.behaviours ++ [(⟨tag, context, actions, limit, 0⟩ : Behaviour)]).map
          (Behaviour.mapPayload f) := by
    rw [List.map_append]
    rfl
  unfold makeListener
  simp only [hlength, hbehaviours]
  rfl

theorem mapPayload_obtainListener (w : World) (request : ListenerRequest) :
    (w.mapPayload f).obtainListener (request.mapPayload f) =
      ((w.obtainListener request).1, (w.obtainListener request).2.mapPayload f) := by
  cases request with
  | fresh tag context actions limit =>
    rw [ListenerRequest.mapPayload, mapPayloads_eq_map]
    exact mapPayload_makeListener w tag context actions limit
  | tagged tag =>
    have htagged : (w.mapPayload f).tagged = w.tagged := rfl
    simp only [ListenerRequest.mapPayload, obtainListener, htagged]
    cases w.tagged.get? tag with
    | some listener => rfl
    | none => exact mapPayload_makeListener w tag none [] 1

theorem mapPayload_deskOf? (w : World) (name : String) (handle : Handle) :
    (w.mapPayload f).deskOf? name handle = w.deskOf? name handle := by
  unfold deskOf?
  rw [mapPayload_siteOf?, Option.map_map]
  rfl

end World
end Worlds
end Scenario
end PortMessaging
