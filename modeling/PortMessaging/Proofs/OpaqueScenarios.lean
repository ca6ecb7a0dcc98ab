import PortMessaging.Proofs.Deeds
import PortMessaging.Proofs.OpaquePayloads

/-!
# OpaqueScenarios — the operations on a world do not look into payloads

The look `masking` puts other payloads in the place of those in a world.  Every operation on worlds, from
the post of a task to a whole step of a scenario, commutes with it, provided that the payloads that are put
in are alike to those that they replace (`Payload.Alike`) and that no router logs the keys of payloads
unless alike payloads have the same keys (`World.Discreet`).

Operations that mention no payload are blind, that is, they are the same on both sides.  The others mention
on one side the payload and on the other side the one in its place.  That holds of listeners as well: their
actions are part of the world, and an answer may send back the payload of the message that was received.
-/

namespace PortMessaging
namespace Scenario

open Effect

variable {f : Payload → Payload} {keys : Bool}

/-! ## Worlds looked at with other payloads -/

/-- A world in which keys of payloads are logged only if `keys` is set. -/
def World.Discreet (keys : Bool) (w : World) : Prop :=
  ∀ site ∈ w.sites, site.messenger.config.logPayloadKeys = true → keys = true

theorem World.Discreet.modifySite {w : World} (h : w.Discreet keys) (n : Nat) {g : Site → Site}
    (hg : ∀ site, (g site).messenger = site.messenger) : (w.modifySite n g).Discreet keys := by
  intro site hsite
  obtain ⟨k, hk⟩ := List.getElem?_of_mem hsite
  have hold : (w.sites.modify n g)[k]? = some site := hk
  rw [List.getElem?_modify] at hold
  obtain ⟨old, hmem, rfl⟩ := Option.map_eq_some_iff.1 hold
  have hlogs := h old (List.mem_of_getElem? hmem)
  split
  · rw [hg]
    exact hlogs
  · exact hlogs

/-- Worlds with other payloads in the place of their own. -/
def masking (keys : Bool) (f : Payload → Payload) : Look World where
  map := World.mapPayload f
  meant := World.Discreet keys

namespace World

/-- A change that leaves the sites. -/
theorem keeps_of_sites {g g' : World → World} (hmap : ∀ w, g' (w.mapPayload f) = (g w).mapPayload f)
    (hsites : ∀ w, (g w).sites = w.sites) : (masking keys f).Keeps g g' := by
  intro w hw
  refine ⟨hmap w, ?_⟩
  intro site hsite
  rw [hsites] at hsite
  exact hw site hsite

theorem keeps_modifyHandle (name : String) (g : Handle → Handle) :
    (masking keys f).Keeps (·.modifyHandle name g) (·.modifyHandle name g) :=
  keeps_of_sites (fun _ => rfl) fun _ => rfl

theorem keeps_addReceipt (receipt : Receipt) :
    (masking keys f).Keeps (·.addReceipt receipt) (·.addReceipt (receipt.mapPayload f)) := by
  refine keeps_of_sites (fun w => ?_) fun _ => rfl
  simp only [addReceipt, mapPayload, List.map_append, List.map_cons, List.map_nil]

theorem keeps_addCall (name : String) (call : Call) :
    (masking keys f).Keeps (·.addCall name call) (·.addCall name (call.mapPayload f)) := by
  refine keeps_of_sites (fun w => ?_) fun _ => rfl
  simp only [addCall, mapPayload, List.map_append, List.map_cons, List.map_nil]

theorem keeps_dropMessenger (name : String) :
    (masking keys f).Keeps (·.dropMessenger name) (·.dropMessenger name) := by
  intro w hw
  refine ⟨mapPayload_dropMessenger w name, ?_⟩
  show (w.dropMessenger name).Discreet keys
  unfold dropMessenger
  split
  · exact hw
  · exact hw.modifySite _ fun _ => rfl

theorem keeps_dropLoop (name : String) :
    (masking keys f).Keeps (·.dropLoop name) (·.dropLoop name) := by
  intro w hw
  refine ⟨mapPayload_dropLoop w name, ?_⟩
  show (w.dropLoop name).Discreet keys
  unfold dropLoop
  split
  · exact hw
  · exact hw.modifySite _ fun _ => rfl

theorem spares_registry (n : Nat) : (masking keys f).Spares (registryPart n) where
  get w := mapPayload_registry_get w n
  set registry w hw := ⟨mapPayload_registry_set w n registry, hw.modifySite n fun _ => rfl⟩

/-! ## Queues -/

theorem commutes_post (n : Nat) (task : Task) :
    Commutes (masking keys f) id (MainLoop.post (queuePart n) task)
      (MainLoop.post (queuePart n) (task.mapPayload f)) := by
  intro w hw
  have hpost : ((queuePart n).get (w.mapPayload f)).post? (task.mapPayload f) =
      (((queuePart n).get w).post? task).map (TaskQueue.map (Task.mapPayload f)) := by
    rw [mapPayload_queue_get]
    unfold TaskQueue.post? TaskQueue.map
    dsimp only
    split
    · simp
    · rfl
  unfold MainLoop.post masking
  dsimp only
  rw [hpost]
  cases ((queuePart n).get w).post? task with
  | none => exact ⟨rfl, hw⟩
  | some queue =>
    refine ⟨?_, hw.modifySite n fun _ => rfl⟩
    dsimp only [Option.map]
    rw [mapPayload_queue_set]
    rfl

theorem commutes_take (n : Nat) :
    Commutes (masking keys f) (Option.map (Task.mapPayload f)) (MainLoop.take (queuePart n))
      (MainLoop.take (queuePart n)) := by
  intro w hw
  have hnext : ((queuePart n).get (w.mapPayload f)).next? =
      (((queuePart n).get w).next?).map fun (task, rest) =>
        (task.mapPayload f, rest.map (Task.mapPayload f)) := by
    rw [mapPayload_queue_get]
    unfold TaskQueue.next? TaskQueue.map
    cases ((queuePart n).get w).waiting <;> rfl
  unfold MainLoop.take masking
  dsimp only
  rw [hnext]
  cases ((queuePart n).get w).next? with
  | none => exact ⟨rfl, hw⟩
  | some taken =>
    refine ⟨?_, hw.modifySite n fun _ => rfl⟩
    dsimp only [Option.map]
    rw [mapPayload_queue_set]
    rfl

/-! ## The loopback service -/

theorem blind_update {α : Type} (change : Loopback.Service Sink → α × Loopback.Service Sink) :
    Blind (masking keys f) (host.update change) := fun _ hw => ⟨rfl, hw⟩

theorem blind_ask {α : Type} (question : Loopback.Service Sink → α) :
    Blind (masking keys f) (host.ask question) := fun _ hw => ⟨rfl, hw⟩

theorem blind_attach (app : String) (sink : Sink) :
    Blind (masking keys f) (host.attach app sink) := fun _ hw => ⟨rfl, hw⟩

theorem blind_connect (app certificate : String) :
    Blind (masking keys f) (host.connect app certificate) := fun _ hw => ⟨rfl, hw⟩

/-- A message is routed like one with an alike payload. -/
theorem route_mapPayload (hf : ∀ p, Payload.Alike keys (f p) p) (service : Loopback.Service Sink)
    (alive : Sink → Bool) (app : String) (remote : RemoteAddress) (domain : TrustDomain)
    (payload : Payload) (reply : Option Loopback.Binding) :
    service.route alive app remote domain (f payload) reply =
      (service.route alive app remote domain payload reply).map fun (sink, event) =>
        (sink, event.mapPayload f) := by
  unfold Loopback.Service.route
  rw [(hf payload).1]
  split
  · rfl
  · cases service.resolve app remote domain with
    | error code => rfl
    | ok found =>
      dsimp only
      cases found.2.sink.filter alive with
      | none => rfl
      | some sink => cases reply <;> rfl

theorem commutes_deliver (hf : ∀ p, Payload.Alike keys (f p) p) (sink : Sink)
    (event : DeliveryEvent) :
    Commutes (masking keys f) id (deliver sink event) (deliver sink (event.mapPayload f)) := by
  cases sink with
  | router n =>
    refine commutes_getState_bind fun w hw => ?_
    have hsites : ((masking keys f).map w).sites[n]? = (w.sites[n]?).map (Site.mapPayload f) :=
      mapPayload_sites_getElem? w n
    rw [hsites]
    cases hsite : w.sites[n]? with
    | none => exact blind_pure ()
    | some site =>
      exact (site.messenger.router.commutes_dispatch hf (hw site (List.mem_of_getElem? hsite))
        site.registry (fun delivery => commutes_post n (.delivery delivery)) event).bind_pure
          fun _ => rfl
  | collector k =>
    refine commutes_modifyState fun w hw => ?_
    have hholder : ((masking keys f).map w).holderOf? k = w.holderOf? k := rfl
    rw [hholder]
    cases w.holderOf? k with
    | none => exact ⟨rfl, hw⟩
    | some name => exact keeps_addReceipt (.collected name event) w hw

theorem commutes_transmit (hf : ∀ p, Payload.Alike keys (f p) p) (app : String)
    (remote : RemoteAddress) (domain : TrustDomain) (payload : Payload)
    (reply : Option Loopback.Binding) :
    Commutes (masking keys f) id (host.transmit app remote domain payload reply)
      (host.transmit app remote domain (f payload) reply) := by
  refine commutes_getState_bind fun w _ => ?_
  have halive : host.alive ((masking keys f).map w) = host.alive w := mapPayload_isAlive w
  have hservice : host.service.get ((masking keys f).map w) = host.service.get w := rfl
  rw [halive, hservice, route_mapPayload hf]
  cases (host.service.get w).route (host.alive w) app remote domain payload reply with
  | error code => exact blind_pure _
  | ok routed =>
    exact blind_log.bind fun _ => (commutes_deliver hf routed.1 routed.2).bind_pure fun _ => rfl

theorem opaque_endpoint (hf : ∀ p, Payload.Alike keys (f p) p) (app : String) :
    (host.endpoint app).Opaque (masking keys f) f where
  bind name domain := blind_update (·.bind app name domain)
  unbind id := blind_update (·.unbind app id)
  checkRemote remote domain := blind_ask (·.checkRemote app remote domain)
  send remote domain payload := commutes_transmit hf app remote domain payload none
  sendWithReply reply remote domain payload := by
    refine (blind_ask _).bind fun binding => ?_
    cases binding with
    | error code => exact blind_pure _
    | ok binding => exact commutes_transmit hf app remote domain payload (some binding)

/-! ## Taps -/

theorem blind_takeReply (name : String) (method : Method) :
    Blind (masking keys f) (takeReply name method) := by
  refine commutes_getState_bind fun w _ => ?_
  have hhandles : ((masking keys f).map w).handles = w.handles := rfl
  rw [hhandles]
  cases (w.handles.get? name).bind fun handle => handle.script.next? method with
  | none => exact blind_pure none
  | some found =>
    exact (commutes_modifyState (keeps_modifyHandle name _)).bind_pure fun _ => rfl

theorem commutes_tap {α : Type} (name : String) (method : Method) (call : Call)
    (fits : ScriptedReply → Option α) {real real' : Effect World (Except TransportCode α)}
    (hreal : Commutes (masking keys f) id real real') :
    Commutes (masking keys f) id (tap name method call fits real)
      (tap name method (call.mapPayload f) fits real') := by
  refine (commutes_modifyState (keeps_addCall name call)).bind fun _ =>
    (blind_takeReply name method).bind fun scripted => ?_
  split
  · exact hreal
  · exact commutes_abort id .transport
  · exact blind_pure _
  · split
    · exact blind_pure _
    · exact hreal

theorem opaque_tapped (hf : ∀ p, Payload.Alike keys (f p) p) (name app : String) :
    (tapped name app).Opaque (masking keys f) f where
  bind port domain := commutes_tap name .bind (.bind port domain) boundBy
    ((opaque_endpoint hf app).bind port domain)
  unbind id := commutes_tap name .unbind (.unbind id) doneBy ((opaque_endpoint hf app).unbind id)
  checkRemote remote domain := commutes_tap name .check (.check remote domain) foundBy
    ((opaque_endpoint hf app).checkRemote remote domain)
  send remote domain payload := commutes_tap name .send (.send remote domain payload) doneBy
    ((opaque_endpoint hf app).send remote domain payload)
  sendWithReply reply remote domain payload :=
    commutes_tap name .sendWithReply (.sendWithReply reply remote domain payload) doneBy
      ((opaque_endpoint hf app).sendWithReply reply remote domain payload)

/-! ## Actions -/

theorem blind_postMark (handle : Handle) (mark : String) :
    Blind (masking keys f) (postMark handle mark) := by
  unfold postMark
  cases handle.site with
  | none => exact blind_pure _
  | some n =>
    refine (commutes_post n (.mark mark)).bind fun taken => ?_
    cases taken <;> exact blind_pure _

theorem blind_attachCollector (name app : String) :
    Blind (masking keys f) (attachCollector name app) := by
  refine commutes_getState_bind fun w _ => (commutes_modifyState ?_).bind fun _ => ?_
  · exact keeps_of_sites (fun _ => rfl) fun _ => rfl
  · exact (blind_attach app (.collector w.collectors)).bind_pure _

theorem commutes_performOnEndpoint (hf : ∀ p, Payload.Alike keys (f p) p) (name : String)
    (handle : Handle) (action : EndpointAction) :
    Commutes (masking keys f) id (performOnEndpoint name handle action)
      (performOnEndpoint name handle (action.mapPayload f)) := by
  have hendpoint := opaque_endpoint hf handle.app
  cases action with
  | appId => exact blind_pure _
  | bind port domain => exact Blind.bind_pure (hendpoint.bind port domain) _
  | unbind id => exact Blind.bind_pure (hendpoint.unbind id) _
  | check remote domain => exact Blind.bind_pure (hendpoint.checkRemote remote domain) _
  | send remote domain payload => exact (hendpoint.send remote domain payload).bind_pure fun _ => rfl
  | sendWithReply reply remote domain payload =>
    exact (hendpoint.sendWithReply reply remote domain payload).bind_pure fun _ => rfl
  | attachCollector => exact blind_attachCollector name handle.app
  | detachCollector =>
    exact (commutes_modifyState (keeps_modifyHandle name _)).bind_pure fun _ => rfl
  | script method replies =>
    exact (commutes_modifyState (keeps_modifyHandle name _)).bind_pure fun _ => rfl
  | post mark => exact blind_postMark handle mark
  | dropMessenger => exact (commutes_modifyState (keeps_dropMessenger name)).bind_pure fun _ => rfl

theorem commutes_obtain (request : ListenerRequest) :
    Commutes (masking keys f) id (obtain request) (obtain (request.mapPayload f)) := by
  intro w hw
  have hrun : ∀ (request : ListenerRequest) (w : World), (obtain request).run w =
      ⟨.ok (w.obtainListener request).1, (w.obtainListener request).2, []⟩ := fun _ _ => rfl
  have hsites : (w.obtainListener request).2.sites = w.sites := (quiet_obtainListener w request).sites
  refine ⟨?_, ?_⟩
  · show (obtain _).run (w.mapPayload f) = _
    rw [hrun, mapPayload_obtainListener]
    rfl
  · intro site hsite
    rw [hrun, hsites] at hsite
    exact hw site hsite

namespace Desk

variable {desk : Desk}

theorem blind_onRegistry {α : Type} {x : Effect (Registry × World) α}
    (hx : Blind ((masking keys f).beside Registry) x) : Blind (masking keys f) (desk.onRegistry x) :=
  hx.holding (spares_registry desk.site)

theorem blind_registry : Blind (masking keys f) desk.registry := by
  refine commutes_getState_bind fun w _ => commutes_pure ?_
  exact (mapPayload_registry_get w desk.site).symm

/-- Entries of the registry are shown with what is known of their listeners. -/
theorem blind_registryView (shown : (PortEntry → PortView) → Registry → Reply) :
    Blind (masking keys f) (do
      let w ← getState
      return shown w.view (← desk.registry)) := by
  refine commutes_getState_bind fun w _ => Commutes.bind_pure blind_registry fun registry => ?_
  have hview : (w.mapPayload f).view = w.view := funext (mapPayload_view w)
  show shown w.view registry = shown (w.mapPayload f).view registry
  rw [hview]

variable (htransport : desk.transport.Opaque (masking keys f) f)

include htransport

theorem blind_register (name : String) (trusted named : Bool) (listener : Listener) :
    Blind ((masking keys f).beside Registry) (desk.register name trusted named listener) := by
  have hregister := Registry.blind_register htransport desk.messenger.translator name
  cases named with
  | false => exact hregister (.ofTrusted trusted) (some listener)
  | true => cases trusted <;> exact hregister _ (some listener)

theorem blind_unregister (id : PortId) (trusted named : Bool) :
    Blind ((masking keys f).beside Registry) (desk.unregister id trusted named) := by
  have hunregister := desk.messenger.blind_unregisterPort htransport id
  cases named with
  | false => exact hunregister trusted
  | true => cases trusted <;> exact hunregister _

theorem blind_check (remote : RemoteAddress) (trusted named : Bool) :
    Blind (masking keys f) (desk.check remote trusted named) := by
  have hcheck := desk.messenger.gateway.blind_checkRemote htransport remote
  cases named with
  | false => exact hcheck (.ofTrusted trusted)
  | true => cases trusted <;> exact hcheck _

variable (hf : ∀ p, Payload.Alike keys (f p) p)

include hf

theorem commutes_send (remote : RemoteAddress) (trusted named : Bool) (payload : Payload) :
    Commutes (masking keys f) id (desk.send remote trusted named payload)
      (desk.send remote trusted named (f payload)) := by
  have hsend : ∀ domain, Commutes (masking keys f) id _ _ := fun domain =>
    desk.messenger.gateway.commutes_send hf htransport remote domain (some payload)
  cases named with
  | false => exact hsend (.ofTrusted trusted)
  | true => cases trusted <;> exact hsend _

theorem commutes_sendWithReply (remote : RemoteAddress) (trusted named : Bool) (payload : Payload)
    (reply : PortId) :
    Commutes (masking keys f) id (desk.sendWithReply remote trusted named payload reply)
      (desk.sendWithReply remote trusted named (f payload) reply) := by
  refine blind_registry.bind fun registry => ?_
  have hsend : ∀ domain, Commutes (masking keys f) id _ _ := fun domain =>
    desk.messenger.gateway.commutes_sendWithReply hf htransport registry remote domain (some payload)
      reply
  cases named with
  | false => exact hsend (.ofTrusted trusted)
  | true => cases trusted <;> exact hsend _

theorem commutes_answer (message? : Option InboundMessage) (payload : Option Payload)
    (reply : Option PortId) :
    Commutes (masking keys f) id (desk.answer message? payload reply)
      (desk.answer (message?.map (InboundMessage.mapPayload f)) (payload.map f) reply) := by
  have hport : (message?.map (InboundMessage.mapPayload f)).bind
      (fun m => m.remotePort.map fun port => (m, port)) =
        (message?.bind fun m => m.remotePort.map fun port => (m, port)).map fun (m, port) =>
          (m.mapPayload f, port) := by
    cases message? with
    | none => rfl
    | some message =>
      show message.remotePort.map _ = (message.remotePort.map _).map _
      rw [Option.map_map]
      rfl
  unfold answer
  rw [hport]
  cases message?.bind fun m => m.remotePort.map fun port => (m, port) with
  | none => exact blind_pure _
  | some found =>
    obtain ⟨message, port⟩ := found
    have hpayload : (payload.map f).getD (message.mapPayload f).payload =
        f (payload.getD message.payload) := by
      cases payload <;> rfl
    simp only [Option.map_some, hpayload]
    cases reply with
    | none => exact (commutes_send htransport hf _ _ _ _).bind_pure fun _ => rfl
    | some id => exact (commutes_sendWithReply htransport hf _ _ _ _ id).bind_pure fun _ => rfl

variable (hdiscreet : desk.messenger.config.logPayloadKeys = true → keys = true)

omit htransport in
include hdiscreet in
theorem commutes_dispatch (event : DeliveryEvent) :
    Commutes (masking keys f) id (desk.dispatch event) (desk.dispatch (event.mapPayload f)) :=
  blind_registry.bind fun registry => desk.messenger.router.commutes_dispatch hf hdiscreet registry
    (fun delivery => commutes_post desk.site (.delivery delivery)) event

include htransport hdiscreet in
/-- An action on a messenger. -/
theorem commutes_perform (message? : Option InboundMessage) (action : MessengerAction) :
    Commutes (masking keys f) id (desk.perform message? action)
      (desk.perform (message?.map (InboundMessage.mapPayload f)) (action.mapPayload f)) := by
  cases action with
  | register name trusted named request =>
    rw [MessengerAction.mapPayload]
    exact (commutes_obtain request).bind fun listener =>
      (blind_onRegistry (blind_register htransport name trusted named listener)).bind_pure _
  | unregister id trusted named =>
    exact (blind_onRegistry (blind_unregister htransport id trusted named)).bind_pure _
  | check remote trusted named => exact (blind_check htransport remote trusted named).bind_pure _
  | send remote trusted named payload =>
    exact (commutes_send htransport hf remote trusted named payload).bind_pure fun _ => rfl
  | sendWithReply remote trusted named payload reply =>
    exact (commutes_sendWithReply htransport hf remote trusted named payload reply).bind_pure
      fun _ => rfl
  | answer payload reply => exact commutes_answer htransport hf message? payload reply
  | portName id =>
    exact blind_registry.bind fun registry => (Messenger.blind_localPortName registry id).bind_pure _
  | isTrusted id =>
    exact blind_registry.bind fun registry =>
      (Messenger.blind_isTrustedLocalPort registry id).bind_pure _
  | config => exact blind_pure _
  | describe => exact blind_registry.bind_pure _
  | registryRegister name domain request =>
    have hregister : ∀ listener, Blind (masking keys f) (do
        return Reply.ofResult .portId (← desk.onRegistry (Registry.register
          desk.messenger.translator desk.transport name domain listener))) := fun listener =>
      (blind_onRegistry (Registry.blind_register htransport _ name domain listener)).bind_pure _
    cases request with
    | none => exact (blind_pure none).bind hregister
    | some request =>
      rw [MessengerAction.mapPayload]
      exact (commutes_obtain request).bind fun listener => (blind_pure (some listener)).bind hregister
  | registryUnregister id domain =>
    refine (blind_onRegistry (Registry.blind_unregister htransport desk.messenger.translator id
      domain)).bind fun retired => commutes_getState_bind fun w _ => commutes_pure ?_
    have hview : (w.mapPayload f).view = w.view := funext (mapPayload_view w)
    show Reply.ofResult _ retired = Reply.ofResult (fun entry => .port ((w.mapPayload f).view entry)) _
    rw [hview]
  | lookup id domain =>
    exact blind_registryView fun view registry =>
      .ofOption (fun entry => .port (view entry)) (registry.lookup id domain)
  | lookupEither id =>
    exact blind_registryView fun view registry =>
      .ofOption (fun entry => .port (view entry)) (registry.lookupEither id)
  | nameOf id => exact blind_registry.bind_pure _
  | domainOf id => exact blind_registry.bind_pure _
  | activePorts domain =>
    exact blind_registryView fun view registry => .ports ((registry.activePorts domain).map view)
  | activeCount => exact blind_registry.bind_pure _
  | gatewayCheck remote domain =>
    exact (desk.messenger.gateway.blind_checkRemote htransport remote domain).bind_pure _
  | gatewaySend remote domain payload =>
    exact (desk.messenger.gateway.commutes_send hf htransport remote domain payload).bind_pure
      fun _ => rfl
  | gatewaySendWithReply remote domain payload reply =>
    exact blind_registry.bind fun registry => (desk.messenger.gateway.commutes_sendWithReply hf
      htransport registry remote domain payload reply).bind_pure fun _ => rfl
  | dispatch event => exact (commutes_dispatch hf hdiscreet event).bind_pure fun _ => rfl
  | deliver event => exact (commutes_dispatch hf hdiscreet event).bind_pure fun _ => rfl

end Desk

/-- The desks of a world speak to transports that do not look into payloads. -/
theorem opaque_desk (hf : ∀ p, Payload.Alike keys (f p) p) {w : World} (hw : w.Discreet keys)
    {name : String} {handle : Handle} {desk : Desk} (h : w.deskOf? name handle = some desk) :
    desk.transport.Opaque (masking keys f) f ∧
      (desk.messenger.config.logPayloadKeys = true → keys = true) := by
  obtain ⟨⟨n, site⟩, hsite, rfl⟩ := Option.map_eq_some_iff.1 h
  obtain ⟨k, -, hfound⟩ := Option.bind_eq_some_iff.1 hsite
  obtain ⟨found, hmem, hpair⟩ := Option.bind_eq_some_iff.1 hfound
  cases hpair
  exact ⟨opaque_tapped hf name handle.app, hw _ (List.mem_of_getElem? hmem)⟩

/-- An action does with another payload, also in the message that the acting listener was called with, what
it does with the first. -/
theorem commutes_perform (hf : ∀ p, Payload.Alike keys (f p) p) (message? : Option InboundMessage)
    (action : Action) :
    Commutes (masking keys f) id (perform message? action)
      (perform (message?.map (InboundMessage.mapPayload f)) (action.mapPayload f)) := by
  cases action with
  | breakOff => exact commutes_abort id .listener
  | boundCount => exact commutes_getState_bind fun w _ => commutes_pure rfl
  | snapshot =>
    refine commutes_getState_bind fun w _ => commutes_pure ?_
    exact congrArg Reply.snapshot (mapPayload_snapshot w).symm
  | onEndpoint name action =>
    rw [Action.mapPayload]
    refine commutes_getState_bind fun w _ => ?_
    have hhandles : ((masking keys f).map w).handles = w.handles := rfl
    rw [hhandles]
    cases w.handles.get? name with
    | none => exact blind_pure _
    | some handle => exact commutes_performOnEndpoint hf name handle action
  | onMessenger name action =>
    rw [Action.mapPayload]
    refine commutes_getState_bind fun w hw => ?_
    have hhandles : ((masking keys f).map w).handles = w.handles := rfl
    have hdesks : ((masking keys f).map w).deskOf? = w.deskOf? :=
      funext fun name => funext fun handle => mapPayload_deskOf? w name handle
    rw [hhandles, hdesks]
    cases w.handles.get? name with
    | none => exact blind_pure _
    | some handle =>
      dsimp only
      cases hdesk : w.deskOf? name handle with
      | none => exact blind_pure _
      | some desk =>
        obtain ⟨htransport, hdiscreet⟩ := opaque_desk hf hw hdesk
        exact desk.commutes_perform htransport hf hdiscreet message? action

/-! ## Tasks -/

theorem keeps_countCall (callback : CallbackId) :
    (masking keys f).Keeps (·.countCall callback) (·.countCall callback) := by
  refine keeps_of_sites (fun w => ?_) fun _ => rfl
  let counted (b : Behaviour) : Behaviour := { b with calls := b.calls + 1 }
  exact congrArg (fun behaviours => { w.mapPayload f with behaviours := behaviours })
    (modify_map (Behaviour.mapPayload f) counted counted (fun _ => rfl) w.behaviours callback)

theorem keeps_noteCall (listener : Listener) (behaviour : Behaviour) (message : InboundMessage) :
    (masking keys f).Keeps (·.noteCall listener behaviour message)
      (·.noteCall listener (behaviour.mapPayload f) (message.mapPayload f)) := by
  intro w hw
  have hcontext : ((masking keys f).map w).contextOf? listener = w.contextOf? listener :=
    mapPayload_contextOf? w listener
  dsimp only [noteCall]
  rw [hcontext]
  exact (keeps_countCall listener.callback).comp
    (keeps_addReceipt (.heard behaviour.tag message (w.contextOf? listener) none)) w hw

theorem keeps_setReplies (position : Nat) (replies : List Reply) :
    (masking keys f).Keeps (·.setReplies position replies) (·.setReplies position replies) := by
  refine keeps_of_sites (fun w => ?_) fun _ => rfl
  unfold setReplies mapPayload
  dsimp only
  rw [modify_map _ _ _ fun receipt => ?_]
  cases receipt <;> rfl

theorem commutes_noteHearing (listener : Listener) (message : InboundMessage) :
    Commutes (masking keys f) id (noteHearing listener message)
      (noteHearing listener (message.mapPayload f)) := by
  refine commutes_getState_bind fun w _ => ?_
  have hbehaviour : ((masking keys f).map w).behaviours[listener.callback]? =
      (w.behaviours[listener.callback]?).map (Behaviour.mapPayload f) :=
    mapPayload_behaviours_getElem? w listener.callback
  rw [hbehaviour]
  cases w.behaviours[listener.callback]? with
  | none => exact blind_pure ()
  | some behaviour => exact commutes_modifyState (keeps_noteCall listener behaviour message)

theorem commutes_hear (hf : ∀ p, Payload.Alike keys (f p) p) (listener : Listener)
    (message : InboundMessage) :
    Commutes (masking keys f) id (hear listener message) (hear listener (message.mapPayload f)) := by
  refine commutes_getState_bind fun w _ => ?_
  have hbehaviour : ((masking keys f).map w).behaviours[listener.callback]? =
      (w.behaviours[listener.callback]?).map (Behaviour.mapPayload f) :=
    mapPayload_behaviours_getElem? w listener.callback
  rw [hbehaviour]
  cases w.behaviours[listener.callback]? with
  | none => exact blind_pure ()
  | some behaviour =>
    refine (commutes_modifyState (keeps_noteCall listener behaviour message)).bind fun _ => ?_
    have hacts : (behaviour.mapPayload f).calls < (behaviour.mapPayload f).limit ∧
        (behaviour.mapPayload f).actions ≠ [] ↔
          behaviour.calls < behaviour.limit ∧ behaviour.actions ≠ [] := by
      simp [Behaviour.mapPayload]
    have hposition : ((masking keys f).map w).receipts.length = w.receipts.length := List.length_map ..
    by_cases hact : behaviour.calls < behaviour.limit ∧ behaviour.actions ≠ []
    · rw [if_pos hact, if_pos (hacts.2 hact), hposition]
      refine (Commutes.mapM (commutes_perform hf (some message)) behaviour.actions).bind
        fun replies => ?_
      rw [List.map_id]
      exact commutes_modifyState (keeps_setReplies w.receipts.length replies)
    · rw [if_neg hact, if_neg (mt hacts.1 hact)]
      exact blind_pure ()

/-- A task on the main loop of a site, whatever the call of a listener comes to. -/
theorem commutes_runDelivery (n : Nat) (delivery : Delivery)
    {call : Listener → InboundMessage → Effect World Unit}
    (hcall : ∀ listener message,
      Commutes (masking keys f) id (call listener message) (call listener (message.mapPayload f))) :
    Commutes (masking keys f) id
      (do delivery.run ((registryPart n).get (← getState)) call)
      (do (delivery.mapPayload f).run ((registryPart n).get (← getState)) call) := by
  refine commutes_getState_bind fun w _ => ?_
  have hregistry : (registryPart n).get ((masking keys f).map w) = (registryPart n).get w :=
    mapPayload_registry_get w n
  rw [hregistry]
  exact delivery.commutes_run _ hcall

theorem commutes_runTask (hf : ∀ p, Payload.Alike keys (f p) p) (n : Nat) (task : Task) :
    Commutes (masking keys f) id (runTask n task) (runTask n (task.mapPayload f)) := by
  cases task with
  | mark tag => exact commutes_modifyState (keeps_addReceipt (.mark tag))
  | delivery waiting => exact commutes_runDelivery n waiting (commutes_hear hf)

theorem commutes_startTask (n : Nat) (task : Task) :
    Commutes (masking keys f) id (startTask n task) (startTask n (task.mapPayload f)) := by
  cases task with
  | mark tag => exact commutes_modifyState (keeps_addReceipt (.mark tag))
  | delivery waiting => exact commutes_runDelivery n waiting commutes_noteHearing

/-! ## Loops -/

theorem blind_runNext (n : Nat) {exec : Task → Effect World Unit}
    (hexec : ∀ task, Commutes (masking keys f) id (exec task) (exec (task.mapPayload f))) :
    Blind (masking keys f) (MainLoop.runNext ⟨queuePart n, exec⟩) := by
  refine (commutes_take n).bind fun task => ?_
  cases task with
  | none => exact blind_pure false
  | some task => exact (hexec task).bind_pure fun _ => rfl

section Loops

variable (hf : ∀ p, Payload.Alike keys (f p) p)

include hf

theorem blind_runUpTo (n limit : Nat) :
    Blind (masking keys f) (MainLoop.runUpTo (mainLoop n) limit) := by
  induction limit with
  | zero => exact blind_pure 0
  | succ limit ih =>
    refine (blind_runNext n (commutes_runTask hf n)).bind fun ran => ?_
    cases ran with
    | true => exact Blind.bind_pure ih _
    | false => exact blind_pure 0

theorem blind_drain (n : Nat) : Blind (masking keys f) (drain n) := by
  refine commutes_getState_bind fun w _ => ?_
  have hbudget : ((masking keys f).map w).budget = w.budget := mapPayload_budget w
  rw [hbudget]
  exact blind_runUpTo hf n w.budget

theorem blind_runOut (name : String) (n : Nat) : Blind (masking keys f) (runOut name n) := by
  refine Commutes.ensuring (commutes_getState_bind fun w _ => ?_) (keeps_dropLoop name)
  have hbudget : ((masking keys f).map w).budget = w.budget := mapPayload_budget w
  rw [hbudget]
  exact (blind_runUpTo hf n w.budget).bind fun _ => blind_log.bind_pure _

theorem blind_poll (n : Nat) : Blind (masking keys f) (poll n) := by
  have hpoll : Blind (masking keys f) (MainLoop.poll (mainLoop n)) := by
    refine (blind_runNext n (commutes_runTask hf n)).bind fun ran => ?_
    cases ran with
    | true => exact blind_pure _
    | false =>
      refine commutes_getState_bind fun w _ => ?_
      have hposting : ((queuePart n).get ((masking keys f).map w)).posting =
          ((queuePart n).get w).posting := by
        show ((queuePart n).get (w.mapPayload f)).posting = _
        rw [mapPayload_queue_get]
        rfl
      show Commutes _ _ (if ((queuePart n).get w).posting then _ else _)
        (if ((queuePart n).get ((masking keys f).map w)).posting then _ else _)
      rw [hposting]
      split <;> exact blind_pure _
  refine hpoll.bind fun outcome => ?_
  cases outcome <;> exact blind_pure _

end Loops

theorem blind_onLoop (name : String) (accepted : LoopKind → Bool) {x : Nat → Effect World Reply}
    (hx : ∀ n, Blind (masking keys f) (x n)) : Blind (masking keys f) (onLoop name accepted x) := by
  refine commutes_getState_bind fun w _ => ?_
  have hloop : (((masking keys f).map w).loops.get? name).bind
      (fun n => (((masking keys f).map w).sites[n]?).map fun site => (n, site.kind)) =
        (w.loops.get? name).bind fun n => (w.sites[n]?).map fun site => (n, site.kind) := by
    show (w.loops.get? name).bind (fun n => ((w.mapPayload f).sites[n]?).map _) = _
    congr 1
    funext n
    rw [mapPayload_sites_getElem?, Option.map_map]
    rfl
  rw [hloop]
  cases (w.loops.get? name).bind fun n => (w.sites[n]?).map fun site => (n, site.kind) with
  | none => exact blind_pure _
  | some found =>
    dsimp only
    split
    · exact hx found.1
    · exact blind_pure _

/-! ## Steps -/

theorem blind_connectSite (name app certificate : String) (config : Config) (kind : LoopKind)
    (attach : Bool) (hconfig : config.logPayloadKeys = true → keys = true) :
    Blind (masking keys f) (connect name app certificate config kind attach) := by
  refine (blind_connect app certificate).bind fun _ => commutes_getState_bind fun w _ => ?_
  have hnumber : ((masking keys f).map w).sites.length = w.sites.length := List.length_map ..
  rw [hnumber]
  refine (commutes_modifyState ?_).bind fun _ => ?_
  · -- The queue of the new site is empty, and its router logs keys only if that is allowed.
    let occupy (w' : World) : World :=
      { w' with
        sites := w'.sites ++ [⟨app, ⟨config⟩, .empty, .fresh, kind⟩]
        handles := w'.handles.insert name ⟨app, some w.sites.length, none, []⟩
        loops := w'.loops.insert name w.sites.length }
    have hoccupy : (masking keys f).Keeps occupy occupy := by
      intro w' hw'
      refine ⟨?_, ?_⟩
      · simp only [occupy, masking, mapPayload, List.map_append, List.map_cons, List.map_nil]
        rfl
      · intro site hsite
        rcases List.mem_append.1 hsite with hold | hnew
        · exact hw' site hold
        · cases List.mem_singleton.1 hnew
          exact hconfig
    exact hoccupy.comp ((keeps_dropLoop name).comp (keeps_dropMessenger name))
  · cases attach with
    | true => exact (blind_attach app _).bind fun _ => blind_pure _
    | false => exact blind_pure _

theorem blind_connectEndpoint (name app certificate : String) :
    Blind (masking keys f) (connectEndpoint name app certificate) := by
  refine (blind_connect app certificate).bind fun _ => (commutes_modifyState ?_).bind_pure fun _ => rfl
  let occupy (w : World) : World :=
    { w with handles := w.handles.insert name ⟨app, none, none, []⟩ }
  have hoccupy : (masking keys f).Keeps occupy occupy := keeps_of_sites (fun _ => rfl) fun _ => rfl
  exact hoccupy.comp (keeps_dropMessenger name)

theorem keeps_beginStep :
    (masking keys f).Keeps ({ · with calls := [], receipts := [] })
      ({ · with calls := [], receipts := [] }) :=
  keeps_of_sites (fun _ => rfl) fun _ => rfl

end World

/-- The settings with which a step connects a messenger. -/
def Step.config? : Step → Option Config
  | .connect _ _ _ config _ _ => some config
  | _ => none

namespace World

theorem commutes_step (hf : ∀ p, Payload.Alike keys (f p) p) (s : Step)
    (hconfig : ∀ config, s.config? = some config → config.logPayloadKeys = true → keys = true) :
    Commutes (masking keys f) id (step s) (step (s.mapPayload f)) := by
  cases s with
  | connect name app certificate config kind attach =>
    exact blind_connectSite name app certificate config kind attach (hconfig config rfl)
  | connectEndpoint name app certificate => exact blind_connectEndpoint name app certificate
  | act action => exact commutes_perform hf none action
  | runPending name => exact blind_onLoop name _ fun n => (blind_drain hf n).bind_pure _
  | runUntilIdle name => exact blind_onLoop name _ fun n => (blind_drain hf n).bind_pure _
  | runUntil name limit expired =>
    refine blind_onLoop name _ fun n => ?_
    cases expired with
    | true => exact blind_pure _
    | false => exact (blind_runUpTo hf n limit).bind_pure _
  | pendingCount name =>
    refine blind_onLoop name _ fun n => commutes_getState_bind fun w _ => commutes_pure ?_
    have hsize : ((queuePart n).get (w.mapPayload f)).size = ((queuePart n).get w).size := by
      rw [mapPayload_queue_get]
      exact List.length_map ..
    exact congrArg Reply.count hsize.symm
  | loopInfo name => exact blind_onLoop name _ fun _ => blind_pure _
  | runOne name => exact blind_onLoop name _ fun n => blind_poll hf n
  | runToEnd name =>
    exact (commutes_modifyState (keeps_dropMessenger name)).bind fun _ =>
      blind_onLoop name _ fun n => (blind_runOut hf name n).bind_pure _
  | closeLoop name =>
    refine commutes_getState_bind fun w _ => ?_
    exact (commutes_modifyState (keeps_dropLoop name)).bind_pure fun _ => rfl

end World
end Scenario
end PortMessaging
