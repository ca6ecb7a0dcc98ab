import PortMessaging.Proofs.Moves
import PortMessaging.Proofs.Requests
import PortMessaging.Proofs.Taps

/-!
# Deeds — what a move can do

Scenarios have many actions, but few things ever happen to a world.  `Deed` lists them: sites and handles
are as before while the service was asked something or tasks came and went, a handle got a script, a
registry changed, or a handle was connected.  `next_deed` shows that every move is one of these deeds;
invariants of runs are proved by going through the deeds, and no other module opens the actions.

A deed also keeps the reason of the move that did it: whose bindings it worked on, and what was sent
when a delivery was posted (`Posts`).
-/

namespace PortMessaging
namespace Scenario
namespace World

open Loopback (Service)
open Registry (Registration Unregistration)

/-! ## The list of deeds -/

/-- Why a move posts a task at a site. -/
inductive Posts (w : World) (move : Move) (n : Nat) : Task → Prop where
  | mark (tag : String) : Posts w move n (.mark tag)
  | injected {event : DeliveryEvent} {d : TrustDomain} (hinjected : move.injected? = some event) :
      Posts w move n (.delivery ⟨d, event⟩)
  | sent {sending : Sending} {event : DeliveryEvent} {d : TrustDomain} {place : Place}
      (hsending : w.sending? move = some sending)
      (hroutes : w.service.Routes sending.sender sending.remote sending.domain move.reply? (.router n)
        event)
      (hplace : w.places[n]? = some place)
      (hdomain : place.registry.domainOf? event.target = some d) :
      Posts w move n (.delivery ⟨d, event⟩)

/-- What a move made of the service, where no registry changed and nobody connected. -/
inductive Asked (w : World) (move : Move) (service : Service Sink) : Prop where
  | nothing (hservice : service = w.service)
  /-- A handle asked its endpoint to bind a name. -/
  | bound {name port : String} {domain : TrustDomain} {handle : Handle}
      (hbinder : move.binder? = some (name, .endpoint))
      (hhandle : w.handles.get? name = some handle)
      (hservice : service = (w.service.bind handle.app port domain).2)
  /-- A handle asked its endpoint to release an id. -/
  | unbound {name : String} {id : PortId} {handle : Handle}
      (hbinder : move.binder? = some (name, .endpoint))
      (hhandle : w.handles.get? name = some handle)
      (hservice : service = (w.service.unbind handle.app id).2)
  | attached {app : String} {number : Nat}
      (hservice : service = w.service.attach app (.collector number))
      (hattachment : w.attachment? move = some (app, .collector number))

/-- What a move made of the tasks that wait. -/
inductive Queued (w : World) (move : Move) (w' : World) : Prop where
  | left (hwaiting : ∀ n, w'.waitingAt n = w.waitingAt n ∨ w'.waitingAt n = [])
  | posted {n : Nat} {task : Task} (hself : w'.waitingAt n = w.waitingAt n ++ [task])
      (hother : ∀ k, k ≠ n → w'.waitingAt k = w.waitingAt k) (hposts : Posts w move n task)
  | took {n : Nat} {task : Task} (hself : w.waitingAt n = task :: w'.waitingAt n)
      (hother : ∀ k, k ≠ n → w'.waitingAt k = w.waitingAt k)

/-- How a registry changed over a transport: by one registration or by one unregistration. -/
inductive Changed (move : Move) (transport : Transport World) (registry : Registry) (w : World) :
    Registry → World → Prop where
  | registered {translator : Translator} {port : String} {domain : TrustDomain}
      {listener : Option Listener} {result : Except Fault (Except PortError PortId)}
      {registry' : Registry} {w' : World}
      (hends : Registration translator transport port domain registry w listener result registry' w') :
      Changed move transport registry w registry' w'
  | unregistered {translator : Translator} {domain : TrustDomain} {id : PortId}
      {result : Except Fault (Except PortError PortEntry)} {registry' : Registry} {w' : World}
      (hasked : move.unregistration? = some (id, domain))
      (hends : Unregistration translator transport id domain registry w result registry' w') :
      Changed move transport registry w registry' w'

/-- What a move did to a world. -/
inductive Deed (w : World) (move : Move) (w' : World) : Prop where
  | kept (hkept : Kept w w') (hasked : Asked w move w'.service) (hqueued : Queued w move w')
  /-- A handle got replies to give in place of the service. -/
  | scripted {name : String} {f : Handle → Handle} (hbinder : move.binder? = some (name, .script))
      (happ : ∀ handle, (f handle).app = handle.app)
      (hsite : ∀ handle, (f handle).site = handle.site) (hmodified : w' = w.modifyHandle name f)
  /-- The registry of a handle's messenger changed. -/
  | changed {name : String} {handle : Handle} {n : Nat} {place : Place} {registry' : Registry}
      {w₁ w₂ : World} (hbinder : move.binder? = some (name, .registry))
      (hhandle : w.handles.get? name = some handle) (hsite : handle.site = some n)
      (hplace : w.places[n]? = some place) (hquiet : Quiet w w₁)
      (hchanged : Changed move (tapped name handle.app) place.registry w₁ registry' w₂)
      (hset : w' = (registryPart n).set registry' w₂)
  /-- A handle was connected, with a new site or without one. -/
  | connected {name app certificate : String} {site : Option Nat} {new : List Place} {w₁ : World}
      (hservice : w'.service = w.service.connect app certificate ∨
        ∃ n, site = some n ∧
          w'.service = (w.service.connect app certificate).attach app (.router n))
      (hplaces : w'.places = w.places ++ new) (hnew : ∀ place ∈ new, place = ⟨app, .empty⟩)
      (hsite : ∀ n, site = some n → w'.places[n]? = some ⟨app, .empty⟩)
      (hhandles : HandlesKept w w₁)
      (hinsert : w'.handles = w₁.handles.insert name ⟨app, site, none, []⟩)
      (hwaiting : ∀ n, w'.waitingAt n = w.waitingAt n ∨ w'.waitingAt n = [])
      (hconnection : move.connection? = some (app, certificate))

variable {w w₁ w' : World} {move : Move} {name : String} {handle : Handle}

theorem Deed.of_state (hstate : w' = w₁) (h : Deed w move w₁) : Deed w move w' := by
  rw [hstate]
  exact h

theorem Deed.of_quiet (h : Quiet w w') : Deed w move w' :=
  .kept h.kept (.nothing h.service) (.left fun n => .inl (h.waitingAt n))

theorem Deed.of_eq (h : w' = w) : Deed w move w' :=
  .of_state h (.of_quiet (.refl w))

/-- What makes a reply of an answer does nothing more. -/
theorem Deed.replied {α β : Type} {x : Effect World α} {f : α → β}
    (h : Deed w move (x.run w₁).state) :
    Deed w move ((x >>= fun answer => return f answer).run w₁).state :=
  .of_state (Effect.state_bind_silent _ (fun _ => Effect.silent_pure _) w₁) h

/-- A post is a deed, if there is a reason for it. -/
theorem Deed.of_post {n : Nat} {task : Task} {queue : TaskQueue Task} (hquiet : Quiet w w₁)
    (hpost : ((queuePart n).get w₁).post? task = some queue) (hposts : Posts w move n task) :
    Deed w move ((queuePart n).set queue w₁) := by
  rcases posted_spec hpost with ⟨hservice, hkept, hself, hother⟩
  -- What went before the post left all tasks alone, so the post is seen against `w`.
  have hself' : ((queuePart n).set queue w₁).waitingAt n = w.waitingAt n ++ [task] := by
    rw [hself, hquiet.waitingAt]
  refine .kept ⟨hkept.places.trans hquiet.places, hquiet.handles.trans hkept.handles⟩
    (.nothing (hservice.trans hquiet.service)) (.posted hself' ?_ hposts)
  intro k hk
  rw [hother k hk, hquiet.waitingAt]

theorem Deed.of_sent {app : String} {remote : RemoteAddress} {domain : TrustDomain}
    (hsending : w.sending? move = some ⟨app, remote, domain⟩)
    (h : Sent w app remote domain move.reply? w') : Deed w move w' := by
  cases h with
  | quiet h => exact .of_quiet h
  | @posted w₁ n site event d queue hquiet hroutes hsite hdomain hpost hposted =>
    rw [hposted]
    have hplace : w.places[n]? = some site.place := places_of_site hsite
    exact .of_post hquiet hpost (.sent hsending hroutes hplace hdomain)

/-! ## Actions on endpoints -/

theorem sending?_eq {remote : RemoteAddress} {domain : TrustDomain}
    (hrequest : move.request? = some (name, remote, domain))
    (hhandle : w.handles.get? name = some handle) :
    w.sending? move = some ⟨handle.app, remote, domain⟩ := by
  unfold sending?
  rw [hrequest]
  simp only [Option.bind_eq_bind, Option.bind_some, hhandle]
  rfl

theorem performOnEndpoint_deed (message? : Option InboundMessage) (action : EndpointAction)
    (hhandle : w.handles.get? name = some handle) :
    Deed w (.act message? (.onEndpoint name action))
      ((performOnEndpoint name handle action).run w).state := by
  cases action with
  | appId => exact .of_eq rfl
  | bind port domain =>
    exact .kept ⟨rfl, .of_eq rfl⟩ (.bound rfl hhandle rfl) (.left fun _ => .inl rfl)
  | unbind id => exact .kept ⟨rfl, .of_eq rfl⟩ (.unbound rfl hhandle rfl) (.left fun _ => .inl rfl)
  | check remote domain => exact .of_eq rfl
  | send remote domain payload =>
    refine .replied ?_
    exact .of_sent (sending?_eq rfl hhandle) (transmit_sent w handle.app remote domain payload .nowhere)
  | sendWithReply reply remote domain payload =>
    refine .replied ?_
    exact .of_sent (sending?_eq rfl hhandle)
      (endpoint_sendWithReply_sent w handle.app reply remote domain payload)
  | attachCollector =>
    let w' := ((performOnEndpoint name handle .attachCollector).run w).state
    have hhandles : HandlesKept w w' :=
      handlesKept_modifyHandle w name fun _ _ => ⟨rfl, .inl rfl, id⟩
    have hattachment : w.attachment? (.act message? (.onEndpoint name .attachCollector)) =
        some (handle.app, .collector w.collectors) := by
      simp only [attachment?, hhandle]
      rfl
    exact .kept ⟨rfl, hhandles⟩ (.attached rfl hattachment) (.left fun _ => .inl rfl)
  | detachCollector =>
    exact .of_quiet (quiet_modifyHandle w name fun _ _ => ⟨rfl, .inl rfl, id⟩)
  | script method replies =>
    let more : Script := replies.map fun reply => (method, reply)
    let f : Handle → Handle := fun h => { h with script := h.script ++ more }
    exact .scripted (f := f) rfl (fun _ => rfl) (fun _ => rfl) rfl
  | post mark =>
    show Deed w _ ((postMark handle mark).run w).state
    unfold postMark
    cases handle.site with
    | none => exact .of_eq rfl
    | some n =>
      let told : Bool → Effect World Reply := fun taken =>
        if taken then return .nothing else return .loopClosed
      have htold : ∀ taken, (told taken).Silent := by
        intro taken
        cases taken with
        | true => exact Effect.silent_pure _
        | false => exact Effect.silent_pure _
      -- Telling whether the loop took the mark changes nothing; the post decides.
      show Deed w _ ((MainLoop.post (queuePart n) (.mark mark) >>= told).run w).state
      rw [Effect.state_bind_silent _ htold w]
      rcases post_cases w n (.mark mark) with hsame | ⟨queue, hpost, hposted⟩
      · exact .of_eq hsame
      · rw [hposted]
        exact .of_post (.refl w) hpost (.mark mark)
  | dropMessenger =>
    rcases dropMessenger_spec w name with ⟨hservice, hkept, hwaiting⟩
    exact .kept hkept (.nothing hservice) (.left fun n => .inl (hwaiting n))

/-! ## Actions on messengers -/

theorem quiet_obtainListener (w : World) (request : ListenerRequest) :
    Quiet w (w.obtainListener request).2 := by
  cases request with
  | fresh tag context actions limit => exact ⟨rfl, rfl, .of_eq rfl⟩
  | tagged tag =>
    cases hlistener : w.tagged.get? tag with
    | some listener =>
      simp only [obtainListener, hlistener]
      exact .refl w
    | none =>
      simp only [obtainListener, hlistener]
      exact ⟨rfl, rfl, .of_eq rfl⟩

/-- A delivery that is handed straight to a router is posted there or not. -/
theorem dispatch_deed (desk : Desk) {event : DeliveryEvent}
    (hinjected : move.injected? = some event) :
    Deed w move ((desk.dispatch event).run w).state := by
  have hdispatch := dispatch_cases desk.messenger.router ((registryPart desk.site).get w) desk.site
    event w
  rcases hdispatch with hsame | ⟨d, queue, hdomain, hpost, hposted⟩
  · exact .of_eq hsame
  · have hstate : ((desk.dispatch event).run w).state = (queuePart desk.site).set queue w := hposted
    rw [hstate]
    exact .of_post (.refl w) hpost (.injected hinjected)

/-- The desk at which the actions on the messenger of a handle are performed. -/
structure DeskAt (w : World) (name : String) (handle : Handle) (n : Nat) (place : Place)
    (desk : Desk) : Prop where
  holder : w.handles.get? name = some handle
  site : handle.site = some n
  place : w.places[n]? = some place
  number : desk.site = n
  transport : desk.transport = tapped name handle.app

theorem deskAt_of_deskOf? {desk : Desk} (hhandle : w.handles.get? name = some handle)
    (h : w.deskOf? name handle = some desk) : ∃ n place, DeskAt w name handle n place desk := by
  rcases Option.map_eq_some_iff.1 h with ⟨⟨n, site⟩, hsite, rfl⟩
  unfold siteOf? at hsite
  rcases Option.bind_eq_some_iff.1 hsite with ⟨m, hm, hrest⟩
  rcases Option.bind_eq_some_iff.1 hrest with ⟨found, hfound, hpair⟩
  cases hpair
  exact ⟨n, site.place, hhandle, hm, places_of_site hfound, rfl, rfl⟩

/-- A handle that sits at a site has a desk there. -/
theorem exists_deskAt {n : Nat} {place : Place} (hhandle : w.handles.get? name = some handle)
    (hsite : handle.site = some n) (hplace : w.places[n]? = some place) :
    ∃ desk, w.deskOf? name handle = some desk ∧ DeskAt w name handle n place desk := by
  rw [places_getElem?] at hplace
  rcases Option.map_eq_some_iff.1 hplace with ⟨site, hfound, rfl⟩
  refine ⟨⟨site.messenger, n, tapped name handle.app⟩, ?_,
    ⟨hhandle, hsite, places_of_site hfound, rfl, rfl⟩⟩
  simp [deskOf?, siteOf?, hsite, hfound]

namespace DeskAt

variable {n : Nat} {place : Place} {desk : Desk} {message? : Option InboundMessage}

theorem registryPart_get (h : DeskAt w name handle n place desk) :
    (registryPart desk.site).get w = place.registry := by
  rw [h.number]
  exact World.registryPart_get h.place

/-- What is done on the registry of a desk is done on the registry of its site. -/
theorem run_onRegistry (h : DeskAt w name handle n place desk) {α : Type}
    (x : Effect (Registry × World) α) :
    let inner := x.run (place.registry, w)
    ((desk.onRegistry x).run w).result = inner.result ∧
      ((desk.onRegistry x).run w).state = (registryPart n).set inner.state.1 inner.state.2 := by
  rw [← h.registryPart_get, ← h.number]
  exact ⟨rfl, rfl⟩

/-- What left the sites alone beside the registry left the desk the registry that it made. -/
theorem onRegistry_left (h : DeskAt w name handle n place desk) {α : Type}
    (x : Effect (Registry × World) α)
    (hsites : (x.run (place.registry, w)).state.2.sites = w.sites) :
    let inner := x.run (place.registry, w)
    let out := (desk.onRegistry x).run w
    out.result = inner.result ∧ out.state.service = inner.state.2.service ∧
      (registryPart desk.site).get out.state = inner.state.1 := by
  intro inner out
  rcases h.run_onRegistry x with ⟨hresult, hstate⟩
  have hplace : inner.state.2.places[n]? = some place := by
    unfold places
    rw [hsites]
    exact h.place
  refine ⟨hresult, ?_, ?_⟩
  · have hservice : out.state.service = ((registryPart n).set inner.state.1 inner.state.2).service :=
      congrArg World.service hstate
    exact hservice
  · have hget : (registryPart n).get out.state = inner.state.1 :=
      (congrArg (registryPart n).get hstate).trans (registryPart_get_set hplace _)
    rw [h.number]
    exact hget

theorem registration_deed (h : DeskAt w name handle n place desk)
    (hbinder : move.binder? = some (name, .registry)) (hquiet : Quiet w w₁)
    (translator : Translator) (port : String) (domain : TrustDomain) (listener : Option Listener) :
    Deed w move ((desk.onRegistry
      (Registry.register translator desk.transport port domain listener)).run w₁).state := by
  -- The listener was obtained first; that left the registry where it was.
  have hplace : w₁.places[n]? = some place := by
    rw [hquiet.places]
    exact h.place
  have hget : (registryPart desk.site).get w₁ = place.registry := by
    rw [h.number]
    exact World.registryPart_get hplace
  refine .changed hbinder h.holder h.site h.place hquiet
    (.registered (Registry.register_registration translator (tapped name handle.app) port domain
      listener place.registry w₁)) ?_
  show (registryPart desk.site).set _ _ = _
  rw [hget, h.number, h.transport]

theorem unregistration_deed (h : DeskAt w name handle n place desk)
    (hbinder : move.binder? = some (name, .registry)) (translator : Translator) {id : PortId}
    {domain : TrustDomain} (hasked : move.unregistration? = some (id, domain)) :
    Deed w move ((desk.onRegistry
      (Registry.unregister translator desk.transport id domain)).run w).state := by
  refine .changed hbinder h.holder h.site h.place (.refl w)
    (.unregistered hasked (Registry.unregister_unregistration translator (tapped name handle.app) id domain
      place.registry w)) ?_
  rw [h.transport]
  exact (h.run_onRegistry _).2

theorem send_deed (h : DeskAt w name handle n place desk) {remote : RemoteAddress}
    {domain : TrustDomain} (hrequest : move.request? = some (name, remote, domain))
    (hreply : move.reply? = none) (gateway : Gateway) (payload : Option Payload) :
    Deed w move ((gateway.send desk.transport remote domain payload).run w).state := by
  rw [h.transport]
  rcases gateway.state_send (tapped name handle.app) remote domain payload w with
    hsame | ⟨p, hsent⟩
  · exact .of_eq hsame
  · rw [hsent]
    refine .of_sent (sending?_eq hrequest h.holder) ?_
    rw [hreply]
    exact tapped_send_sent w name handle.app remote domain p

theorem sendWithReply_deed (h : DeskAt w name handle n place desk) {remote : RemoteAddress}
    {domain : TrustDomain} (hrequest : move.request? = some (name, remote, domain))
    {reply : PortId} (hreply : move.reply? = some reply) (gateway : Gateway) (registry : Registry)
    (payload : Option Payload) :
    Deed w move
      ((gateway.sendWithReply registry desk.transport remote domain payload reply).run w).state := by
  rw [h.transport]
  rcases gateway.state_sendWithReply (tapped name handle.app) remote domain registry payload reply w
    with hsame | ⟨p, hsent⟩
  · exact .of_eq hsame
  · rw [hsent]
    refine .of_sent (sending?_eq hrequest h.holder) ?_
    rw [hreply]
    exact tapped_sendWithReply_sent w name handle.app reply remote domain p

theorem check_deed (h : DeskAt w name handle n place desk) (gateway : Gateway)
    (remote : RemoteAddress) (domain : TrustDomain) :
    Deed w move ((gateway.checkRemote desk.transport remote domain).run w).state := by
  rw [h.transport]
  rcases gateway.state_checkRemote (tapped name handle.app) remote domain w with hsame | hchecked
  · exact .of_eq hsame
  · rw [hchecked]
    exact .of_quiet (tapped_check_quiet w name handle.app remote domain)

theorem answer_deed (h : DeskAt w name handle n place desk) (payload : Option Payload)
    (reply : Option PortId) :
    Deed w (.act message? (.onMessenger name (.answer payload reply)))
      ((desk.answer message? payload reply).run w).state := by
  unfold Desk.answer
  cases hmessage : message?.bind fun m => m.remotePort.map fun port => (m, port) with
  | none => exact .of_eq rfl
  | some found =>
    rcases found with ⟨message, port⟩
    let remote : RemoteAddress := ⟨message.remoteApp, port⟩
    let domain := TrustDomain.ofTrusted message.trustedRemotePort
    have hrequest : (Move.act message? (.onMessenger name (.answer payload reply))).request? =
        some (name, remote, domain) := by
      rcases Option.bind_eq_some_iff.1 hmessage with ⟨m, hm, hport⟩
      rcases Option.map_eq_some_iff.1 hport with ⟨found, hfound, hpair⟩
      cases hpair
      show (message?.bind fun message => message.remotePort.bind fun port => _) = _
      rw [hm]
      show (message.remotePort.bind fun port => _) = _
      rw [hfound]
      rfl
    cases reply with
    | none =>
      refine .replied ?_
      exact h.send_deed hrequest rfl desk.messenger.gateway _
    | some id =>
      refine .replied ?_
      refine .of_state (congrArg Outcome.state (desk.run_sendWithReply remote _ _ _ id w)) ?_
      exact h.sendWithReply_deed hrequest rfl desk.messenger.gateway _ _

end DeskAt

theorem silent_localPortName (registry : Registry) (id : PortId) :
    (Messenger.localPortName registry id : Effect World _).Silent := by
  unfold Messenger.localPortName Messenger.validateId
  cases id.isValid with
  | false => exact fun _ => rfl
  | true =>
    cases registry.nameOf? id with
    | none => exact fun _ => rfl
    | some name => exact fun _ => rfl

theorem silent_isTrustedLocalPort (registry : Registry) (id : PortId) :
    (Messenger.isTrustedLocalPort registry id : Effect World _).Silent := by
  unfold Messenger.isTrustedLocalPort Messenger.validateId
  cases id.isValid with
  | false => exact fun _ => rfl
  | true =>
    cases registry.domainOf? id with
    | none => exact fun _ => rfl
    | some domain => exact fun _ => rfl

theorem performOnMessenger_deed (message? : Option InboundMessage) (action : MessengerAction)
    {n : Nat} {place : Place} {desk : Desk} (h : DeskAt w name handle n place desk) :
    Deed w (.act message? (.onMessenger name action)) ((desk.perform message? action).run w).state := by
  cases action with
  | register port trusted named request =>
    let obtained := w.obtainListener request
    show Deed w _ ((desk.onRegistry (desk.register port trusted named obtained.1) >>=
      fun answer => return Reply.ofResult .portId answer).run obtained.2).state
    refine .replied ?_
    rw [desk.register_eq]
    exact h.registration_deed rfl (quiet_obtainListener w request) _ _ _ _
  | unregister id trusted named =>
    refine .replied ?_
    rw [desk.state_unregister]
    exact h.unregistration_deed rfl _ rfl
  | check remote trusted named =>
    refine .replied ?_
    rw [desk.check_eq]
    exact h.check_deed _ _ _
  | send remote trusted named payload =>
    refine .replied ?_
    rw [desk.send_eq]
    exact h.send_deed rfl rfl _ _
  | sendWithReply remote trusted named payload reply =>
    refine .replied ?_
    have hrun := desk.run_sendWithReply remote trusted named payload reply w
    refine .of_state (congrArg Outcome.state hrun) ?_
    exact h.sendWithReply_deed rfl rfl _ _ _
  | answer payload reply => exact h.answer_deed payload reply
  | portName id =>
    refine .replied (.of_eq ?_)
    exact silent_localPortName _ id w
  | isTrusted id =>
    refine .replied (.of_eq ?_)
    exact silent_isTrustedLocalPort _ id w
  | config => exact .of_eq rfl
  | describe => exact .of_eq rfl
  | registryRegister port domain request? =>
    cases request? with
    | none =>
      refine .replied ?_
      exact h.registration_deed rfl (.refl w) _ _ _ _
    | some request =>
      let obtained := w.obtainListener request
      show Deed w _ ((desk.onRegistry (Registry.register desk.messenger.translator desk.transport
        port domain (some obtained.1)) >>=
          fun answer => return Reply.ofResult .portId answer).run obtained.2).state
      refine .replied ?_
      exact h.registration_deed rfl (quiet_obtainListener w request) _ _ _ (some obtained.1)
  | registryUnregister id domain =>
    refine .of_state (Effect.state_bind_silent _ (fun retired => fun _ => rfl) w) ?_
    exact h.unregistration_deed rfl _ rfl
  | lookup id domain => exact .of_eq rfl
  | lookupEither id => exact .of_eq rfl
  | nameOf id => exact .of_eq rfl
  | domainOf id => exact .of_eq rfl
  | activePorts domain => exact .of_eq rfl
  | activeCount => exact .of_eq rfl
  | gatewayCheck remote domain =>
    refine .replied ?_
    exact h.check_deed _ _ _
  | gatewaySend remote domain payload =>
    refine .replied ?_
    exact h.send_deed rfl rfl _ _
  | gatewaySendWithReply remote domain payload reply =>
    refine .replied ?_
    exact h.sendWithReply_deed rfl rfl _ _ _
  | dispatch event =>
    refine .replied ?_
    exact dispatch_deed desk rfl
  | deliver event =>
    refine .replied ?_
    exact dispatch_deed desk rfl

/-- An action on a messenger does what is performed at its desk. -/
theorem state_perform (message? : Option InboundMessage) (action : MessengerAction) {desk : Desk}
    (hhandle : w.handles.get? name = some handle) (hdesk : w.deskOf? name handle = some desk) :
    ((perform message? (.onMessenger name action)).run w).state =
      ((desk.perform message? action).run w).state := by
  simp only [perform, Effect.run_bind, Effect.run_getState, hhandle, hdesk]

theorem perform_deed (w : World) (message? : Option InboundMessage) (action : Action) :
    Deed w (.act message? action) ((perform message? action).run w).state := by
  cases action with
  | breakOff => exact .of_eq rfl
  | boundCount => exact .of_eq rfl
  | snapshot => exact .of_eq rfl
  | onEndpoint name action =>
    cases hhandle : w.handles.get? name with
    -- A name without a handle is answered without a look at anything else.
    | none =>
      have hstate : ((perform message? (.onEndpoint name action)).run w).state = w := by
        simp only [perform, Effect.run_bind, Effect.run_getState, hhandle]
        rfl
      exact .of_eq hstate
    | some handle =>
      have hstate : ((perform message? (.onEndpoint name action)).run w).state =
          ((performOnEndpoint name handle action).run w).state := by
        simp only [perform, Effect.run_bind, Effect.run_getState, hhandle]
      exact .of_state hstate (performOnEndpoint_deed message? action hhandle)
  | onMessenger name action =>
    cases hhandle : w.handles.get? name with
    | none =>
      have hstate : ((perform message? (.onMessenger name action)).run w).state = w := by
        simp only [perform, Effect.run_bind, Effect.run_getState, hhandle]
        rfl
      exact .of_eq hstate
    | some handle =>
      cases hdesk : w.deskOf? name handle with
      | none =>
        have hstate : ((perform message? (.onMessenger name action)).run w).state = w := by
          simp only [perform, Effect.run_bind, Effect.run_getState, hhandle, hdesk]
          rfl
        exact .of_eq hstate
      | some desk =>
        rcases deskAt_of_deskOf? hhandle hdesk with ⟨n, place, hat⟩
        exact .of_state (state_perform message? action hhandle hdesk)
          (performOnMessenger_deed message? action hat)

/-! ## Moves -/

theorem quiet_noteHearing (w : World) (listener : Listener) (message : InboundMessage) :
    Quiet w ((noteHearing listener message).run w).state := by
  cases hbehaviour : w.behaviours[listener.callback]? with
  | none =>
    have hstate : ((noteHearing listener message).run w).state = w := by
      simp only [noteHearing, Effect.run_bind, Effect.run_getState, hbehaviour]
      rfl
    rw [hstate]
    exact .refl w
  | some behaviour =>
    have hstate : ((noteHearing listener message).run w).state =
        w.noteCall listener behaviour message := by
      simp only [noteHearing, Effect.run_bind, Effect.run_getState, hbehaviour]
      rfl
    rw [hstate]
    exact ⟨rfl, rfl, .of_eq rfl⟩

theorem quiet_startTask (w : World) (n : Nat) (task : Task) :
    Quiet w ((startTask n task).run w).state := by
  cases task with
  | mark tag => exact ⟨rfl, rfl, .of_eq rfl⟩
  | delivery delivery =>
    let registry := (registryPart n).get w
    show Quiet w ((delivery.run registry noteHearing).run w).state
    unfold Delivery.run
    cases delivery.listener? registry with
    | none => exact .refl w
    | some listener => exact quiet_noteHearing w listener _

theorem next_runNext_none {n : Nat} (h : ((queuePart n).get w).next? = none) :
    w.next (.runNext n) = w := by
  simp only [next, MainLoop.runNext, MainLoop.take, Effect.run_bind, h]
  rfl

theorem next_runNext_some {n : Nat} {task : Task} {queue : TaskQueue Task}
    (h : ((queuePart n).get w).next? = some (task, queue)) :
    w.next (.runNext n) = ((startTask n task).run ((queuePart n).set queue w)).state := by
  have htake : (MainLoop.take (queuePart n)).Ends w (.ok (some task)) ((queuePart n).set queue w) := by
    refine ⟨?_, ?_⟩
    · simp only [MainLoop.take, h]
    · simp only [MainLoop.take, h]
  -- Only whether a task ran is told after it.
  show ((MainLoop.take (queuePart n) >>= _).run w).state = _
  rw [Effect.run_bind, htake.result, htake.state]
  exact Effect.state_bind_silent _ (fun _ => Effect.silent_pure _) _

theorem runNext_deed (w : World) (n : Nat) : Deed w (.runNext n) (w.next (.runNext n)) := by
  cases hnext : ((queuePart n).get w).next? with
  | none => exact .of_eq (next_runNext_none hnext)
  | some found =>
    rcases found with ⟨task, queue⟩
    let w₁ := (queuePart n).set queue w
    have hquiet := quiet_startTask w₁ n task
    rcases taken_spec hnext with ⟨hservice, hkept, hself, hother⟩
    -- The listener that the task calls has only been noted, so the queues are as they were when the
    -- task was taken.
    have hself' : w.waitingAt n = task :: ((startTask n task).run w₁).state.waitingAt n := by
      rw [hquiet.waitingAt]
      exact hself
    refine .of_state (next_runNext_some hnext) (.kept
      ⟨hquiet.places.trans hkept.places, hkept.handles.trans hquiet.handles⟩
      (.nothing (hquiet.service.trans hservice)) (.took hself' ?_))
    intro k hk
    rw [hquiet.waitingAt]
    exact hother k hk

/-- What the service knows after a handle was connected with a messenger. -/
theorem service_connect (w : World) (name app certificate : String) (config : Config)
    (kind : LoopKind) (attach : Bool) :
    (w.next (.connect name app certificate config kind attach)).service =
      if attach then (w.service.connect app certificate).attach app (.router w.sites.length)
      else w.service.connect app certificate := by
  let w₁ : World := { w with service := w.service.connect app certificate }
  let w₂ := (w₁.dropMessenger name).dropLoop name
  -- To give up the old messenger and the old loop is nothing to the service.
  have hw₂ : w₂.service = w.service.connect app certificate :=
    (dropLoop_spec _ name).1.trans (dropMessenger_spec w₁ name).1
  rw [← hw₂]
  cases attach with
  | true => rfl
  | false => rfl

theorem connect_deed (w : World) (name app certificate : String) (config : Config)
    (kind : LoopKind) (attach : Bool) :
    Deed w (.connect name app certificate config kind attach)
      (w.next (.connect name app certificate config kind attach)) := by
  let w₁ : World := { w with service := w.service.connect app certificate }
  let w₂ := (w₁.dropMessenger name).dropLoop name
  let site : Site := ⟨app, ⟨config⟩, .empty, .fresh, kind⟩
  have hlength : w.sites.length = w.places.length := (List.length_map _).symm
  -- The handle that had the name gives up its messenger and its loop first.
  rcases dropMessenger_spec w₁ name with ⟨-, hkept₁, hwaiting₁⟩
  rcases dropLoop_spec (w₁.dropMessenger name) name with ⟨-, hkept₂, hwaiting₂⟩
  have hplaces : w₂.places = w.places := hkept₂.places.trans hkept₁.places
  have hhandles : HandlesKept w w₂ := hkept₁.handles.trans hkept₂.handles
  have hwaiting : ∀ n, w₂.waitingAt n = w.waitingAt n ∨ w₂.waitingAt n = [] := by
    intro n
    have hsame : (w₁.dropMessenger name).waitingAt n = w.waitingAt n := hwaiting₁ n
    have hcases := hwaiting₂ n
    rw [hsame] at hcases
    exact hcases
  -- Whether the new router is attached matters for the service alone.
  let w' := w.next (.connect name app certificate config kind attach)
  have hsites : w'.sites = w₂.sites ++ [site] := by
    cases attach <;> rfl
  have hservice : w'.service = w.service.connect app certificate ∨
      ∃ n, some w.places.length = some n ∧
        w'.service = (w.service.connect app certificate).attach app (.router n) := by
    have hafter := service_connect w name app certificate config kind attach
    cases attach with
    | true =>
      rw [if_pos rfl, hlength] at hafter
      exact .inr ⟨_, rfl, hafter⟩
    | false => exact .inl hafter
  have hplaces' : w'.places = w.places ++ [⟨app, .empty⟩] := by
    show w'.sites.map Site.place = _
    rw [hsites, List.map_append, ← hplaces]
    rfl
  have hinsert : w'.handles = w₂.handles.insert name ⟨app, some w.places.length, none, []⟩ := by
    rw [← hlength]
    cases attach <;> rfl
  have hsite : ∀ n, some w.places.length = some n → w'.places[n]? = some ⟨app, .empty⟩ := by
    rintro n ⟨⟩
    rw [hplaces', List.getElem?_concat_length]
  refine .connected hservice hplaces' (fun _ h => List.mem_singleton.1 h) hsite hhandles hinsert ?_ rfl
  intro n
  rcases waitingAt_of_new_site hsites rfl n with hsame | hnil
  · rw [hsame]
    exact hwaiting n
  · exact .inr hnil

theorem connectEndpoint_deed (w : World) (name app certificate : String) :
    Deed w (.connectEndpoint name app certificate)
      (w.next (.connectEndpoint name app certificate)) := by
  let w₁ : World := { w with service := w.service.connect app certificate }
  rcases dropMessenger_spec w₁ name with ⟨hservice, hkept, hwaiting⟩
  let w' := w.next (.connectEndpoint name app certificate)
  -- A bare endpoint has no site, so the list of places does not grow.
  have hplaces : w'.places = w.places ++ [] := by
    rw [List.append_nil]
    exact hkept.places
  have hinsert : w'.handles = (w₁.dropMessenger name).handles.insert name ⟨app, none, none, []⟩ :=
    rfl
  have hsite : ∀ n, (none : Option Nat) = some n → w'.places[n]? = some ⟨app, .empty⟩ := by
    rintro n ⟨⟩
  exact .connected (.inl hservice) hplaces (fun _ h => absurd h List.not_mem_nil) hsite
    hkept.handles hinsert (fun n => .inl (hwaiting n)) rfl

/-- Every move is one of the listed deeds. -/
theorem next_deed (w : World) (move : Move) : Deed w move (w.next move) := by
  cases move with
  | beginStep => exact .of_quiet ⟨rfl, rfl, .of_eq rfl⟩
  | connect name app certificate config kind attach =>
    exact connect_deed w name app certificate config kind attach
  | connectEndpoint name app certificate => exact connectEndpoint_deed w name app certificate
  | act message? action => exact perform_deed w message? action
  | runNext n => exact runNext_deed w n
  | closeLoop name =>
    rcases dropLoop_spec w name with ⟨hservice, hkept, hwaiting⟩
    exact .kept hkept (.nothing hservice) (.left hwaiting)
  | noteReplies position replies => exact .of_quiet ⟨rfl, rfl, .of_eq rfl⟩

end World
end Scenario
end PortMessaging
