import PortMessaging.Proofs.Ends
import PortMessaging.Proofs.LoopbackService
import PortMessaging.Proofs.Places
import PortMessaging.Proofs.RegistryExits

/-!
# Taps — what the transports of a world do to it

A messenger of a world speaks to the loopback service through the tap of its handle.  A call through a
tap is either answered by the script of the handle, and then nothing has happened that matters, or it is
the call of the endpoint (`tap_cases`); with an empty script it is always the latter.  So a binding or
a release asks the service at most once (`Bound`, `Unbound`), and a send posts at most one delivery, for
a port that the service let the sender reach (`Sent`).
-/

namespace PortMessaging
namespace Scenario
namespace World

open Loopback (Service)

variable {w w₁ : World} {name app : String} {remote : RemoteAddress} {domain : TrustDomain}

/-! ## Taps -/

/-- The script of a handle is empty, or there is no such handle. -/
def Unscripted (w : World) (name : String) : Prop :=
  ∀ handle, w.handles.get? name = some handle → handle.script = []

theorem unscripted_of_get? {handle : Handle} (hhandle : w.handles.get? name = some handle)
    (hscript : handle.script = []) : w.Unscripted name := by
  -- The handle of a name is one and the same.
  intro holder hholder
  rw [hhandle] at hholder
  cases hholder
  exact hscript

theorem quiet_addCall (w : World) (name : String) (call : Call) : Quiet w (w.addCall name call) :=
  ⟨rfl, rfl, .of_eq rfl⟩

theorem takeReply_cases (w : World) (name : String) (method : Method) :
    (takeReply name method).Ends w (.ok none) w ∨
      ¬ w.Unscripted name ∧ ∃ reply w₁, Quiet w w₁ ∧
        (takeReply name method).Ends w (.ok (some reply)) w₁ := by
  cases hnext : (w.handles.get? name).bind fun handle => handle.script.next? method with
  | none =>
    refine .inl (Effect.ends_bind (Effect.ends_getState w) ?_)
    simp only [hnext]
    exact ⟨rfl, rfl⟩
  | some found =>
    rcases found with ⟨reply, rest⟩
    rcases Option.bind_eq_some_iff.1 hnext with ⟨handle, hhandle, hreply⟩
    -- A script without replies has none for this method.
    have hscript : handle.script ≠ [] := by
      intro hnil
      rw [hnil] at hreply
      cases hreply
    refine .inr ⟨fun h => hscript (h handle hhandle), reply,
      w.modifyHandle name ({ · with script := rest }), ?_, ?_⟩
    · refine quiet_modifyHandle w name fun other hother => ⟨rfl, .inl rfl, ?_⟩
      intro hnil
      rw [hhandle, Option.some.injEq] at hother
      exact absurd (hother ▸ hnil) hscript
    · refine Effect.ends_bind (Effect.ends_getState w) ?_
      simp only [hnext]
      exact ⟨rfl, rfl⟩

/-- A call through a tap is the real call, or the script answered and nothing else happened. -/
theorem tap_cases {α : Type} (w : World) (name : String) (method : Method) (call : Call)
    (fits : ScriptedReply → Option α) (real : Effect World (Except TransportCode α)) :
    (∃ w₁, Quiet w w₁ ∧ (tap name method call fits real).Ends w (real.run w₁).result
      (real.run w₁).state) ∨
    ¬ w.Unscripted name ∧ ∃ result w₁, Quiet w w₁ ∧
      (tap name method call fits real).Ends w result w₁ := by
  have hcall := quiet_addCall w name call
  -- The call is noted whatever follows.
  rcases takeReply_cases (w.addCall name call) name method with
    hnone | ⟨hscripted, reply, w₁, hquiet, hreply⟩
  · refine .inl ⟨w.addCall name call, hcall, ?_⟩
    exact Effect.ends_bind (Effect.ends_modifyState _ w) (Effect.ends_bind hnone ⟨rfl, rfl⟩)
  · -- Once a reply was taken, it alone decides how the tap goes on.
    have hrun : ∀ {rest : Option ScriptedReply → Effect World (Except TransportCode α)}
        {result : Except Fault (Except TransportCode α)} {w₂ : World},
        (rest (some reply)).Ends w₁ result w₂ →
          (Effect.modifyState (·.addCall name call) >>= fun _ =>
            takeReply name method >>= rest).Ends w result w₂ := fun h =>
      Effect.ends_bind (Effect.ends_modifyState _ w) (Effect.ends_bind hreply h)
    have hquiet' := hcall.trans hquiet
    cases hfits : fits reply with
    | some answer =>
      cases reply with
      | breakOff => exact .inr ⟨hscripted, _, w₁, hquiet', hrun ⟨rfl, rfl⟩⟩
      | refused code => exact .inr ⟨hscripted, _, w₁, hquiet', hrun ⟨rfl, rfl⟩⟩
      | _ =>
        refine .inr ⟨hscripted, .ok (.ok answer), w₁, hquiet', hrun ?_⟩
        simp only [hfits]
        exact ⟨rfl, rfl⟩
    | none =>
      cases reply with
      | breakOff => exact .inr ⟨hscripted, _, w₁, hquiet', hrun ⟨rfl, rfl⟩⟩
      | refused code => exact .inr ⟨hscripted, _, w₁, hquiet', hrun ⟨rfl, rfl⟩⟩
      | _ =>
        -- A reply that does not fit passes the call on.
        refine .inl ⟨w₁, hquiet', hrun ?_⟩
        simp only [hfits]
        exact ⟨rfl, rfl⟩

/-- Without a script a call through a tap is noted, and then it is the real call. -/
theorem tap_ends {α : Type} (h : w.Unscripted name) (method : Method) (call : Call)
    (fits : ScriptedReply → Option α) {real : Effect World (Except TransportCode α)}
    {result : Except Fault (Except TransportCode α)} {w' : World}
    (hreal : real.Ends (w.addCall name call) result w') :
    (tap name method call fits real).Ends w result w' := by
  rcases takeReply_cases (w.addCall name call) name method with hnone | ⟨hscripted, -⟩
  · exact Effect.ends_bind (Effect.ends_modifyState _ w) (Effect.ends_bind hnone hreal)
  · -- The handles of the world are those from before the note.
    exact absurd h hscripted

/-! ## Bindings and releases -/

/-- A world in which an application may have asked the service once to bind a name. -/
structure Bound (w : World) (app port : String) (domain : TrustDomain) (w' : World) : Prop where
  sites : w'.sites = w.sites
  handles : HandlesKept w w'
  service : w'.service = w.service ∨ w'.service = (w.service.bind app port domain).2

/-- A world in which an application may have asked the service once to release an id. -/
structure Unbound (w : World) (app : String) (id : PortId) (w' : World) : Prop where
  sites : w'.sites = w.sites
  handles : HandlesKept w w'
  service : w'.service = w.service ∨ w'.service = (w.service.unbind app id).2

theorem tapped_bind_bound (w : World) (name app port : String) (domain : TrustDomain) :
    Bound w app port domain (((tapped name app).bind port domain).run w).state := by
  rcases tap_cases w name .bind (.bind port domain) boundBy
      ((host.endpoint app).bind port domain) with
    ⟨w₁, hquiet, hends⟩ | ⟨-, result, w₁, hquiet, hends⟩
  · have hstate : (((tapped name app).bind port domain).run w).state =
        { w₁ with service := (w₁.service.bind app port domain).2 } := hends.state
    rw [hstate]
    refine ⟨hquiet.sites, hquiet.handles, .inr ?_⟩
    -- Noting the call left the service as it was.
    rw [← hquiet.service]
  · have hstate : (((tapped name app).bind port domain).run w).state = w₁ := hends.state
    rw [hstate]
    exact ⟨hquiet.sites, hquiet.handles, .inl hquiet.service⟩

theorem tapped_unbind_unbound (w : World) (name app : String) (id : PortId) :
    Unbound w app id (((tapped name app).unbind id).run w).state := by
  rcases tap_cases w name .unbind (.unbind id) doneBy ((host.endpoint app).unbind id) with
    ⟨w₁, hquiet, hends⟩ | ⟨-, result, w₁, hquiet, hends⟩
  · have hstate : (((tapped name app).unbind id).run w).state =
        { w₁ with service := (w₁.service.unbind app id).2 } := hends.state
    rw [hstate]
    refine ⟨hquiet.sites, hquiet.handles, .inr ?_⟩
    rw [← hquiet.service]
  · have hstate : (((tapped name app).unbind id).run w).state = w₁ := hends.state
    rw [hstate]
    exact ⟨hquiet.sites, hquiet.handles, .inl hquiet.service⟩

/-- Without a script a binding is the service's binding, and so is the answer. -/
theorem tapped_bind_ends (h : w.Unscripted name) (app port : String) (domain : TrustDomain) :
    ∃ w', ((tapped name app).bind port domain).Ends w (.ok (w.service.bind app port domain).1) w' ∧
      w'.service = (w.service.bind app port domain).2 ∧ w'.sites = w.sites ∧ HandlesKept w w' := by
  refine ⟨_, tap_ends h .bind (.bind port domain) boundBy ⟨rfl, rfl⟩, rfl, rfl, ?_⟩
  exact .of_eq rfl

/-- Without a script a release is the service's release, and so is the answer. -/
theorem tapped_unbind_ends (h : w.Unscripted name) (app : String) (id : PortId) :
    ∃ w', ((tapped name app).unbind id).Ends w (.ok (w.service.unbind app id).1) w' ∧
      w'.service = (w.service.unbind app id).2 ∧ w'.sites = w.sites ∧ HandlesKept w w' := by
  refine ⟨_, tap_ends h .unbind (.unbind id) doneBy ⟨rfl, rfl⟩, rfl, rfl, ?_⟩
  exact .of_eq rfl

/-- A check through a tap changes nothing that matters. -/
theorem tapped_check_quiet (w : World) (name app : String) (remote : RemoteAddress)
    (domain : TrustDomain) :
    Quiet w (((tapped name app).checkRemote remote domain).run w).state := by
  rcases tap_cases w name .check (.check remote domain) foundBy
      ((host.endpoint app).checkRemote remote domain) with
    ⟨w₁, hquiet, hends⟩ | ⟨-, result, w₁, hquiet, hends⟩
  · have hstate : (((tapped name app).checkRemote remote domain).run w).state = w₁ := hends.state
    rw [hstate]
    exact hquiet
  · have hstate : (((tapped name app).checkRemote remote domain).run w).state = w₁ := hends.state
    rw [hstate]
    exact hquiet

/-! ## Sends -/

/-- What a send of an application may do: nothing that matters, or it posts a delivery at the site that
takes the deliveries of the addressed application. -/
inductive Sent (w : World) (app : String) (remote : RemoteAddress) (domain : TrustDomain)
    (reply : Option PortId) (w' : World) : Prop where
  | quiet (h : Quiet w w')
  | posted {w₁ : World} {n : Nat} {site : Site} {event : DeliveryEvent} {d : TrustDomain}
      {queue : TaskQueue Task} (hquiet : Quiet w w₁)
      (hroutes : w.service.Routes app remote domain reply (.router n) event)
      (hsite : w.sites[n]? = some site)
      (hdomain : site.registry.domainOf? event.target = some d)
      (hpost : ((queuePart n).get w₁).post? (.delivery ⟨d, event⟩) = some queue)
      (hposted : w' = (queuePart n).set queue w₁)

theorem Sent.of_quiet {reply : Option PortId} {w' : World} (hquiet : Quiet w w₁)
    (h : Sent w₁ app remote domain reply w') : Sent w app remote domain reply w' := by
  cases h with
  | quiet h => exact .quiet (hquiet.trans h)
  | posted hquiet' hroutes hsite hdomain hpost hposted =>
    -- Where the delivery goes does not depend on what happened quietly before.
    rw [hquiet.service] at hroutes
    rw [hquiet.sites] at hsite
    exact .posted (hquiet.trans hquiet') hroutes hsite hdomain hpost hposted

theorem post_cases (w : World) (n : Nat) (task : Task) :
    ((MainLoop.post (queuePart n) task).run w).state = w ∨
      ∃ queue, ((queuePart n).get w).post? task = some queue ∧
        ((MainLoop.post (queuePart n) task).run w).state = (queuePart n).set queue w := by
  cases hpost : ((queuePart n).get w).post? task with
  | none =>
    refine .inl ?_
    simp only [MainLoop.post, hpost]
  | some queue =>
    refine .inr ⟨queue, rfl, ?_⟩
    simp only [MainLoop.post, hpost]

/-- A router posts a delivery for the domain in which its target is active, or does nothing. -/
theorem dispatch_cases (router : Router) (registry : Registry) (n : Nat) (event : DeliveryEvent)
    (w : World) :
    let after := ((router.dispatch registry
      (fun delivery => MainLoop.post (queuePart n) (.delivery delivery)) event).run w).state
    after = w ∨ ∃ d queue, registry.domainOf? event.target = some d ∧
      ((queuePart n).get w).post? (.delivery ⟨d, event⟩) = some queue ∧
        after = (queuePart n).set queue w := by
  intro after
  cases hdomain : registry.domainOf? event.target with
  | none =>
    refine .inl ?_
    show ((Router.dispatch router registry _ event).run w).state = w
    unfold Router.dispatch
    rw [hdomain]
    rfl
  | some d =>
    have hafter : after = ((MainLoop.post (queuePart n) (.delivery ⟨d, event⟩)).run w).state := by
      show ((Router.dispatch router registry _ event).run w).state = _
      unfold Router.dispatch
      rw [hdomain]
      -- The log lines around the post change nothing.
      refine (Effect.state_log_bind _ _ _ _ w).trans ?_
      refine Effect.state_bind_silent _ (fun taken => ?_) w
      cases taken with
      | true => exact Effect.silent_pure _
      | false => exact Effect.silent_bind (Effect.silent_log _ _ _) fun _ => Effect.silent_pure _
    rw [hafter]
    rcases post_cases w n (.delivery ⟨d, event⟩) with hsame | ⟨queue, hpost, hstate⟩
    · exact .inl hsame
    · exact .inr ⟨d, queue, rfl, hpost, hstate⟩

/-- The way of a message: the sink that takes it and the delivery, or why there is none. -/
def route (w : World) (app : String) (remote : RemoteAddress) (domain : TrustDomain)
    (payload : Payload) (reply : Option Loopback.Binding) :
    Except TransportCode (Sink × DeliveryEvent) :=
  w.service.route w.isAlive app remote domain payload reply

/-- The world after a message went its way. -/
def afterRoute (w : World) : Except TransportCode (Sink × DeliveryEvent) → World
  | .error _ => w
  | .ok (sink, event) => ((deliver sink event).run w).state

/-- To hand a delivery over never breaks off. -/
theorem deliver_ends (w : World) (sink : Sink) (event : DeliveryEvent) :
    (deliver sink event).Ends w (.ok ()) ((deliver sink event).run w).state := by
  refine ⟨?_, rfl⟩
  cases sink with
  | collector k => rfl
  | router n =>
    simp only [deliver, Effect.run_bind, Effect.run_getState]
    cases w.sites[n]? with
    | none => rfl
    | some site =>
      -- Whether the loop takes the delivery or not, the dispatch ends.
      simp only [Router.dispatch]
      cases site.registry.domainOf? event.target with
      | none => rfl
      | some d =>
        simp only [Effect.run_bind, Effect.run_log, MainLoop.post]
        cases ((queuePart n).get w).post? (.delivery ⟨d, event⟩) with
        | none => rfl
        | some queue => rfl

/-- The service carries a message as its route has it. -/
theorem transmit_ends (w : World) (app : String) (remote : RemoteAddress) (domain : TrustDomain)
    (payload : Payload) (reply : Option Loopback.Binding) :
    let way := w.route app remote domain payload reply
    (host.transmit app remote domain payload reply).Ends w (.ok (way.map fun _ => ()))
      (w.afterRoute way) := by
  intro way
  refine Effect.ends_bind (Effect.ends_getState w) ?_
  have hway : (host.service.get w).route (host.alive w) app remote domain payload reply = way := rfl
  rw [hway]
  cases way with
  | error code => exact ⟨rfl, rfl⟩
  | ok found =>
    rcases found with ⟨sink, event⟩
    exact Effect.ends_bind (Effect.ends_log _ _ _ w)
      (Effect.ends_bind (deliver_ends w sink event) ⟨rfl, rfl⟩)

theorem transmit_sent (w : World) (app : String) (remote : RemoteAddress) (domain : TrustDomain)
    (payload : Payload) {reply : Option PortId} {binding : Option Loopback.Binding}
    (hreply : w.service.Replies app reply binding) :
    Sent w app remote domain reply
      ((host.transmit app remote domain payload binding).run w).state := by
  rw [(transmit_ends w app remote domain payload binding).state]
  cases hroute : w.route app remote domain payload binding with
  | error code => exact .quiet (.refl w)
  | ok found =>
    rcases found with ⟨sink, event⟩
    show Sent w app remote domain reply ((deliver sink event).run w).state
    -- A collector keeps the delivery for itself; only a router posts it to a loop.
    cases sink with
    | collector k =>
      cases hholder : w.holderOf? k with
      | none =>
        have hsame : ((deliver (.collector k) event).run w).state = w := by
          simp only [deliver, Effect.run_modifyState, hholder]
        rw [hsame]
        exact .quiet (.refl w)
      | some name =>
        have hkept : ((deliver (.collector k) event).run w).state =
            w.addReceipt (.collected name event) := by
          simp only [deliver, Effect.run_modifyState, hholder]
        rw [hkept]
        exact .quiet ⟨rfl, rfl, .of_eq rfl⟩
    | router n =>
      cases hsite : w.sites[n]? with
      | none =>
        have hsame : ((deliver (.router n) event).run w).state = w := by
          unfold deliver
          simp only [Effect.run_bind, Effect.run_getState, hsite]
          rfl
        rw [hsame]
        exact .quiet (.refl w)
      | some site =>
        have hdispatch : ((deliver (.router n) event).run w).state =
            ((site.messenger.router.dispatch site.registry
              (fun delivery => MainLoop.post (queuePart n) (.delivery delivery)) event).run
                w).state := by
          unfold deliver
          simp only [Effect.run_bind, Effect.run_getState, hsite]
          exact Effect.state_discard _ w
        rw [hdispatch]
        rcases dispatch_cases site.messenger.router site.registry n event w with
          hsame | ⟨d, queue, hdomain, hpost, hposted⟩
        · rw [hsame]
          exact .quiet (.refl w)
        · exact .posted (.refl w) (Service.routes_of_route hreply hroute) hsite hdomain hpost hposted

/-- A message with a reply port goes its way once the service found the binding of the port. -/
theorem endpoint_sendWithReply_ends {reply : PortId} {binding : Loopback.Binding}
    (hbinding : w.service.replyBinding app reply = .ok binding) (remote : RemoteAddress)
    (domain : TrustDomain) (payload : Payload) :
    let way := w.route app remote domain payload (some binding)
    ((host.endpoint app).sendWithReply reply remote domain payload).Ends w
      (.ok (way.map fun _ => ())) (w.afterRoute way) := by
  intro way
  have hask : (host.ask (·.replyBinding app reply)).Ends w (.ok (.ok binding)) w := by
    refine ⟨?_, rfl⟩
    show Except.ok (w.service.replyBinding app reply) = _
    rw [hbinding]
  exact Effect.ends_bind hask (transmit_ends w app remote domain payload (some binding))

theorem endpoint_sendWithReply_sent (w : World) (app : String) (reply : PortId)
    (remote : RemoteAddress) (domain : TrustDomain) (payload : Payload) :
    Sent w app remote domain (some reply)
      (((host.endpoint app).sendWithReply reply remote domain payload).run w).state := by
  cases hbinding : w.service.replyBinding app reply with
  | error code =>
    have hstate : (((host.endpoint app).sendWithReply reply remote domain payload).run w).state =
        w := by
      have hbinding' : (host.service.get w).replyBinding app reply = .error code := hbinding
      unfold Loopback.Host.endpoint Loopback.Host.ask
      simp only [Effect.run_bind, Effect.run_getState, Effect.run_pure, hbinding']
    rw [hstate]
    exact .quiet (.refl w)
  | ok binding =>
    have hends := transmit_ends w app remote domain payload (some binding)
    rw [(endpoint_sendWithReply_ends hbinding remote domain payload).state, ← hends.state]
    -- The reply binding goes into the delivery and decides nothing about where it goes.
    exact transmit_sent w app remote domain payload (.port hbinding)

theorem tapped_send_sent (w : World) (name app : String) (remote : RemoteAddress)
    (domain : TrustDomain) (payload : Payload) :
    Sent w app remote domain none (((tapped name app).send remote domain payload).run w).state := by
  rcases tap_cases w name .send (.send remote domain payload) doneBy
      ((host.endpoint app).send remote domain payload) with
    ⟨w₁, hquiet, hends⟩ | ⟨-, result, w₁, hquiet, hends⟩
  · have hstate : (((tapped name app).send remote domain payload).run w).state = _ := hends.state
    rw [hstate]
    exact .of_quiet hquiet (transmit_sent w₁ app remote domain payload .nowhere)
  · have hstate : (((tapped name app).send remote domain payload).run w).state = _ := hends.state
    rw [hstate]
    exact .quiet hquiet

theorem tapped_sendWithReply_sent (w : World) (name app : String) (reply : PortId)
    (remote : RemoteAddress) (domain : TrustDomain) (payload : Payload) :
    Sent w app remote domain (some reply)
      (((tapped name app).sendWithReply reply remote domain payload).run w).state := by
  rcases tap_cases w name .sendWithReply (.sendWithReply reply remote domain payload) doneBy
      ((host.endpoint app).sendWithReply reply remote domain payload) with
    ⟨w₁, hquiet, hends⟩ | ⟨-, result, w₁, hquiet, hends⟩
  · have hstate : (((tapped name app).sendWithReply reply remote domain payload).run w).state = _ :=
      hends.state
    rw [hstate]
    exact .of_quiet hquiet (endpoint_sendWithReply_sent w₁ app reply remote domain payload)
  · have hstate : (((tapped name app).sendWithReply reply remote domain payload).run w).state = _ :=
      hends.state
    rw [hstate]
    exact .quiet hquiet

end World
end Scenario
end PortMessaging
