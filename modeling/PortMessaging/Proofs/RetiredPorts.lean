import PortMessaging.Proofs.PortLifetimes
import PortMessaging.Proofs.TrustIsolation

/-!
# RetiredPorts — a port that was unregistered never comes back

Let the registry of one site be all that works on the bindings of an application.  When it has
unregistered an id, nothing is bound to the id any more, and as ids are not minted twice nothing ever
will be (`PortLifetimes`).  `Retired` collects what this leaves in every later world; from it follows all
that can be asked about the id: views show nothing, deliveries find no listener, whether they were queued
before, sent later or handed straight to the router, and requests that name the id fail before a
transport hears of them.

Deliveries that wait when the port goes are looked up by their id alone, so what keeps them from another
listener is that the id is not given to another name.
-/

namespace PortMessaging

/-! ## Requests about ids that are missing -/

/-- A delivery for an id that is not active is dropped before anything is posted. -/
theorem Router.dispatch_missing_ends {σ : Type} (router : Router) {registry : Registry}
    {event : DeliveryEvent} (hmissing : registry.domainOf? event.target = none)
    (post : Delivery → Effect σ Bool) (s : σ) :
    (router.dispatch registry post event).Ends s (.ok .noListener) s := by
  unfold Router.dispatch
  rw [hmissing]
  exact ⟨rfl, rfl⟩

/-- A valid id that is not active in the domain is not unregistered. -/
theorem Registry.Unregistration.of_missing {σ : Type} {translator : Translator}
    {transport : Transport σ} {id : PortId} {domain : TrustDomain} {registry registry' : Registry}
    {s s' : σ} {result : Except Fault (Except PortError PortEntry)}
    (h : Unregistration translator transport id domain registry s result registry' s')
    (hvalid : id.isValid = true) (hmissing : registry.lookup id domain = none) :
    result = .ok (.error (.portNotFound (.inDomain domain id))) ∧ registry' = registry ∧ s' = s := by
  have hactive : ∀ {entry}, registry.lookup id domain = some entry → False := by
    intro entry hlookup
    rw [hmissing] at hlookup
    cases hlookup
  cases h with
  | idInvalid hid =>
    rw [hvalid] at hid
    cases hid
  | missing => exact ⟨rfl, rfl, rfl⟩
  | unbindBroke _ hlookup => exact (hactive hlookup).elim
  | unbindRefused _ hlookup => exact (hactive hlookup).elim
  | retired _ hlookup => exact (hactive hlookup).elim

namespace Scenario
namespace World

open Loopback (PortKey keyOf? Service)
open Registry (HonestRegistration HonestUnregistration)

variable {w : World} {move : Move} {minted account more : List PortKey} {app port name : String}
  {n k : Nat} {id : PortId} {domain : TrustDomain} {handle : Handle} {place : Place} {desk : Desk}

/-! ## Sites of an application that stay empty -/

/-- Of all sites only one has ports of an application. -/
def Alone (w : World) (app : String) (n : Nat) : Prop := ∀ k, k ≠ n → w.portsOf app k = .empty

theorem alone_initial (limit : Nat) (app : String) (n : Nat) : (initial limit).Alone app n :=
  fun _ _ => rfl

/-- Other sites of the application stay empty, as only the registry of the one site changes. -/
theorem Alone.next (halone : w.Alone app n) (h : Sound minted w) (hsole : SoleMove w app n move) :
    (w.next move).Alone app n := by
  intro k hk
  refine Eq.trans ?_ (halone k hk)
  cases next_deed w move with
  | kept hkept => exact portsOf_of_places (by rw [hkept.places])
  | scripted _ _ _ hmodified =>
    rw [hmodified]
    rfl
  | @changed name handle m place registry' w₁ w₂ hbinder hhandle hsite hplace hquiet hchanged hset =>
    have hturned := hchanged.turned hquiet m
    rw [← hset] at hturned
    by_cases hm : k = m
    · -- The site that changed is not the one, so it belongs to another application.
      subst hm
      have hseat : place.app = handle.app := app_of_seat h hhandle hsite hplace
      have hother : place.app ≠ app := fun happ =>
        hk ((hsole name .registry handle hbinder hhandle (hseat.symm.trans happ)).2 k hsite)
      rw [portsOf_of_ne (hturned.place_self hplace) hother, portsOf_of_ne hplace hother]
    · exact portsOf_of_places (hturned.place_of_ne hm)
  | connected _ hplaces hnew =>
    refine portsOf_of_append hplaces fun place hplace => ?_
    rw [hnew place hplace]

theorem Alone.after (halone : w.Alone app n) (h : Sound minted w) (moves : List Move)
    (hsole : SoleRun app n w moves) (hroom : minted.length + w.freshBindings moves < 2 ^ 31) :
    (w.after moves).Alone app n := by
  let P : List PortKey → List Move → World → Prop := fun _ rest w =>
    w.Alone app n ∧ SoleRun app n w rest
  have hstep : ∀ {account more : List PortKey} {w : World} {move : Move} {rest : List Move},
      Stepped account more w move → P account (move :: rest) w →
        P (account ++ more) rest (w.next move) := by
    rintro account more w move rest hstepped ⟨hw, hmove, hrest⟩
    exact ⟨hw.next hstepped.before hmove, hrest⟩
  rcases h.run hstep moves hroom ⟨halone, hsole⟩ with ⟨-, -, -, hend, -⟩
  exact hend

/-! ## Retired ids -/

/-- An id of an application was unregistered by the registry of its site, and nothing is bound to it. -/
structure Retired (account : List PortKey) (w : World) (app : String) (n : Nat) (id : PortId) :
    Prop where
  sound : Sound account w
  mirrored : Mirrored w app n
  seat : w.appAt? n = some app
  gone : w.Gone id
  minted : ∃ domain port, keyOf? account id = some ⟨app, domain, port⟩

/-- What a registry grants to unregister is bound on the service. -/
theorem Unregisters.bound (hun : Unregisters w app id move) (h : Sound minted w)
    (hmirrored : Mirrored w app n) (hsole : SoleMove w app n move) :
    w.appAt? n = some app ∧ ∃ domain port, w.service.boundId? app domain port = some id := by
  rcases hun with ⟨hbinder, hasked, hhandle, rfl, hdesk, hgranted⟩
  rcases deskAt_of_deskOf? hhandle hdesk with ⟨m, place, hat⟩
  have hm : m = n := (hsole _ .registry _ hbinder hhandle rfl).2 m hat.site
  subst hm
  refine ⟨h.seats _ _ m hhandle hat.site, ?_⟩
  rcases unregistering_honest h hat hmirrored _ id _ with ⟨answer, registry', hanswer, hhonest⟩
  rw [hgranted] at hanswer
  cases hanswer
  rcases Option.isSome_iff_exists.1 (hhonest.ok_iff.1 ⟨_, rfl⟩) with ⟨entry, hlookup⟩
  exact ⟨_, _, hmirrored.ports.boundId?_of_lookup hlookup⟩

/-- An id that a registry unregisters is retired for ever. -/
theorem Unregisters.retired (hun : Unregisters w app id move) (h : Sound minted w)
    (hmirrored : Mirrored w app n) {later : List Move} (hsole : SoleRun app n w (move :: later))
    (hroom : minted.length + w.freshBindings (move :: later) < 2 ^ 31)
    (hafter : Sound (minted ++ more) (w.after (move :: later))) :
    Retired (minted ++ more) (w.after (move :: later)) app n id := by
  rcases hun.bound h hmirrored hsole.1 with ⟨hseat, domain, port, hbound⟩
  have hkey : keyOf? minted id = some ⟨app, domain, port⟩ := h.minted.key_of_boundId? hbound
  exact ⟨hafter, hmirrored.after h _ hsole hroom, appAt?_after _ hseat,
    gone_after h hmirrored _ hsole hroom hbound (.inl hun),
    domain, port, Loopback.keyOf?_append hkey more⟩

namespace Retired

variable (hretired : Retired account w app n id)

include hretired in
theorem isValid : id.isValid = true := by
  rcases hretired.minted with ⟨domain, port, hkey⟩
  simpa [PortId.isValid] using Loopback.positive_of_keyOf? hkey

include hretired in
/-- The ports of the application are those in the registry of its site. -/
theorem registryPart_get : (registryPart n).get w = w.portsOf app n := by
  rcases Option.map_eq_some_iff.1 hretired.seat with ⟨place, hplace, happ⟩
  rw [portsOf_of_place hplace happ]
  exact World.registryPart_get hplace

include hretired in
theorem lookup_eq_none (d : TrustDomain) : ((registryPart n).get w).lookup id d = none := by
  rw [hretired.registryPart_get]
  cases hlookup : (w.portsOf app n).lookup id d with
  | none => rfl
  | some entry =>
    -- An active port would be bound.
    let key : PortKey := ⟨app, d, entry.name⟩
    have hbound : w.service.idAt? key = some id :=
      hretired.mirrored.ports.boundId?_of_lookup hlookup
    exact absurd (hretired.sound.minted.mem_ports_iff.2 hbound) (hretired.gone key)

include hretired in
theorem lookupEither_eq_none : ((registryPart n).get w).lookupEither id = none := by
  unfold Registry.lookupEither
  rw [hretired.lookup_eq_none, hretired.lookup_eq_none]
  rfl

include hretired in
theorem nameOf?_eq_none : ((registryPart n).get w).nameOf? id = none :=
  Option.map_eq_none_iff.2 hretired.lookupEither_eq_none

include hretired in
theorem domainOf?_eq_none : ((registryPart n).get w).domainOf? id = none :=
  Option.map_eq_none_iff.2 hretired.lookupEither_eq_none

include hretired in
/-- No site at all has a port under the id, if all entries sit under ids that were minted for them and the
application has no ports elsewhere. -/
theorem lookup_eq_none_everywhere (hfiled : w.Filed account) (halone : w.Alone app n)
    (hplace : w.places[k]? = some place) (d : TrustDomain) : place.registry.lookup id d = none := by
  by_cases hk : k = n
  · subst hk
    rw [← World.registryPart_get hplace]
    exact hretired.lookup_eq_none d
  · cases hlookup : place.registry.lookup id d with
    | none => rfl
    | some entry =>
      -- The id was minted for the application, and its other sites are empty.
      rcases hretired.minted with ⟨domain, port, hkey⟩
      have hsame := (hfiled k place hplace d id entry hlookup).symm.trans hkey
      have happ : place.app = app := congrArg PortKey.app (Option.some.inj hsame)
      rw [← portsOf_of_place hplace happ, halone k hk] at hlookup
      cases d with
      | openToAll => cases hlookup
      | trusted => cases hlookup

/-! ## What becomes of messages to the id -/

/-- A listener is only called for a port that is there. -/
theorem localPort_ne_of_calling {calling : Calling}
    (hmissing : ∀ place, w.places[k]? = some place → ∀ d, place.registry.lookup id d = none)
    (hcalling : w.calling? (.runNext k) = some calling) :
    calling.delivery.event.inbound.localPort ≠ id := by
  rcases exists_of_calling? hcalling with ⟨m, site, rest, hmove, hsite, -, -, hentry⟩
  cases hmove
  rintro rfl
  have hnone : site.registry.lookup calling.delivery.event.target calling.delivery.domain = none :=
    hmissing site.place (places_of_site hsite) calling.delivery.domain
  rw [hnone] at hentry
  cases hentry

include hretired in
/-- A delivery that is handed to the router now is dropped on the spot. -/
theorem dispatch_ends (hsite : desk.site = n) {event : DeliveryEvent} (htarget : event.target = id) :
    (desk.dispatch event).Ends w (.ok .noListener) w := by
  have hdomain : ((registryPart desk.site).get w).domainOf? event.target = none := by
    rw [hsite, htarget]
    exact hretired.domainOf?_eq_none
  refine Effect.ends_bind (Effect.ends_bind (Effect.ends_getState w) ⟨rfl, rfl⟩) ?_
  exact desk.messenger.router.dispatch_missing_ends hdomain _ w

/-! ## Requests that name the id -/

include hretired in
/-- To send with the id as reply port asks the transport for nothing. -/
theorem sendWithReply_ends (gateway : Gateway) (transport : Transport World)
    (remote : RemoteAddress) (d : TrustDomain) (payload : Option Payload) :
    (gateway.sendWithReply ((registryPart n).get w) transport remote d payload id).Ends w
      (.ok (.error ((Gateway.fault? remote payload).getD (.portNotFound (.inEither id))))) w :=
  gateway.sendWithReply_missing_ends transport remote d payload hretired.isValid
    hretired.domainOf?_eq_none w

include hretired in
theorem desk_sendWithReply_ends (hsite : desk.site = n) (remote : RemoteAddress)
    (trusted named : Bool) (payload : Payload) :
    (desk.sendWithReply remote trusted named payload id).Ends w
      (.ok (.error ((Gateway.fault? remote (some payload)).getD (.portNotFound (.inEither id))))) w := by
  have hends := hretired.sendWithReply_ends desk.messenger.gateway desk.transport remote
    (.ofTrusted trusted) (some payload)
  rw [← hsite] at hends
  have hrun := desk.run_sendWithReply remote trusted named payload id w
  exact ⟨(congrArg Outcome.result hrun).trans hends.result,
    (congrArg Outcome.state hrun).trans hends.state⟩

section AtDesk

variable (hdesk : DeskAt w name handle n place desk)

include hretired hdesk in
/-- To unregister the id once more fails, in either domain, and nothing happens. -/
theorem unregister_ends (translator : Translator) (d : TrustDomain) :
    (desk.onRegistry (Registry.unregister translator desk.transport id d)).Ends w
      (.ok (.error (.portNotFound (.inDomain d id)))) w := by
  have hmissing : place.registry.lookup id d = none := by
    rw [← World.registryPart_get hdesk.place]
    exact hretired.lookup_eq_none d
  have hends := Registry.unregister_unregistration translator desk.transport id d place.registry w
  rcases hends.of_missing hretired.isValid hmissing with ⟨hresult, hregistry, hworld⟩
  rcases hdesk.run_onRegistry (Registry.unregister translator desk.transport id d) with
    ⟨hrun, hstate⟩
  refine ⟨hrun.trans hresult, hstate.trans ?_⟩
  rw [hregistry, hworld, ← World.registryPart_get hdesk.place]
  exact registryPart_set_get w n

include hretired hdesk in
/-- A registration of a name with a listener gives another id. -/
theorem register_ne (happ : handle.app = app) (translator : Translator) {port : String}
    (hport : port ≠ "") (d : TrustDomain) (listener : Listener) :
    let out := (desk.onRegistry
      (Registry.register translator desk.transport port d (some listener))).run w
    account.length + (if out.state.service.lastId = w.service.lastId then 0 else 1) < 2 ^ 31 →
    ∃ other, out.result = .ok (.ok other) ∧ other ≠ id := by
  subst happ
  intro out hroom
  rcases registering_honest hretired.sound hdesk hretired.mirrored translator port d (some listener)
    hroom with ⟨answer, registry', hresult, hhonest⟩
  rcases hhonest.ok_iff.2 ⟨hport, rfl⟩ with ⟨other, rfl⟩
  refine ⟨other, hresult, ?_⟩
  generalize out.state.service = service' at hroom hhonest
  cases hhonest with
  | again _ hlookup =>
    -- The id of an active name is active, and this one is not.
    rintro rfl
    rw [← hretired.registryPart_get, hretired.lookup_eq_none] at hlookup
    cases hlookup
  | @fresh _ record =>
    -- The next id was never minted before, and this one was.
    have hmoved : (w.service.withFresh handle.app record d port).lastId ≠ w.service.lastId :=
      Loopback.add_one_ne _
    rw [if_neg hmoved] at hroom
    rcases hretired.minted with ⟨domain, active, hkey⟩
    rintro rfl
    rw [hretired.sound.minted.keyOf?_next hroom] at hkey
    cases hkey

end AtDesk

end Retired

/-! ## Runs -/

/-- Let an application leave its bindings to the registry of one site, in a run in which fewer than 2³¹ ids
are minted; what other applications do is free.  Once that registry has unregistered an id, then at the end
of the run, however it went on:

* the registry shows nothing for the id, in no domain and under no name;
* the task that is next at the site calls no listener for the id; if all transports of the run are honest,
  no listener of any site is called for it;
* at a desk of the site, a delivery for the id that is handed straight to the router is dropped; to send with
  the id as reply port and to unregister it fail and change nothing, not even the record of the calls on the
  transport: the port is not found, unless the address or the payload was at fault before that; and to
  register any name gives another id. -/
theorem retired_ports_stay_unreachable (limit : Nat) (past : List Move) (move : Move)
    (later : List Move) (app : String) (n : Nat) (id : PortId)
    (hsole : SoleRun app n (initial limit) (past ++ move :: later))
    (hfew : (initial limit).freshBindings (past ++ move :: later) < 2 ^ 31)
    (hun : Unregisters ((initial limit).after past) app id move) :
    let run := past ++ move :: later
    let w := (initial limit).after run
    let registry := (registryPart n).get w
    ((∀ d, registry.lookup id d = none) ∧ registry.lookupEither id = none ∧
      registry.nameOf? id = none ∧ registry.domainOf? id = none) ∧
    (∀ calling, w.calling? (.runNext n) = some calling →
      calling.delivery.event.inbound.localPort ≠ id) ∧
    ((∀ move ∈ run, ∀ name, move.binder? ≠ some (name, .script)) →
      ∀ k calling, w.calling? (.runNext k) = some calling →
        calling.delivery.event.inbound.localPort ≠ id) ∧
    (∀ name handle desk, w.handles.get? name = some handle → handle.app = app →
      w.deskOf? name handle = some desk → desk.site = n →
      (∀ event, event.target = id → (desk.dispatch event).Ends w (.ok .noListener) w) ∧
      (∀ remote trusted named payload,
        (desk.sendWithReply remote trusted named payload id).Ends w (.ok (.error
          ((Gateway.fault? remote (some payload)).getD (.portNotFound (.inEither id))))) w) ∧
      (∀ (gateway : Gateway) remote d payload,
        (gateway.sendWithReply registry desk.transport remote d payload id).Ends w (.ok (.error
          ((Gateway.fault? remote payload).getD (.portNotFound (.inEither id))))) w) ∧
      (∀ translator d,
        (desk.onRegistry (Registry.unregister translator desk.transport id d)).Ends w
          (.ok (.error (.portNotFound (.inDomain d id)))) w) ∧
      (∀ translator port d listener, port ≠ "" →
        let out := (desk.onRegistry
          (Registry.register translator desk.transport port d (some listener))).run w
        (initial limit).freshBindings run +
          (if out.state.service.lastId = w.service.lastId then 0 else 1) < 2 ^ 31 →
        ∃ other, out.result = .ok (.ok other) ∧ other ≠ id)) := by
  intro run w registry
  have hsplit := (initial limit).freshBindings_append past (move :: later)
  rcases (soleRun_append _ past (move :: later)).1 hsole with ⟨hbefore, hrest⟩
  have hw : w = ((initial limit).after past).after (move :: later) := after_append _ _ _
  have hstart : Mirrored ((initial limit).after past) app n :=
    (fresh_initial limit app n).mirrored.after (sound_initial limit) past hbefore
      (by rw [List.length_nil]; omega)
  rcases sound_after limit past (by omega) with ⟨minted, hlength, hpast⟩
  rcases hpast.after (move :: later) (by omega) with ⟨more, hmore, hafter⟩
  have hretired : Retired (minted ++ more) w app n id := by
    rw [hw]
    exact hun.retired hpast hstart hrest (by omega) hafter
  have haccount : (minted ++ more).length = (initial limit).freshBindings run := by
    rw [List.length_append, hlength, hmore]
    exact hsplit.symm
  refine ⟨⟨hretired.lookup_eq_none, hretired.lookupEither_eq_none, hretired.nameOf?_eq_none,
    hretired.domainOf?_eq_none⟩, ?_, ?_, ?_⟩
  · intro calling
    refine Retired.localPort_ne_of_calling fun place hplace d => ?_
    rw [← registryPart_get hplace]
    exact hretired.lookup_eq_none d
  · -- The account of an honest run also tells for what the ids of all entries were minted.
    intro hhonest k calling
    rcases List.forall_mem_append.1 hhonest with ⟨hhonestPast, hhonestRest⟩
    rcases filed_after past hhonestPast (sound_initial limit) nofun nofun
      (by rw [List.length_nil]; omega) with ⟨minted', hlength', hpast', hunscripted, hfiled'⟩
    rcases filed_after (move :: later) hhonestRest hpast' hunscripted hfiled'
      (by rw [List.nil_append]; omega) with ⟨more', -, hafter', -, hfiled⟩
    have hretired' : Retired ([] ++ minted' ++ more') w app n id := by
      rw [hw]
      exact hun.retired hpast' hstart hrest (by rw [List.nil_append]; omega) hafter'
    have halone : w.Alone app n :=
      (alone_initial limit app n).after (sound_initial limit) run hsole
        (by rw [List.length_nil, Nat.zero_add]; exact hfew)
    rw [← hw] at hfiled
    refine Retired.localPort_ne_of_calling fun place hplace d => ?_
    exact hretired'.lookup_eq_none_everywhere hfiled halone hplace d
  · rintro name handle desk hhandle happ hdesk rfl
    rcases deskAt_of_deskOf? hhandle hdesk with ⟨m, place, hat⟩
    have hm := hat.number
    subst hm
    refine ⟨fun event htarget => hretired.dispatch_ends rfl htarget,
      fun remote trusted named payload =>
        hretired.desk_sendWithReply_ends rfl remote trusted named payload,
      fun gateway remote d payload => hretired.sendWithReply_ends gateway _ remote d payload,
      fun translator d => hretired.unregister_ends hat translator d, ?_⟩
    intro translator port d listener hport out hroom
    refine hretired.register_ne hat happ translator hport d listener ?_
    rw [haccount]
    exact hroom

/-- Two applications connect, one of them registers two ports, and a message for the first is queued. -/
def messageForInbox : List Move :=
  [.connect "alice" "app.a" "certificate" .defaults .threaded true,
   .connect "bob" "app.b" "certificate" .defaults .threaded true,
   .act none (.onMessenger "bob" (.register "inbox" false false (.fresh "listener" none [] 0))),
   .act none (.onMessenger "bob" (.register "news" false false (.tagged "listener"))),
   .act none (.onMessenger "alice" (.send ⟨"app.b", "inbox"⟩ false false .empty))]

/-- The first port is unregistered while its message waits. -/
def retireInbox : Move := .act none (.onMessenger "bob" (.unregister ⟨1⟩ false false))

/-- The second port gets a message, a delivery for the first is handed to the router, and the oldest task
runs. -/
def messageForNews : List Move :=
  [.act none (.onMessenger "alice" (.send ⟨"app.b", "news"⟩ false false .empty)),
   .act none (.onMessenger "bob" (.dispatch (.oneWay ⟨1⟩ "app.a" .empty))),
   .runNext 1]

theorem soleRun_inbox :
    SoleRun "app.b" 1 (initial 100) (messageForInbox ++ retireInbox :: messageForNews) := by
  let sites : String → Nat := fun app => if app = "app.a" then 0 else 1
  let bob : Handle := ⟨"app.b", some 1, none, []⟩
  have hsite : bob.site = some (sites bob.app) := rfl
  have hquiet : ∀ {move : Move}, move.binder? = none → ∀ w : World, SoleMove w "app.b" 1 move :=
    fun h w => soleMove_of_binder?_eq_none h w "app.b" 1
  refine ⟨hquiet rfl _, hquiet rfl _, ?_, ?_, hquiet rfl _, ?_, hquiet rfl _, hquiet rfl _,
    hquiet rfl _, trivial⟩
  · exact soleMove_of_registry rfl rfl hsite "app.b"
  · exact soleMove_of_registry rfl rfl hsite "app.b"
  · exact soleMove_of_registry rfl rfl hsite "app.b"

theorem unregisters_retireInbox :
    Unregisters ((initial 100).after messageForInbox) "app.b" ⟨1⟩ retireInbox := by
  let bob : Handle := ⟨"app.b", some 1, none, []⟩
  let desk : Desk := ⟨⟨.defaults⟩, 1, tapped "bob" "app.b"⟩
  have hasked : retireInbox.unregistration? = some (⟨1⟩, .openToAll) := rfl
  have hhandle : ((initial 100).after messageForInbox).handles.get? "bob" = some bob := rfl
  have hdesk : ((initial 100).after messageForInbox).deskOf? "bob" bob = some desk := rfl
  have hgranted : ((desk.onRegistry (Registry.unregister desk.messenger.translator desk.transport
      ⟨1⟩ .openToAll)).run ((initial 100).after messageForInbox)).result =
        .ok (.ok ⟨⟨1⟩, "inbox", .openToAll, .oneWay 0, .retired⟩) := by decide +kernel
  exact .granted rfl hasked hhandle rfl hdesk hgranted

/-- The message that was queued for the first port is dropped, and a listener is about to be called for the
second. -/
theorem retired_ports_stay_unreachable_in_messageForNews :
    let w := (initial 100).after (messageForInbox ++ retireInbox :: messageForNews)
    ∃ calling desk other, w.calling? (.runNext 1) = some calling ∧
      calling.delivery.event.inbound.localPort ≠ ⟨1⟩ ∧
      w.deskOf? "bob" ⟨"app.b", some 1, none, []⟩ = some desk ∧
      (desk.sendWithReply ⟨"app.a", "outbox"⟩ false false .empty ⟨1⟩).Ends w
        (.ok (.error (.portNotFound (.inEither ⟨1⟩)))) w ∧
      ((desk.onRegistry (Registry.register ⟨false⟩ desk.transport "inbox" .openToAll
        (some (.oneWay 0)))).run w).result = .ok (.ok other) ∧ other ≠ ⟨1⟩ := by
  intro w
  let bob : Handle := ⟨"app.b", some 1, none, []⟩
  let desk : Desk := ⟨⟨.defaults⟩, 1, tapped "bob" "app.b"⟩
  let calling : Calling :=
    ⟨"app.b", ⟨⟨2⟩, "news", .openToAll, .oneWay 0, .active⟩,
      ⟨.openToAll, .oneWay ⟨2⟩ "app.a" .empty⟩⟩
  have hcalling : w.calling? (.runNext 1) = some calling := by decide +kernel
  have hhandle : w.handles.get? "bob" = some bob := rfl
  have hdesk : w.deskOf? "bob" bob = some desk := rfl
  rcases retired_ports_stay_unreachable 100 messageForInbox retireInbox messageForNews "app.b" 1 ⟨1⟩
    soleRun_inbox (by decide +kernel) unregisters_retireInbox with ⟨-, hcalls, -, hdesks⟩
  rcases hdesks "bob" bob desk hhandle rfl hdesk rfl with ⟨-, hsend, -, -, hregister⟩
  rcases hregister ⟨false⟩ "inbox" .openToAll (.oneWay 0) (by decide) (by decide +kernel) with
    ⟨other, hresult, hother⟩
  exact ⟨calling, desk, other, hcalling, hcalls calling hcalling, hdesk,
    hsend ⟨"app.a", "outbox"⟩ false false .empty, hresult, hother⟩

/-- With a retired reply port the address is still what is looked at first: a send to nobody fails for that
reason, not because the port is missing. -/
theorem retired_reply_port_of_empty_address :
    let w := (initial 100).after (messageForInbox ++ [retireInbox])
    SoleRun "app.b" 1 (initial 100) (messageForInbox ++ [retireInbox]) ∧
    Unregisters ((initial 100).after messageForInbox) "app.b" ⟨1⟩ retireInbox ∧
    ∃ desk, w.deskOf? "bob" ⟨"app.b", some 1, none, []⟩ = some desk ∧
      ((desk.sendWithReply ⟨"", "outbox"⟩ false false .empty ⟨1⟩).run w).result =
        .ok (.error (.invalidParameter .remoteAppEmpty)) ∧
      ∀ missing, ((desk.sendWithReply ⟨"", "outbox"⟩ false false .empty ⟨1⟩).run w).result ≠
        .ok (.error (.portNotFound missing)) := by
  intro w
  let desk : Desk := ⟨⟨.defaults⟩, 1, tapped "bob" "app.b"⟩
  have hsole : SoleRun "app.b" 1 (initial 100) ((messageForInbox ++ [retireInbox]) ++ messageForNews) :=
    soleRun_inbox
  have hresult : ((desk.sendWithReply ⟨"", "outbox"⟩ false false .empty ⟨1⟩).run w).result =
      .ok (.error (.invalidParameter .remoteAppEmpty)) := by decide +kernel
  refine ⟨((soleRun_append _ _ _).1 hsole).1, unregisters_retireInbox, desk, rfl, hresult, ?_⟩
  intro missing hmissing
  rw [hresult] at hmissing
  cases hmissing

end World
end Scenario
end PortMessaging
