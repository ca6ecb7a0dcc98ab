import PortMessaging.Proofs.RegistryChanges
import PortMessaging.Proofs.SoundWorlds

/-!
# RepairingRegistrations — a registration mends what went on behind the registry's back

Several registries and bare endpoints may work on the bindings of one application.  Then a registry does
not mirror the service: it may hold entries whose bindings are gone, and names may be bound that it has
never heard of.  A registration through it puts its own name right all the same, and it touches nothing
else (`Repaired`).

What makes this safe is the account of minted ids (`Filed`).  The id that the service answers was minted
for the name that was asked for, so it is not the id of a port of the other domain or of another name.
The stale id of the name was minted for the same key; the key has another id now, so nothing is bound to
the stale one any more, and to release it takes nobody's binding away.
-/

namespace PortMessaging

/-! ## Bindings and releases by the account of ids -/

namespace Loopback
namespace Service

variable {S : Type} {service : Service S} {app name : String} {domain : TrustDomain} {id : PortId}
  {minted : List PortKey}

/-- A request to bind is seen under its own key only. -/
theorem idAt?_bind_of_ne {key : PortKey} (hkey : key ≠ ⟨app, domain, name⟩) :
    (service.bind app name domain).2.idAt? key = service.idAt? key := by
  rcases bind_cases service app name domain with
    ⟨-, hrun⟩ | ⟨id, -, hrun⟩ | ⟨record, hrecord, hfree, hrun⟩
  · rw [hrun]
  · rw [hrun]
  · have hother : ¬ (key.app = app ∧ key.domain = domain ∧ key.name = name) := by
      rintro ⟨rfl, rfl, rfl⟩
      exact hkey rfl
    rw [hrun]
    exact (boundId?_withFresh hrecord hfree key.app key.domain key.name).trans (if_neg hother)

/-- A service that knows the application binds the name to the id that it answers. -/
theorem idAt?_bind_self (hknown : (service.certificate? app).isSome) (name : String)
    (domain : TrustDomain) :
    ∃ outcome, (service.bind app name domain).1 = .ok outcome ∧
      (service.bind app name domain).2.idAt? ⟨app, domain, name⟩ = some outcome.id := by
  rcases bind_cases service app name domain with
    ⟨hunknown, -⟩ | ⟨id, hbound, hrun⟩ | ⟨record, hrecord, hfree, hrun⟩
  · unfold certificate? at hknown
    rw [hunknown] at hknown
    cases hknown
  · rw [hrun]
    exact ⟨_, rfl, hbound⟩
  · rw [hrun]
    exact ⟨_, rfl, (boundId?_withFresh hrecord hfree app domain name).trans (if_pos ⟨rfl, rfl, rfl⟩)⟩

/-- To release an id to which its own key is not bound releases nothing. -/
theorem Minted.unbind_unbound (h : Minted minted service) {key : PortKey}
    (hkey : keyOf? minted id = some key) (hunbound : service.idAt? key ≠ some id) (app : String) :
    (service.unbind app id).2 = service := by
  rcases unbind_cases service app id with
    ⟨-, hrun⟩ | ⟨record, -, -, hrun⟩ | ⟨record, b, hrecord, hb, rfl, -⟩
  · rw [hrun]
  · rw [hrun]
  · -- What is bound to the id is its key.
    have hsame : key = ⟨app, b.domain, b.name⟩ :=
      Option.some.inj (hkey.symm.trans (h.keys hrecord b hb))
    have hport : (key, b.id) ∈ service.ports := by
      rw [hsame]
      exact Service.mem_ports_iff.2 ⟨record, hrecord, hb⟩
    exact absurd (h.mem_ports_iff.1 hport) hunbound

end Service
end Loopback

/-! ## Entries before and after a registration -/

namespace Registry

variable {σ : Type} {translator : Translator} {transport : Transport σ} {registry registry' : Registry}
  {s s' : σ} {name : String} {domain : TrustDomain} {offered : Option Listener} {id : PortId}

/-- A registration that succeeds brings no entry but the one under its id. -/
theorem Registration.lookup_before
    (h : Registration translator transport name domain registry s offered (.ok (.ok id)) registry' s')
    {d : TrustDomain} {key : PortId} {entry : PortEntry} (hlookup : registry'.lookup key d = some entry)
    (hkey : key ≠ id) : registry.lookup key d = some entry := by
  cases h with
  | accepted =>
    rcases lookup_seated_cases hlookup with ⟨hid, -, -⟩ | ⟨hbefore, -⟩
    · exact absurd hid hkey
    · exact hbefore
  | moved =>
    rcases lookup_seated_cases hlookup with ⟨hid, -, -⟩ | ⟨hbefore, -⟩
    · exact absurd hid hkey
    · exact (lookup_of_lookup_erase hbefore).1

end Registry

namespace Scenario
namespace World

open Loopback (PortKey keyOf? Service)
open Loopback.Service (Minted)
open Registry (Registration Installed)

variable {w w₁ w₂ : World} {minted : List PortKey} {name app port : String} {domain : TrustDomain}
  {registry registry' : Registry} {translator : Translator} {listener : Listener} {id : PortId}
  {result : Except Fault (Except PortError PortId)}

/-! ## One registration -/

/-- A port of an application is registered under an id: the service has its name bound to the id, the
registry has it installed there, and neither of them changed in anything else. -/
structure Repaired (app port : String) (domain : TrustDomain) (listener : Listener) (id : PortId)
    (registry : Registry) (service : Service Sink) (registry' : Registry) (service' : Service Sink) :
    Prop where
  bound : service'.boundId? app domain port = some id
  installed : Installed registry registry' id port domain listener
  otherNames : ∀ key entry, entry.name ≠ port →
    (registry'.lookup key domain = some entry ↔ registry.lookup key domain = some entry)
  otherDomain : ∀ key, registry'.lookup key domain.other = registry.lookup key domain.other
  bindings : ∀ key other, key ≠ ⟨app, domain, port⟩ →
    ((key, other) ∈ service'.ports ↔ (key, other) ∈ service.ports)

/-- Over an honest transport only the request to bind moves the counter of ids. -/
theorem registration_lastId
    (h : Registration translator (tapped name app) port domain registry w (some listener) result
      registry' w₂) (hport : port ≠ "") (hun : w.Unscripted name) :
    w₂.service.lastId = (w.service.bind app port domain).2.lastId := by
  have hreleased : ∀ {answer : Except Fault (Except TransportCode BindOutcome)}
      {done : Except Fault (Except TransportCode Unit)} {w₁ : World} {id : PortId},
      ((tapped name app).bind port domain).Ends w answer w₁ →
      ((tapped name app).unbind id).Ends w₁ done w₂ →
      w₂.service.lastId = (w.service.bind app port domain).2.lastId := by
    intro answer done w₁ id hbind hunbind
    rcases bind_honest hun hbind with ⟨-, hservice, hun₁⟩
    rw [(unbind_honest hun₁ hunbind).2, hservice]
    exact Service.lastId_unbind _ app id
  cases h with
  | nameEmpty hname => exact absurd hname hport
  | bindBroke _ hbind => rw [(bind_honest hun hbind).2.1]
  | bindRefused _ hbind => rw [(bind_honest hun hbind).2.1]
  | existingRejected _ hbind => rw [(bind_honest hun hbind).2.1]
  | accepted _ hbind => rw [(bind_honest hun hbind).2.1]
  | createdRejected _ hbind _ hunbind => exact hreleased hbind hunbind
  | createdRejectedBroke _ hbind _ hunbind => exact hreleased hbind hunbind
  | moved _ hbind _ _ hunbind => exact hreleased hbind hunbind
  | movedBroke _ hbind _ _ hunbind => exact hreleased hbind hunbind

/-- The service answers with an id that the registry takes, and to release the stale id of the name, if there
is one, changes nothing at the service: of all ends of a registration two are left, and both leave the
service as it was when the name had been bound. -/
theorem registration_binds
    (h : Registration translator (tapped name app) port domain registry w (some listener) result
      registry' w₂) (hport : port ≠ "") (hun : w.Unscripted name) {outcome : BindOutcome}
    (houtcome : (w.service.bind app port domain).1 = .ok outcome)
    (hfits : registry.refusal? domain outcome.id = none)
    (hstale : ∀ {stale}, registry.staleId? port domain outcome.id = some stale →
      ((w.service.bind app port domain).2.unbind app stale).2 = (w.service.bind app port domain).2) :
    result = .ok (.ok outcome.id) ∧ w₂.service = (w.service.bind app port domain).2 := by
  have hanswer : ∀ {answer : Except Fault (Except TransportCode BindOutcome)} {w₁ : World},
      ((tapped name app).bind port domain).Ends w answer w₁ →
        answer = .ok (.ok outcome) ∧ w₁.service = (w.service.bind app port domain).2 ∧
          w₁.Unscripted name := by
    intro answer w₁ hbind
    rcases bind_honest hun hbind with ⟨hresult, hservice, hun₁⟩
    exact ⟨by rw [hresult, houtcome], hservice, hun₁⟩
  have hrefused : ∀ {id}, id = outcome.id → ¬ (registry.refusal? domain id).isSome := by
    rintro id rfl
    rw [hfits]
    exact Bool.false_ne_true
  cases h with
  | nameEmpty hname => exact absurd hname hport
  | bindBroke _ hbind => cases (hanswer hbind).1
  | bindRefused _ hbind => cases (hanswer hbind).1
  | existingRejected _ hbind hrefusal =>
    cases (hanswer hbind).1
    exact absurd hrefusal (hrefused rfl)
  | createdRejected _ hbind hrefusal =>
    cases (hanswer hbind).1
    exact absurd hrefusal (hrefused rfl)
  | createdRejectedBroke _ hbind hrefusal =>
    cases (hanswer hbind).1
    exact absurd hrefusal (hrefused rfl)
  | accepted _ hbind =>
    rcases hanswer hbind with ⟨hresult, hservice, -⟩
    cases hresult
    exact ⟨rfl, hservice⟩
  | moved _ hbind _ hfound hunbind =>
    rcases hanswer hbind with ⟨hresult, hservice, hun₁⟩
    cases hresult
    have hreleased := (unbind_honest hun₁ hunbind).2
    rw [hservice] at hreleased
    exact ⟨rfl, hreleased.trans (hstale hfound)⟩
  | movedBroke _ hbind _ _ hunbind => cases (unbind_honest (hanswer hbind).2.2 hunbind).1

/-- An id that was minted for the name that is registered is not refused. -/
theorem FiledFor.refusal?_eq_none (h : FiledFor minted app registry)
    (hkey : keyOf? minted id = some ⟨app, domain, port⟩) : registry.refusal? domain id = none := by
  have hvalid : id.isValid = true := by simpa [PortId.isValid] using Loopback.positive_of_keyOf? hkey
  refine Registry.refusal?_eq_none_iff.2 ⟨hvalid, ?_⟩
  cases hlookup : registry.lookup id domain.other with
  | none => rfl
  | some entry =>
    -- A port of the other domain would have been minted for that domain.
    have hother := (h domain.other id entry hlookup).symm.trans hkey
    simp only [Option.some.injEq, PortKey.mk.injEq] at hother
    exact absurd hother.2.1 (TrustDomain.other_ne domain)

/-- A registry whose entries are filed, over an honest service: every registration of a name with a
listener succeeds and is a repair. -/
theorem registration_repaired
    (h : Registration translator (tapped name app) port domain registry w (some listener) result
      registry' w₂) (hport : port ≠ "") (hun : w.Unscripted name) (hs : w.service.Minted minted)
    (hr : registry.WellFormed) (hfiled : FiledFor minted app registry)
    (hknown : (w.service.certificate? app).isSome)
    (hroom : minted.length + (if w₂.service.lastId = w.service.lastId then 0 else 1) < 2 ^ 31) :
    ∃ id, result = .ok (.ok id) ∧
      Repaired app port domain listener id registry w.service registry' w₂.service := by
  let key : PortKey := ⟨app, domain, port⟩
  let bound := (w.service.bind app port domain).2
  rw [registration_lastId h hport hun] at hroom
  rcases hs.bind app port domain with ⟨more, hlength, hmore⟩
  rcases hmore (hlength ▸ hroom) with ⟨hminted, hkeys⟩
  rcases Service.idAt?_bind_self hknown port domain with ⟨outcome, houtcome, hidAt⟩
  have hkey : keyOf? (minted ++ more) outcome.id = some key := hkeys outcome houtcome
  have hfiled' : FiledFor (minted ++ more) app registry := hfiled.append more
  have hfits : registry.refusal? domain outcome.id = none := hfiled'.refusal?_eq_none hkey
  have hown : ∀ entry, registry.lookup outcome.id domain = some entry → entry.name = port := by
    intro entry hlookup
    have hsame := (hfiled' domain outcome.id entry hlookup).symm.trans hkey
    exact congrArg PortKey.name (Option.some.inj hsame)
  -- The stale id was minted for the same key, which has another id now.
  have hstale : ∀ {stale}, registry.staleId? port domain outcome.id = some stale →
      (bound.unbind app stale).2 = bound := by
    intro stale hstale
    rcases hr.stale_spec hstale with ⟨hne, entry, hlookup, rfl⟩
    refine hminted.unbind_unbound (hfiled' domain stale entry hlookup) ?_ app
    rw [hidAt]
    exact fun heq => hne (Option.some.inj heq).symm
  rcases registration_binds h hport hun houtcome hfits hstale with ⟨rfl, hservice⟩
  rcases hr.seated_of_registration h with ⟨offered, cleared, hoffered, hcleared, hseated⟩
  cases hoffered
  have hinstalled : Installed registry registry' outcome.id port domain listener :=
    hseated ▸ hcleared.installed hr hown listener
  refine ⟨outcome.id, rfl, ?_, hinstalled, ?_, ?_, ?_⟩
  · rw [hservice]
    exact hidAt
  · intro key entry hname
    refine ⟨fun hlookup => h.lookup_before hlookup ?_, fun hlookup => hinstalled.others hlookup hname⟩
    -- The entry under the id of the port has the name of the port.
    rintro rfl
    rw [hinstalled.entry, Option.some.injEq] at hlookup
    exact hname (congrArg PortEntry.name hlookup).symm
  · intro key
    exact congrArg (·.get? key) (hr.registration_confined h).otherTable
  · intro key other hne
    rw [hservice, hminted.mem_ports_iff, hs.mem_ports_iff, Service.idAt?_bind_of_ne hne]

/-! ## Registrations in any reachable world -/

/-- Let registries and bare endpoints of any applications register, unregister, bind and release in any
order, over honest transports and with fewer than 2³¹ ids minted.  At every desk that can be reached, a
registration of a name with a listener succeeds: the service has the name bound to the id, the registry
of the desk has exactly one entry of that name in the domain, with that id and the new listener, its
other entries are as before, and so are all other bindings of the service. -/
theorem registration_repairs_over_runs (limit : Nat) (moves : List Move)
    (hhonest : ∀ move ∈ moves, ∀ name, move.binder? ≠ some (name, .script)) {name : String}
    {handle : Handle} {desk : Desk}
    (hhandle : ((initial limit).after moves).handles.get? name = some handle)
    (hdesk : ((initial limit).after moves).deskOf? name handle = some desk) (translator : Translator)
    {port : String} (hport : port ≠ "") (domain : TrustDomain) (listener : Listener) :
    let w := (initial limit).after moves
    let out := (desk.onRegistry
      (Registry.register translator desk.transport port domain (some listener))).run w
    (initial limit).freshBindings moves +
      (if out.state.service.lastId = w.service.lastId then 0 else 1) < 2 ^ 31 →
    ∃ id, out.result = .ok (.ok id) ∧
      Repaired handle.app port domain listener id ((registryPart desk.site).get w) w.service
        ((registryPart desk.site).get out.state) out.state.service := by
  intro w out hroom
  have hstart : ([] : List PortKey).length + (initial limit).freshBindings moves < 2 ^ 31 := by
    rw [List.length_nil]
    omega
  rcases filed_after moves hhonest (sound_initial limit) nofun nofun hstart with
    ⟨minted, hlength, hsound, hunscripted, hfiled⟩
  rw [List.nil_append] at hsound hfiled
  rcases deskAt_of_deskOf? hhandle hdesk with ⟨n, place, hat⟩
  have happ : place.app = handle.app := app_of_seat hsound hhandle hat.site hat.place
  let inner := (Registry.register translator (tapped name handle.app) port domain
    (some listener)).run (place.registry, w)
  have hends := Registry.register_registration translator (tapped name handle.app) port domain
    (some listener) place.registry w
  have hrun : out.result = inner.result ∧
      out.state = (registryPart n).set inner.state.1 inner.state.2 := by
    unfold out inner
    rw [hat.transport]
    exact hat.run_onRegistry _
  rcases hrun with ⟨hresult, hstate⟩
  have hservice : out.state.service = inner.state.2.service := by
    rw [hstate]
    rfl
  -- The registry of the desk is the one that the registration left.
  have hafter : (registryPart desk.site).get out.state = inner.state.1 := by
    have hplace : inner.state.2.places[n]? = some place := by
      unfold places
      rw [(registration_served hends).sites]
      exact hat.place
    rw [hstate, hat.number]
    exact registryPart_get_set hplace _
  rw [← hlength, hservice] at hroom
  rw [hresult, hat.registryPart_get, hafter, hservice]
  exact registration_repaired hends hport (hunscripted name) hsound.minted
    (hsound.registries n place hat.place) (happ ▸ hfiled n place hat.place)
    (hsound.known name handle hhandle) hroom

/-- A registry registers a port, and a bare endpoint of the same application releases the id and binds the
name anew.  The entry of the registry is stale then. -/
def reboundBehind : List Move :=
  [.connect "alice" "app.a" "certificate" .defaults .threaded true,
   .connectEndpoint "raw" "app.a" "certificate",
   .act none (.onMessenger "alice" (.register "inbox" false false (.fresh "listener" none [] 0))),
   .act none (.onEndpoint "raw" (.unbind ⟨1⟩)),
   .act none (.onEndpoint "raw" (.bind "news" .openToAll)),
   .act none (.onEndpoint "raw" (.bind "inbox" .openToAll))]

theorem registration_repairs_reboundBehind :
    let w := (initial 100).after reboundBehind
    let before := (registryPart 0).get w
    ∃ desk registry' service', w.deskOf? "alice" ⟨"app.a", some 0, none, []⟩ = some desk ∧
      before.HasName .openToAll "inbox" ⟨1⟩ ∧
      w.service.boundId? "app.a" .openToAll "inbox" = some ⟨3⟩ ∧
      ((desk.onRegistry (Registry.register ⟨false⟩ desk.transport "inbox" .openToAll
        (some (.oneWay 7)))).run w).result = .ok (.ok ⟨3⟩) ∧
      Repaired "app.a" "inbox" .openToAll (.oneWay 7) ⟨3⟩ before w.service registry' service' := by
  intro w before
  let desk : Desk := ⟨⟨.defaults⟩, 0, tapped "alice" "app.a"⟩
  have hhonest : ∀ move ∈ reboundBehind, ∀ name, move.binder? ≠ some (name, .script) := by
    simp [reboundBehind, Move.binder?]
  have hresult : ((desk.onRegistry (Registry.register ⟨false⟩ desk.transport "inbox" .openToAll
      (some (.oneWay 7)))).run w).result = .ok (.ok ⟨3⟩) := by decide +kernel
  have hhandle : w.handles.get? "alice" = some ⟨"app.a", some 0, none, []⟩ := rfl
  have hdesk : w.deskOf? "alice" ⟨"app.a", some 0, none, []⟩ = some desk := rfl
  have hport : "inbox" ≠ "" := by decide
  rcases registration_repairs_over_runs 100 reboundBehind hhonest hhandle hdesk ⟨false⟩ hport
    .openToAll (.oneWay 7) (by decide +kernel) with ⟨id, hid, hrepaired⟩
  have heq := hid.symm.trans hresult
  cases heq
  exact ⟨desk, _, _, rfl, ⟨_, rfl, rfl⟩, by decide +kernel, hresult, hrepaired⟩

end World
end Scenario
end PortMessaging
