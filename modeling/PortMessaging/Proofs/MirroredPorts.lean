import PortMessaging.Proofs.ServedRegistries

/-!
# MirroredPorts — a registry that mirrors the bindings of its application

The service keeps the bindings of an application by domain and name; a registry keeps its ports by id,
in a table for each domain.  A registry mirrors its application (`Registry.Mirrors`) if both hold the
same triples of domain, name and id.

A registry that mirrors and whose transport is honest uses few of the exits that registrations have: the
service never answers with an id that would be refused, and no name sits under a stale id
(`registration_honest`).  What is left changes the service and the registry in the same way, so the mirror
survives, and bindings and ports stay equally many.
-/

namespace PortMessaging

/-! ## Counts of ports -/

namespace Registry

variable {registry : Registry} {id : PortId} {domain : TrustDomain} {name : String}
  {listener : Listener} {entry : PortEntry}

/-- A change of one table changes the number of ports as it changes the size of that table. -/
theorem activeCount_modifyTable (registry : Registry) (domain : TrustDomain)
    (f : SortedMap PortId PortEntry → SortedMap PortId PortEntry) :
    (registry.modifyTable domain f).activeCount + (registry.table domain).size =
      registry.activeCount + (f (registry.table domain)).size := by
  cases domain with
  | openToAll =>
    simp only [activeCount, modifyTable, table]
    omega
  | trusted =>
    simp only [activeCount, modifyTable, table]
    omega

theorem activeCount_seated_taken (h : registry.lookup id domain = some entry) :
    (registry.seated id name domain listener).activeCount = registry.activeCount := by
  let f : SortedMap PortId PortEntry → SortedMap PortId PortEntry :=
    (·.modify id fun entry => { entry with listener := listener })
  have hseated : registry.seated id name domain listener = registry.modifyTable domain f := by
    unfold seated
    rw [h]
    rfl
  -- A rebind changes an entry in place.
  have hsize : (f (registry.table domain)).size = (registry.table domain).size := List.length_map _
  have hcount := registry.activeCount_modifyTable domain f
  rw [hseated]
  omega

theorem activeCount_seated_free (h : registry.lookup id domain = none) :
    (registry.seated id name domain listener).activeCount = registry.activeCount + 1 := by
  let f : SortedMap PortId PortEntry → SortedMap PortId PortEntry :=
    (·.insert id ⟨id, name, domain, listener, .active⟩)
  have hseated : registry.seated id name domain listener = registry.modifyTable domain f := by
    unfold seated
    rw [h]
    rfl
  have hget : (registry.table domain).get? id = none := h
  have hsize : (f (registry.table domain)).size = (registry.table domain).size + 1 := by
    refine (SortedMap.size_insert _ _ _).trans ?_
    rw [hget]
    rfl
  have hcount := registry.activeCount_modifyTable domain f
  rw [hseated]
  omega

theorem activeCount_erase (h : registry.lookup id domain = some entry) :
    (registry.erase id domain).activeCount + 1 = registry.activeCount := by
  have hget : (registry.table domain).get? id = some entry := h
  have hsize : ((registry.table domain).erase id).size + 1 = (registry.table domain).size := by
    have herase := SortedMap.size_erase (registry.table domain) id
    rw [hget] at herase
    exact herase
  have hcount : (registry.erase id domain).activeCount + _ = _ :=
    registry.activeCount_modifyTable domain (·.erase id)
  omega

end Registry

/-! ## Mirrors -/

namespace Registry

open Loopback (AppRecord Service)
open Loopback.Service (Minted)

variable {S : Type} {registry : Registry} {service service' : Service S} {app name : String}
  {record : AppRecord S} {minted : List Loopback.PortKey} {id : PortId} {domain : TrustDomain}
  {entry : PortEntry}

/-- The ports of a registry are the bindings of an application on the service. -/
def Mirrors (registry : Registry) (service : Service S) (app : String) : Prop :=
  ∀ d name id, service.boundId? app d name = some id ↔
    ∃ entry, registry.lookup id d = some entry ∧ entry.name = name

namespace Mirrors

theorem of_boundId? (h : registry.Mirrors service app)
    (hsame : ∀ d name, service'.boundId? app d name = service.boundId? app d name) :
    registry.Mirrors service' app := by
  intro d name id
  rw [hsame]
  exact h d name id

theorem boundId?_of_lookup (h : registry.Mirrors service app)
    (hlookup : registry.lookup id domain = some entry) :
    service.boundId? app domain entry.name = some id :=
  (h domain entry.name id).2 ⟨entry, hlookup, rfl⟩

/-- A new listener for an active port leaves its name and its id. -/
theorem again (h : registry.Mirrors service app) (hlookup : registry.lookup id domain = some entry)
    (name : String) (listener : Listener) :
    (registry.seated id name domain listener).Mirrors service app := by
  intro d n other
  refine (h d n other).trans ?_
  -- Of the entry in question only the listener is new.
  by_cases hself : other = id ∧ d = domain
  · rcases hself with ⟨rfl, rfl⟩
    rw [lookup_seated_self, seatEntry_of_some hlookup, hlookup]
    constructor
    · rintro ⟨found, hfound, hname⟩
      cases hfound
      exact ⟨_, rfl, hname⟩
    · rintro ⟨found, hfound, hname⟩
      cases hfound
      exact ⟨_, rfl, hname⟩
  · rw [lookup_seated_of_ne (not_and_or.1 hself)]

/-- A fresh binding and a port under its id go together, if the id is not in use. -/
theorem fresh (h : registry.Mirrors service app) (hrecord : service.apps.get? app = some record)
    (hfree : record.idOf? domain name = none)
    (hunused : registry.lookup ⟨service.lastId + 1⟩ domain = none) (listener : Listener) :
    (registry.seated ⟨service.lastId + 1⟩ name domain listener).Mirrors
      (service.withFresh app record domain name) app := by
  let next : PortId := ⟨service.lastId + 1⟩
  have hnone : service.boundId? app domain name = none :=
    (Service.boundId?_of_get? hrecord domain name).trans hfree
  intro d n other
  rw [Service.boundId?_withFresh hrecord hfree]
  by_cases hself : other = next ∧ d = domain
  · rcases hself with ⟨rfl, rfl⟩
    rw [lookup_seated_self, seatEntry_of_none hunused]
    by_cases hname : n = name
    · subst hname
      rw [if_pos ⟨rfl, rfl, rfl⟩]
      exact ⟨fun _ => ⟨_, rfl, rfl⟩, fun _ => rfl⟩
    · -- Another name is not bound to the fresh id.
      rw [if_neg fun hall => hname hall.2.2]
      constructor
      · intro hbound
        rcases (h d n next).1 hbound with ⟨found, hfound, -⟩
        rw [hunused] at hfound
        cases hfound
      · rintro ⟨found, hfound, hfoundName⟩
        cases hfound
        exact absurd hfoundName.symm hname
  · rw [lookup_seated_of_ne (not_and_or.1 hself), ← h d n other]
    -- The name itself has no other id, neither before nor after.
    by_cases hkey : d = domain ∧ n = name
    · rcases hkey with ⟨rfl, rfl⟩
      rw [if_pos ⟨rfl, rfl, rfl⟩, hnone]
      constructor
      · intro hbound
        exact absurd ⟨(Option.some.inj hbound).symm, rfl⟩ hself
      · intro hbound
        cases hbound
    · rw [if_neg fun hall => hkey hall.2]

/-- A port and the binding of its id go together. -/
theorem released (h : registry.Mirrors service app) (hr : registry.WellFormed)
    (hrecord : service.apps.get? app = some record) (hnames : record.NamesOnce)
    (hlookup : registry.lookup id domain = some entry) :
    (registry.erase id domain).Mirrors (service.without app record id) app := by
  intro d n other
  rw [Service.boundId?_without hrecord hnames, if_pos rfl, Option.filter_eq_some_iff, h d n other]
  by_cases hid : other = id
  · -- The id is gone from both sides.
    subst hid
    have hgone : (registry.erase other domain).lookup other d = none :=
      hr.lookup_erase_eq_none hlookup d
    rw [hgone]
    constructor
    · rintro ⟨-, hne⟩
      simp at hne
    · rintro ⟨found, hfound, -⟩
      cases hfound
  · rw [lookup_erase_of_ne (.inl hid)]
    have hne : (other != id) = true := by simpa using hid
    exact ⟨fun hboth => hboth.1, fun hfound => ⟨hfound, hne⟩⟩

/-! ## What the service answers -/

/-- The next id of the service is not the id of a port. -/
theorem lookup_next (h : registry.Mirrors service app) (hs : Minted minted service)
    (hroom : minted.length + 1 < 2 ^ 31) (domain : TrustDomain) :
    registry.lookup ⟨service.lastId + 1⟩ domain = none := by
  cases hlookup : registry.lookup ⟨service.lastId + 1⟩ domain with
  | none => rfl
  | some entry =>
    have hkey := hs.key_of_boundId? (h.boundId?_of_lookup hlookup)
    rw [hs.keyOf?_next hroom] at hkey
    cases hkey

/-- Where a request to bind mints an id and there is room for it, there is room for one more. -/
theorem room_of_created (hrun : service.bind app name domain =
      (.ok (.created ⟨service.lastId + 1⟩), service.withFresh app record domain name))
    (hroom : minted.length +
      (if (service.bind app name domain).2.lastId = service.lastId then 0 else 1) < 2 ^ 31) :
    minted.length + 1 < 2 ^ 31 := by
  have hmoved : (service.bind app name domain).2.lastId ≠ service.lastId := by
    rw [hrun]
    exact Loopback.add_one_ne _
  rw [if_neg hmoved] at hroom
  exact hroom

/-- Asked to bind a name, the service answers with an id that the registry does not refuse and that leaves
no other id of the name behind. -/
theorem bind_fits (h : registry.Mirrors service app) (hs : Minted minted service)
    (hr : registry.WellFormed) (hknown : (service.certificate? app).isSome) (name : String)
    (domain : TrustDomain) (hroom : minted.length +
      (if (service.bind app name domain).2.lastId = service.lastId then 0 else 1) < 2 ^ 31) :
    ∃ outcome, (service.bind app name domain).1 = .ok outcome ∧
      registry.refusal? domain outcome.id = none ∧
      registry.staleId? name domain outcome.id = none := by
  have hstale : ∀ {id stale}, registry.staleId? name domain id = some stale →
      stale ≠ id ∧ service.boundId? app domain name = some stale := by
    intro id stale hstale
    rcases hr.stale_spec hstale with ⟨hne, entry, hlookup, hname⟩
    exact ⟨hne, (h domain name stale).2 ⟨entry, hlookup, hname⟩⟩
  rcases service.bind_cases app name domain with
    ⟨hunknown, -⟩ | ⟨id, hbound, hrun⟩ | ⟨record, hrecord, hfree, hrun⟩
  · -- The application has connected, so the service knows it.
    unfold Service.certificate? at hknown
    rw [hunknown] at hknown
    cases hknown
  · -- The id is that of a port, so it is positive, and no other id has the name.
    rcases (h domain name id).1 hbound with ⟨entry, hlookup, -⟩
    have hvalid : id.isValid = true := by simpa [PortId.isValid] using hr.positive hlookup
    refine ⟨.existing id, ?_, Registry.refusal?_eq_none_iff.2 ⟨hvalid, hr.disjoint hlookup⟩, ?_⟩
    · rw [hrun]
    · cases hfound : registry.staleId? name domain id with
      | none => exact hfound
      | some stale =>
        rcases hstale hfound with ⟨hne, hstaleBound⟩
        rw [hbound] at hstaleBound
        exact absurd (Option.some.inj hstaleBound).symm hne
  · -- The id is the next one, which no port has, and the name has no id yet.
    have hroom' : minted.length + 1 < 2 ^ 31 := room_of_created hrun hroom
    have hkey := Loopback.keyOf?_fresh hs.counter hroom' ⟨app, domain, name⟩
    have hvalid : PortId.isValid ⟨service.lastId + 1⟩ = true := by
      simpa [PortId.isValid] using Loopback.positive_of_keyOf? hkey
    refine ⟨.created ⟨service.lastId + 1⟩, ?_,
      Registry.refusal?_eq_none_iff.2 ⟨hvalid, h.lookup_next hs hroom' domain.other⟩, ?_⟩
    · rw [hrun]
    · cases hfound : registry.staleId? name domain ⟨service.lastId + 1⟩ with
      | none => exact hfound
      | some stale =>
        rcases hstale hfound with ⟨-, hbound⟩
        rw [Service.boundId?_of_get? hrecord, hfree] at hbound
        cases hbound

end Mirrors

/-! ## Changes over an honest service -/

variable {listener : Listener} {offered : Option Listener} {port : String}
  {answer : Except PortError PortId} {retired : Except PortError PortEntry} {registry' : Registry}

/-- How a registration ends if the registry mirrors the bindings of its application on an honest service:
it is refused for what was offered, or the name has an id already, or it gets the next one. -/
inductive HonestRegistration (service : Service S) (app port : String) (domain : TrustDomain)
    (registry : Registry) :
    Option Listener → Except PortError PortId → Registry → Service S → Prop where
  | refused {offered : Option Listener} {error : PortError} (hoffer : port = "" ∨ offered = none) :
      HonestRegistration service app port domain registry offered (.error error) registry service
  | again {listener : Listener} {id : PortId} {entry : PortEntry} (hport : port ≠ "")
      (hlookup : registry.lookup id domain = some entry) (hname : entry.name = port) :
      HonestRegistration service app port domain registry (some listener) (.ok id)
        (registry.seated id port domain listener) service
  | fresh {listener : Listener} {record : AppRecord S} (hport : port ≠ "")
      (hrecord : service.apps.get? app = some record) (hfree : record.idOf? domain port = none)
      (hunused : registry.lookup ⟨service.lastId + 1⟩ domain = none) :
      HonestRegistration service app port domain registry (some listener)
        (.ok ⟨service.lastId + 1⟩)
        (registry.seated ⟨service.lastId + 1⟩ port domain listener)
        (service.withFresh app record domain port)

/-- How an unregistration ends under the same conditions: the id is not active, or it is released. -/
inductive HonestUnregistration (service : Service S) (app : String) (id : PortId)
    (domain : TrustDomain) (registry : Registry) :
    Except PortError PortEntry → Registry → Service S → Prop where
  | refused {error : PortError} (hmissing : registry.lookup id domain = none) :
      HonestUnregistration service app id domain registry (.error error) registry service
  | released {record : AppRecord S} {entry retired : PortEntry} {b : Loopback.Binding}
      (hlookup : registry.lookup id domain = some entry)
      (hrecord : service.apps.get? app = some record) (hb : b ∈ record.bindings) (hid : b.id = id) :
      HonestUnregistration service app id domain registry (.ok retired) (registry.erase id domain)
        (service.without app record id)

/-- What the service answered to a request to bind is accepted as the binding that it is. -/
theorem Mirrors.accepted (h : registry.Mirrors service app) (hs : Minted minted service)
    (hport : port ≠ "") {outcome : BindOutcome}
    (hanswer : (service.bind app port domain).1 = .ok outcome) (hroom : minted.length +
      (if (service.bind app port domain).2.lastId = service.lastId then 0 else 1) < 2 ^ 31)
    (listener : Listener) :
    HonestRegistration service app port domain registry (some listener) (.ok outcome.id)
      (registry.seated outcome.id port domain listener) (service.bind app port domain).2 := by
  -- The answer tells how the service went on, and so how the registration ends.
  rcases service.bind_cases app port domain with
    ⟨-, hrun⟩ | ⟨id, hbound, hrun⟩ | ⟨record, hrecord, hfree, hrun⟩
  · rw [hrun] at hanswer
    cases hanswer
  · rw [hrun] at hanswer ⊢
    cases hanswer
    rcases (h domain port id).1 hbound with ⟨entry, hlookup, hname⟩
    exact .again hport hlookup hname
  · have hroom' : minted.length + 1 < 2 ^ 31 := room_of_created hrun hroom
    rw [hrun] at hanswer ⊢
    cases hanswer
    exact .fresh hport hrecord hfree (h.lookup_next hs hroom' domain)

/-- A registry and its service went on together: the mirror holds, and there are as many bindings more or
less as ports. -/
structure Together (app : String) (registry : Registry) (service : Service S)
    (registry' : Registry) (service' : Service S) : Prop where
  mirrors : registry'.Mirrors service' app
  counts : service'.boundCount + registry.activeCount = service.boundCount + registry'.activeCount

theorem HonestRegistration.together (hmirrors : registry.Mirrors service app)
    (h : HonestRegistration service app port domain registry offered answer registry' service') :
    Together app registry service registry' service' := by
  cases h with
  | refused => exact ⟨hmirrors, rfl⟩
  | again _ hlookup =>
    refine ⟨hmirrors.again hlookup _ _, ?_⟩
    rw [activeCount_seated_taken hlookup]
  | fresh _ hrecord hfree hunused =>
    refine ⟨hmirrors.fresh hrecord hfree hunused _, ?_⟩
    rw [activeCount_seated_free hunused, Service.boundCount_withFresh hrecord]
    omega

theorem HonestUnregistration.together (hmirrors : registry.Mirrors service app)
    (hr : registry.WellFormed) (hs : Minted minted service)
    (h : HonestUnregistration service app id domain registry retired registry' service') :
    Together app registry service registry' service' := by
  cases h with
  | refused => exact ⟨hmirrors, rfl⟩
  | released hlookup hrecord hb hid =>
    -- One port goes, and as ids are distinct, one binding.
    refine ⟨hmirrors.released hr hrecord (hs.names hrecord) hlookup, ?_⟩
    have hports := activeCount_erase hlookup
    have hbindings := Service.boundCount_without hrecord (hs.ids_distinct hrecord) hb
    rw [hid] at hbindings
    omega

/-! ## What stays bound -/

/-- A registration leaves every name bound as it is. -/
theorem HonestRegistration.boundId?_of_bound
    (h : HonestRegistration service app port domain registry offered answer registry' service')
    {d : TrustDomain} (hbound : service.boundId? app d name = some id) :
    service'.boundId? app d name = some id := by
  cases h with
  | refused => exact hbound
  | again => exact hbound
  | fresh _ hrecord hfree =>
    -- The name that got the fresh binding had none before.
    have hother : ¬ (app = app ∧ d = domain ∧ name = port) := by
      rintro ⟨-, rfl, rfl⟩
      rw [Service.boundId?_of_get? hrecord, hfree] at hbound
      cases hbound
    rw [Service.boundId?_withFresh hrecord hfree, if_neg hother]
    exact hbound

/-- An unregistration leaves every other id bound as it is. -/
theorem HonestUnregistration.boundId?_of_bound (hs : Minted minted service) {retiring : PortId}
    (h : HonestUnregistration service app retiring domain registry retired registry' service')
    {d : TrustDomain} (hbound : service.boundId? app d name = some id) (hne : id ≠ retiring) :
    service'.boundId? app d name = some id := by
  cases h with
  | refused => exact hbound
  | released _ hrecord =>
    have hkept : (id != retiring) = true := bne_iff_ne.2 hne
    rw [Service.boundId?_without hrecord (hs.names hrecord), if_pos rfl, hbound]
    exact Option.filter_some_pos hkept

/-! ## Results -/

theorem HonestRegistration.ok_iff
    (h : HonestRegistration service app port domain registry offered answer registry' service') :
    (∃ id, answer = .ok id) ↔ port ≠ "" ∧ offered.isSome := by
  cases h with
  | refused hoffer =>
    constructor
    · rintro ⟨id, hid⟩
      cases hid
    · rintro ⟨hport, hsome⟩
      rcases hoffer with hempty | hnone
      · exact absurd hempty hport
      · rw [hnone] at hsome
        cases hsome
  | again hport => exact ⟨fun _ => ⟨hport, rfl⟩, fun _ => ⟨_, rfl⟩⟩
  | fresh hport => exact ⟨fun _ => ⟨hport, rfl⟩, fun _ => ⟨_, rfl⟩⟩

/-- A name that is active keeps its id. -/
theorem HonestRegistration.id_eq
    (h : HonestRegistration service app port domain registry offered (.ok id) registry' service')
    (hmirrors : registry.Mirrors service app) (hr : registry.WellFormed) {active : PortId}
    (hlookup : registry.lookup active domain = some entry) (hname : entry.name = port) :
    id = active := by
  cases h with
  | again _ hfound hfoundName => exact hr.names hfound hlookup (hfoundName.trans hname.symm)
  -- An active name is bound, so the service would not have minted for it.
  | fresh _ hrecord hfree =>
    have hbound := hmirrors.boundId?_of_lookup hlookup
    rw [Service.boundId?_of_get? hrecord, hname, hfree] at hbound
    cases hbound

/-- A name that is not active gets the next id. -/
theorem HonestRegistration.id_eq_next
    (h : HonestRegistration service app port domain registry offered (.ok id) registry' service')
    (hnone : ∀ active entry, registry.lookup active domain = some entry → entry.name ≠ port) :
    id = ⟨service.lastId + 1⟩ ∧ service'.lastId = service.lastId + 1 := by
  cases h with
  | again _ hlookup hname => exact absurd hname (hnone _ _ hlookup)
  | fresh => exact ⟨rfl, rfl⟩

theorem HonestUnregistration.ok_iff
    (h : HonestUnregistration service app id domain registry retired registry' service') :
    (∃ entry, retired = .ok entry) ↔ (registry.lookup id domain).isSome := by
  cases h with
  | refused hmissing =>
    rw [hmissing]
    constructor
    · rintro ⟨entry, hentry⟩
      cases hentry
    · intro hsome
      cases hsome
  | released hlookup =>
    rw [hlookup]
    exact ⟨fun _ => rfl, fun _ => ⟨_, rfl⟩⟩

end Registry

/-! ## Registries of a world -/

namespace Scenario
namespace World

open Loopback (Service)
open Registry (Registration Unregistration HonestRegistration HonestUnregistration)

variable {name app port : String} {domain : TrustDomain} {registry registry' : Registry} {id : PortId}
  {w w₂ : World} {translator : Translator} {offered : Option Listener}
  {minted : List Loopback.PortKey}

theorem registration_honest {result : Except Fault (Except PortError PortId)}
    (h : Registration translator (tapped name app) port domain registry w offered result registry' w₂)
    (hun : w.Unscripted name) (hs : w.service.Minted minted) (hr : registry.WellFormed)
    (hmirrors : registry.Mirrors w.service app) (hknown : (w.service.certificate? app).isSome)
    (hroom : minted.length + (if w₂.service.lastId = w.service.lastId then 0 else 1) < 2 ^ 31) :
    ∃ answer, result = .ok answer ∧
      HonestRegistration w.service app port domain registry offered answer registry' w₂.service := by
  -- A request to bind answers as the service does, and that answer fits.
  have hfits : ∀ {answer : Except Fault (Except TransportCode BindOutcome)} {w₁ : World},
      ((tapped name app).bind port domain).Ends w answer w₁ →
      w₂.service.lastId = w₁.service.lastId →
      ∃ outcome, answer = .ok (.ok outcome) ∧ registry.refusal? domain outcome.id = none ∧
        registry.staleId? port domain outcome.id = none := by
    intro answer w₁ hbind hlast
    rcases bind_honest hun hbind with ⟨hanswer, hservice, -⟩
    rw [hlast, hservice] at hroom
    rcases hmirrors.bind_fits hs hr hknown port domain hroom with ⟨outcome, houtcome, hfit⟩
    exact ⟨outcome, by rw [hanswer, houtcome], hfit⟩
  -- A release that follows leaves the counter of ids.
  have hreleased : ∀ {answer : Except Fault (Except TransportCode BindOutcome)}
      {done : Except Fault (Except TransportCode Unit)} {w₁ : World} {id : PortId},
      ((tapped name app).bind port domain).Ends w answer w₁ →
      ((tapped name app).unbind id).Ends w₁ done w₂ → w₂.service.lastId = w₁.service.lastId := by
    intro answer done w₁ id hbind hunbind
    rcases bind_honest hun hbind with ⟨-, -, hun₁⟩
    rw [(unbind_honest hun₁ hunbind).2]
    exact Service.lastId_unbind _ app id
  cases h with
  -- These two ends ask nothing.
  | nameEmpty hname => exact ⟨_, rfl, .refused (.inl hname)⟩
  | listenerMissing => exact ⟨_, rfl, .refused (.inr rfl)⟩
  | bindBroke _ hbind =>
    rcases hfits hbind rfl with ⟨outcome, hanswer, -⟩
    cases hanswer
  | bindRefused _ hbind =>
    rcases hfits hbind rfl with ⟨outcome, hanswer, -⟩
    cases hanswer
  | existingRejected _ hbind hrefusal =>
    -- No id of the service is refused.
    rcases hfits hbind rfl with ⟨outcome, hanswer, hnone, -⟩
    cases hanswer
    exact absurd hrefusal (Option.not_isSome_iff_eq_none.2 hnone)
  | createdRejected _ hbind hrefusal hunbind =>
    rcases hfits hbind (hreleased hbind hunbind) with ⟨outcome, hanswer, hnone, -⟩
    cases hanswer
    exact absurd hrefusal (Option.not_isSome_iff_eq_none.2 hnone)
  | createdRejectedBroke _ hbind hrefusal hunbind =>
    rcases hfits hbind (hreleased hbind hunbind) with ⟨outcome, hanswer, hnone, -⟩
    cases hanswer
    exact absurd hrefusal (Option.not_isSome_iff_eq_none.2 hnone)
  | moved _ hbind _ hstale hunbind =>
    -- No name is active under another id.
    rcases hfits hbind (hreleased hbind hunbind) with ⟨outcome, hanswer, -, hnone⟩
    cases hanswer
    rw [hnone] at hstale
    cases hstale
  | movedBroke _ hbind _ hstale hunbind =>
    rcases hfits hbind (hreleased hbind hunbind) with ⟨outcome, hanswer, -, hnone⟩
    cases hanswer
    rw [hnone] at hstale
    cases hstale
  | accepted hport hbind =>
    rcases bind_honest hun hbind with ⟨hanswer, hservice, -⟩
    rw [hservice] at hroom ⊢
    exact ⟨_, rfl, hmirrors.accepted hs hport (Except.ok.inj hanswer).symm hroom _⟩

theorem unregistration_honest {result : Except Fault (Except PortError PortEntry)}
    (h : Unregistration translator (tapped name app) id domain registry w result registry' w₂)
    (hun : w.Unscripted name) (hr : registry.WellFormed)
    (hmirrors : registry.Mirrors w.service app) :
    ∃ answer, result = .ok answer ∧
      HonestUnregistration w.service app id domain registry answer registry' w₂.service := by
  -- The service knows the id of every port.
  have hbinding : ∀ {entry}, registry.lookup id domain = some entry →
      ∃ record b, w.service.apps.get? app = some record ∧ b ∈ record.bindings ∧ b.id = id := by
    intro entry hlookup
    rcases Option.bind_eq_some_iff.1 (hmirrors.boundId?_of_lookup hlookup) with
      ⟨record, hrecord, hid⟩
    exact ⟨record, _, hrecord, Loopback.AppRecord.mem_of_idOf? hid, rfl⟩
  cases h with
  | idInvalid hid =>
    refine ⟨_, rfl, .refused ?_⟩
    cases hlookup : registry.lookup id domain with
    | none => rfl
    | some entry =>
      -- Ids of ports are valid.
      have hvalid : id.isValid = true := by simpa [PortId.isValid] using hr.positive hlookup
      rw [hid] at hvalid
      cases hvalid
  | missing _ hlookup => exact ⟨_, rfl, .refused hlookup⟩
  | unbindBroke _ _ hunbind => cases (unbind_honest hun hunbind).1
  -- The service knows the id, so it does not refuse to release it.
  | unbindRefused _ hlookup hunbind =>
    have hanswer := Except.ok.inj (unbind_honest hun hunbind).1
    rcases hbinding hlookup with ⟨record, b, hrecord, hb, hid⟩
    rcases w.service.unbind_cases app id with
      ⟨hunknown, -⟩ | ⟨found, hfound, habsent, -⟩ | ⟨found, c, -, -, -, hrun⟩
    · rw [hrecord] at hunknown
      cases hunknown
    · rw [hrecord] at hfound
      cases hfound
      exact absurd hid (habsent b hb)
    · rw [hrun] at hanswer
      cases hanswer
  | retired _ hlookup hunbind =>
    rcases unbind_honest hun hunbind with ⟨hanswer, hservice⟩
    refine ⟨_, rfl, ?_⟩
    have hdone := Except.ok.inj hanswer
    rcases w.service.unbind_cases app id with
      ⟨-, hrun⟩ | ⟨record, -, -, hrun⟩ | ⟨record, b, hrecord, hb, hid, hrun⟩
    · rw [hrun] at hdone
      cases hdone
    · rw [hrun] at hdone
      cases hdone
    · rw [hservice, hrun]
      exact .released hlookup hrecord hb hid

end World
end Scenario
end PortMessaging
