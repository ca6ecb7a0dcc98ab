import PortMessaging.Proofs.LoopbackIds
import PortMessaging.Proofs.RegistryTables
import PortMessaging.Proofs.Taps

/-!
# ServedRegistries — registries of a world and the service behind them

A registry of a world that changes asks the service for at most one binding and one release, whatever
the script of its handle does (`ServedBy`).  Without a script the transport is the service itself, and
then an entry of the registry always sits under an id that was minted for it: for the application that
the registry serves, the domain of the entry, and its name (`FiledFor`).
-/

namespace PortMessaging
namespace Scenario
namespace World

open Loopback (PortKey keyOf? keyOf?_append Service)
open Loopback.Service (Minted AlikeAt)
open Registry (Registration Unregistration)

/-! ## Registries over taps -/

/-- What an application asked of the service when its registry changed once or its endpoint was used
once: at most one binding, and then at most one release. -/
def ServedBy (app : String) (s s' : Service Sink) : Prop :=
  ∃ s₁, (s₁ = s ∨ ∃ port domain, s₁ = (s.bind app port domain).2) ∧
    (s' = s₁ ∨ ∃ id, s' = (s₁.unbind app id).2)

theorem ServedBy.refl (app : String) (s : Service Sink) : ServedBy app s s :=
  ⟨s, .inl rfl, .inl rfl⟩

theorem ServedBy.bind (app port : String) (domain : TrustDomain) (s : Service Sink) :
    ServedBy app s (s.bind app port domain).2 :=
  ⟨_, .inr ⟨port, domain, rfl⟩, .inl rfl⟩

theorem ServedBy.unbind (app : String) (id : PortId) (s : Service Sink) :
    ServedBy app s (s.unbind app id).2 :=
  ⟨s, .inl rfl, .inr ⟨id, rfl⟩⟩

section ServedBy

variable {app : String} {s s' : Service Sink}

/-- Whatever an application asks for, only bindings change. -/
theorem ServedBy.alikeAt (h : ServedBy app s s') (other : String) : AlikeAt s s' other := by
  rcases h with ⟨s₁, hbind, hunbind⟩
  have hfirst : AlikeAt s s₁ other := by
    rcases hbind with rfl | ⟨port, domain, rfl⟩
    · exact .of_eq rfl
    · exact s.alikeAt_bind app port domain other
  rcases hunbind with rfl | ⟨id, rfl⟩
  · exact hfirst
  · exact hfirst.trans (s₁.alikeAt_unbind app id other)

theorem ServedBy.certificate? (h : ServedBy app s s') (other : String) :
    s'.certificate? other = s.certificate? other :=
  (h.alikeAt other).certificate?

theorem ServedBy.sink? (h : ServedBy app s s') (other : String) : s'.sink? other = s.sink? other :=
  (h.alikeAt other).sink?

/-- The bindings of other applications stay. -/
theorem ServedBy.boundId? (h : ServedBy app s s') {other : String} (hother : other ≠ app)
    (domain : TrustDomain) (name : String) :
    s'.boundId? other domain name = s.boundId? other domain name := by
  rcases h with ⟨s₁, hbind, hunbind⟩
  have hfirst : s₁.boundId? other domain name = s.boundId? other domain name := by
    rcases hbind with rfl | ⟨port, d, rfl⟩
    · rfl
    · exact Service.boundId?_bind_of_ne hother port d domain name
  rcases hunbind with rfl | ⟨id, rfl⟩
  · exact hfirst
  · exact (Service.boundId?_unbind_of_ne hother id domain name).trans hfirst

/-- A binding that was not there before has the next id. -/
theorem ServedBy.mem_ports (h : ServedBy app s s') {port : PortKey × PortId}
    (hport : port ∈ s'.ports) :
    port ∈ s.ports ∨ port.2 = ⟨s.lastId + 1⟩ ∧ s'.lastId = s.lastId + 1 := by
  rcases h with ⟨s₁, hbind, hunbind⟩
  -- A release takes bindings away and leaves the counter.
  have hlater : port ∈ s₁.ports ∧ s'.lastId = s₁.lastId := by
    rcases hunbind with rfl | ⟨id, rfl⟩
    · exact ⟨hport, rfl⟩
    · exact ⟨(s₁.fewer_unbind app id).mem_ports hport, s₁.lastId_unbind app id⟩
  rw [hlater.2]
  rcases hbind with rfl | ⟨name, domain, rfl⟩
  · exact .inl hlater.1
  · exact Service.mem_ports_bind hlater.1

/-- The account of ids grows by at most one key, namely if the counter goes on. -/
theorem ServedBy.minted (h : ServedBy app s s') {minted : List PortKey} (hs : Minted minted s) :
    ∃ more : List PortKey, more.length = (if s'.lastId = s.lastId then 0 else 1) ∧
      (minted.length + more.length < 2 ^ 31 → Minted (minted ++ more) s') := by
  rcases h with ⟨s₁, hbind, hunbind⟩
  -- Only the binding can move the counter, so the account is settled before the release.
  have hlast : s'.lastId = s₁.lastId := by
    rcases hunbind with rfl | ⟨id, rfl⟩
    · rfl
    · exact s₁.lastId_unbind app id
  have hsecond : ∀ {account}, Minted account s₁ → Minted account s' := by
    intro account hs₁
    rcases hunbind with rfl | ⟨id, rfl⟩
    · exact hs₁
    · exact hs₁.unbind app id
  rw [hlast]
  rcases hbind with rfl | ⟨port, domain, rfl⟩
  · refine ⟨[], (if_pos rfl).symm, fun _ => hsecond ?_⟩
    rw [List.append_nil]
    exact hs
  · rcases hs.bind app port domain with ⟨more, hlength, hmore⟩
    exact ⟨more, hlength, fun hroom => hsecond (hmore hroom).1⟩

end ServedBy

section Registration

variable {name app port : String} {domain : TrustDomain} {registry registry' : Registry}
  {w w₁ w₂ : World} {translator : Translator} {listener : Option Listener} {id : PortId}

/-- A change through a tap keeps the sites and the handles, and the service served its application. -/
structure Served (app : String) (w w' : World) : Prop where
  sites : w'.sites = w.sites
  handles : HandlesKept w w'
  service : ServedBy app w.service w'.service

theorem Served.refl (app : String) (w : World) : Served app w w :=
  ⟨rfl, .of_eq rfl, .refl app _⟩

theorem bound_of_ends {result : Except Fault (Except TransportCode BindOutcome)}
    (h : ((tapped name app).bind port domain).Ends w result w₁) : Bound w app port domain w₁ := by
  rw [← h.state]
  exact tapped_bind_bound w name app port domain

theorem unbound_of_ends {result : Except Fault (Except TransportCode Unit)}
    (h : ((tapped name app).unbind id).Ends w result w₁) : Unbound w app id w₁ := by
  rw [← h.state]
  exact tapped_unbind_unbound w name app id

theorem Bound.served (h : Bound w app port domain w₁) : Served app w w₁ := by
  refine ⟨h.sites, h.handles, ?_⟩
  rcases h.service with hsame | hbind
  · rw [hsame]
    exact .refl app _
  · rw [hbind]
    exact .bind app port domain _

theorem Unbound.served (h : Unbound w app id w₁) : Served app w w₁ := by
  refine ⟨h.sites, h.handles, ?_⟩
  rcases h.service with hsame | hunbind
  · rw [hsame]
    exact .refl app _
  · rw [hunbind]
    exact .unbind app id _

theorem Bound.served_unbound (h : Bound w app port domain w₁) (h' : Unbound w₁ app id w₂) :
    Served app w w₂ := by
  refine ⟨h'.sites.trans h.sites, h.handles.trans h'.handles, w₁.service, ?_, ?_⟩
  · exact h.service.imp_right fun hbind => ⟨port, domain, hbind⟩
  · exact h'.service.imp_right fun hunbind => ⟨id, hunbind⟩

theorem registration_served {result : Except Fault (Except PortError PortId)}
    (h : Registration translator (tapped name app) port domain registry w listener result registry'
      w₂) : Served app w w₂ := by
  cases h with
  -- Ends that never asked, ends that asked once, and ends that gave a binding back.
  | nameEmpty => exact .refl app w
  | listenerMissing => exact .refl app w
  | bindBroke _ hbind => exact (bound_of_ends hbind).served
  | bindRefused _ hbind => exact (bound_of_ends hbind).served
  | existingRejected _ hbind => exact (bound_of_ends hbind).served
  | accepted _ hbind => exact (bound_of_ends hbind).served
  | createdRejected _ hbind _ hunbind =>
    exact (bound_of_ends hbind).served_unbound (unbound_of_ends hunbind)
  | createdRejectedBroke _ hbind _ hunbind =>
    exact (bound_of_ends hbind).served_unbound (unbound_of_ends hunbind)
  | moved _ hbind _ _ hunbind =>
    exact (bound_of_ends hbind).served_unbound (unbound_of_ends hunbind)
  | movedBroke _ hbind _ _ hunbind =>
    exact (bound_of_ends hbind).served_unbound (unbound_of_ends hunbind)

theorem unregistration_served {result : Except Fault (Except PortError PortEntry)}
    (h : Unregistration translator (tapped name app) id domain registry w result registry' w₂) :
    Served app w w₂ := by
  cases h with
  | idInvalid => exact .refl app w
  | missing => exact .refl app w
  | unbindBroke _ _ hunbind => exact (unbound_of_ends hunbind).served
  | unbindRefused _ _ hunbind => exact (unbound_of_ends hunbind).served
  | retired _ _ hunbind => exact (unbound_of_ends hunbind).served

end Registration

/-! ## Honest transports -/

section Honest

variable {name app port : String} {domain : TrustDomain} {registry registry' : Registry} {id : PortId}
  {w w₁ w₂ : World} {translator : Translator} {listener : Option Listener}

theorem HandlesKept.unscripted (h : HandlesKept w w₁) (hun : w.Unscripted name) :
    w₁.Unscripted name := by
  intro later hlater
  rcases h name later hlater with ⟨earlier, hearlier, hcontinues⟩
  exact hcontinues.script (hun earlier hearlier)

/-- An honest transport answers a binding as the service does. -/
theorem bind_honest (hun : w.Unscripted name) {result : Except Fault (Except TransportCode BindOutcome)}
    (h : ((tapped name app).bind port domain).Ends w result w₁) :
    result = .ok (w.service.bind app port domain).1 ∧
      w₁.service = (w.service.bind app port domain).2 ∧ w₁.Unscripted name := by
  rcases tapped_bind_ends hun app port domain with ⟨w', hends, hservice, -, hhandles⟩
  rcases h.unique hends with ⟨hresult, hstate⟩
  rw [hstate]
  exact ⟨hresult, hservice, hhandles.unscripted hun⟩

/-- An honest transport answers a release as the service does. -/
theorem unbind_honest (hun : w.Unscripted name) {result : Except Fault (Except TransportCode Unit)}
    (h : ((tapped name app).unbind id).Ends w result w₁) :
    result = .ok (w.service.unbind app id).1 ∧
      w₁.service = (w.service.unbind app id).2 := by
  rcases tapped_unbind_ends hun app id with ⟨w', hends, hservice, -, -⟩
  rcases h.unique hends with ⟨hresult, hstate⟩
  rw [hstate]
  exact ⟨hresult, hservice⟩

/-- The entries of a registry sit under ids that were minted for them. -/
def FiledFor (minted : List PortKey) (app : String) (registry : Registry) : Prop :=
  ∀ d id entry, registry.lookup id d = some entry → keyOf? minted id = some ⟨app, d, entry.name⟩

namespace FiledFor

variable {minted : List PortKey}

theorem empty (minted : List PortKey) (app : String) : FiledFor minted app .empty := by
  intro d id entry h
  cases d with
  | openToAll => cases h
  | trusted => cases h

theorem append (h : FiledFor minted app registry) (more : List PortKey) :
    FiledFor (minted ++ more) app registry := by
  intro d id entry hlookup
  exact keyOf?_append (h d id entry hlookup) more

theorem erase (h : FiledFor minted app registry) (stale : PortId) (domain : TrustDomain) :
    FiledFor minted app (registry.erase stale domain) := by
  intro d id entry hlookup
  exact h d id entry (Registry.lookup_of_lookup_erase hlookup).1

/-- A seat under an id that was minted for the name is filed; an entry that was there keeps its name,
which is the same. -/
theorem seated (h : FiledFor minted app registry) (hkey : keyOf? minted id = some ⟨app, domain, port⟩)
    (listener : Listener) : FiledFor minted app (registry.seated id port domain listener) := by
  intro d other entry hlookup
  -- Only the entry of the seat can be new.
  rcases Registry.lookup_seated_cases hlookup with ⟨rfl, rfl, rfl⟩ | ⟨hold, -⟩
  · cases hold : registry.lookup other d with
    | some old =>
      rw [Registry.seatEntry_of_some hold]
      exact h d other old hold
    | none =>
      rw [Registry.seatEntry_of_none hold]
      exact hkey
  · exact h d other entry hold

end FiledFor

/-- After the service went on from `s` to `s'`, the account of ids goes on with one key more, if the counter
went on, and with none otherwise; then it agrees with the service, and the entries of the registry are
filed. -/
def FiledAfter (minted : List PortKey) (app : String) (s : Service Sink) (registry' : Registry)
    (s' : Service Sink) : Prop :=
  ∃ more : List PortKey, more.length = (if s'.lastId = s.lastId then 0 else 1) ∧
    (minted.length + more.length < 2 ^ 31 →
      Minted (minted ++ more) s' ∧ FiledFor (minted ++ more) app registry')

section FiledAfter

variable {minted : List PortKey} {s s₁ s₂ : Service Sink}

/-- Nothing was asked of the service. -/
theorem FiledAfter.same (hs : Minted minted s) (hfiled : FiledFor minted app registry) :
    FiledAfter minted app s registry s := by
  refine ⟨[], (if_pos rfl).symm, fun _ => ?_⟩
  rw [List.append_nil]
  exact ⟨hs, hfiled⟩

/-- The service was asked to bind a name, and the registry used the id that it answered. -/
theorem FiledAfter.bound (hs : Minted minted s) (hfiled : FiledFor minted app registry)
    (hbind : s₁ = (s.bind app port domain).2)
    (hregistry : ∀ {account}, FiledFor account app registry →
      (∀ outcome, (s.bind app port domain).1 = .ok outcome →
        keyOf? account outcome.id = some ⟨app, domain, port⟩) → FiledFor account app registry') :
    FiledAfter minted app s registry' s₁ := by
  rcases hs.bind app port domain with ⟨more, hlength, hmore⟩
  rw [← hbind] at hlength hmore
  refine ⟨more, hlength, fun hroom => ?_⟩
  rcases hmore hroom with ⟨hminted, hkeys⟩
  exact ⟨hminted, hregistry (hfiled.append more) hkeys⟩

/-- A release mints nothing and leaves the registry alone. -/
theorem FiledAfter.unbound (h : FiledAfter minted app s registry' s₁)
    (hunbind : s₂ = (s₁.unbind app id).2) : FiledAfter minted app s registry' s₂ := by
  rcases h with ⟨more, hlength, hmore⟩
  have hlast : s₂.lastId = s₁.lastId := by
    rw [hunbind]
    exact s₁.lastId_unbind app id
  rw [← hlast] at hlength
  refine ⟨more, hlength, fun hroom => ?_⟩
  rcases hmore hroom with ⟨hminted, hfiled⟩
  rw [hunbind]
  exact ⟨hminted.unbind app id, hfiled⟩

end FiledAfter

/-- With an honest transport a registration keeps the entries filed. -/
theorem registration_filed {result : Except Fault (Except PortError PortId)} {minted : List PortKey}
    (h : Registration translator (tapped name app) port domain registry w listener result registry' w₂)
    (hun : w.Unscripted name) (hs : Minted minted w.service) (hfiled : FiledFor minted app registry) :
    FiledAfter minted app w.service registry' w₂.service := by
  cases h with
  | nameEmpty => exact .same hs hfiled
  | listenerMissing => exact .same hs hfiled
  -- An honest transport never breaks off.
  | bindBroke _ hbind => cases (bind_honest hun hbind).1
  | bindRefused _ hbind =>
    exact .bound hs hfiled (bind_honest hun hbind).2.1 fun hf _ => hf
  | existingRejected _ hbind =>
    exact .bound hs hfiled (bind_honest hun hbind).2.1 fun hf _ => hf
  | createdRejected _ hbind _ hunbind =>
    rcases bind_honest hun hbind with ⟨-, hservice, hun₁⟩
    have hbound : FiledAfter minted app w.service registry _ :=
      .bound hs hfiled hservice fun hf _ => hf
    exact hbound.unbound (unbind_honest hun₁ hunbind).2
  | createdRejectedBroke _ hbind _ hunbind =>
    rcases bind_honest hun hbind with ⟨-, -, hun₁⟩
    cases (unbind_honest hun₁ hunbind).1
  | accepted _ hbind =>
    rcases bind_honest hun hbind with ⟨hresult, hservice, -⟩
    refine .bound hs hfiled hservice fun hf hkeys => ?_
    exact hf.seated (hkeys _ (Except.ok.inj hresult).symm) _
  | @moved _ _ stale _ _ _ _ hbind _ _ hunbind =>
    rcases bind_honest hun hbind with ⟨hresult, hservice, hun₁⟩
    refine FiledAfter.unbound (.bound hs hfiled hservice fun hf hkeys => ?_)
      (unbind_honest hun₁ hunbind).2
    -- The stale entry goes before the new one takes its seat.
    exact (hf.erase stale domain).seated (hkeys _ (Except.ok.inj hresult).symm) _
  | movedBroke _ hbind _ _ hunbind =>
    rcases bind_honest hun hbind with ⟨-, -, hun₁⟩
    cases (unbind_honest hun₁ hunbind).1

theorem unregistration_filed {result : Except Fault (Except PortError PortEntry)}
    {minted : List PortKey}
    (h : Unregistration translator (tapped name app) id domain registry w result registry' w₂)
    (hfiled : FiledFor minted app registry) : FiledFor minted app registry' := by
  cases h with
  | idInvalid => exact hfiled
  | missing => exact hfiled
  | unbindBroke => exact hfiled
  | unbindRefused => exact hfiled
  | retired => exact hfiled.erase id domain

end Honest

end World
end Scenario
end PortMessaging
