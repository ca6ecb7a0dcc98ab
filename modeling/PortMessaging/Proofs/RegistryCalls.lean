import PortMessaging.Proofs.Recordings
import PortMessaging.Proofs.RegistryChanges

/-!
# RegistryCalls — what a registry asks of its transport

A registration asks its transport to bind the name, once its arguments are found in order, and after that it
asks at most once more: to release an id (`Releases`).  The id is the fresh one that the transport answered,
if no port of the domain can have it (`Unusable`), or the one that the name had before, if that is another
one.  An unregistration asks to release the id of the port, and nothing else.  The calls are read off the
record of a recorded transport.

Two things follow for the bindings of a transport, whatever it answers.  A fresh one does not leak: when a
registration is done, either the port is active under its id or the binding was handed back.  And an id that
was released is not active any more, with one exception.  A fresh binding under an id that is active in the
other domain is refused and handed back, and as the transport is asked by the id alone, it is asked to
release the id of a port that stays active.
-/

namespace PortMessaging
namespace Registry

open Scenario (Call)

variable {σ : Type} {registry : Registry} {id : PortId} {domain : TrustDomain} {name : String}
  {translator : Translator} {transport : Transport σ}

/-! ## Ids that are released -/

/-- No port of the domain can have the id: it is not positive, or it is active in the other domain. -/
def Unusable (registry : Registry) (domain : TrustDomain) (id : PortId) : Prop :=
  ¬ 0 < id.value ∨ (registry.lookup id domain.other).isSome

instance (registry : Registry) (domain : TrustDomain) (id : PortId) :
    Decidable (registry.Unusable domain id) :=
  inferInstanceAs (Decidable (_ ∨ _))

theorem refusal?_isSome_iff :
    (registry.refusal? domain id).isSome ↔ registry.Unusable domain id := by
  unfold refusal? Unusable PortId.isValid
  by_cases hid : 0 < id.value <;> cases registry.lookup id domain.other <;> simp [hid]

/-- An id that no port of the domain can have is active in the other one, if it is active at all. -/
theorem WellFormed.domain_of_unusable (hr : registry.WellFormed) (h : registry.Unusable domain id)
    {d : TrustDomain} (hactive : (registry.lookup id d).isSome) : d = domain.other := by
  rcases Option.isSome_iff_exists.1 hactive with ⟨entry, hlookup⟩
  rcases h with hid | hother
  · exact absurd (hr.positive hlookup) hid
  · refine TrustDomain.eq_other_of_ne ?_
    intro hd
    have hnone := hr.disjoint hlookup
    rw [hd] at hnone
    simp [hnone] at hother

theorem WellFormed.staleId?_eq_some_iff (hr : registry.WellFormed) {old : PortId} :
    registry.staleId? name domain id = some old ↔ old ≠ id ∧ registry.HasName domain name old := by
  constructor
  · exact hr.stale_spec
  · rintro ⟨hne, hnamed⟩
    unfold staleId?
    rw [hr.idOfName?_eq_some_iff.2 hnamed]
    simpa using hne

/-- The ids that a registration of a name releases, by what the request to bind ended in. -/
inductive Releases (registry : Registry) (name : String) (domain : TrustDomain) :
    Except Fault (Except TransportCode BindOutcome) → PortId → Prop where
  /-- The fresh id, if no port of the domain can have it. -/
  | fresh {id : PortId} (hid : registry.Unusable domain id) :
      Releases registry name domain (.ok (.ok (.created id))) id
  /-- The id that the name has, if the answer is another one that can be used. -/
  | moved {outcome : BindOutcome} {old : PortId} (hid : ¬ registry.Unusable domain outcome.id)
      (hne : old ≠ outcome.id) (hname : registry.HasName domain name old) :
      Releases registry name domain (.ok (.ok outcome)) old

/-- The id that a registration asks to release after the request to bind, if there is one. -/
def released? (registry : Registry) (name : String) (domain : TrustDomain) :
    Except Fault (Except TransportCode BindOutcome) → Option PortId
  | .ok (.ok outcome) =>
    match registry.refusal? domain outcome.id, outcome with
    | some _, .created id => some id
    | some _, .existing _ => none
    | none, outcome => registry.staleId? name domain outcome.id
  | _ => none

theorem WellFormed.released?_eq_some_iff (hr : registry.WellFormed)
    {bound : Except Fault (Except TransportCode BindOutcome)} :
    registry.released? name domain bound = some id ↔ registry.Releases name domain bound id := by
  constructor
  · intro h
    match bound with
    | .ok (.ok outcome) =>
      cases hrefusal : registry.refusal? domain outcome.id with
      | some reason =>
        have hid : registry.Unusable domain outcome.id := refusal?_isSome_iff.1 (by simp [hrefusal])
        cases outcome with
        | existing existing => simp [released?, hrefusal] at h
        | created fresh =>
          simp only [released?, hrefusal, Option.some.injEq] at h
          subst h
          exact .fresh hid
      | none =>
        have hid : ¬ registry.Unusable domain outcome.id := by
          rw [← refusal?_isSome_iff, hrefusal]
          exact Bool.false_ne_true
        simp only [released?, hrefusal] at h
        rcases hr.staleId?_eq_some_iff.1 h with ⟨hne, hnamed⟩
        exact .moved hid hne hnamed
  · intro h
    cases h with
    | fresh hid =>
      rcases Option.isSome_iff_exists.1 (refusal?_isSome_iff.2 hid) with ⟨reason, hreason⟩
      simp [released?, BindOutcome.id, hreason]
    | moved hid hne hnamed =>
      have hrefusal := Option.not_isSome_iff_eq_none.1 (mt refusal?_isSome_iff.1 hid)
      simp only [released?, hrefusal]
      exact hr.staleId?_eq_some_iff.2 ⟨hne, hnamed⟩

/-! ## Registrations -/

/-- The calls of a registration are told by its arguments and by what the request to bind ended in. -/
theorem Registration.calls_eq {s : σ} {offered : Option Listener}
    {result : Except Fault (Except PortError PortId)} {registry' : Registry} {t : List Call × σ}
    (h : Registration translator transport.recorded name domain registry ([], s) offered result
      registry' t) :
    t.1 = if name = "" ∨ offered = none then [] else
      .bind name domain :: (registry.released? name domain
        ((transport.bind name domain).run s).result).toList.map .unbind := by
  cases h with
  | nameEmpty hname => simp [hname]
  | listenerMissing hname => simp
  | bindBroke hname hbind =>
    rcases hbind.of_noted with ⟨hends, hcalls⟩
    simp [hname, hends.result, hcalls, released?]
  | bindRefused hname hbind =>
    rcases hbind.of_noted with ⟨hends, hcalls⟩
    simp [hname, hends.result, hcalls, released?]
  | existingRejected hname hbind hrefusal =>
    rcases hbind.of_noted with ⟨hends, hcalls⟩
    rcases Option.isSome_iff_exists.1 hrefusal with ⟨reason, hreason⟩
    simp [hname, hends.result, hcalls, released?, BindOutcome.id, hreason]
  | createdRejected hname hbind hrefusal hunbind =>
    rcases hbind.of_noted with ⟨hends, hcalls⟩
    rcases Option.isSome_iff_exists.1 hrefusal with ⟨reason, hreason⟩
    simp [hname, hends.result, hunbind.of_noted.2, hcalls, released?, BindOutcome.id, hreason]
  | createdRejectedBroke hname hbind hrefusal hunbind =>
    rcases hbind.of_noted with ⟨hends, hcalls⟩
    rcases Option.isSome_iff_exists.1 hrefusal with ⟨reason, hreason⟩
    simp [hname, hends.result, hunbind.of_noted.2, hcalls, released?, BindOutcome.id, hreason]
  | accepted hname hbind hrefusal hstale =>
    rcases hbind.of_noted with ⟨hends, hcalls⟩
    simp [hname, hends.result, hcalls, released?, hrefusal, hstale]
  | moved hname hbind hrefusal hstale hunbind =>
    rcases hbind.of_noted with ⟨hends, hcalls⟩
    simp [hname, hends.result, hunbind.of_noted.2, hcalls, released?, hrefusal, hstale]
  | movedBroke hname hbind hrefusal hstale hunbind =>
    rcases hbind.of_noted with ⟨hends, hcalls⟩
    simp [hname, hends.result, hunbind.of_noted.2, hcalls, released?, hrefusal, hstale]

/-- The registry once a name stands for no other id than the given one. -/
def vacated (registry : Registry) (name : String) (domain : TrustDomain) (id : PortId) : Registry :=
  match registry.staleId? name domain id with
  | none => registry
  | some stale => registry.erase stale domain

/-- A registration that returns after its transport bound the name has refused the id, and changed nothing,
or seated the listener there. -/
theorem Registration.settled {s s' : σ} {listener : Listener}
    {result : Except Fault (Except PortError PortId)} {registry' : Registry}
    (h : Registration translator transport name domain registry s (some listener) result registry' s')
    {answer : Except PortError PortId} (hreturned : result = .ok answer) (hname : name ≠ "")
    {outcome : BindOutcome}
    (hbound : ((transport.bind name domain).run s).result = .ok (.ok outcome)) :
    registry.Unusable domain outcome.id ∧ registry' = registry ∨
      ¬ registry.Unusable domain outcome.id ∧ registry' =
        (registry.vacated name domain outcome.id).seated outcome.id name domain listener := by
  subst hreturned
  cases h with
  | nameEmpty hempty => exact absurd hempty hname
  | bindRefused _ hbind => cases hbind.result.symm.trans hbound
  | existingRejected _ hbind hrefusal =>
    cases hbind.result.symm.trans hbound
    exact .inl ⟨refusal?_isSome_iff.1 hrefusal, rfl⟩
  | createdRejected _ hbind hrefusal =>
    cases hbind.result.symm.trans hbound
    exact .inl ⟨refusal?_isSome_iff.1 hrefusal, rfl⟩
  | accepted _ hbind hrefusal hstale =>
    cases hbind.result.symm.trans hbound
    refine .inr ⟨?_, ?_⟩
    · simp [← refusal?_isSome_iff, hrefusal]
    · simp only [vacated, hstale]
  | moved _ hbind hrefusal hstale =>
    cases hbind.result.symm.trans hbound
    refine .inr ⟨?_, ?_⟩
    · simp [← refusal?_isSome_iff, hrefusal]
    · simp only [vacated, hstale]

/-- What a registration asked of its transport: nothing if an argument is missing, and otherwise to bind the
name and then perhaps to release an id. -/
structure RegistrationCalls (registry : Registry) (name : String) (domain : TrustDomain)
    (offered : Option Listener) (bound : Except Fault (Except TransportCode BindOutcome))
    (calls : List Call) : Prop where
  unasked : name = "" ∨ offered = none → calls = []
  asked : name ≠ "" → offered ≠ none → ∃ released : Option PortId,
    calls = .bind name domain :: released.toList.map .unbind ∧
      ∀ id, released = some id ↔ registry.Releases name domain bound id

theorem RegistrationCalls.releases {offered : Option Listener}
    {bound : Except Fault (Except TransportCode BindOutcome)} {calls : List Call}
    (h : RegistrationCalls registry name domain offered bound calls) (hcalls : calls ≠ []) :
    name ≠ "" ∧ offered ≠ none ∧
      ∀ id, .unbind id ∈ calls ↔ registry.Releases name domain bound id := by
  have hasked : ¬ (name = "" ∨ offered = none) := mt h.unasked hcalls
  rcases not_or.1 hasked with ⟨hname, hoffered⟩
  rcases h.asked hname hoffered with ⟨released, rfl, hreleased⟩
  refine ⟨hname, hoffered, fun id => ?_⟩
  simp [← hreleased]

theorem WellFormed.calls_of_registration (hr : registry.WellFormed) {s : σ} {offered : Option Listener}
    {result : Except Fault (Except PortError PortId)} {registry' : Registry} {t : List Call × σ}
    (h : Registration translator transport.recorded name domain registry ([], s) offered result
      registry' t) :
    RegistrationCalls registry name domain offered ((transport.bind name domain).run s).result
      t.1 := by
  have hcalls := h.calls_eq
  constructor
  · intro hmissing
    rw [hcalls, if_pos hmissing]
  · intro hname hoffered
    rw [if_neg (not_or.2 ⟨hname, hoffered⟩)] at hcalls
    exact ⟨_, hcalls, fun id => hr.released?_eq_some_iff⟩

/-- The registration of a reachable registry on the recorded transport ends as it does on the transport,
and these are its calls. -/
theorem WellFormed.register_calls (hr : registry.WellFormed) (translator : Translator)
    (transport : Transport σ) (name : String) (domain : TrustDomain) (offered : Option Listener)
    (s : σ) :
    let out := (register translator transport name domain offered).run (registry, s)
    ∃ calls, (register translator transport.recorded name domain offered).Ends (registry, ([], s))
        out.result (out.state.1, (calls, out.state.2)) ∧
      RegistrationCalls registry name domain offered ((transport.bind name domain).run s).result
        calls := by
  intro out
  rcases (reflects_register transport.recorded_reflects translator name domain offered).recorded_ends
    registry s with ⟨calls, hends⟩
  have hregistration := register_registration translator transport.recorded name domain offered registry
    ([], s)
  have hasked := hr.calls_of_registration hregistration
  rw [hends.state] at hasked
  exact ⟨calls, hends, hasked⟩

/-! ## Bindings after a registration -/

section Settled

variable {s s' : σ} {listener : Listener} {result : Except Fault (Except PortError PortId)}
  {answer : Except PortError PortId} {registry' : Registry}

/-- A name that moves is taken from its old id in both domains. -/
theorem WellFormed.lookup_moved (hr : registry.WellFormed) {old : PortId} (hne : old ≠ id)
    (hnamed : registry.HasName domain name old) (listener : Listener) (d : TrustDomain) :
    ((registry.vacated name domain id).seated id name domain listener).lookup old d = none := by
  have hstale := hr.staleId?_eq_some_iff.2 ⟨hne, hnamed⟩
  rcases hnamed with ⟨entry, hlookup, -⟩
  rw [lookup_seated_of_ne (.inl hne)]
  simp only [vacated, hstale]
  exact hr.lookup_erase_eq_none hlookup d

/-- A registration that returns leaves no id active that it released, but a fresh one of the other
domain. -/
theorem WellFormed.active_of_released_iff (hr : registry.WellFormed)
    (h : Registration translator transport name domain registry s (some listener) result registry' s')
    (hreturned : result = .ok answer) (hname : name ≠ "")
    (hreleases : registry.Releases name domain ((transport.bind name domain).run s).result id)
    (d : TrustDomain) :
    (registry'.lookup id d).isSome ↔ d = domain.other ∧
      ((transport.bind name domain).run s).result = .ok (.ok (.created id)) ∧
        (registry.lookup id d).isSome := by
  generalize hbound : ((transport.bind name domain).run s).result = bound at hreleases
  cases hreleases with
  | fresh hid =>
    rcases h.settled hreturned hname hbound with ⟨-, rfl⟩ | ⟨husable, -⟩
    · constructor
      · intro hactive
        exact ⟨hr.domain_of_unusable hid hactive, rfl, hactive⟩
      · rintro ⟨-, -, hactive⟩
        exact hactive
    · exact absurd hid husable
  | moved hid hne hnamed =>
    rcases h.settled hreturned hname hbound with ⟨hunusable, -⟩ | ⟨-, rfl⟩
    · exact absurd hunusable hid
    · rw [hr.lookup_moved hne hnamed]
      constructor
      · rintro ⟨⟩
      · rintro ⟨-, hcreated, -⟩
        cases hcreated
        exact absurd rfl hne

/-- After a registration that returns a fresh id is active in the domain exactly if it was not released. -/
theorem WellFormed.active_of_created_iff (hr : registry.WellFormed)
    (h : Registration translator transport name domain registry s (some listener) result registry' s')
    (hreturned : result = .ok answer) (hname : name ≠ "")
    (hbound : ((transport.bind name domain).run s).result = .ok (.ok (.created id))) :
    (registry'.lookup id domain).isSome ↔
      ¬ registry.Releases name domain ((transport.bind name domain).run s).result id := by
  rw [hbound]
  rcases h.settled hreturned hname hbound with ⟨hid, rfl⟩ | ⟨hid, rfl⟩
  · constructor
    · intro hactive
      exact absurd (hr.domain_of_unusable hid hactive) (TrustDomain.other_ne domain).symm
    · intro hkept
      exact absurd (.fresh hid) hkept
  · constructor
    · rintro - hreleases
      cases hreleases with
      | fresh hunusable => exact hid hunusable
      | moved _ hne _ => exact hne rfl
    · intro _
      exact Option.isSome_iff_exists.2 ⟨_, lookup_seated_self⟩

end Settled

/-! ## Unregistrations -/

/-- The calls of an unregistration are told by whether the id is active in the domain. -/
theorem Unregistration.calls_eq {s : σ} {result : Except Fault (Except PortError PortEntry)}
    {registry' : Registry} {t : List Call × σ}
    (h : Unregistration translator transport.recorded id domain registry ([], s) result registry' t) :
    t.1 = if 0 < id.value ∧ (registry.lookup id domain).isSome then [.unbind id] else [] := by
  have hvalid : id.isValid = true ↔ 0 < id.value := by simp [PortId.isValid]
  cases h with
  | idInvalid hid => simp [← hvalid, hid]
  | missing hid hlookup => simp [hlookup]
  | unbindBroke hid hlookup hunbind => simp [← hvalid, hid, hlookup, hunbind.of_noted.2]
  | unbindRefused hid hlookup hunbind => simp [← hvalid, hid, hlookup, hunbind.of_noted.2]
  | retired hid hlookup hunbind => simp [← hvalid, hid, hlookup, hunbind.of_noted.2]

/-! ## All calls -/

/-- A transport that binds every name to the id that is its state, as a fresh one. -/
def handingOut : Transport PortId where
  bind _ _ := do return .ok (.created (← Effect.getState))
  unbind _ := pure (.ok ())
  checkRemote _ _ := pure (.ok true)
  send _ _ _ := pure (.ok ())
  sendWithReply _ _ _ _ := pure (.ok ())

theorem reachable_handingOut_seven : Reachable ⟨false⟩ handingOut seven :=
  .change .empty (⟨7⟩ : PortId) (.register "a" .openToAll (some (.oneWay 0)))

/-- Whatever the transport answers: of the ids that a registration asks to release, when it has returned the
ones that are active in a domain are those that the transport answered as fresh although they were active in
the other domain; they still are active there. -/
theorem released_ids_active_iff (hr : Reachable translator transport registry) (s : σ) (name : String)
    (domain : TrustDomain) (offered : Option Listener) :
    let out := (register translator transport name domain offered).run (registry, s)
    ∃ calls, (register translator transport.recorded name domain offered).Ends (registry, ([], s))
        out.result (out.state.1, (calls, out.state.2)) ∧
      ∀ answer, out.result = .ok answer → ∀ id, .unbind id ∈ calls → ∀ d,
        ((out.state.1.lookup id d).isSome ↔ d = domain.other ∧
          ((transport.bind name domain).run s).result = .ok (.ok (.created id)) ∧
            (registry.lookup id d).isSome) := by
  intro out
  rcases hr.wellFormed.register_calls translator transport name domain offered s with
    ⟨calls, hends, hcalls⟩
  refine ⟨calls, hends, ?_⟩
  intro answer hanswer id hid d
  rcases hcalls.releases (List.ne_nil_of_mem hid) with ⟨hname, hoffered, hreleases⟩
  rcases Option.ne_none_iff_exists'.1 hoffered with ⟨listener, rfl⟩
  have hregistration :=
    register_registration translator transport name domain (some listener) registry s
  exact hr.wellFormed.active_of_released_iff hregistration hanswer hname ((hreleases id).1 hid) d

/-- With the id of the open port as a fresh one for a trusted port: the registration is refused, and the id
that it releases stays active in the open domain. -/
theorem released_ids_active_of_seven :
    let out := (register ⟨false⟩ handingOut "b" .trusted (some (.oneWay 1))).run (seven, ⟨7⟩)
    ∃ calls, (register ⟨false⟩ handingOut.recorded "b" .trusted (some (.oneWay 1))).Ends
        (seven, ([], ⟨7⟩)) out.result (out.state.1, (calls, out.state.2)) ∧
      .unbind ⟨7⟩ ∈ calls ∧ (out.state.1.lookup ⟨7⟩ .openToAll).isSome ∧
        ¬ (out.state.1.lookup ⟨7⟩ .trusted).isSome := by
  intro out
  rcases released_ids_active_iff reachable_handingOut_seven ⟨7⟩ "b" .trusted (some (.oneWay 1)) with
    ⟨calls, hends, hactive⟩
  have hid : .unbind ⟨7⟩ ∈ calls := by
    have hcalls : ([.bind "b" .trusted, .unbind ⟨7⟩] : List Call) = calls :=
      congrArg (·.2.1) hends.state
    rw [← hcalls]
    decide
  refine ⟨calls, hends, hid, ?_, ?_⟩
  · exact (hactive _ rfl ⟨7⟩ hid .openToAll).2 ⟨rfl, rfl, rfl⟩
  · intro htrusted
    cases ((hactive _ rfl ⟨7⟩ hid .trusted).1 htrusted).1

/-- A registration that was refused has released the id of a port that is active. -/
theorem registration_releases_live_port :
    ∃ calls registry', Reachable ⟨false⟩ handingOut seven ∧
      (register ⟨false⟩ handingOut.recorded "b" .trusted (some (.oneWay 1))).Ends (seven, ([], ⟨7⟩))
        (.ok (.error .io)) (registry', (calls, ⟨7⟩)) ∧
      ¬ ∀ id, .unbind id ∈ calls → ∀ d, registry'.lookup id d = none := by
  refine ⟨[.bind "b" .trusted, .unbind ⟨7⟩], seven, reachable_handingOut_seven, ⟨rfl, rfl⟩, ?_⟩
  intro hreleased
  have hnone := hreleased ⟨7⟩ (by decide) .openToAll
  revert hnone
  decide

/-- What the changes of a registry ask of their transport, whatever it answers.  A registration asks to bind
its name once, if it has a name and a listener, and then to release the one id for which there is a reason,
if there is one.  When it has returned, the port of a fresh binding is active in the domain exactly if its id
was not released.  An unregistration asks to release its id once, if that is positive and active in the
domain, and otherwise nothing. -/
theorem calls_of_changes (hr : Reachable translator transport registry) (s : σ) :
    (∀ name domain offered,
      let out := (register translator transport name domain offered).run (registry, s)
      let bound := ((transport.bind name domain).run s).result
      ∃ calls, (register translator transport.recorded name domain offered).Ends (registry, ([], s))
          out.result (out.state.1, (calls, out.state.2)) ∧
        RegistrationCalls registry name domain offered bound calls ∧
        ∀ answer id, out.result = .ok answer → .bind name domain ∈ calls →
          bound = .ok (.ok (.created id)) →
            ((out.state.1.lookup id domain).isSome ↔ .unbind id ∉ calls)) ∧
    ∀ id domain,
      let out := (unregister translator transport id domain).run (registry, s)
      let calls := if 0 < id.value ∧ (registry.lookup id domain).isSome then [Call.unbind id] else []
      (unregister translator transport.recorded id domain).Ends (registry, ([], s)) out.result
        (out.state.1, (calls, out.state.2)) := by
  constructor
  · intro name domain offered out bound
    rcases hr.wellFormed.register_calls translator transport name domain offered s with
      ⟨calls, hends, hcalls⟩
    refine ⟨calls, hends, hcalls, ?_⟩
    intro answer id hanswer hasked hbound
    rcases hcalls.releases (List.ne_nil_of_mem hasked) with ⟨hname, hoffered, hreleases⟩
    rcases Option.ne_none_iff_exists'.1 hoffered with ⟨listener, rfl⟩
    have hregistration :=
      register_registration translator transport name domain (some listener) registry s
    have hactive := hr.wellFormed.active_of_created_iff hregistration hanswer hname hbound
    exact hactive.trans (not_congr (hreleases id)).symm
  · intro id domain out calls
    rcases (reflects_unregister transport.recorded_reflects translator id domain).recorded_ends registry s
      with ⟨recorded, hends⟩
    have hunregistration :=
      unregister_unregistration translator transport.recorded id domain registry ([], s)
    have hcalls := hunregistration.calls_eq
    rw [hends.state] at hcalls
    have hsame : recorded = calls := hcalls
    rw [← hsame]
    exact hends

/-- The name of the port is bound anew: its old id is released and the fresh one is active.  To unregister
the old id in the other domain asks nothing. -/
theorem calls_of_changes_of_seven :
    let out := (register ⟨false⟩ handingOut "a" .openToAll (some (.oneWay 1))).run (seven, ⟨8⟩)
    (∃ calls, (register ⟨false⟩ handingOut.recorded "a" .openToAll (some (.oneWay 1))).Ends
        (seven, ([], ⟨8⟩)) out.result (out.state.1, (calls, out.state.2)) ∧
      calls = [.bind "a" .openToAll, .unbind ⟨7⟩] ∧ (out.state.1.lookup ⟨8⟩ .openToAll).isSome) ∧
    (unregister ⟨false⟩ handingOut.recorded ⟨7⟩ .trusted).Ends (seven, ([], ⟨8⟩))
      (.ok (.error (.portNotFound (.inDomain .trusted ⟨7⟩)))) (seven, ([], ⟨8⟩)) := by
  intro out
  rcases calls_of_changes reachable_handingOut_seven ⟨8⟩ with ⟨hregister, hunregister⟩
  constructor
  · rcases hregister "a" .openToAll (some (.oneWay 1)) with ⟨calls, hends, hcalls, hactive⟩
    rcases hcalls.asked (by decide) (by decide) with ⟨released, hasked, hreleased⟩
    have hmoved : released = some ⟨7⟩ :=
      (hreleased ⟨7⟩).2 (.moved (by decide) (by decide) ⟨_, rfl, rfl⟩)
    subst hmoved hasked
    refine ⟨_, hends, rfl, ?_⟩
    exact (hactive _ ⟨8⟩ rfl (by decide) rfl).2 (by decide)
  · exact hunregister ⟨7⟩ .trusted

end Registry
end PortMessaging
