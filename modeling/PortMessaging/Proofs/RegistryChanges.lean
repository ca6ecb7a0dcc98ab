import PortMessaging.Proofs.RegistryTables

/-!
# RegistryChanges — what a change of a registry changes

A change of a registry speaks to its transport before and between the changes of the tables, and the
transport may answer anything or break off.  This module says what of the tables is different
afterwards, in the two directions that a caller relies on:

* a change that fails leaves both tables as they were.  This is said of a registry behind a lock
  (`Effect.holding`), so that it covers what the lock shows after the transport broke off;
* a change that succeeds stays in its domain and touches the returned id and the name that was asked
  for (`Confined`).

Whether a registration puts the port there that was asked for (`Installed`) depends on the id that the
transport chose.  An id of the other domain is refused, but an id that is active in the same domain
under another name is taken: then only the listener of that port is exchanged.
-/

namespace PortMessaging

namespace Registry

variable {σ ω : Type} {registry cleared : Registry} {id : PortId} {domain : TrustDomain}
  {name : String} {translator : Translator} {transport : Transport σ}

/-- A registry that some changes made of an empty one.  The state of the transport may be another one
at each change, as others use it too. -/
inductive Reachable (translator : Translator) (transport : Transport σ) : Registry → Prop where
  | empty : Reachable translator transport .empty
  | change {registry : Registry} (h : Reachable translator transport registry) (s : σ)
      (change : Change) :
      Reachable translator transport (afterChange translator transport (registry, s) change).1

theorem Reachable.wellFormed (h : Reachable translator transport registry) :
    registry.WellFormed := by
  induction h with
  | empty => exact .empty
  | @change registry h s change ih =>
    have hbefore : (registry, s).1.WellFormed := ih
    exact hbefore.afterChange translator transport change

/-! ## Changes that stay in their domain -/

/-- Only entries of one domain differ, and only under keys that may be touched. -/
structure Confined (before after : Registry) (domain : TrustDomain) (touched : PortId → Prop) :
    Prop where
  otherTable : after.table domain.other = before.table domain.other
  untouched : ∀ {key : PortId}, ¬ touched key → after.lookup key domain = before.lookup key domain

namespace Confined

variable {touched touched' : PortId → Prop} {before between after : Registry}

theorem refl (registry : Registry) (domain : TrustDomain) (touched : PortId → Prop) :
    Confined registry registry domain touched :=
  ⟨rfl, fun _ => rfl⟩

theorem mono (h : Confined before after domain touched)
    (hsub : ∀ {key}, touched key → touched' key) : Confined before after domain touched' :=
  ⟨h.otherTable, fun hkey => h.untouched fun htouched => hkey (hsub htouched)⟩

theorem trans (h₁ : Confined before between domain touched)
    (h₂ : Confined between after domain touched) : Confined before after domain touched := by
  refine ⟨h₂.otherTable.trans h₁.otherTable, ?_⟩
  intro key hkey
  exact (h₂.untouched hkey).trans (h₁.untouched hkey)

theorem erase (registry : Registry) (id : PortId) (domain : TrustDomain) :
    Confined registry (registry.erase id domain) domain (· = id) := by
  refine ⟨table_modifyTable_other _ _ _, ?_⟩
  intro key hkey
  exact lookup_erase_of_ne (.inl hkey)

theorem seated (registry : Registry) (id : PortId) (name : String) (domain : TrustDomain)
    (listener : Listener) :
    Confined registry (registry.seated id name domain listener) domain (· = id) := by
  constructor
  · unfold Registry.seated
    cases registry.lookup id domain with
    | some entry => exact table_modifyTable_other _ _ _
    | none => exact table_modifyTable_other _ _ _
  · intro key hkey
    exact lookup_seated_of_ne (.inl hkey)

end Confined

/-! ## Registrations that succeed -/

/-- An active port of the domain has the name under the key. -/
def HasName (registry : Registry) (domain : TrustDomain) (name : String) (key : PortId) : Prop :=
  ∃ entry, registry.lookup key domain = some entry ∧ entry.name = name

/-- The registry once a name is free for an id: no other id of the domain has it any more, and that
is all that changed. -/
structure Cleared (registry cleared : Registry) (domain : TrustDomain) (name : String)
    (id : PortId) : Prop where
  confined : Confined registry cleared domain fun key => key ≠ id ∧ registry.HasName domain name key
  sole : ∀ {key : PortId}, cleared.HasName domain name key → key = id

theorem Cleared.lookup_id (h : Cleared registry cleared domain name id) :
    cleared.lookup id domain = registry.lookup id domain :=
  h.confined.untouched fun htouched => htouched.1 rfl

theorem WellFormed.cleared_of_none (hr : registry.WellFormed)
    (h : registry.staleId? name domain id = none) : Cleared registry registry domain name id := by
  refine ⟨.refl _ _ _, ?_⟩
  rintro key ⟨entry, hlookup, hname⟩
  exact hr.key_of_staleId?_eq_none h hlookup hname

theorem WellFormed.cleared_of_some (hr : registry.WellFormed) {stale : PortId}
    (h : registry.staleId? name domain id = some stale) :
    Cleared registry (registry.erase stale domain) domain name id := by
  refine ⟨(Confined.erase registry stale domain).mono ?_, ?_⟩
  · intro key hkey
    rcases hr.stale_spec h with ⟨hne, hnamed⟩
    subst hkey
    exact ⟨hne, hnamed⟩
  · rintro key ⟨entry, hlookup, hname⟩
    exact absurd hname (hr.name_ne_of_erase_stale h hlookup)

/-- A registration that succeeds makes the name free for the id and seats the listener there. -/
theorem WellFormed.seated_of_registration (hr : registry.WellFormed) {s s' : σ}
    {offered : Option Listener} {registry' : Registry}
    (h : Registration translator transport name domain registry s offered (.ok (.ok id)) registry'
      s') :
    ∃ listener cleared, offered = some listener ∧ Cleared registry cleared domain name id ∧
      registry' = cleared.seated id name domain listener := by
  cases h with
  | accepted hname hbind hrefusal hstale => exact ⟨_, _, rfl, hr.cleared_of_none hstale, rfl⟩
  | moved hname hbind hrefusal hstale hunbind => exact ⟨_, _, rfl, hr.cleared_of_some hstale, rfl⟩

/-- The port that was asked for is there: its entry says what was asked for, its name is no other
port's, and the ports of other names are as before. -/
structure Installed (before after : Registry) (id : PortId) (name : String) (domain : TrustDomain)
    (listener : Listener) : Prop where
  entry : after.lookup id domain = some ⟨id, name, domain, listener, .active⟩
  sole : ∀ {key : PortId}, after.HasName domain name key → key = id
  others : ∀ {key : PortId} {entry : PortEntry}, before.lookup key domain = some entry →
    entry.name ≠ name → after.lookup key domain = some entry

/-- A seat under a free id, or under the id that has the name, installs the port. -/
theorem Cleared.installed (h : Cleared registry cleared domain name id) (hr : registry.WellFormed)
    (hown : ∀ entry, registry.lookup id domain = some entry → entry.name = name)
    (listener : Listener) :
    Installed registry (cleared.seated id name domain listener) id name domain listener := by
  have hseat : cleared.seatEntry id name domain listener = ⟨id, name, domain, listener, .active⟩ := by
    cases hlookup : registry.lookup id domain with
    | none => exact seatEntry_of_none (h.lookup_id.trans hlookup)
    | some entry =>
      have hentry := hr.own hlookup
      have hname := hown entry hlookup
      calc
        cleared.seatEntry id name domain listener
            = { entry with listener := listener } := seatEntry_of_some (h.lookup_id.trans hlookup)
        _ = ⟨id, name, domain, listener, .active⟩ := by simp [hentry, hname]
  refine ⟨?_, ?_, ?_⟩
  · calc
      (cleared.seated id name domain listener).lookup id domain
          = some (cleared.seatEntry id name domain listener) := lookup_seated_self
      _ = some ⟨id, name, domain, listener, .active⟩ := by rw [hseat]
  · rintro key ⟨entry, hlookup, hname⟩
    rcases lookup_seated_cases hlookup with ⟨hkey, -, -⟩ | ⟨hbefore, -⟩
    · exact hkey
    · exact h.sole ⟨entry, hbefore, hname⟩
  · intro key entry hlookup hne
    have hkey : key ≠ id := by
      intro heq
      subst heq
      exact hne (hown entry hlookup)
    have hfree : ¬ (key ≠ id ∧ registry.HasName domain name key) := by
      rintro ⟨-, found, hfound, hname⟩
      rw [hlookup] at hfound
      cases hfound
      exact hne hname
    calc
      (cleared.seated id name domain listener).lookup key domain
          = cleared.lookup key domain := lookup_seated_of_ne (.inl hkey)
      _ = registry.lookup key domain := h.confined.untouched hfree
      _ = some entry := hlookup

/-- Whatever the transport answers: a registration that succeeds installs the port that was asked for
exactly when the id was free in the domain or had the name before.  An id that had another name keeps
it and all else but its listener. -/
theorem registration_installs_iff (hr : Reachable translator transport registry) (s : σ)
    (offered : Option Listener) {registry' : Registry} {s' : σ}
    (h : (register translator transport name domain offered).Ends (registry, s) (.ok (.ok id))
      (registry', s')) :
    ∃ listener, offered = some listener ∧
      (Installed registry registry' id name domain listener ↔
        ∀ entry, registry.lookup id domain = some entry → entry.name = name) ∧
      ∀ entry, registry.lookup id domain = some entry →
        registry'.lookup id domain = some { entry with listener := listener } := by
  have hregistration := register_registration translator transport name domain offered registry s
  simp only [h.result, h.state] at hregistration
  rcases hr.wellFormed.seated_of_registration hregistration with
    ⟨listener, cleared, hoffered, hcleared, rfl⟩
  have hactive : ∀ entry, registry.lookup id domain = some entry →
      (cleared.seated id name domain listener).lookup id domain =
        some { entry with listener := listener } := by
    intro entry hlookup
    calc
      (cleared.seated id name domain listener).lookup id domain
          = some (cleared.seatEntry id name domain listener) := lookup_seated_self
      _ = some { entry with listener := listener } := by
          rw [seatEntry_of_some (hcleared.lookup_id.trans hlookup)]
  refine ⟨listener, hoffered, ⟨?_, fun hown => hcleared.installed hr.wellFormed hown listener⟩,
    hactive⟩
  intro hinstalled entry hlookup
  have hentry := (hactive entry hlookup).symm.trans hinstalled.entry
  simp only [Option.some.injEq] at hentry
  exact congrArg PortEntry.name hentry

/-- A transport that answers every request to bind with one id, and breaks off when it is to release
one. -/
def oneId (id : PortId) : Transport σ where
  bind _ _ := pure (.ok (.existing id))
  unbind _ := .abort .transport
  checkRemote _ _ := pure (.ok true)
  send _ _ _ := pure (.ok ())
  sendWithReply _ _ _ _ := pure (.ok ())

/-- The registry with one port, "a", under the id 7. -/
def seven : Registry := empty.add ⟨7⟩ "a" .openToAll (.oneWay 0)

theorem reachable_seven (s : σ) : Reachable ⟨false⟩ (oneId ⟨7⟩ : Transport σ) seven :=
  .change .empty s (.register "a" .openToAll (some (.oneWay 0)))

theorem registration_installs_first_name :
    Installed .empty seven ⟨7⟩ "a" .openToAll (.oneWay 0) := by
  have h : (register ⟨false⟩ (oneId ⟨7⟩) "a" .openToAll (some (.oneWay 0))).Ends (.empty, ())
      (.ok (.ok ⟨7⟩)) (seven, ()) := ⟨rfl, rfl⟩
  rcases registration_installs_iff .empty () _ h with ⟨listener, hoffered, hiff, -⟩
  cases hoffered
  refine hiff.2 ?_
  intro entry hlookup
  cases hlookup

/-- The second name gets the id of the first: the registration succeeds, and what is active under the
id is still the first name, now with the listener of the second. -/
theorem registration_takes_over_port :
    ∃ registry', Reachable ⟨false⟩ (oneId ⟨7⟩ : Transport Unit) seven ∧
      (register ⟨false⟩ (oneId ⟨7⟩) "b" .openToAll (some (.oneWay 1))).Ends (seven, ())
        (.ok (.ok ⟨7⟩)) (registry', ()) ∧
      registry'.lookup ⟨7⟩ .openToAll = some ⟨⟨7⟩, "a", .openToAll, .oneWay 1, .active⟩ ∧
      ¬ Installed seven registry' ⟨7⟩ "b" .openToAll (.oneWay 1) := by
  refine ⟨seven.rebind ⟨7⟩ .openToAll (.oneWay 1), reachable_seven (), ⟨rfl, rfl⟩, rfl, ?_⟩
  intro hinstalled
  have hentry := hinstalled.entry
  revert hentry
  decide

/-! ## Changes behind a lock -/

/-- A call that a change makes on its transport. -/
inductive Request where
  | bind (name : String) (domain : TrustDomain)
  | unbind (id : PortId)

/-- The state of a transport after a call, however it ended. -/
def afterRequest (transport : Transport σ) (s : σ) : Request → σ
  | .bind name domain => ((transport.bind name domain).run s).state
  | .unbind id => ((transport.unbind id).run s).state

/-- The state of a transport after some calls. -/
def afterRequests (transport : Transport σ) (s : σ) (requests : List Request) : σ :=
  requests.foldl (afterRequest transport) s

/-- A registration that does not succeed leaves the registry, and only its transport was asked: to
bind the name, and perhaps to release an id. -/
theorem Registration.unchanged {s s' : σ} {offered : Option Listener}
    {result : Except Fault (Except PortError PortId)} {registry' : Registry}
    (h : Registration translator transport name domain registry s offered result registry' s')
    (hfails : ∀ id, result ≠ .ok (.ok id)) :
    registry' = registry ∧ ∃ released requests,
      requests <+: [.bind name domain, .unbind released] ∧
        s' = afterRequests transport s requests := by
  -- The id that is released in the ends that release none.
  let any : PortId := ⟨0⟩
  cases h with
  | nameEmpty => exact ⟨rfl, any, [], by simp, rfl⟩
  | listenerMissing => exact ⟨rfl, any, [], by simp, rfl⟩
  | bindBroke hname hbind => exact ⟨rfl, any, [.bind name domain], by simp, hbind.state.symm⟩
  | bindRefused hname hbind => exact ⟨rfl, any, [.bind name domain], by simp, hbind.state.symm⟩
  | existingRejected hname hbind =>
    exact ⟨rfl, any, [.bind name domain], by simp, hbind.state.symm⟩
  | @createdRejected listener id s₁ s₂ answer hname hbind hrefusal hunbind =>
    refine ⟨rfl, id, [.bind name domain, .unbind id], by simp, ?_⟩
    simp [afterRequests, afterRequest, hbind.state, hunbind.state]
  | @createdRejectedBroke listener id s₁ s₂ fault hname hbind hrefusal hunbind =>
    refine ⟨rfl, id, [.bind name domain, .unbind id], by simp, ?_⟩
    simp [afterRequests, afterRequest, hbind.state, hunbind.state]
  | @movedBroke listener outcome stale s₁ s₂ fault hname hbind hrefusal hstale hunbind =>
    refine ⟨rfl, stale, [.bind name domain, .unbind stale], by simp, ?_⟩
    simp [afterRequests, afterRequest, hbind.state, hunbind.state]
  | accepted => exact absurd rfl (hfails _)
  | moved => exact absurd rfl (hfails _)

theorem Unregistration.unchanged {s s' : σ} {result : Except Fault (Except PortError PortEntry)}
    {registry' : Registry}
    (h : Unregistration translator transport id domain registry s result registry' s')
    (hfails : ∀ entry, result ≠ .ok (.ok entry)) :
    registry' = registry ∧ ∃ requests, requests <+: [.unbind id] ∧
      s' = afterRequests transport s requests := by
  cases h with
  | idInvalid => exact ⟨rfl, [], by simp, rfl⟩
  | missing => exact ⟨rfl, [], by simp, rfl⟩
  | unbindBroke hid hlookup hunbind => exact ⟨rfl, [.unbind id], by simp, hunbind.state.symm⟩
  | unbindRefused hid hlookup hunbind => exact ⟨rfl, [.unbind id], by simp, hunbind.state.symm⟩
  | retired => exact absurd rfl (hfails _)

/-- A registration that succeeds touches the id and the port that had the name. -/
theorem WellFormed.registration_confined (hr : registry.WellFormed) {s s' : σ}
    {offered : Option Listener} {registry' : Registry}
    (h : Registration translator transport name domain registry s offered (.ok (.ok id)) registry'
      s') :
    Confined registry registry' domain fun key =>
      key = id ∨ registry.HasName domain name key := by
  rcases hr.seated_of_registration h with ⟨listener, cleared, -, hcleared, rfl⟩
  let touched : PortId → Prop := fun key => key = id ∨ registry.HasName domain name key
  have hclearing : Confined registry cleared domain touched :=
    hcleared.confined.mono fun hkey => .inr hkey.2
  have hseating : Confined cleared (cleared.seated id name domain listener) domain touched :=
    (Confined.seated cleared id name domain listener).mono .inl
  exact hclearing.trans hseating

theorem Unregistration.confined {s s' : σ} {result : Except Fault (Except PortError PortEntry)}
    {registry' : Registry}
    (h : Unregistration translator transport id domain registry s result registry' s') :
    Confined registry registry' domain (· = id) := by
  cases h with
  | retired => exact .erase registry id domain
  | _ => exact .refl registry domain _

/-- The world after a change of the locked registry that failed: the tables are as before, and what
runs next runs as after the given calls on the transport alone. -/
structure RolledBack (lock : Part ω Registry) (transport : Transport ω) (w w' : ω)
    (requests : List Request) : Prop where
  tables : lock.get w' = lock.get w
  resumes : ∀ {α : Type} (next : Effect ω α),
    next.run w' = next.run (lock.set (lock.get w) (afterRequests transport w requests))

theorem RolledBack.of_held {lock : Part ω Registry} (hlock : lock.Lawful) {transport : Transport ω}
    {w w' : ω} {registry' : Registry} {requests : List Request} (hregistry : registry' = lock.get w)
    (hstate : w' = afterRequests transport w requests) :
    RolledBack lock transport w (lock.set registry' w') requests := by
  subst hregistry hstate
  exact ⟨hlock.get_set _ _, fun _ => rfl⟩

/-- Changes of a locked registry are all or nothing, whatever the transport does.  One that fails, be
it with an error or because the transport broke off, leaves both tables; all that it did were at most
two calls on the transport.  One that succeeds leaves the other domain and, in its own, every entry
but the one under its id and, for a registration, the one that had the name. -/
theorem locked_changes_all_or_nothing {lock : Part ω Registry} (hlock : lock.Lawful)
    {transport : Transport ω} {w : ω} (hw : Reachable translator transport (lock.get w)) :
    (∀ name domain offered,
      let out := (Effect.holding lock (register translator transport name domain offered)).run w
      ((∀ id, out.result ≠ .ok (.ok id)) → ∃ released requests,
        requests <+: [.bind name domain, .unbind released] ∧
          RolledBack lock transport w out.state requests) ∧
      ∀ id, out.result = .ok (.ok id) →
        Confined (lock.get w) (lock.get out.state) domain fun key =>
          key = id ∨ (lock.get w).HasName domain name key) ∧
    (∀ id domain,
      let out := (Effect.holding lock (unregister translator transport id domain)).run w
      ((∀ entry, out.result ≠ .ok (.ok entry)) → ∃ requests, requests <+: [.unbind id] ∧
        RolledBack lock transport w out.state requests) ∧
      ∀ entry, out.result = .ok (.ok entry) →
        Confined (lock.get w) (lock.get out.state) domain (· = id)) := by
  constructor
  · intro name domain offered out
    have hends := register_registration translator transport name domain offered (lock.get w) w
    constructor
    · intro hfails
      rcases hends.unchanged hfails with ⟨hregistry, released, requests, hprefix, hstate⟩
      exact ⟨released, requests, hprefix, .of_held hlock hregistry hstate⟩
    · intro id hid
      have hresult : ((register translator transport name domain offered).run
          (lock.get w, w)).result = .ok (.ok id) := hid
      simp only [hresult] at hends
      have hget := hlock.get_set
      simpa [out, Effect.holding, hget] using hw.wellFormed.registration_confined hends
  · intro id domain out
    have hends := unregister_unregistration translator transport id domain (lock.get w) w
    constructor
    · intro hfails
      rcases hends.unchanged hfails with ⟨hregistry, requests, hprefix, hstate⟩
      exact ⟨requests, hprefix, .of_held hlock hregistry hstate⟩
    · intro entry hentry
      have hget := hlock.get_set
      simpa [out, Effect.holding, hget] using hends.confined

/-- The registry as the first of two parts of the world. -/
def firstPart : Part (Registry × σ) Registry where
  get := Prod.fst
  set registry w := (registry, w.2)

/-- The release of "a" breaks off and leaves its port; "b" takes the id, and the trusted ports are as
before. -/
theorem locked_changes_of_seven :
    firstPart.get ((Effect.holding firstPart (unregister ⟨false⟩ (oneId ⟨7⟩) ⟨7⟩ .openToAll)).run
        (seven, ())).state = seven ∧
      (firstPart.get ((Effect.holding firstPart (register ⟨false⟩ (oneId ⟨7⟩) "b" .openToAll
        (some (.oneWay 1)))).run (seven, ())).state).trustedPorts = seven.trustedPorts := by
  have hlock : (firstPart : Part (Registry × Unit) Registry).Lawful := ⟨fun _ _ => rfl, fun _ => rfl⟩
  have hboth := locked_changes_all_or_nothing (w := (seven, ())) hlock (reachable_seven (seven, ()))
  constructor
  · rcases (hboth.2 ⟨7⟩ .openToAll).1 (by rintro entry ⟨⟩) with ⟨requests, -, hrolled⟩
    exact hrolled.tables
  · exact ((hboth.1 "b" .openToAll (some (.oneWay 1))).2 ⟨7⟩ rfl).otherTable

end Registry
end PortMessaging
