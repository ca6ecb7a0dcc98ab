import Mathlib.Logic.Basic
import PortMessaging.Proofs.RegistryExits
import PortMessaging.Proofs.SortedMap

/-!
# RegistryTables — what always holds of the tables of a registry

The transport is not trusted: it may hand out any id at any time.  Still the two tables of a registry
stay in order (`Registry.WellFormed`).  Four facts are kept together because each needs the others:

* only positive ids are keys;
* the entry under a key carries that key, the domain of its table, a name and the active state;
* no id is a key of both tables;
* a name has at most one entry in a domain.

The last one rests on the search for a stale entry: it finds the only entry of the name, so taking out
what it finds makes room for the new id.
-/

namespace PortMessaging
namespace Registry

variable {σ : Type} {registry : Registry} {id other : PortId} {domain : TrustDomain}
  {name : String} {listener : Listener}

/-! ## Views after a change -/

theorem table_modifyTable_of_ne {d : TrustDomain} (h : d ≠ domain)
    (f : SortedMap PortId PortEntry → SortedMap PortId PortEntry) :
    (registry.modifyTable domain f).table d = registry.table d := by
  rw [TrustDomain.eq_other_of_ne h]
  exact table_modifyTable_other registry domain f

theorem lookup_erase_self : (registry.erase id domain).lookup id domain = none := by
  unfold lookup erase
  rw [table_modifyTable_self]
  exact SortedMap.get?_erase_self _ id

theorem lookup_erase_of_ne {d : TrustDomain} (h : other ≠ id ∨ d ≠ domain) :
    (registry.erase id domain).lookup other d = registry.lookup other d := by
  unfold lookup erase
  by_cases hd : d = domain
  · subst hd
    rw [table_modifyTable_self]
    exact SortedMap.get?_erase_of_ne _ (h.resolve_right fun hne => hne rfl)
  · rw [table_modifyTable_of_ne hd]

/-- What is still there was there before. -/
theorem lookup_of_lookup_erase {d : TrustDomain} {key : PortId} {entry : PortEntry}
    (h : (registry.erase id domain).lookup key d = some entry) :
    registry.lookup key d = some entry ∧ (key ≠ id ∨ d ≠ domain) := by
  by_cases hsame : key = id ∧ d = domain
  · rcases hsame with ⟨rfl, rfl⟩
    rw [lookup_erase_self] at h
    cases h
  · have hne := not_and_or.1 hsame
    rw [lookup_erase_of_ne hne] at h
    exact ⟨h, hne⟩

/-- The entry of an id after a listener took its seat there. -/
def seatEntry (registry : Registry) (id : PortId) (name : String) (domain : TrustDomain)
    (listener : Listener) : PortEntry :=
  match registry.lookup id domain with
  | some entry => { entry with listener := listener }
  | none => ⟨id, name, domain, listener, .active⟩

theorem seatEntry_of_some {entry : PortEntry} (h : registry.lookup id domain = some entry) :
    registry.seatEntry id name domain listener = { entry with listener := listener } := by
  unfold seatEntry
  rw [h]

theorem seatEntry_of_none (h : registry.lookup id domain = none) :
    registry.seatEntry id name domain listener = ⟨id, name, domain, listener, .active⟩ := by
  unfold seatEntry
  rw [h]

theorem lookup_seated_self : (registry.seated id name domain listener).lookup id domain =
    some (registry.seatEntry id name domain listener) := by
  unfold seated seatEntry
  -- An entry is rebound where there is one, and put in where there is none.
  cases hlookup : registry.lookup id domain with
  | some entry =>
    have hget : (registry.table domain).get? id = some entry := hlookup
    simp only [lookup, rebind, table_modifyTable_self]
    rw [SortedMap.get?_modify_self, hget]
    rfl
  | none =>
    simp only [lookup, add, table_modifyTable_self]
    exact SortedMap.get?_insert_self _ id _

theorem lookup_seated_of_ne {d : TrustDomain} (h : other ≠ id ∨ d ≠ domain) :
    (registry.seated id name domain listener).lookup other d = registry.lookup other d := by
  unfold seated
  by_cases hd : d = domain
  · subst hd
    have hne : other ≠ id := h.resolve_right fun hne => hne rfl
    cases registry.lookup id d with
    | some entry =>
      simp only [lookup, rebind, table_modifyTable_self]
      exact SortedMap.get?_modify_of_ne _ hne _
    | none =>
      simp only [lookup, add, table_modifyTable_self]
      exact SortedMap.get?_insert_of_ne _ hne _
  · cases registry.lookup id domain with
    | some entry => simp only [lookup, rebind, table_modifyTable_of_ne hd]
    | none => simp only [lookup, add, table_modifyTable_of_ne hd]

/-- What is there after a listener took its seat is the entry of the seat, or was there before. -/
theorem lookup_seated_cases {d : TrustDomain} {key : PortId} {entry : PortEntry}
    (h : (registry.seated id name domain listener).lookup key d = some entry) :
    (key = id ∧ d = domain ∧ entry = registry.seatEntry id name domain listener) ∨
      (registry.lookup key d = some entry ∧ (key ≠ id ∨ d ≠ domain)) := by
  by_cases hsame : key = id ∧ d = domain
  · rcases hsame with ⟨rfl, rfl⟩
    rw [lookup_seated_self] at h
    exact .inl ⟨rfl, rfl, (Option.some.inj h).symm⟩
  · have hne := not_and_or.1 hsame
    rw [lookup_seated_of_ne hne] at h
    exact .inr ⟨h, hne⟩

theorem refusal?_eq_none_iff :
    registry.refusal? domain id = none ↔
      id.isValid = true ∧ registry.lookup id domain.other = none := by
  unfold refusal?
  cases hvalid : id.isValid <;> cases hlookup : registry.lookup id domain.other <;> simp

/-- The search for a name finds an entry of the name. -/
theorem exists_of_idOfName? (h : registry.idOfName? name domain = some id) :
    ∃ key entry, registry.lookup key domain = some entry ∧ entry.name = name ∧ entry.id = id := by
  unfold idOfName? at h
  rcases Option.map_eq_some_iff.1 h with ⟨entry, hfind, hid⟩
  have hname : entry.name = name := by simpa using List.find?_some hfind
  rcases SortedMap.mem_values_iff.1 (List.mem_of_find?_eq_some hfind) with ⟨key, hkey⟩
  exact ⟨key, entry, hkey, hname, hid⟩

theorem name_ne_of_idOfName?_eq_none (h : registry.idOfName? name domain = none) {key : PortId}
    {entry : PortEntry} (hlookup : registry.lookup key domain = some entry) : entry.name ≠ name := by
  intro hname
  unfold idOfName? at h
  have hfind := Option.map_eq_none_iff.1 h
  have hmem : entry ∈ registry.activePorts domain := SortedMap.mem_values_iff.2 ⟨key, hlookup⟩
  exact absurd hname (by simpa using List.find?_eq_none.1 hfind entry hmem)

/-! ## Order of the tables -/

/-- The tables of a registry are in order. -/
structure WellFormed (registry : Registry) : Prop where
  positive : ∀ {d : TrustDomain} {key : PortId} {entry : PortEntry},
    registry.lookup key d = some entry → 0 < key.value
  own : ∀ {d : TrustDomain} {key : PortId} {entry : PortEntry},
    registry.lookup key d = some entry →
      entry.id = key ∧ entry.domain = d ∧ entry.name ≠ "" ∧ entry.state = .active
  disjoint : ∀ {d : TrustDomain} {key : PortId} {entry : PortEntry},
    registry.lookup key d = some entry → registry.lookup key d.other = none
  names : ∀ {d : TrustDomain} {key₁ key₂ : PortId} {entry₁ entry₂ : PortEntry},
    registry.lookup key₁ d = some entry₁ → registry.lookup key₂ d = some entry₂ →
      entry₁.name = entry₂.name → key₁ = key₂

namespace WellFormed

theorem empty : WellFormed Registry.empty where
  positive h := by
    rename_i d key entry
    cases d <;> cases h
  own h := by
    rename_i d key entry
    cases d <;> cases h
  disjoint h := by
    rename_i d key entry
    cases d <;> cases h
  names h := by
    rename_i d key₁ key₂ entry₁ entry₂
    cases d <;> cases h

/-- In a registry in order the search for a name answers with its id. -/
theorem idOfName?_eq_some_iff (hr : registry.WellFormed) :
    registry.idOfName? name domain = some id ↔
      ∃ entry, registry.lookup id domain = some entry ∧ entry.name = name := by
  constructor
  · intro h
    rcases exists_of_idOfName? h with ⟨key, entry, hlookup, hname, hid⟩
    -- The search answers with the id that the entry carries, and that is its key.
    have hkey : key = id := (hr.own hlookup).1.symm.trans hid
    exact ⟨entry, hkey ▸ hlookup, hname⟩
  · rintro ⟨entry, hlookup, hname⟩
    cases hfound : registry.idOfName? name domain with
    | none => exact absurd hname (name_ne_of_idOfName?_eq_none hfound hlookup)
    | some found =>
      rcases exists_of_idOfName? hfound with ⟨key, entry', hlookup', hname', hid'⟩
      have hkey : key = id := hr.names hlookup' hlookup (hname'.trans hname.symm)
      have hfoundKey : key = found := (hr.own hlookup').1.symm.trans hid'
      rw [← hfoundKey, hkey]

/-- In a registry in order the domain of a port is the one whose table holds it. -/
theorem domainOf?_eq_some_iff (hr : registry.WellFormed) :
    registry.domainOf? id = some domain ↔ (registry.lookup id domain).isSome := by
  have hdomain : ∀ {d entry}, registry.lookup id d = some entry → entry.domain = d :=
    fun h => (hr.own h).2.1
  unfold domainOf? lookupEither
  -- The open table is looked at first; that decides nothing, as the id is in one table only.
  cases hopen : registry.lookup id .openToAll with
  | some entry =>
    have htrusted : registry.lookup id .trusted = none := hr.disjoint hopen
    have hentry := hdomain hopen
    cases domain with
    | openToAll => simp [hopen, hentry]
    | trusted => simp [htrusted, hentry]
  | none =>
    cases htrusted : registry.lookup id .trusted with
    | some entry =>
      have hentry := hdomain htrusted
      cases domain with
      | openToAll => simp [hopen, hentry]
      | trusted => simp [htrusted, hentry]
    | none => cases domain <;> simp [hopen, htrusted]

theorem domainOf?_eq_none_iff (hr : registry.WellFormed) :
    registry.domainOf? id = none ↔ ∀ d, registry.lookup id d = none := by
  constructor
  · intro h d
    cases hlookup : registry.lookup id d with
    | none => rfl
    | some entry =>
      have hsome : registry.domainOf? id = some d := by
        rw [hr.domainOf?_eq_some_iff, hlookup]
        rfl
      rw [h] at hsome
      cases hsome
  · intro h
    cases hdomain : registry.domainOf? id with
    | none => rfl
    | some d =>
      have hsome := hr.domainOf?_eq_some_iff.1 hdomain
      simp [h d] at hsome

/-! ## Preservation -/

theorem erase (hr : registry.WellFormed) (id : PortId) (domain : TrustDomain) :
    (registry.erase id domain).WellFormed := by
  have hsub : ∀ {d : TrustDomain} {key : PortId} {entry : PortEntry},
      (registry.erase id domain).lookup key d = some entry →
        registry.lookup key d = some entry := fun h => (lookup_of_lookup_erase h).1
  -- Fewer entries satisfy whatever is asked of each and of any two of them.
  refine ⟨fun h => hr.positive (hsub h), fun h => hr.own (hsub h), ?_,
    fun h₁ h₂ => hr.names (hsub h₁) (hsub h₂)⟩
  intro d key entry h
  have hnone := hr.disjoint (hsub h)
  cases hother : (registry.erase id domain).lookup key d.other with
  | none => rfl
  | some entry' =>
    rw [hsub hother] at hnone
    cases hnone

/-- An id that is taken out of its domain is active in neither. -/
theorem lookup_erase_eq_none (hr : registry.WellFormed) {entry : PortEntry}
    (h : registry.lookup id domain = some entry) (d : TrustDomain) :
    (registry.erase id domain).lookup id d = none := by
  cases hlookup : (registry.erase id domain).lookup id d with
  | none => rfl
  | some found =>
    rcases lookup_of_lookup_erase hlookup with ⟨hbefore, hne⟩
    have hd : d ≠ domain := hne.resolve_left fun hid => hid rfl
    have hdisjoint := hr.disjoint h
    rw [← TrustDomain.eq_other_of_ne hd, hbefore] at hdisjoint
    cases hdisjoint

theorem seatEntry_own (hr : registry.WellFormed) (hname : name ≠ "") (id : PortId)
    (domain : TrustDomain) (listener : Listener) :
    let entry := registry.seatEntry id name domain listener
    entry.id = id ∧ entry.domain = domain ∧ entry.name ≠ "" ∧ entry.state = .active := by
  intro entry
  cases hlookup : registry.lookup id domain with
  | some old =>
    -- The entry that was there keeps all but its listener.
    have hentry : entry = { old with listener := listener } := seatEntry_of_some hlookup
    have hold := hr.own hlookup
    rw [hentry]
    exact hold
  | none =>
    have hentry : entry = ⟨id, name, domain, listener, .active⟩ := seatEntry_of_none hlookup
    rw [hentry]
    exact ⟨rfl, rfl, hname, rfl⟩

/-- A seat is taken in order if the id may be used and the name is not active under another id. -/
theorem seated (hr : registry.WellFormed) (hname : name ≠ "")
    (hrefusal : registry.refusal? domain id = none)
    (hfree : ∀ {key entry}, registry.lookup key domain = some entry → entry.name = name → key = id)
    (listener : Listener) : (registry.seated id name domain listener).WellFormed := by
  rcases refusal?_eq_none_iff.1 hrefusal with ⟨hvalid, hother⟩
  -- The name of the new entry is active under no other id: either it is the offered name, or the
  -- entry was there before and kept its own.
  have hname' : ∀ {key entry}, registry.lookup key domain = some entry →
      entry.name = (registry.seatEntry id name domain listener).name → key = id := by
    intro key entry hkey heq
    cases hlookup : registry.lookup id domain with
    | some old =>
      rw [seatEntry_of_some hlookup] at heq
      exact hr.names hkey hlookup heq
    | none =>
      rw [seatEntry_of_none hlookup] at heq
      exact hfree hkey heq
  refine ⟨?_, ?_, ?_, ?_⟩
  · intro d key entry h
    rcases lookup_seated_cases h with ⟨rfl, -, -⟩ | ⟨hold, -⟩
    · simpa [PortId.isValid] using hvalid
    · exact hr.positive hold
  · intro d key entry h
    rcases lookup_seated_cases h with ⟨rfl, rfl, rfl⟩ | ⟨hold, -⟩
    · exact hr.seatEntry_own hname key d listener
    · exact hr.own hold
  · intro d key entry h
    cases hboth : (registry.seated id name domain listener).lookup key d.other with
    | none => rfl
    | some entry' =>
      -- One of the two is older, and the other table had nothing under its id.
      rcases lookup_seated_cases h with ⟨rfl, rfl, -⟩ | ⟨hold, -⟩
      · rcases lookup_seated_cases hboth with ⟨-, hd, -⟩ | ⟨hold', -⟩
        · exact absurd hd (TrustDomain.other_ne d)
        · rw [hother] at hold'
          cases hold'
      · rcases lookup_seated_cases hboth with ⟨rfl, rfl, -⟩ | ⟨hold', -⟩
        · rw [TrustDomain.other_other, hold] at hother
          cases hother
        · rw [hr.disjoint hold] at hold'
          cases hold'
  · intro d key₁ key₂ entry₁ entry₂ h₁ h₂ heq
    rcases lookup_seated_cases h₁ with ⟨hkey₁, rfl, rfl⟩ | ⟨hold₁, -⟩
    · rcases lookup_seated_cases h₂ with ⟨hkey₂, -, -⟩ | ⟨hold₂, -⟩
      · exact hkey₁.trans hkey₂.symm
      · exact hkey₁.trans (hname' hold₂ heq.symm).symm
    · rcases lookup_seated_cases h₂ with ⟨hkey₂, rfl, rfl⟩ | ⟨hold₂, -⟩
      · exact (hname' hold₁ heq).trans hkey₂.symm
      · exact hr.names hold₁ hold₂ heq

/-- Without a stale id the name is active under the given id or not at all. -/
theorem key_of_staleId?_eq_none (hr : registry.WellFormed)
    (h : registry.staleId? name domain id = none) {key : PortId} {entry : PortEntry}
    (hlookup : registry.lookup key domain = some entry) (hname : entry.name = name) : key = id := by
  have hfound := hr.idOfName?_eq_some_iff.2 ⟨entry, hlookup, hname⟩
  unfold staleId? at h
  rw [hfound] at h
  simpa using h

/-- The stale id is the only one under which the name is active, and it is not the given one. -/
theorem stale_spec (hr : registry.WellFormed) {stale : PortId}
    (h : registry.staleId? name domain id = some stale) :
    stale ≠ id ∧ ∃ entry, registry.lookup stale domain = some entry ∧ entry.name = name := by
  unfold staleId? at h
  rcases Option.filter_eq_some_iff.1 h with ⟨hfound, hne⟩
  exact ⟨by simpa using hne, hr.idOfName?_eq_some_iff.1 hfound⟩

/-- Once the stale entry is out, the name is active under no id. -/
theorem name_ne_of_erase_stale (hr : registry.WellFormed) {stale key : PortId} {entry : PortEntry}
    (h : registry.staleId? name domain id = some stale)
    (hlookup : (registry.erase stale domain).lookup key domain = some entry) :
    entry.name ≠ name := by
  rcases hr.stale_spec h with ⟨-, old, hold, holdName⟩
  rcases lookup_of_lookup_erase hlookup with ⟨hbefore, hne⟩
  have hkey : key ≠ stale := hne.resolve_right fun hd => hd rfl
  intro hname
  exact hkey (hr.names hbefore hold (hname.trans holdName.symm))

theorem refusal?_erase (hrefusal : registry.refusal? domain id = none) (stale : PortId) :
    (registry.erase stale domain).refusal? domain id = none := by
  rcases refusal?_eq_none_iff.1 hrefusal with ⟨hvalid, hother⟩
  refine refusal?_eq_none_iff.2 ⟨hvalid, ?_⟩
  rw [lookup_erase_of_ne (.inr (TrustDomain.other_ne domain))]
  exact hother

/-- Every end of a registration leaves the tables in order. -/
theorem registration (hr : registry.WellFormed) {translator : Translator}
    {transport : Transport σ} {s s' : σ} {offered : Option Listener}
    {result : Except Fault (Except PortError PortId)} {registry' : Registry}
    (h : Registration translator transport name domain registry s offered result registry' s') :
    registry'.WellFormed := by
  cases h with
  -- Only two ends change the registry.
  | nameEmpty => exact hr
  | listenerMissing => exact hr
  | bindBroke => exact hr
  | bindRefused => exact hr
  | existingRejected => exact hr
  | createdRejected => exact hr
  | createdRejectedBroke => exact hr
  | movedBroke => exact hr
  | accepted hname hbind hrefusal hstale =>
    exact hr.seated hname hrefusal (hr.key_of_staleId?_eq_none hstale) _
  | @moved listener outcome stale s₁ s₂ answer hname hbind hrefusal hstale hunbind =>
    refine (hr.erase stale domain).seated hname (refusal?_erase hrefusal stale) ?_ listener
    intro key entry hlookup hentry
    exact absurd hentry (hr.name_ne_of_erase_stale hstale hlookup)

/-- Every end of an unregistration leaves the tables in order. -/
theorem unregistration (hr : registry.WellFormed) {translator : Translator}
    {transport : Transport σ} {s s' : σ} {result : Except Fault (Except PortError PortEntry)}
    {registry' : Registry}
    (h : Unregistration translator transport id domain registry s result registry' s') :
    registry'.WellFormed := by
  cases h with
  | idInvalid => exact hr
  | missing => exact hr
  | unbindBroke => exact hr
  | unbindRefused => exact hr
  | retired => exact hr.erase id domain

end WellFormed

/-! ## Runs -/

/-- A change that is asked of a registry. -/
inductive Change where
  | register (name : String) (domain : TrustDomain) (listener : Option Listener)
  | unregister (id : PortId) (domain : TrustDomain)

/-- The registry and the state of its transport after a change, however it ended. -/
def afterChange (translator : Translator) (transport : Transport σ) (state : Registry × σ) :
    Change → Registry × σ
  | .register name domain listener =>
    ((register translator transport name domain listener).run state).state
  | .unregister id domain => ((unregister translator transport id domain).run state).state

/-- The registry and the state of its transport after some changes. -/
def afterChanges (translator : Translator) (transport : Transport σ) (state : Registry × σ)
    (changes : List Change) : Registry × σ :=
  changes.foldl (afterChange translator transport) state

theorem WellFormed.afterChange {state : Registry × σ} (h : state.1.WellFormed)
    (translator : Translator) (transport : Transport σ) (change : Change) :
    (afterChange translator transport state change).1.WellFormed := by
  cases change with
  | register name domain listener =>
    exact h.registration
      (register_registration translator transport name domain listener state.1 state.2)
  | unregister id domain =>
    exact h.unregistration
      (unregister_unregistration translator transport id domain state.1 state.2)

theorem WellFormed.afterChanges {state : Registry × σ} (h : state.1.WellFormed)
    (translator : Translator) (transport : Transport σ) (changes : List Change) :
    (afterChanges translator transport state changes).1.WellFormed := by
  induction changes generalizing state with
  | nil => exact h
  | cons change rest ih => exact ih (h.afterChange translator transport change)

/-- Whatever the transport does and whatever was asked of the registry before: every key is positive,
every entry carries its key, its domain, a name and the active state, no id is a key of both tables,
and the names of a domain are all different. -/
theorem tables_in_order_after_changes (translator : Translator) (transport : Transport σ) (s : σ)
    (changes : List Change) :
    let registry := (afterChanges translator transport (Registry.empty, s) changes).1
    (∀ d key entry, registry.lookup key d = some entry →
      0 < key.value ∧ entry.id = key ∧ entry.domain = d ∧ entry.name ≠ "" ∧
        entry.state = .active) ∧
    (∀ key, registry.lookup key .openToAll = none ∨ registry.lookup key .trusted = none) ∧
    (∀ d key₁ key₂ entry₁ entry₂, registry.lookup key₁ d = some entry₁ →
      registry.lookup key₂ d = some entry₂ → entry₁.name = entry₂.name → key₁ = key₂) := by
  intro registry
  have hr : registry.WellFormed := WellFormed.empty.afterChanges translator transport changes
  refine ⟨?_, ?_, ?_⟩
  · intro d key entry h
    exact ⟨hr.positive h, hr.own h⟩
  · intro key
    cases hopen : registry.lookup key .openToAll with
    | none => exact .inl rfl
    | some entry => exact .inr (hr.disjoint hopen)
  · intro d key₁ key₂ entry₁ entry₂ h₁ h₂ hname
    exact hr.names h₁ h₂ hname

end Registry
end PortMessaging
