import Mathlib.Data.Set.Card
import PortMessaging.Messenger
import PortMessaging.Proofs.RegistryCalls

/-!
# RegistryViews — all views of a registry tell the same

A registry can be asked for the port of an id in many ways: in one domain or in either, for its name or its
domain, through the registry or through the messenger in front of it, and by lists of ports and a count.  The
views read different tables in different ways, but in a registry in order (`Registry.WellFormed`) they agree:
the entry of an id is shown by all of them (`Shows`), and an id without one by none (`Hides`).  The lists of
both domains hold every shown entry once, in ascending order of the ids, and the count is that of the ids
that are shown.

As changes leave a registry in order, this is so of every registry that can be reached.
-/

namespace PortMessaging
namespace Registry

variable {σ : Type} {registry : Registry} {id : PortId} {domain : TrustDomain} {entry : PortEntry}

/-! ## One id -/

/-- Every view of the id tells of this entry, and of this domain. -/
structure Shows (registry : Registry) (id : PortId) (domain : TrustDomain) (entry : PortEntry) :
    Prop where
  own : entry.id = id ∧ entry.domain = domain
  lookup : registry.lookup id domain = some entry
  lookupOther : registry.lookup id domain.other = none
  lookupEither : registry.lookupEither id = some entry
  nameOf : registry.nameOf? id = some entry.name
  domainOf : registry.domainOf? id = some domain
  localPortName : ∀ {σ : Type} (s : σ),
    (Messenger.localPortName registry id).Ends s (.ok (.ok entry.name)) s
  isTrustedLocalPort : ∀ {σ : Type} (s : σ),
    (Messenger.isTrustedLocalPort registry id).Ends s (.ok (.ok domain.isTrusted)) s

/-- What a messenger answers about an id without a port. -/
def absence (id : PortId) : PortError :=
  if 0 < id.value then .portNotFound (.inEither id) else .invalidParameter (.portIdNotPositive id)

/-- No view of the id tells of a port. -/
structure Hides (registry : Registry) (id : PortId) : Prop where
  lookup : ∀ d, registry.lookup id d = none
  lookupEither : registry.lookupEither id = none
  nameOf : registry.nameOf? id = none
  domainOf : registry.domainOf? id = none
  localPortName : ∀ {σ : Type} (s : σ),
    (Messenger.localPortName registry id).Ends s (.ok (.error (absence id))) s
  isTrustedLocalPort : ∀ {σ : Type} (s : σ),
    (Messenger.isTrustedLocalPort registry id).Ends s (.ok (.error (absence id))) s

/-- What a messenger answers when the registry shows this of an id. -/
def answerFor {α : Type} (id : PortId) : Option α → Except PortError α
  | some a => if 0 < id.value then .ok a else .error (absence id)
  | none => .error (absence id)

theorem answerFor_some {α : Type} (h : 0 < id.value) (a : α) : answerFor id (some a) = .ok a :=
  if_pos h

/-- The answer of a view that is asked after the id was checked. -/
theorem validated_ends {α : Type} {view : Effect σ (Except PortError α)} {seen : Option α} {s : σ}
    (hview : 0 < id.value → view.Ends s (.ok (answerFor id seen)) s) :
    (Messenger.validateId id >>= fun
      | .error e => pure (.error e)
      | .ok () => view).Ends s (.ok (answerFor id seen)) s := by
  unfold Messenger.validateId
  by_cases hpositive : 0 < id.value
  · have hvalid : id.isValid = true := by simpa [PortId.isValid] using hpositive
    rw [if_pos hvalid]
    exact Effect.ends_bind ⟨rfl, rfl⟩ (hview hpositive)
  · have hvalid : ¬ id.isValid = true := by simpa [PortId.isValid] using hpositive
    have hanswer : answerFor id seen = .error (.invalidParameter (.portIdNotPositive id)) := by
      cases seen <;> simp [answerFor, absence, hpositive]
    rw [if_neg hvalid, hanswer]
    exact ⟨rfl, rfl⟩

theorem localPortName_ends (registry : Registry) (id : PortId) (s : σ) :
    (Messenger.localPortName registry id).Ends s (.ok (answerFor id (registry.nameOf? id))) s := by
  refine validated_ends fun hpositive => ?_
  cases registry.nameOf? id with
  | some name => exact ⟨by rw [answerFor_some hpositive]; rfl, rfl⟩
  | none => exact ⟨by rw [answerFor, absence, if_pos hpositive]; rfl, rfl⟩

theorem isTrustedLocalPort_ends (registry : Registry) (id : PortId) (s : σ) :
    (Messenger.isTrustedLocalPort registry id).Ends s
      (.ok (answerFor id ((registry.domainOf? id).map (·.isTrusted)))) s := by
  refine validated_ends fun hpositive => ?_
  cases registry.domainOf? id with
  | some domain => exact ⟨by rw [Option.map_some, answerFor_some hpositive]; rfl, rfl⟩
  | none => exact ⟨by rw [Option.map_none, answerFor, absence, if_pos hpositive]; rfl, rfl⟩

theorem WellFormed.shows_of_lookup (hr : registry.WellFormed)
    (h : registry.lookup id domain = some entry) : registry.Shows id domain entry := by
  have hother : registry.lookup id domain.other = none := hr.disjoint h
  have hown := hr.own h
  have heither : registry.lookupEither id = some entry := by
    unfold Registry.lookupEither
    cases domain with
    | openToAll => rw [h, Option.some_or]
    | trusted =>
      have hopen : registry.lookup id .openToAll = none := hother
      rw [hopen, h, Option.none_or]
  have hname : registry.nameOf? id = some entry.name := by
    unfold nameOf?
    rw [heither, Option.map_some]
  have hdomain : registry.domainOf? id = some domain := by
    unfold domainOf?
    rw [heither, Option.map_some, hown.2.1]
  refine ⟨⟨hown.1, hown.2.1⟩, h, hother, heither, hname, hdomain, fun s => ?_, fun s => ?_⟩
  · have hends := localPortName_ends registry id s
    rwa [hname, answerFor_some (hr.positive h)] at hends
  · have hends := isTrustedLocalPort_ends registry id s
    rwa [hdomain, Option.map_some, answerFor_some (hr.positive h)] at hends

theorem hides_of_lookup (h : ∀ d, registry.lookup id d = none) : registry.Hides id := by
  have heither : registry.lookupEither id = none := by
    unfold lookupEither
    rw [h, h, Option.none_or]
  have hname : registry.nameOf? id = none := by
    unfold nameOf?
    rw [heither, Option.map_none]
  have hdomain : registry.domainOf? id = none := by
    unfold domainOf?
    rw [heither, Option.map_none]
  refine ⟨h, heither, hname, hdomain, fun s => ?_, fun s => ?_⟩
  · have hends := localPortName_ends registry id s
    rwa [hname] at hends
  · have hends := isTrustedLocalPort_ends registry id s
    rwa [hdomain] at hends

/-! ## Lists and counts -/

theorem value_lt_of_compare {a b : PortId} (h : compare a b = .lt) : a.value < b.value := by
  rw [PortId.compare_def] at h
  exact compareOfLessAndEq_eq_lt.1 h

theorem length_activePorts (registry : Registry) (domain : TrustDomain) :
    (registry.activePorts domain).length = (registry.table domain).size := by
  unfold activePorts SortedMap.values SortedMap.size
  rw [List.length_map]

namespace WellFormed

theorem mem_activePorts_iff (hr : registry.WellFormed) :
    entry ∈ registry.activePorts domain ↔ registry.lookup entry.id domain = some entry := by
  unfold activePorts
  rw [SortedMap.mem_values_iff]
  constructor
  · rintro ⟨key, hkey⟩
    have hlookup : registry.lookup key domain = some entry := hkey
    rw [(hr.own hlookup).1]
    exact hlookup
  · intro h
    exact ⟨entry.id, h⟩

/-- The entries of a table come in the order of its keys, and each carries its key. -/
theorem ascending_activePorts (hr : registry.WellFormed) (domain : TrustDomain) :
    (registry.activePorts domain).Pairwise fun a b => a.id.value < b.id.value := by
  have hid : ∀ e ∈ (registry.table domain).entries, e.2.id = e.1 := fun e he =>
    (hr.own (SortedMap.get?_eq_some_iff.2 he : registry.lookup e.1 domain = some e.2)).1
  refine List.pairwise_map.2 ((registry.table domain).ascending.imp_of_mem fun {a b} ha hb hlt => ?_)
  rw [hid a ha, hid b hb]
  exact value_lt_of_compare hlt

theorem activeCount_eq_ncard (hr : registry.WellFormed) :
    registry.activeCount = {id | (registry.lookupEither id).isSome}.ncard := by
  let ids := registry.openPorts.keys ++ registry.trustedPorts.keys
  have hmem : ∀ id, id ∈ ids ↔ (registry.lookupEither id).isSome := by
    intro id
    rw [List.mem_append, SortedMap.mem_keys_iff, SortedMap.mem_keys_iff, lookupEither, Option.isSome_or,
      Bool.or_eq_true]
    rfl
  have hnodup : ids.Nodup := by
    refine List.nodup_append.2 ⟨registry.openPorts.nodup_keys, registry.trustedPorts.nodup_keys, ?_⟩
    rintro id hopen _ htrusted rfl
    -- An id of the open table is none of the trusted one.
    obtain ⟨entry, hentry⟩ := Option.isSome_iff_exists.1 (SortedMap.mem_keys_iff.1 hopen)
    have hlookup : registry.lookup id .openToAll = some entry := hentry
    have hnone : registry.trustedPorts.get? id = none := hr.disjoint hlookup
    have hsome := SortedMap.mem_keys_iff.1 htrusted
    rw [hnone] at hsome
    cases hsome
  have hset : {id | (registry.lookupEither id).isSome} = (ids.toFinset : Set PortId) := by
    ext id
    simp [hmem]
  have hlength : ids.length = registry.activeCount := by
    simp [ids, activeCount, SortedMap.keys, SortedMap.size]
  rw [hset, Set.ncard_coe_finset, List.toFinset_card_of_nodup hnodup, hlength]

end WellFormed

/-! ## Registries that can be reached -/

/-- All views of a registry tell the same. -/
structure Consistent (registry : Registry) : Prop where
  /-- A port of one domain is shown by every view, and is none of the other domain. -/
  shows : ∀ id domain entry, registry.lookup id domain = some entry → registry.Shows id domain entry
  hides : ∀ id, (∀ d, registry.lookup id d = none) → registry.Hides id
  /-- Only positive ids have ports. -/
  hidesNonPositive : ∀ id : PortId, ¬ 0 < id.value → registry.Hides id
  listed : ∀ domain entry,
    entry ∈ registry.activePorts domain ↔ registry.lookup entry.id domain = some entry
  ascending : ∀ domain, (registry.activePorts domain).Pairwise fun a b => a.id.value < b.id.value
  countOfLists : registry.activeCount =
    (registry.activePorts .openToAll).length + (registry.activePorts .trusted).length
  countOfIds : registry.activeCount = {id | (registry.lookupEither id).isSome}.ncard

theorem WellFormed.consistent (hr : registry.WellFormed) : registry.Consistent where
  shows _ _ _ h := hr.shows_of_lookup h
  hides _ h := hides_of_lookup h
  hidesNonPositive id hid := by
    refine hides_of_lookup fun d => ?_
    cases hlookup : registry.lookup id d with
    | none => rfl
    | some entry => exact absurd (hr.positive hlookup) hid
  listed _ _ := hr.mem_activePorts_iff
  ascending domain := hr.ascending_activePorts domain
  countOfLists := by
    rw [length_activePorts, length_activePorts]
    rfl
  countOfIds := hr.activeCount_eq_ncard

/-- Whatever the transport answered to whatever changes were asked for, and whoever else changed its state
in between, all views of the registry tell the same. -/
theorem views_agree_of_reachable {translator : Translator} {transport : Transport σ}
    (h : Reachable translator transport registry) : registry.Consistent :=
  h.wellFormed.consistent

/-- A port of each domain, where the trusted one came later and has the smaller id. -/
theorem views_agree_of_trustedThree :
    let registry := seven.add ⟨3⟩ "b" .trusted (.oneWay 1)
    Reachable ⟨false⟩ handingOut registry ∧
      registry.Shows ⟨3⟩ .trusted ⟨⟨3⟩, "b", .trusted, .oneWay 1, .active⟩ ∧
      registry.Hides ⟨-3⟩ ∧ {id | (registry.lookupEither id).isSome}.ncard = 2 := by
  intro registry
  have hreach : Reachable ⟨false⟩ handingOut registry :=
    .change reachable_handingOut_seven ⟨3⟩ (.register "b" .trusted (some (.oneWay 1)))
  have hviews : registry.Consistent := views_agree_of_reachable hreach
  exact ⟨hreach, hviews.shows _ _ _ rfl, hviews.hidesNonPositive _ (by decide),
    hviews.countOfIds.symm.trans rfl⟩

end Registry
end PortMessaging
