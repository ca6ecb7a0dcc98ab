import Mathlib.Algebra.Group.Nat.Defs
import PortMessaging.Proofs.LoopbackService

/-!
# LoopbackIds — the ids of a loopback service

A loopback service takes its ids from one counter.  `Service.Minted` keeps account of the key
(application, domain, name) for which every id was minted: the first id for the first key of the
account, and so on.  An id that is bound is bound under the key for which it was minted, so an id never
passes from one key to another, and no two bindings share an id.  The account grows with every fresh
binding, and it is right as long as the counter has not run over.
-/

namespace PortMessaging
namespace Loopback

/-- What an id is minted for. -/
structure PortKey where
  app : String
  domain : TrustDomain
  name : String
  deriving DecidableEq

/-- The key for which an id was minted, by an account of all keys so far. -/
def keyOf? (minted : List PortKey) (id : PortId) : Option PortKey :=
  if 0 < id.value then minted[(id.value.toInt - 1).toNat]? else none

theorem positive_of_keyOf? {minted : List PortKey} {id : PortId} {key : PortKey}
    (h : keyOf? minted id = some key) : 0 < id.value := by
  unfold keyOf? at h
  split at h
  · assumption
  · cases h

theorem le_of_keyOf? {minted : List PortKey} {id : PortId} {key : PortKey}
    (h : keyOf? minted id = some key) : id.value.toInt ≤ minted.length := by
  have hpos : (0 : Int32).toInt < id.value.toInt := Int32.lt_iff_toInt_lt.1 (positive_of_keyOf? h)
  unfold keyOf? at h
  rw [if_pos (positive_of_keyOf? h)] at h
  have hlt : (id.value.toInt - 1).toNat < minted.length := by
    rcases List.getElem?_eq_some_iff.1 h with ⟨hlt, -⟩
    exact hlt
  have hzero : (0 : Int32).toInt = 0 := rfl
  omega

theorem keyOf?_append {minted : List PortKey} {id : PortId} {key : PortKey}
    (h : keyOf? minted id = some key) (more : List PortKey) :
    keyOf? (minted ++ more) id = some key := by
  have hpos := positive_of_keyOf? h
  unfold keyOf? at h ⊢
  rw [if_pos hpos] at h ⊢
  rcases List.getElem?_eq_some_iff.1 h with ⟨hlt, -⟩
  rw [List.getElem?_append_left hlt]
  exact h

/-- The counter moves by one as long as there is room above it. -/
theorem toInt_add_one {n : Int32} {k : Nat} (hn : n.toInt = k) (hk : k + 1 < 2 ^ 31) :
    (n + 1).toInt = k + 1 := by
  rw [Int32.toInt_add, hn]
  show ((k : Int) + 1).bmod (2 ^ 32) = k + 1
  -- The sum stays in the range of the counter, so it does not wrap.
  rw [Int.bmod_eq_of_le] <;> omega

theorem add_one_ne (n : Int32) : n + 1 ≠ n := by
  intro heq
  have hsub : n + 1 - n = n - n := by rw [heq]
  rw [Int32.add_comm, Int32.add_sub_cancel, Int32.sub_self] at hsub
  exact absurd hsub (by decide)

theorem keyOf?_fresh {minted : List PortKey} {n : Int32} (hn : n.toInt = minted.length)
    (hroom : minted.length + 1 < 2 ^ 31) (key : PortKey) :
    keyOf? (minted ++ [key]) ⟨n + 1⟩ = some key := by
  have hint : (n + 1).toInt = minted.length + 1 := toInt_add_one hn hroom
  have hpos : (0 : Int32) < n + 1 := by
    rw [Int32.lt_iff_toInt_lt, hint]
    show (0 : Int) < _
    omega
  have hindex : ((n + 1).toInt - 1).toNat = minted.length := by omega
  unfold keyOf?
  rw [if_pos hpos, hindex]
  exact List.getElem?_concat_length

namespace Service

variable {S : Type} {service : Service S} {app : String} {domain : TrustDomain} {name : String}
  {id : PortId} {record : AppRecord S}

/-! ## The bindings of a service -/

/-- All bindings of all applications. -/
def ports (service : Service S) : List (PortKey × PortId) :=
  service.apps.entries.flatMap fun (app, record) =>
    record.bindings.map fun b => (⟨app, b.domain, b.name⟩, b.id)

/-- The id to which a key is bound. -/
def idAt? (service : Service S) (key : PortKey) : Option PortId :=
  service.boundId? key.app key.domain key.name

theorem mem_ports_iff {key : PortKey} {id : PortId} :
    (key, id) ∈ service.ports ↔ ∃ record, service.apps.get? key.app = some record ∧
      ⟨key.domain, key.name, id⟩ ∈ record.bindings := by
  simp only [ports, List.mem_flatMap, List.mem_map]
  constructor
  · rintro ⟨⟨app, record⟩, hentry, b, hb, heq⟩
    cases heq
    exact ⟨record, SortedMap.get?_eq_some_iff.2 hentry, hb⟩
  · rintro ⟨record, hrecord, hb⟩
    exact ⟨(key.app, record), SortedMap.get?_eq_some_iff.1 hrecord, _, hb, rfl⟩

/-- Every application that is known later has bindings then that it had before. -/
def Fewer (service service' : Service S) : Prop :=
  ∀ app record', service'.apps.get? app = some record' → record'.bindings = [] ∨
    ∃ record, service.apps.get? app = some record ∧ record'.bindings.Sublist record.bindings

theorem Fewer.refl (service : Service S) : Fewer service service :=
  fun _ record hrecord => .inr ⟨record, hrecord, .refl _⟩

theorem Fewer.mem_ports {service' : Service S} (h : Fewer service service')
    {port : PortKey × PortId} (hport : port ∈ service'.ports) : port ∈ service.ports := by
  rcases mem_ports_iff.1 hport with ⟨record', hrecord', hb⟩
  rcases h port.1.app record' hrecord' with hnil | ⟨record, hrecord, hsub⟩
  · simp [hnil] at hb
  · exact mem_ports_iff.2 ⟨record, hrecord, hsub.subset hb⟩

theorem fewer_connect (service : Service S) (app certificate : String) :
    Fewer service (service.connect app certificate) := by
  intro other record' hrecord'
  rw [get?_connect] at hrecord'
  split at hrecord'
  next heq =>
    subst heq
    cases hrecord : service.apps.get? other with
    | none =>
      simp only [hrecord, Option.some.injEq] at hrecord'
      rw [← hrecord']
      exact .inl rfl
    | some record =>
      simp only [hrecord, Option.some.injEq] at hrecord'
      rw [← hrecord']
      exact .inr ⟨record, rfl, .refl _⟩
  next => exact .inr ⟨record', hrecord', .refl _⟩

theorem fewer_attach (service : Service S) (app : String) (sink : S) :
    Fewer service (service.attach app sink) := by
  intro other record' hrecord'
  rw [get?_attach] at hrecord'
  split at hrecord'
  next heq =>
    subst heq
    rcases Option.map_eq_some_iff.1 hrecord' with ⟨record, hrecord, rfl⟩
    exact .inr ⟨record, hrecord, .refl _⟩
  next => exact .inr ⟨record', hrecord', .refl _⟩

theorem fewer_unbind (service : Service S) (app : String) (id : PortId) :
    Fewer service (service.unbind app id).2 := by
  rcases unbind_cases service app id with
    ⟨-, hrun⟩ | ⟨record, -, -, hrun⟩ | ⟨record, b, hrecord, -, -, hrun⟩
  · rw [hrun]
    exact .refl service
  · rw [hrun]
    exact .refl service
  · rw [hrun]
    intro other record' hrecord'
    rw [get?_without] at hrecord'
    split at hrecord'
    next hother =>
      cases hrecord'
      exact .inr ⟨record, hother ▸ hrecord, List.filter_sublist⟩
    next => exact .inr ⟨record', hrecord', .refl _⟩

/-- The only binding that a request to bind can add has the next id. -/
theorem mem_ports_bind {port : PortKey × PortId}
    (hport : port ∈ (service.bind app name domain).2.ports) :
    port ∈ service.ports ∨ port.2 = ⟨service.lastId + 1⟩ ∧
      (service.bind app name domain).2.lastId = service.lastId + 1 := by
  rcases bind_cases service app name domain with
    ⟨-, hrun⟩ | ⟨id, -, hrun⟩ | ⟨record, hrecord, -, hrun⟩
  · rw [hrun] at hport
    exact .inl hport
  · rw [hrun] at hport
    exact .inl hport
  · rw [hrun] at hport ⊢
    rcases mem_ports_iff.1 hport with ⟨record', hrecord', hb⟩
    rw [get?_withFresh] at hrecord'
    split at hrecord'
    next happ =>
      cases hrecord'
      -- The fresh binding comes last; what stands before it was there.
      rcases List.mem_append.1 hb with hold | hnew
      · exact .inl (mem_ports_iff.2 ⟨record, happ ▸ hrecord, hold⟩)
      · exact .inr ⟨congrArg Binding.id (List.mem_singleton.1 hnew), rfl⟩
    next => exact .inl (mem_ports_iff.2 ⟨record', hrecord', hb⟩)

/-! ## The account of minted ids -/

/-- The counter and the bindings of a service agree with an account of the keys for which its ids were
minted. -/
structure Minted (minted : List PortKey) (service : Service S) : Prop where
  counter : service.lastId.toInt = minted.length
  keys : ∀ {app record}, service.apps.get? app = some record →
    ∀ b ∈ record.bindings, keyOf? minted b.id = some ⟨app, b.domain, b.name⟩
  names : ∀ {app record}, service.apps.get? app = some record → record.NamesOnce

namespace Minted

variable {minted : List PortKey}

theorem empty (maxPayloadBytes : Nat) : Minted [] (Service.empty maxPayloadBytes : Service S) where
  counter := rfl
  keys h := by cases h
  names h := by cases h

/-- The id of a bound name was minted for that name. -/
theorem key_of_boundId? (h : Minted minted service)
    (hbound : service.boundId? app domain name = some id) :
    keyOf? minted id = some ⟨app, domain, name⟩ := by
  rcases Option.bind_eq_some_iff.1 hbound with ⟨record, hrecord, hid⟩
  have hmem : ⟨domain, name, id⟩ ∈ record.bindings := AppRecord.mem_of_idOf? hid
  exact h.keys hrecord ⟨domain, name, id⟩ hmem

/-- The binding of a reply port is what its name is bound to. -/
theorem boundId?_of_replyBinding (h : Minted minted service) {binding : Binding}
    (hreply : service.replyBinding app id = .ok binding) :
    service.boundId? app binding.domain binding.name = some id := by
  cases hrecord : service.apps.get? app with
  | none => simp [replyBinding, hrecord] at hreply
  | some record =>
    cases hfound : record.bindingOf? id with
    | none => simp [replyBinding, hrecord, hfound] at hreply
    | some found =>
      simp only [replyBinding, hrecord, hfound, Except.ok.injEq] at hreply
      subst hreply
      have hid : found.id = id := by simpa using List.find?_some hfound
      subst hid
      calc
        service.boundId? app found.domain found.name
            = record.idOf? found.domain found.name := boundId?_of_get? hrecord _ _
        _ = some found.id := (AppRecord.idOf?_eq_some_iff (h.names hrecord)).2
            (List.mem_of_find?_eq_some hfound)

/-- An account holds as long as the counter stays and bindings only go. -/
theorem of_fewer (h : Minted minted service) {service' : Service S}
    (hcounter : service'.lastId = service.lastId) (hfewer : Fewer service service') :
    Minted minted service' := by
  refine ⟨by rw [hcounter]; exact h.counter, ?_, ?_⟩
  · intro app record' hrecord' b hb
    rcases hfewer app record' hrecord' with hnil | ⟨record, hrecord, hsub⟩
    · rw [hnil] at hb
      cases hb
    · exact h.keys hrecord b (hsub.subset hb)
  · intro app record' hrecord'
    rcases hfewer app record' hrecord' with hnil | ⟨record, hrecord, hsub⟩
    · unfold AppRecord.NamesOnce
      rw [hnil]
      exact .nil
    · exact (h.names hrecord).sublist hsub

theorem connect (h : Minted minted service) (app certificate : String) :
    Minted minted (service.connect app certificate) := by
  refine h.of_fewer ?_ (service.fewer_connect app certificate)
  unfold Service.connect
  cases service.apps.get? app <;> rfl

theorem attach (h : Minted minted service) (app : String) (sink : S) :
    Minted minted (service.attach app sink) :=
  h.of_fewer rfl (service.fewer_attach app sink)

theorem unbind (h : Minted minted service) (app : String) (id : PortId) :
    Minted minted (service.unbind app id).2 :=
  h.of_fewer (service.lastId_unbind app id) (service.fewer_unbind app id)

/-- A fresh binding adds its key to the account, if there is room above the counter. -/
theorem withFresh (h : Minted minted service) (hrecord : service.apps.get? app = some record)
    (hfree : record.idOf? domain name = none) (hroom : minted.length + 1 < 2 ^ 31) :
    Minted (minted ++ [⟨app, domain, name⟩]) (service.withFresh app record domain name) := by
  have hfresh := keyOf?_fresh h.counter hroom ⟨app, domain, name⟩
  refine ⟨?_, ?_, ?_⟩
  · show (service.lastId + 1).toInt = _
    rw [toInt_add_one h.counter hroom, List.length_append, List.length_singleton, Int.natCast_add]
    rfl
  · -- The new binding has the new key; the others keep theirs in the longer account.
    intro other record' hrecord' b hb
    rw [get?_withFresh] at hrecord'
    split at hrecord'
    next hother =>
      cases hrecord'
      subst hother
      rcases List.mem_append.1 hb with hold | hnew
      · exact keyOf?_append (h.keys hrecord b hold) _
      · rw [List.mem_singleton.1 hnew]
        exact hfresh
    next => exact keyOf?_append (h.keys hrecord' b hb) _
  · intro other record' hrecord'
    rw [get?_withFresh] at hrecord'
    split at hrecord'
    next hother =>
      cases hrecord'
      -- The name was free, so it is bound once now.
      refine List.pairwise_append.2 ⟨h.names hrecord, List.pairwise_singleton _ _, ?_⟩
      intro b hb c hc
      rw [List.mem_singleton.1 hc]
      exact AppRecord.name_free hfree b hb
    next => exact h.names hrecord'

/-- A request to bind adds at most one key to the account, namely if the counter goes on, and the id
that it answers was minted for the key that was asked for. -/
theorem bind (h : Minted minted service) (app name : String) (domain : TrustDomain) :
    ∃ more : List PortKey,
      more.length = (if (service.bind app name domain).2.lastId = service.lastId then 0 else 1) ∧
      (minted.length + more.length < 2 ^ 31 →
        Minted (minted ++ more) (service.bind app name domain).2 ∧
        ∀ outcome, (service.bind app name domain).1 = .ok outcome →
          keyOf? (minted ++ more) outcome.id = some ⟨app, domain, name⟩) := by
  rcases bind_cases service app name domain with
    ⟨-, hrun⟩ | ⟨id, hbound, hrun⟩ | ⟨record, hrecord, hfree, hrun⟩
  · rw [hrun]
    refine ⟨[], (if_pos rfl).symm, fun _ => ?_⟩
    rw [List.append_nil]
    exact ⟨h, fun outcome houtcome => by cases houtcome⟩
  · rw [hrun]
    refine ⟨[], (if_pos rfl).symm, fun _ => ?_⟩
    rw [List.append_nil]
    refine ⟨h, fun outcome houtcome => ?_⟩
    cases houtcome
    -- The id that the name has already was minted for it.
    exact h.key_of_boundId? hbound
  · rw [hrun]
    refine ⟨[⟨app, domain, name⟩], (if_neg (add_one_ne _)).symm, fun hroom => ?_⟩
    refine ⟨h.withFresh hrecord hfree hroom, fun outcome houtcome => ?_⟩
    cases houtcome
    exact keyOf?_fresh h.counter hroom _

/-- The next id was never minted before. -/
theorem keyOf?_next (h : Minted minted service) (hroom : minted.length + 1 < 2 ^ 31) :
    keyOf? minted ⟨service.lastId + 1⟩ = none := by
  cases hkey : keyOf? minted ⟨service.lastId + 1⟩ with
  | none => rfl
  | some key =>
    -- An account reaches as far as the counter, and the next id is beyond.
    have hle : (service.lastId + 1).toInt ≤ minted.length := le_of_keyOf? hkey
    rw [toInt_add_one h.counter hroom] at hle
    omega

/-- The bindings of an application have ids of their own. -/
theorem ids_distinct (h : Minted minted service) (hrecord : service.apps.get? app = some record) :
    (record.bindings.map (·.id)).Nodup := by
  have hkeys : ∀ b ∈ record.bindings, keyOf? minted b.id = some ⟨app, b.domain, b.name⟩ :=
    h.keys hrecord
  refine List.pairwise_map.2 ((h.names hrecord).imp_of_mem ?_)
  intro b c hb hc hname hid
  -- Two bindings of one id would have one key, and so one name.
  have hkey : some (PortKey.mk app b.domain b.name) = some ⟨app, c.domain, c.name⟩ := by
    rw [← hkeys b hb, ← hkeys c hc, hid]
  simp only [Option.some.injEq, PortKey.mk.injEq] at hkey
  exact hname hkey.2

/-- As names are bound once, the bindings are what the search for a name finds. -/
theorem mem_ports_iff (h : Minted minted service) {key : PortKey} {id : PortId} :
    (key, id) ∈ service.ports ↔ service.idAt? key = some id := by
  unfold idAt? boundId?
  simp only [Service.mem_ports_iff, Option.bind_eq_some_iff]
  constructor
  · rintro ⟨record, hrecord, hb⟩
    exact ⟨record, hrecord, (AppRecord.idOf?_eq_some_iff (h.names hrecord)).2 hb⟩
  · rintro ⟨record, hrecord, hid⟩
    exact ⟨record, hrecord, AppRecord.mem_of_idOf? hid⟩

theorem key_of_idAt? (h : Minted minted service) {key : PortKey} {id : PortId}
    (hbound : service.idAt? key = some id) : keyOf? minted id = some key :=
  h.key_of_boundId? hbound

/-- To release an id takes away the one binding that has it. -/
theorem idAt?_without (h : Minted minted service) {app : String} {record : AppRecord S} {b : Binding}
    (hrecord : service.apps.get? app = some record) (hb : b ∈ record.bindings) (key : PortKey) :
    (service.without app record b.id).idAt? key = (service.idAt? key).filter (· != b.id) := by
  unfold idAt?
  simp only [boundId?_without hrecord (h.names hrecord)]
  split
  next => rfl
  next hother =>
    cases hid : service.boundId? key.app key.domain key.name with
    | none => rfl
    | some id =>
      -- The id was minted for a key of another application, so it is not the one released.
      have hne : id ≠ b.id := by
        rintro rfl
        have hkeys := (h.key_of_boundId? hid).symm.trans (h.keys hrecord b hb)
        exact hother (congrArg PortKey.app (Option.some.inj hkeys))
      exact (Option.filter_some_pos (by simpa using hne)).symm

/-- No two bindings of a service share an id, whichever applications they belong to. -/
theorem ports_distinct (h : Minted minted service) : (service.ports.map (·.2)).Nodup := by
  refine List.pairwise_map.2 (List.pairwise_flatMap.2 ⟨?_, ?_⟩)
  · rintro ⟨app, record⟩ hentry
    have hids := h.ids_distinct (SortedMap.get?_eq_some_iff.2 hentry)
    exact List.pairwise_map.2 (List.pairwise_map.1 hids)
  · refine service.apps.ascending.imp_of_mem ?_
    rintro ⟨app₁, record₁⟩ ⟨app₂, record₂⟩ hentry₁ hentry₂ hlt port₁ hport₁ port₂ hport₂ hid
    rcases List.mem_map.1 hport₁ with ⟨b₁, hb₁, rfl⟩
    rcases List.mem_map.1 hport₂ with ⟨b₂, hb₂, rfl⟩
    have hkey₁ := h.keys (SortedMap.get?_eq_some_iff.2 hentry₁) b₁ hb₁
    have hkey₂ := h.keys (SortedMap.get?_eq_some_iff.2 hentry₂) b₂ hb₂
    -- One id would have been minted for both applications.
    have happ : app₁ = app₂ := by
      have hkeys : some (PortKey.mk app₁ b₁.domain b₁.name) = some ⟨app₂, b₂.domain, b₂.name⟩ := by
        calc
          some (PortKey.mk app₁ b₁.domain b₁.name) = keyOf? minted b₁.id := hkey₁.symm
          _ = keyOf? minted b₂.id := congrArg _ hid
          _ = some ⟨app₂, b₂.domain, b₂.name⟩ := hkey₂
      exact congrArg PortKey.app (Option.some.inj hkeys)
    subst happ
    simp at hlt

end Minted

end Service
end Loopback
end PortMessaging
