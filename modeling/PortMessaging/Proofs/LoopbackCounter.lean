import PortMessaging.Proofs.LoopbackRuns

/-!
# LoopbackCounter — how far the counter of a loopback service reaches

The ids of a service come from a counter of 32 bits with a sign, and nothing stops it: it goes on with every
fresh binding, released ones included, and runs over in the end.  `LoopbackIds` and `LoopbackRuns` look at
the runs for which there is room.  This module looks at all of them.

The counter and the bound ids are told by the number of fresh bindings so far (`Service.CountedTo`), over
every run (`Host.Trace.countedTo`).  So it can be said of each fresh id whether the addition that makes it
runs over, whether it is positive and whether another binding may hold it (`Host.fresh_id_over_traces`).  One
name that is bound and released over and over again reaches the end of the counter
(`Host.fresh_ids_run_over`).
-/

namespace PortMessaging
namespace Loopback

/-! ## Numbers of 32 bits -/

/-- A number is kept up to multiples of 2^32, within the range of the counter. -/
theorem toInt_ofNat_cases (n : Nat) :
    ∃ turns : Int, (Int32.ofNat n).toInt = n - 4294967296 * turns ∧
      -2147483648 ≤ (Int32.ofNat n).toInt ∧ (Int32.ofNat n).toInt < 2147483648 := by
  have hbmod : (Int32.ofNat n).toInt = (n : Int).bmod 4294967296 := Int32.toInt_ofNat'
  have hle : -2147483648 ≤ (Int32.ofNat n).toInt := Int32.le_toInt _
  have hlt : (Int32.ofNat n).toInt < 2147483648 := Int32.toInt_lt _
  rw [Int.bmod_def] at hbmod
  refine ⟨((n : Int) - (Int32.ofNat n).toInt) / 4294967296, ?_, hle, hlt⟩
  split at hbmod <;> omega

theorem ofNat_eq_iff {m n : Nat} : Int32.ofNat m = Int32.ofNat n ↔ m % 2 ^ 32 = n % 2 ^ 32 := by
  obtain ⟨turns, hm, hmLow, hmHigh⟩ := toInt_ofNat_cases m
  obtain ⟨turns', hn, hnLow, hnHigh⟩ := toInt_ofNat_cases n
  rw [← Int32.toInt_inj]
  omega

theorem positive_ofNat_iff {n : Nat} :
    0 < Int32.ofNat n ↔ 0 < n % 2 ^ 32 ∧ n % 2 ^ 32 < 2 ^ 31 := by
  obtain ⟨turns, hn, hlow, hhigh⟩ := toInt_ofNat_cases n
  have hzero : (0 : Int32).toInt = 0 := rfl
  rw [Int32.lt_iff_toInt_lt, hzero]
  omega

/-- To add one runs over just at the largest number. -/
theorem toInt_succ_iff {n : Nat} :
    (Int32.ofNat n + 1).toInt = (Int32.ofNat n).toInt + 1 ↔ n % 2 ^ 32 ≠ 2 ^ 31 - 1 := by
  have hsucc : Int32.ofNat n + 1 = Int32.ofNat (n + 1) := (Int32.ofNat_add n 1).symm
  obtain ⟨turns, hn, hlow, hhigh⟩ := toInt_ofNat_cases n
  obtain ⟨turns', hn', hlow', hhigh'⟩ := toInt_ofNat_cases (n + 1)
  rw [hsucc]
  omega

/-! ## The count of a service -/

namespace Service

variable {S : Type} {service service' : Service S} {n : Nat}

/-- The counter has gone on `n` times, and the bound ids are among those that it has handed out. -/
structure CountedTo (n : Nat) (service : Service S) : Prop where
  counter : service.lastId = Int32.ofNat n
  handedOut : ∀ port ∈ service.ports, ∃ k, 0 < k ∧ k ≤ n ∧ port.2 = ⟨Int32.ofNat k⟩

namespace CountedTo

theorem empty (maxPayloadBytes : Nat) : CountedTo 0 (Service.empty maxPayloadBytes : Service S) where
  counter := rfl
  handedOut port hport := by cases hport

theorem of_fewer (h : CountedTo n service) (hcounter : service'.lastId = service.lastId)
    (hfewer : Fewer service service') : CountedTo n service' where
  counter := hcounter.trans h.counter
  handedOut port hport := h.handedOut port (hfewer.mem_ports hport)

theorem bind (h : CountedTo n service) (app name : String) (domain : TrustDomain) :
    CountedTo (n + createdCount [.bound ⟨app, domain, name⟩ (service.bind app name domain).1])
      (service.bind app name domain).2 := by
  have hports : ∀ port ∈ (service.bind app name domain).2.ports, port ∈ service.ports ∨
      port.2 = ⟨service.lastId + 1⟩ ∧ (service.bind app name domain).2.lastId = service.lastId + 1 :=
    fun port hport => mem_ports_bind hport
  rcases bind_cases service app name domain with
    ⟨-, hrun⟩ | ⟨id, -, hrun⟩ | ⟨record, -, -, hrun⟩
  · rw [hrun]
    exact h
  · rw [hrun]
    exact h
  · rw [hrun] at hports ⊢
    have hnext : service.lastId + 1 = Int32.ofNat (n + 1) := by
      rw [h.counter, Int32.ofNat_add]
      rfl
    refine ⟨hnext, fun port hport => ?_⟩
    rcases hports port hport with hold | ⟨hnew, -⟩
    · obtain ⟨k, hpos, hle, hid⟩ := h.handedOut port hold
      exact ⟨k, hpos, Nat.le_succ_of_le hle, hid⟩
    · exact ⟨n + 1, Nat.succ_pos n, Nat.le_refl _, by rw [hnew, hnext]⟩

end CountedTo
end Service

namespace Host

variable {ω S : Type} {host : Host ω S} {w w' : ω} {events : List Event}

/-- Every run of any number of applications moves the counter on by the number of fresh bindings in it. -/
theorem Trace.countedTo (hpart : host.service.Lawful) (htrace : Trace host w events w') :
    ∀ {n : Nat}, (host.service.get w).CountedTo n →
      (host.service.get w').CountedTo (n + createdCount events) := by
  induction htrace with
  | refl w =>
    intro n h
    exact h
  | trans first rest ihFirst ihRest =>
    intro n h
    rw [createdCount_append, ← Nat.add_assoc]
    exact ihRest (ihFirst h)
  | elsewhere hsame =>
    intro n h
    rw [hsame]
    exact h
  | connect w app certificate =>
    intro n h
    rw [state_connect, get_update hpart]
    refine h.of_fewer ?_ (Service.fewer_connect _ app certificate)
    unfold Service.connect
    cases (host.service.get w).apps.get? app <;> rfl
  | attach w app sink =>
    intro n h
    unfold Host.attach
    rw [get_update hpart]
    exact h.of_fewer rfl (Service.fewer_attach _ app sink)
  | @bind w w' app name domain answer hends =>
    intro n h
    have hanswer : ((host.service.get w).bind app name domain).1 = answer :=
      Except.ok.inj hends.result
    cases hends.state
    subst hanswer
    simpa only [Host.endpoint, get_update hpart] using h.bind app name domain
  | @unbind w w' app id answer hends =>
    intro n h
    cases hends.state
    have hafter := h.of_fewer (Service.lastId_unbind _ app id) (Service.fewer_unbind _ app id)
    show Service.CountedTo n _
    simpa only [Host.endpoint, get_update hpart] using hafter
  | check hends =>
    intro n h
    cases hends.state
    exact h
  | send hends nested ih =>
    intro n h
    rw [createdCount_append]
    exact ih h
  | sendWithReply hends nested ih =>
    intro n h
    rw [createdCount_append]
    exact ih h

/-! ## Fresh ids -/

theorem ends_update_of_eq {α : Type} (host : Host ω S) (f : Service S → α × Service S) (w : ω) {a : α}
    {service : Service S} (h : f (host.service.get w) = (a, service)) :
    (host.update f).Ends w (.ok a) (host.service.set service w) := by
  have hends := host.ends_update f w
  rwa [h] at hends

/-- In every state that a service reaches, a name that is not bound gets the next number as its id.  The
addition runs over exactly at the largest number, the id is positive exactly in the lower half of the
numbers, and no other binding holds it unless all numbers have been handed out before. -/
theorem fresh_id_over_traces (hpart : host.service.Lawful) {maxPayloadBytes : Nat}
    (hempty : host.service.get w = .empty maxPayloadBytes) (htrace : Trace host w events w')
    (key : PortKey) (hknown : ((host.service.get w').certificate? key.app).isSome)
    (hfree : (host.service.get w').idAt? key = none) :
    let service := host.service.get w'
    let count := createdCount events
    let fresh : PortId := ⟨Int32.ofNat (count + 1)⟩
    (∃ w'', ((host.endpoint key.app).bind key.name key.domain).Ends w' (.ok (.ok (.created fresh))) w'' ∧
      (key, fresh) ∈ (host.service.get w'').ports) ∧
    fresh.value = service.lastId + 1 ∧
    ((service.lastId + 1).toInt = service.lastId.toInt + 1 ↔ count % 2 ^ 32 ≠ 2 ^ 31 - 1) ∧
    (0 < fresh.value ↔ 0 < (count + 1) % 2 ^ 32 ∧ (count + 1) % 2 ^ 32 < 2 ^ 31) ∧
    (count < 2 ^ 32 → ∀ port ∈ service.ports, port.2 ≠ fresh) := by
  intro service count fresh
  have hcounted : service.CountedTo count := by
    have hstart : (host.service.get w).CountedTo 0 := hempty ▸ .empty maxPayloadBytes
    simpa using htrace.countedTo hpart hstart
  have hnext : service.lastId + 1 = Int32.ofNat (count + 1) := by
    rw [hcounted.counter, Int32.ofNat_add]
    rfl
  refine ⟨?_, hnext.symm, ?_, positive_ofNat_iff, ?_⟩
  · rcases service.bind_cases key.app key.name key.domain with
      ⟨hunknown, -⟩ | ⟨id, hbound, -⟩ | ⟨record, hrecord, -, hrun⟩
    · simp [service, Service.certificate?, hunknown] at hknown
    · cases hbound.symm.trans hfree
    · rw [hnext] at hrun
      refine ⟨_, host.ends_update_of_eq (·.bind key.app key.name key.domain) w' hrun, ?_⟩
      rw [hpart.get_set]
      refine Service.mem_ports_iff.2 ⟨_, service.apps.get?_insert_self _ _, ?_⟩
      exact List.mem_append_right _ (List.mem_singleton.2 (by rw [hnext]))
  · rw [hcounted.counter]
    exact toInt_succ_iff
  · intro hroom port hport hid
    obtain ⟨k, hpos, hle, hk⟩ := hcounted.handedOut port hport
    have hsame : Int32.ofNat k = Int32.ofNat (count + 1) := congrArg PortId.value (hk.symm.trans hid)
    have hmod := ofNat_eq_iff.1 hsame
    omega

/-! ## One name, over and over again -/

/-- To bind a name and to release it again leaves nothing behind but a counter that has moved, unless the
fresh id is that of another binding of the application. -/
theorem unbind_withFresh {service : Service S} {app : String} {record : AppRecord S}
    (hrecord : service.apps.get? app = some record)
    (hunheld : ∀ b ∈ record.bindings, b.id ≠ ⟨service.lastId + 1⟩) (domain : TrustDomain)
    (name : String) :
    (service.withFresh app record domain name).unbind app ⟨service.lastId + 1⟩ =
      (.ok (), { service with lastId := service.lastId + 1 }) := by
  let fresh : Binding := ⟨domain, name, ⟨service.lastId + 1⟩⟩
  have hbound : (service.withFresh app record domain name).apps.get? app =
      some { record with bindings := record.bindings ++ [fresh] } := by
    rw [Service.get?_withFresh, if_pos rfl]
  have hkept : (record.bindings ++ [fresh]).filter (·.id != ⟨service.lastId + 1⟩) = record.bindings := by
    rw [List.filter_append, List.filter_eq_self.2 fun b hb => by simpa using hunheld b hb]
    simp [fresh]
  rcases Service.unbind_cases (service.withFresh app record domain name) app ⟨service.lastId + 1⟩ with
    ⟨hnone, -⟩ | ⟨found, hfound, hother, -⟩ | ⟨found, b, hfound, -, -, hrun⟩
  · rw [hbound] at hnone
    cases hnone
  · cases hbound.symm.trans hfound
    exact absurd rfl (hother fresh (List.mem_append_right _ List.mem_cons_self))
  · cases hbound.symm.trans hfound
    rw [hrun]
    unfold Service.without
    rw [hkept]
    -- The record is again what it was, and so are all others.
    have happs : ((service.apps.insert app { record with bindings := record.bindings ++ [fresh] }).insert
        app record) = service.apps := by
      apply SortedMap.ext_get?
      intro other
      rw [SortedMap.get?_insert, SortedMap.get?_insert]
      by_cases hother : other = app
      · rw [if_pos hother, hother, hrecord]
      · rw [if_neg hother, if_neg hother]
    exact congrArg (fun apps => (Except.ok (), { service with lastId := service.lastId + 1, apps })) happs

/-- A service whose counter has gone on `n` times. -/
def turned (service : Service S) (n : Nat) : Service S :=
  { service with lastId := service.lastId + Int32.ofNat n }

/-- To bind and release one name `n` times moves the counter on by `n`, and that is all, unless another
binding of the application is in the way. -/
theorem exists_trace_turned {service : Service Unit} {app : String} {record : AppRecord Unit}
    (hrecord : service.apps.get? app = some record) {domain : TrustDomain} {name : String}
    (hfree : record.idOf? domain name = none) (n : Nat)
    (hunheld : ∀ k, 0 < k → k ≤ n → ∀ b ∈ record.bindings, b.id ≠ ⟨service.lastId + Int32.ofNat k⟩) :
    ∃ events, Trace bare service events (turned service n) ∧ createdCount events = n := by
  induction n with
  | zero =>
    have hstart : turned service 0 = service := by
      have hzero : service.lastId + Int32.ofNat 0 = service.lastId := Int32.add_zero _
      unfold turned
      rw [hzero]
    rw [hstart]
    exact ⟨[], .refl service, rfl⟩
  | succ n ih =>
    obtain ⟨events, htrace, hcount⟩ := ih fun k hpos hle => hunheld k hpos (Nat.le_succ_of_le hle)
    have hnext : (turned service n).lastId + 1 = service.lastId + Int32.ofNat (n + 1) := by
      rw [Int32.ofNat_add, ← Int32.add_assoc]
      rfl
    have hrecord' : (turned service n).apps.get? app = some record := hrecord
    have hunheld' : ∀ b ∈ record.bindings, b.id ≠ ⟨(turned service n).lastId + 1⟩ := by
      rw [hnext]
      exact hunheld (n + 1) (Nat.succ_pos n) (Nat.le_refl _)
    let fresh : PortId := ⟨(turned service n).lastId + 1⟩
    let bound := (turned service n).withFresh app record domain name
    have hbind : Trace bare (turned service n) [.bound ⟨app, domain, name⟩ (.ok (.created fresh))] bound := by
      have hrun : (turned service n).bind app name domain = (.ok (.created fresh), bound) :=
        Service.bind_created hrecord' hfree
      exact .bind (bare.ends_update_of_eq (·.bind app name domain) _ hrun)
    have hunbind : Trace bare bound [.released app fresh (.ok ())] (turned service (n + 1)) := by
      have hrun : bound.unbind app fresh = (.ok (), turned service (n + 1)) := by
        rw [unbind_withFresh hrecord' hunheld', hnext]
        rfl
      exact .unbind (bare.ends_update_of_eq (·.unbind app fresh) _ hrun)
    refine ⟨_, htrace.trans (hbind.trans hunbind), ?_⟩
    rw [createdCount_append, hcount]
    rfl

/-- Once 2^31 - 1 bindings were made and released, the next fresh id is negative; and once 2^32 were made,
it is that of the first binding, which was kept. -/
theorem fresh_ids_run_over :
    (∃ events service service', Trace bare (.empty 100) events service ∧
      createdCount events = 2 ^ 31 - 1 ∧ service.ports = [] ∧
      ((bare.endpoint "a").bind "p" .openToAll).Ends service
        (.ok (.ok (.created ⟨-2147483648⟩))) service') ∧
    (∃ events service service', Trace bare (.empty 100) events service ∧
      createdCount events = 2 ^ 32 ∧ service.ports = [(⟨"a", .trusted, "kept"⟩, ⟨1⟩)] ∧
      ((bare.endpoint "a").bind "p" .openToAll).Ends service (.ok (.ok (.created ⟨1⟩))) service') := by
  let connected : Service Unit := Service.connect (.empty 100) "a" "c"
  have hconnect : Trace bare (.empty 100) [.connected "a" "c"] connected :=
    .connect (Service.empty 100) "a" "c"
  have hfresh : ∀ {events service record}, Trace bare (.empty 100) events service →
      service.apps.get? "a" = some record → record.idOf? .openToAll "p" = none →
      ∃ service', ((bare.endpoint "a").bind "p" .openToAll).Ends service
        (.ok (.ok (.created ⟨Int32.ofNat (createdCount events + 1)⟩))) service' := by
    intro events service record htrace hrecord hfree
    have hbare : bare.service.Lawful := ⟨fun _ _ => rfl, fun _ => rfl⟩
    have hknown : (service.certificate? "a").isSome := by simp [Service.certificate?, hrecord]
    have hunbound : service.idAt? ⟨"a", .openToAll, "p"⟩ = none :=
      (Service.boundId?_of_get? hrecord .openToAll "p").trans hfree
    obtain ⟨⟨service', hends, -⟩, -⟩ := fresh_id_over_traces hbare rfl htrace ⟨"a", .openToAll, "p"⟩
      hknown hunbound
    exact ⟨service', hends⟩
  constructor
  · let record : AppRecord Unit := ⟨"c", none, []⟩
    have hrecord : connected.apps.get? "a" = some record := rfl
    have hfree : record.idOf? .openToAll "p" = none := rfl
    obtain ⟨events, hturns, hcount⟩ := exists_trace_turned hrecord hfree (2 ^ 31 - 1)
      fun _ _ _ _ hb => by cases hb
    have htrace := hconnect.trans hturns
    have hall : createdCount ([.connected "a" "c"] ++ events) = 2 ^ 31 - 1 :=
      (createdCount_append _ events).trans ((Nat.zero_add _).trans hcount)
    obtain ⟨service', hends⟩ := hfresh htrace hrecord hfree
    rw [hall] at hends
    exact ⟨_, _, service', htrace, hall, rfl, hends⟩
  · let first := connected.withFresh "a" ⟨"c", none, []⟩ .trusted "kept"
    have hbind : Trace bare connected [.bound ⟨"a", .trusted, "kept"⟩ (.ok (.created ⟨1⟩))] first :=
      .bind (bare.ends_update_of_eq (·.bind "a" "kept" .trusted) _ (Service.bind_created rfl rfl))
    let record : AppRecord Unit := ⟨"c", none, [⟨.trusted, "kept", ⟨1⟩⟩]⟩
    have hrecord : first.apps.get? "a" = some record := by
      rw [Service.get?_withFresh, if_pos rfl]
      rfl
    have hfree : record.idOf? .openToAll "p" = none := rfl
    -- The counter comes back to 1 only after all other numbers.
    have hunheld : ∀ k, 0 < k → k ≤ 2 ^ 32 - 1 →
        ∀ b ∈ record.bindings, b.id ≠ ⟨first.lastId + Int32.ofNat k⟩ := by
      intro k hpos hle b hb hid
      cases List.mem_singleton.1 hb
      have hvalue : Int32.ofNat 1 = Int32.ofNat (1 + k) :=
        (congrArg PortId.value hid).trans (Int32.ofNat_add 1 k).symm
      have hmod := ofNat_eq_iff.1 hvalue
      omega
    obtain ⟨events, hturns, hcount⟩ := exists_trace_turned hrecord hfree (2 ^ 32 - 1) hunheld
    have htrace := hconnect.trans (hbind.trans hturns)
    have hall : createdCount ([.connected "a" "c"] ++ ([.bound ⟨"a", .trusted, "kept"⟩
        (.ok (.created ⟨1⟩))] ++ events)) = 2 ^ 32 := by
      rw [createdCount_append, createdCount_append, hcount]
      rfl
    obtain ⟨service', hends⟩ := hfresh htrace hrecord hfree
    rw [hall] at hends
    exact ⟨_, _, service', htrace, hall, rfl, hends⟩

end Host
end Loopback
end PortMessaging
