import PortMessaging.Proofs.Ends
import PortMessaging.Proofs.LoopbackIds

/-!
# LoopbackRuns — the ids of a loopback service over a whole run

The service is used by any number of applications, each through endpoints of its own, and a sink that
is handed a message may use the service again before the sender goes on.  `Host.Trace` is the relation
between two states of a host and the answers about ids that were given on the way.

What a run keeps is the ledger of these answers (`Ledger`): the account of minted ids belongs to the
answers, every id that was handed out was minted for the key that got it, and an id that was released
is bound no more.  From it follows what a user of the service sees (`IdsInOrder`): no two bindings
share an id, and an id never comes back.
-/

namespace PortMessaging
namespace Loopback

/-! ## What happened to a service -/

/-- A step of an application, with what it was answered. -/
inductive Event where
  | connected (app certificate : String)
  | attached (app : String)
  | bound (key : PortKey) (answer : Except TransportCode BindOutcome)
  | released (app : String) (id : PortId) (answer : Except TransportCode Unit)
  | checked (app : String) (remote : RemoteAddress) (domain : TrustDomain)
      (answer : Except TransportCode Bool)
  | sent (app : String) (remote : RemoteAddress) (domain : TrustDomain) (payload : Payload)
      (reply : Option PortId) (result : Except Fault (Except TransportCode Unit))

namespace Event

/-- The key and the id that a request to bind was answered with. -/
def handed? : Event → Option (PortKey × PortId)
  | bound key (.ok outcome) => some (key, outcome.id)
  | _ => none

/-- The key and the id of a fresh binding. -/
def created? : Event → Option (PortKey × PortId)
  | bound key (.ok (.created id)) => some (key, id)
  | _ => none

/-- The id that was given back. -/
def released? : Event → Option PortId
  | released _ id (.ok ()) => some id
  | _ => none

/-- A later step suits an earlier one: a fresh id is above the ids that were handed out before, and an
id that was released before is not handed out. -/
structure Precedes (earlier later : Event) : Prop where
  rising : ∀ {key₁ id₁ key₂ id₂}, earlier.handed? = some (key₁, id₁) →
    later.created? = some (key₂, id₂) → id₁.value < id₂.value
  gone : ∀ {id}, earlier.released? = some id → ∀ key, later.handed? ≠ some (key, id)

end Event

/-- The keys of the fresh bindings among some steps, in their order. -/
def mintedBy (events : List Event) : List PortKey :=
  (events.filterMap Event.created?).map (·.1)

/-- The number of fresh bindings among some steps. -/
def createdCount (events : List Event) : Nat := (mintedBy events).length

theorem mintedBy_append (events more : List Event) :
    mintedBy (events ++ more) = mintedBy events ++ mintedBy more := by
  simp [mintedBy]

theorem mintedBy_concat_of_none {e : Event} (he : e.created? = none) (events : List Event) :
    mintedBy (events ++ [e]) = mintedBy events := by
  simp [mintedBy, he]

theorem mintedBy_concat_of_some {e : Event} {key : PortKey} {id : PortId}
    (he : e.created? = some (key, id)) (events : List Event) :
    mintedBy (events ++ [e]) = mintedBy events ++ [key] := by
  simp [mintedBy, he]

theorem createdCount_append (events more : List Event) :
    createdCount (events ++ more) = createdCount events + createdCount more := by
  simp [createdCount, mintedBy_append]

/-! ## Releases -/

namespace Service

variable {S : Type} {service : Service S} {minted : List PortKey} {id : PortId}

/-- What a service is after an application asked it to release an id, by what it answered. -/
structure Releases (service : Service S) (app : String) (id : PortId)
    (answer : Except TransportCode Unit) (service' : Service S) : Prop where
  succeeds_iff : answer = .ok () ↔ ∃ domain name, (⟨app, domain, name⟩, id) ∈ service.ports
  /-- The one binding that has the id goes. -/
  removes : answer = .ok () → ∃ domain name, (⟨app, domain, name⟩, id) ∈ service.ports ∧
    ∀ port, port ∈ service'.ports ↔ port ∈ service.ports ∧ port ≠ (⟨app, domain, name⟩, id)
  refuses : answer ≠ .ok () → service' = service
  alike : AlikeAt service service' app
  others : ∀ {other}, other ≠ app → service'.apps.get? other = service.apps.get? other

theorem Releases.of_refused {app : String} {code : TransportCode}
    (hfree : ∀ domain name, (⟨app, domain, name⟩, id) ∉ service.ports) :
    Releases service app id (.error code) service where
  succeeds_iff := by simp [hfree]
  removes h := by cases h
  refuses _ := rfl
  alike := .of_eq rfl
  others _ := rfl

theorem Minted.unbind_releases (h : Minted minted service) (app : String) (id : PortId) :
    Releases service app id (service.unbind app id).1 (service.unbind app id).2 := by
  rcases unbind_cases service app id with
    ⟨hnone, hrun⟩ | ⟨record, hrecord, hfree, hrun⟩ | ⟨record, b, hrecord, hb, rfl, hrun⟩
  · rw [hrun]
    refine .of_refused ?_
    intro domain name hport
    rcases Service.mem_ports_iff.1 hport with ⟨record, hrecord, -⟩
    simp [hnone] at hrecord
  · rw [hrun]
    refine .of_refused ?_
    intro domain name hport
    rcases Service.mem_ports_iff.1 hport with ⟨found, hfound, hb⟩
    cases hrecord.symm.trans hfound
    exact hfree _ hb rfl
  · have halike := alikeAt_unbind service app b.id app
    have hminted := h.unbind app b.id
    rw [hrun] at halike hminted ⊢
    have hport : (⟨app, b.domain, b.name⟩, b.id) ∈ service.ports :=
      Service.mem_ports_iff.2 ⟨record, hrecord, hb⟩
    refine ⟨⟨fun _ => ⟨b.domain, b.name, hport⟩, fun _ => rfl⟩, fun _ => ⟨b.domain, b.name, hport, ?_⟩,
      fun hne => absurd rfl hne, halike, ?_⟩
    · rintro ⟨key, found⟩
      have hkey : service.idAt? key = some b.id → key = ⟨app, b.domain, b.name⟩ := fun hbound =>
        Option.some.inj ((h.key_of_idAt? hbound).symm.trans (h.keys hrecord b hb))
      simp only [hminted.mem_ports_iff, h.idAt?_without hrecord hb, Option.filter_eq_some_iff,
        h.mem_ports_iff, bne_iff_ne]
      constructor
      · rintro ⟨hbound, hne⟩
        exact ⟨hbound, fun hsame => hne (congrArg Prod.snd hsame)⟩
      · rintro ⟨hbound, hne⟩
        refine ⟨hbound, ?_⟩
        rintro rfl
        exact hne (by rw [hkey hbound])
    · intro other hother
      simp [get?_without, hother]

end Service

/-! ## The ledger -/

/-- The answers so far account for the service: its ids were minted in their order, each for the key
that it was handed out to, and what was released is bound no more. -/
structure Ledger {S : Type} (events : List Event) (service : Service S) : Prop where
  minted : service.Minted (mintedBy events)
  handed : ∀ e ∈ events, ∀ {key id}, e.handed? = some (key, id) →
    keyOf? (mintedBy events) id = some key
  released : ∀ e ∈ events, ∀ {id}, e.released? = some id →
    (keyOf? (mintedBy events) id).isSome ∧ ∀ key, service.idAt? key ≠ some id
  ordered : events.Pairwise Event.Precedes

namespace Ledger

variable {S : Type} {events : List Event} {service service' : Service S} {key : PortKey}
  {id : PortId}

theorem empty (maxPayloadBytes : Nat) : Ledger [] (Service.empty maxPayloadBytes : Service S) :=
  ⟨.empty maxPayloadBytes, by simp, by simp, .nil⟩

/-- One more step is entered.  The account goes on with it; an id that it hands out is bound then, and
only a fresh id was not bound before; a fresh id is above the account, and a released one in it. -/
theorem snoc (h : Ledger events service) (e : Event)
    (hminted : service'.Minted (mintedBy (events ++ [e])))
    (hhanded : ∀ {key id}, e.handed? = some (key, id) → service'.idAt? key = some id)
    (hbound : ∀ {key id}, service'.idAt? key = some id →
      service.idAt? key = some id ∨ e.created? = some (key, id))
    (hfresh : ∀ {key id}, e.created? = some (key, id) →
      ∀ {old}, (keyOf? (mintedBy events) old).isSome → old.value < id.value)
    (hreleased : ∀ {id}, e.released? = some id →
      (keyOf? (mintedBy events) id).isSome ∧ ∀ key, service'.idAt? key ≠ some id) :
    Ledger (events ++ [e]) service' := by
  have hgrown : ∀ {id key}, keyOf? (mintedBy events) id = some key →
      keyOf? (mintedBy (events ++ [e])) id = some key := by
    intro id key hkey
    rw [mintedBy_append]
    exact keyOf?_append hkey _
  have hgrown' : ∀ {id}, (keyOf? (mintedBy events) id).isSome →
      (keyOf? (mintedBy (events ++ [e])) id).isSome := by
    intro id hsome
    rcases Option.isSome_iff_exists.1 hsome with ⟨key, hkey⟩
    simp [hgrown hkey]
  -- What was released before stays unbound: only a fresh id is newly bound.
  have hunbound : ∀ old ∈ events, ∀ {id}, old.released? = some id →
      ∀ key, service'.idAt? key ≠ some id := by
    intro old hold id hid key hkey
    rcases h.released old hold hid with ⟨hsome, hbefore⟩
    rcases hbound hkey with hkept | hcreated
    · exact hbefore key hkept
    · exact Int32.lt_irrefl (hfresh hcreated hsome)
  refine ⟨hminted, ?_, ?_, ?_⟩
  · intro e' he' key id hid
    rcases List.mem_append.1 he' with hold | hnew
    · exact hgrown (h.handed e' hold hid)
    · cases List.mem_singleton.1 hnew
      exact hminted.key_of_idAt? (hhanded hid)
  · intro e' he' id hid
    rcases List.mem_append.1 he' with hold | hnew
    · exact ⟨hgrown' (h.released e' hold hid).1, hunbound e' hold hid⟩
    · cases List.mem_singleton.1 hnew
      exact ⟨hgrown' (hreleased hid).1, (hreleased hid).2⟩
  · refine List.pairwise_append.2 ⟨h.ordered, List.pairwise_singleton _ _, ?_⟩
    intro old hold new hnew
    cases List.mem_singleton.1 hnew
    refine ⟨?_, ?_⟩
    · intro key₁ id₁ key₂ id₂ hid₁ hid₂
      exact hfresh hid₂ (by simp [h.handed old hold hid₁])
    · intro id hid key hhand
      exact hunbound old hold hid key (hhanded hhand)

/-- A step is entered that binds and releases nothing. -/
theorem quiet (h : Ledger events service) {e : Event} (hcreated : e.created? = none)
    (hreleased : e.released? = none) (hminted : service'.Minted (mintedBy events))
    (hsame : ∀ key, service'.idAt? key = service.idAt? key)
    (hhanded : ∀ {key id}, e.handed? = some (key, id) → service.idAt? key = some id) :
    Ledger (events ++ [e]) service' := by
  refine h.snoc e ?_ ?_ ?_ ?_ ?_
  · simpa only [mintedBy_concat_of_none hcreated] using hminted
  · intro key id hid
    exact (hsame key).trans (hhanded hid)
  · intro key id hid
    exact .inl ((hsame key).symm.trans hid)
  · intro key id hid
    simp [hcreated] at hid
  · intro id hid
    simp [hreleased] at hid

/-- A step is entered that hands out and releases nothing and leaves the service. -/
theorem idle (h : Ledger events service) {e : Event} (hhanded : e.handed? = none)
    (hcreated : e.created? = none) (hreleased : e.released? = none) :
    Ledger (events ++ [e]) service := by
  refine h.quiet hcreated hreleased h.minted (fun _ => rfl) ?_
  intro key id hid
  simp [hhanded] at hid

theorem connect (h : Ledger events service) (app certificate : String) :
    Ledger (events ++ [.connected app certificate]) (service.connect app certificate) := by
  refine h.quiet rfl rfl (h.minted.connect app certificate) ?_ ?_
  · intro key
    exact Service.boundId?_connect service app certificate key.app key.domain key.name
  · intro key id hid
    cases hid

theorem attach (h : Ledger events service) (app : String) (sink : S) :
    Ledger (events ++ [.attached app]) (service.attach app sink) := by
  refine h.quiet rfl rfl (h.minted.attach app sink) ?_ ?_
  · intro key
    exact Service.boundId?_attach service app sink key.app key.domain key.name
  · intro key id hid
    cases hid

/-- A request to bind is answered and entered. -/
theorem bind (h : Ledger events service) (app name : String) (domain : TrustDomain)
    (hroom : createdCount
      (events ++ [.bound ⟨app, domain, name⟩ (service.bind app name domain).1]) < 2 ^ 31) :
    Ledger (events ++ [.bound ⟨app, domain, name⟩ (service.bind app name domain).1])
      (service.bind app name domain).2 := by
  rcases Service.bind_cases service app name domain with
    ⟨-, hrun⟩ | ⟨id, hbound, hrun⟩ | ⟨record, hrecord, hfree, hrun⟩
  · simp only [hrun]
    exact h.idle rfl rfl rfl
  · simp only [hrun]
    refine h.quiet rfl rfl h.minted (fun _ => rfl) ?_
    intro key id' hid
    cases hid
    exact hbound
  · simp only [hrun] at hroom ⊢
    have hmintedBy : mintedBy (events ++ [.bound ⟨app, domain, name⟩
        (.ok (.created ⟨service.lastId + 1⟩))]) = mintedBy events ++ [⟨app, domain, name⟩] :=
      mintedBy_concat_of_some rfl events
    have hroom' : (mintedBy events).length + 1 < 2 ^ 31 := by
      simpa [createdCount, hmintedBy] using hroom
    have hidAt : ∀ key, (service.withFresh app record domain name).idAt? key =
        if key = ⟨app, domain, name⟩ then some ⟨service.lastId + 1⟩ else service.idAt? key := by
      rintro ⟨app', domain', name'⟩
      simp only [Service.idAt?, Service.boundId?_withFresh hrecord hfree, PortKey.mk.injEq]
    refine h.snoc _ ?_ ?_ ?_ ?_ ?_
    · simpa only [hmintedBy] using h.minted.withFresh hrecord hfree hroom'
    · intro key id hid
      cases hid
      exact (hidAt _).trans (if_pos rfl)
    · intro key id hid
      simp only [hidAt] at hid
      split at hid
      next hkey =>
        cases hid
        subst hkey
        exact .inr rfl
      next => exact .inl hid
    · intro key id hid old hold
      cases hid
      rcases Option.isSome_iff_exists.1 hold with ⟨oldKey, hkey⟩
      have hle := le_of_keyOf? hkey
      have hnext := toInt_add_one h.minted.counter hroom'
      refine Int32.lt_iff_toInt_lt.2 ?_
      show old.value.toInt < (service.lastId + 1).toInt
      omega
    · intro id hid
      cases hid

/-- A request to release is answered and entered. -/
theorem unbind (h : Ledger events service) (app : String) (id : PortId) :
    Ledger (events ++ [.released app id (service.unbind app id).1]) (service.unbind app id).2 := by
  rcases Service.unbind_cases service app id with
    ⟨-, hrun⟩ | ⟨record, -, -, hrun⟩ | ⟨record, b, hrecord, hb, rfl, hrun⟩
  · simp only [hrun]
    exact h.idle rfl rfl rfl
  · simp only [hrun]
    exact h.idle rfl rfl rfl
  · have hminted := h.minted.unbind app b.id
    simp only [hrun] at hminted ⊢
    have hidAt : ∀ {key found}, (service.without app record b.id).idAt? key = some found →
        service.idAt? key = some found ∧ found ≠ b.id := by
      intro key found hfound
      simpa [h.minted.idAt?_without hrecord hb, Option.filter_eq_some_iff] using hfound
    refine h.snoc _ ?_ ?_ ?_ ?_ ?_
    · simpa only [mintedBy_concat_of_none (e := .released app b.id (.ok ())) rfl] using hminted
    · intro key found hfound
      cases hfound
    · intro key found hfound
      exact .inl (hidAt hfound).1
    · intro key found hfound
      cases hfound
    · intro id hid
      cases hid
      refine ⟨by simp [h.minted.keys hrecord b hb], ?_⟩
      intro key hfound
      exact (hidAt hfound).2 rfl

/-- A send is entered after what its sink did with the service. -/
theorem sent {past nested : List Event}
    (h : createdCount (past ++ nested) < 2 ^ 31 → Ledger (past ++ nested) service) {e : Event}
    (hroom : createdCount (past ++ (nested ++ [e])) < 2 ^ 31) (hhanded : e.handed? = none)
    (hcreated : e.created? = none) (hreleased : e.released? = none) :
    Ledger (past ++ (nested ++ [e])) service := by
  have hroom' : createdCount (past ++ nested) < 2 ^ 31 := by
    simp only [createdCount_append] at hroom ⊢
    omega
  rw [← List.append_assoc]
  exact (h hroom').idle hhanded hcreated hreleased

end Ledger

/-- The ids of a service are in order, and those that the steps before were answered with. -/
structure IdsInOrder {S : Type} (events : List Event) (service : Service S) : Prop where
  /-- Ids are positive, and no more of them are bound than were minted. -/
  bounded : ∀ port ∈ service.ports, 0 < port.2.value ∧ port.2.value.toInt ≤ createdCount events
  /-- No two bindings share an id. -/
  distinct : (service.ports.map (·.2)).Nodup
  /-- Fresh ids are above all that went before, and released ids do not come back. -/
  ordered : events.Pairwise Event.Precedes
  /-- An id was only ever bound to one key. -/
  oneKey : ∀ port ∈ events.filterMap Event.handed? ++ service.ports,
    ∀ other ∈ events.filterMap Event.handed? ++ service.ports, port.2 = other.2 → port.1 = other.1
  /-- What was released is not bound. -/
  released : ∀ e ∈ events, ∀ {id}, e.released? = some id → ∀ port ∈ service.ports, port.2 ≠ id

theorem Ledger.idsInOrder {S : Type} {events : List Event} {service : Service S}
    (h : Ledger events service) : IdsInOrder events service := by
  have hkey : ∀ port ∈ service.ports, keyOf? (mintedBy events) port.2 = some port.1 := by
    intro port hport
    exact h.minted.key_of_idAt? (h.minted.mem_ports_iff.1 hport)
  have hever : ∀ port ∈ events.filterMap Event.handed? ++ service.ports,
      keyOf? (mintedBy events) port.2 = some port.1 := by
    intro port hport
    rcases List.mem_append.1 hport with hhanded | hbound
    · rcases List.mem_filterMap.1 hhanded with ⟨e, he, hid⟩
      exact h.handed e he hid
    · exact hkey port hbound
  refine ⟨?_, h.minted.ports_distinct, h.ordered, ?_, ?_⟩
  · intro port hport
    exact ⟨positive_of_keyOf? (hkey port hport), le_of_keyOf? (hkey port hport)⟩
  · intro port hport other hother hid
    have hkeys : some port.1 = some other.1 := by
      calc
        some port.1 = keyOf? (mintedBy events) port.2 := (hever port hport).symm
        _ = keyOf? (mintedBy events) other.2 := congrArg _ hid
        _ = some other.1 := hever other hother
    exact Option.some.inj hkeys
  · rintro e he id hid ⟨key, found⟩ hport rfl
    exact (h.released e he hid).2 key (h.minted.mem_ports_iff.1 hport)

/-! ## Runs of a host -/

namespace Host

variable {ω S : Type} {host : Host ω S} {w w' : ω} {events : List Event}

theorem get_update {α : Type} (hpart : host.service.Lawful) (f : Service S → α × Service S) (w : ω) :
    host.service.get ((host.update f).run w).state = (f (host.service.get w)).2 :=
  hpart.get_set _ _

theorem state_connect (host : Host ω S) (app certificate : String) (w : ω) :
    ((host.connect app certificate).run w).state =
      ((host.update fun service => ((), service.connect app certificate)).run w).state :=
  Effect.state_bind_silent _ (fun _ => Effect.silent_log _ _ _) w

/-- What applications do with the service of a host between two of its states.  Each application may
use any number of endpoints, and other things may happen in between. -/
inductive Trace (host : Host ω S) : ω → List Event → ω → Prop where
  | refl (w : ω) : Trace host w [] w
  | trans {w₁ w₂ w₃ : ω} {events more : List Event} (first : Trace host w₁ events w₂)
      (rest : Trace host w₂ more w₃) : Trace host w₁ (events ++ more) w₃
  | elsewhere {w w' : ω} (h : host.service.get w' = host.service.get w) : Trace host w [] w'
  | connect (w : ω) (app certificate : String) :
      Trace host w [.connected app certificate] ((host.connect app certificate).run w).state
  | attach (w : ω) (app : String) (sink : S) :
      Trace host w [.attached app] ((host.attach app sink).run w).state
  | bind {w w' : ω} {app name : String} {domain : TrustDomain}
      {answer : Except TransportCode BindOutcome}
      (h : ((host.endpoint app).bind name domain).Ends w (.ok answer) w') :
      Trace host w [.bound ⟨app, domain, name⟩ answer] w'
  | unbind {w w' : ω} {app : String} {id : PortId} {answer : Except TransportCode Unit}
      (h : ((host.endpoint app).unbind id).Ends w (.ok answer) w') :
      Trace host w [.released app id answer] w'
  | check {w w' : ω} {app : String} {remote : RemoteAddress} {domain : TrustDomain}
      {answer : Except TransportCode Bool}
      (h : ((host.endpoint app).checkRemote remote domain).Ends w (.ok answer) w') :
      Trace host w [.checked app remote domain answer] w'
  /-- The sink may use the service before the sender goes on; that comes first. -/
  | send {w w' : ω} {app : String} {remote : RemoteAddress} {domain : TrustDomain}
      {payload : Payload} {result : Except Fault (Except TransportCode Unit)} {events : List Event}
      (h : ((host.endpoint app).send remote domain payload).Ends w result w')
      (nested : Trace host w events w') :
      Trace host w (events ++ [.sent app remote domain payload none result]) w'
  | sendWithReply {w w' : ω} {app : String} {reply : PortId} {remote : RemoteAddress}
      {domain : TrustDomain} {payload : Payload} {result : Except Fault (Except TransportCode Unit)}
      {events : List Event}
      (h : ((host.endpoint app).sendWithReply reply remote domain payload).Ends w result w')
      (nested : Trace host w events w') :
      Trace host w (events ++ [.sent app remote domain payload (some reply) result]) w'

/-- Whatever is done with a service, the ledger goes on, as long as the counter has room. -/
theorem Trace.ledger (hpart : host.service.Lawful) (htrace : Trace host w events w') :
    ∀ {past : List Event}, Ledger past (host.service.get w) →
      createdCount (past ++ events) < 2 ^ 31 →
        Ledger (past ++ events) (host.service.get w') := by
  induction htrace with
  | refl w =>
    intro past h _
    simpa using h
  | @trans w₁ w₂ w₃ events more first rest ihFirst ihRest =>
    intro past h hfew
    have hmore : createdCount (past ++ events) < 2 ^ 31 := by
      simp only [createdCount_append] at hfew ⊢
      omega
    have hall := ihRest (ihFirst h hmore) (by simpa using hfew)
    simpa using hall
  | elsewhere hsame =>
    intro past h _
    simpa [hsame] using h
  | connect w app certificate =>
    intro past h _
    rw [state_connect, get_update hpart]
    exact h.connect app certificate
  | attach w app sink =>
    intro past h _
    unfold Host.attach
    rw [get_update hpart]
    exact h.attach app sink
  | @bind w w' app name domain answer hends =>
    intro past h hfew
    have hanswer : ((host.service.get w).bind app name domain).1 = answer :=
      Except.ok.inj hends.result
    cases hends.state
    subst hanswer
    simpa only [Host.endpoint, get_update hpart] using h.bind app name domain hfew
  | @unbind w w' app id answer hends =>
    intro past h _
    have hanswer : ((host.service.get w).unbind app id).1 = answer := Except.ok.inj hends.result
    cases hends.state
    subst hanswer
    simpa only [Host.endpoint, get_update hpart] using h.unbind app id
  | check hends =>
    intro past h _
    cases hends.state
    exact h.idle rfl rfl rfl
  | send hends nested ih =>
    intro past h hfew
    exact .sent (ih h) hfew rfl rfl rfl
  | sendWithReply hends nested ih =>
    intro past h hfew
    exact .sent (ih h) hfew rfl rfl rfl

/-! ## Single steps -/

theorem ends_update {α : Type} (host : Host ω S) (f : Service S → α × Service S) (w : ω) :
    (host.update f).Ends w (.ok (f (host.service.get w)).1)
      (host.service.set (f (host.service.get w)).2 w) :=
  ⟨rfl, rfl⟩

/-- A request to bind a bound key is answered with its id and changes nothing. -/
theorem bind_bound (hpart : host.service.Lawful) {key : PortKey} {id : PortId}
    (h : (host.service.get w).idAt? key = some id) :
    ((host.endpoint key.app).bind key.name key.domain).Ends w (.ok (.ok (.existing id))) w := by
  have hends := host.ends_update (·.bind key.app key.name key.domain) w
  simpa only [Host.endpoint, Service.bind_existing h, hpart.set_get] using hends

/-- The ids of all applications stay in order, over every run of any number of applications on one
service that mints fewer than 2^31 ids.  In every state that is reached, a request to bind a bound key
is answered with its id and changes nothing; a request to release succeeds for ids of the application
alone and takes away one binding; and to connect again changes a certificate and nothing else. -/
theorem ids_in_order_over_traces (hpart : host.service.Lawful) {maxPayloadBytes : Nat}
    (hempty : host.service.get w = .empty maxPayloadBytes) (htrace : Trace host w events w')
    (hfew : createdCount events < 2 ^ 31) :
    let service := host.service.get w'
    IdsInOrder events service ∧
    (∀ key id, (key, id) ∈ service.ports →
      ((host.endpoint key.app).bind key.name key.domain).Ends w' (.ok (.ok (.existing id))) w') ∧
    (∀ app id, ∃ answer w'', ((host.endpoint app).unbind id).Ends w' (.ok answer) w'' ∧
      service.Releases app id answer (host.service.get w'') ∧ (answer ≠ .ok () → w'' = w')) ∧
    (∀ app certificate record, service.apps.get? app = some record →
      let after := host.service.get ((host.connect app certificate).run w').state
      after.apps.get? app = some { record with certificate := certificate } ∧
        (∀ other, other ≠ app → after.apps.get? other = service.apps.get? other) ∧
        after.lastId = service.lastId) := by
  intro service
  have hledger : Ledger events service := by
    have hstart : Ledger [] (host.service.get w) := hempty ▸ Ledger.empty maxPayloadBytes
    simpa using htrace.ledger hpart hstart (by simpa using hfew)
  refine ⟨hledger.idsInOrder, ?_, ?_, ?_⟩
  · intro key id hport
    exact bind_bound hpart (hledger.minted.mem_ports_iff.1 hport)
  · intro app id
    have hends := host.ends_update (·.unbind app id) w'
    have hreleases := hledger.minted.unbind_releases app id
    refine ⟨_, _, hends, ?_, ?_⟩
    · simpa only [hpart.get_set] using hreleases
    · intro hrefused
      rw [hreleases.refuses hrefused]
      exact hpart.set_get w'
  · intro app certificate record hrecord after
    have hafter : after = service.connect app certificate := by
      calc
        after = host.service.get ((host.update fun service =>
            ((), service.connect app certificate)).run w').state :=
              congrArg _ (host.state_connect app certificate w')
        _ = service.connect app certificate := get_update hpart _ w'
    refine ⟨?_, ?_, ?_⟩
    · simp [hafter, Service.get?_connect, hrecord]
    · intro other hother
      simp [hafter, Service.get?_connect, hother]
    · simp [hafter, Service.connect, hrecord, Service.modifyApp]

/-- A message that goes to a sink which changes nothing changes nothing. -/
theorem silent_transmit (host : Host ω S)
    (hsinks : ∀ sink event, (host.deliver sink event).Silent) (app : String)
    (remote : RemoteAddress) (domain : TrustDomain) (payload : Payload) (reply : Option Binding) :
    (host.transmit app remote domain payload reply).Silent := by
  refine Effect.silent_bind (fun _ => rfl) ?_
  intro w
  cases (host.service.get w).route (host.alive w) app remote domain payload reply with
  | error code => exact Effect.silent_pure _
  | ok handed =>
    refine Effect.silent_bind (Effect.silent_log _ _ _) fun _ => ?_
    exact Effect.silent_bind (hsinks handed.1 handed.2) fun _ => Effect.silent_pure _

/-- A host that is its service; its sinks drop what they are handed. -/
def bare : Host (Service Unit) Unit where
  service := ⟨id, fun service _ => service⟩
  alive _ _ := true
  deliver _ _ := pure ()

/-- A name is bound, a message is sent to it, it is released and bound again. -/
def rebinding : List Event :=
  [.connected "a" "c", .bound ⟨"a", .openToAll, "p"⟩ (.ok (.created ⟨1⟩)),
    .sent "a" ⟨"a", "p"⟩ .openToAll .empty none (.ok (.error .portNotFound)),
    .released "a" ⟨1⟩ (.ok ()), .bound ⟨"a", .openToAll, "p"⟩ (.ok (.created ⟨2⟩))]

theorem ids_in_order_of_rebinding :
    ∃ service, Trace bare (.empty 100) rebinding service ∧ IdsInOrder rebinding service ∧
      service.ports = [(⟨"a", .openToAll, "p"⟩, ⟨2⟩)] := by
  have hbare : bare.service.Lawful := ⟨fun _ _ => rfl, fun _ => rfl⟩
  let connected : Service Unit := Service.connect (.empty 100) "a" "c"
  let first := (connected.bind "a" "p" .openToAll).2
  let released := (first.unbind "a" ⟨1⟩).2
  let second := (released.bind "a" "p" .openToAll).2
  have hconnect : Trace bare (.empty 100) [.connected "a" "c"] connected :=
    .connect (Service.empty 100) "a" "c"
  have hbind : Trace bare connected [.bound ⟨"a", .openToAll, "p"⟩ (.ok (.created ⟨1⟩))] first :=
    .bind ⟨rfl, rfl⟩
  have hsend : Trace bare first
      ([] ++ [.sent "a" ⟨"a", "p"⟩ .openToAll .empty none (.ok (.error .portNotFound))]) first :=
    .send ⟨by decide +kernel,
      bare.silent_transmit (fun _ _ => Effect.silent_pure ()) _ _ _ _ _ first⟩ (.refl first)
  have hunbind : Trace bare first [.released "a" ⟨1⟩ (.ok ())] released := by
    have hanswer : (first.unbind "a" ⟨1⟩).1 = .ok () := by decide +kernel
    exact .unbind (hanswer ▸ bare.ends_update (·.unbind "a" ⟨1⟩) first)
  have hagain : Trace bare released [.bound ⟨"a", .openToAll, "p"⟩ (.ok (.created ⟨2⟩))] second := by
    have hanswer : (released.bind "a" "p" .openToAll).1 = .ok (.created ⟨2⟩) := by decide +kernel
    exact .bind (hanswer ▸ bare.ends_update (·.bind "a" "p" .openToAll) released)
  have htrace : Trace bare (.empty 100) rebinding second :=
    hconnect.trans (hbind.trans (hsend.trans (hunbind.trans hagain)))
  have hall := ids_in_order_over_traces (w := .empty 100) hbare rfl htrace (by decide)
  exact ⟨second, htrace, hall.1, by decide +kernel⟩

end Host
end Loopback
end PortMessaging
