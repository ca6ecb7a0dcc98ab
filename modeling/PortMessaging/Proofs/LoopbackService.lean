import Mathlib.Data.List.Nodup
import PortMessaging.Loopback
import PortMessaging.Proofs.SortedMap

/-!
# LoopbackService — what can be seen of a loopback service

The operations of a loopback service one by one: how each of them can end, and what it changes in the
three views that other modules take of a service.  `boundId?` tells to which id a name is bound,
`certificate?` what certificate an application connected with, and `sink?` who takes its deliveries.
-/

namespace PortMessaging
namespace Loopback

/-! ## Records -/

namespace AppRecord

variable {S : Type} {record : AppRecord S}

/-- The names of a record are bound once each. -/
def NamesOnce (record : AppRecord S) : Prop :=
  record.bindings.Pairwise fun b c => ¬ (b.domain = c.domain ∧ b.name = c.name)

theorem find?_name_eq {domain : TrustDomain} {name : String} {id : PortId} {l : List Binding}
    (hl : l.Pairwise fun b c => ¬ (b.domain = c.domain ∧ b.name = c.name))
    (h : ⟨domain, name, id⟩ ∈ l) :
    l.find? (fun b => b.domain == domain && b.name == name) = some ⟨domain, name, id⟩ := by
  induction l with
  | nil => cases h
  | cons b rest ih =>
    rcases List.pairwise_cons.1 hl with ⟨hhead, htail⟩
    rcases List.mem_cons.1 h with rfl | hrest
    · simp
    · have hne : ¬ (b.domain = domain ∧ b.name = name) := hhead _ hrest
      rw [List.find?_cons_of_neg (by simpa using hne)]
      exact ih htail hrest

theorem mem_of_idOf? {domain : TrustDomain} {name : String} {id : PortId}
    (h : record.idOf? domain name = some id) : ⟨domain, name, id⟩ ∈ record.bindings := by
  rcases Option.map_eq_some_iff.1 h with ⟨b, hfind, rfl⟩
  have hb : b.domain = domain ∧ b.name = name := by simpa using List.find?_some hfind
  rcases hb with ⟨rfl, rfl⟩
  exact List.mem_of_find?_eq_some hfind

theorem idOf?_eq_some_iff (hnames : record.NamesOnce) {domain : TrustDomain} {name : String}
    {id : PortId} :
    record.idOf? domain name = some id ↔ ⟨domain, name, id⟩ ∈ record.bindings := by
  constructor
  · exact mem_of_idOf?
  · intro h
    unfold idOf?
    rw [find?_name_eq hnames h]
    rfl

theorem name_free {domain : TrustDomain} {name : String} (h : record.idOf? domain name = none) :
    ∀ b ∈ record.bindings, ¬ (b.domain = domain ∧ b.name = name) := by
  intro b hb
  have hfind := List.find?_eq_none.1 (Option.map_eq_none_iff.1 h) b hb
  simpa using hfind

end AppRecord

/-! ## Views of a service -/

namespace Service

variable {S : Type} {service : Service S} {app other : String} {domain : TrustDomain} {name : String}
  {id : PortId} {record : AppRecord S}

/-- The id to which a name of an application is bound in a domain. -/
def boundId? (service : Service S) (app : String) (domain : TrustDomain) (name : String) :
    Option PortId :=
  (service.apps.get? app).bind (·.idOf? domain name)

theorem boundId?_of_get? (hrecord : service.apps.get? app = some record) (domain : TrustDomain)
    (name : String) : service.boundId? app domain name = record.idOf? domain name := by
  unfold boundId?
  rw [hrecord]
  rfl

/-- Whether an application has a binding of an id. -/
def binds (service : Service S) (app : String) (id : PortId) : Bool :=
  (service.apps.get? app).any fun record => record.bindings.any (·.id == id)

theorem binds_eq_true_iff : service.binds app id = true ↔
    ∃ record, service.apps.get? app = some record ∧ ∃ b ∈ record.bindings, b.id = id := by
  unfold binds
  simp [Option.any_eq_true]

/-- The certificate of an application that ever connected. -/
def certificate? (service : Service S) (app : String) : Option String :=
  (service.apps.get? app).map (·.certificate)

/-- The sink that takes the deliveries of an application. -/
def sink? (service : Service S) (app : String) : Option S :=
  (service.apps.get? app).bind (·.sink)

/-- The binding that goes with a message of an application: that of its reply port, if there is one. -/
inductive Replies (service : Service S) (app : String) : Option PortId → Option Binding → Prop where
  | nowhere : Replies service app none none
  | port {id : PortId} {binding : Binding} (h : service.replyBinding app id = .ok binding) :
      Replies service app (some id) (some binding)

/-- An application may send to an address in a domain: the event goes to the sink, for the id that is
bound there, and the certificates are equal if the domain is the trusted one.  The event names the
reply port as the application has it bound. -/
structure Routes (service : Service S) (app : String) (remote : RemoteAddress)
    (domain : TrustDomain) (reply : Option PortId) (sink : S) (event : DeliveryEvent) : Prop where
  bound : service.boundId? remote.app domain remote.port = some event.target
  sink : service.sink? remote.app = some sink
  sender : event.senderApp = app
  reply : ∃ binding, service.Replies app reply binding ∧ event.senderPort = binding.map (·.name) ∧
    event.senderTrusted = binding.elim false (·.domain.isTrusted)
  certificates : domain = .trusted → ∃ certificate, service.certificate? app = some certificate ∧
    service.certificate? remote.app = some certificate

/-! ## The operations case by case -/

theorem bind_unknown (h : service.apps.get? app = none) (name : String) (domain : TrustDomain) :
    service.bind app name domain = (.error .io, service) := by
  unfold bind
  rw [h]

theorem bind_existing (h : service.boundId? app domain name = some id) :
    service.bind app name domain = (.ok (.existing id), service) := by
  rcases Option.bind_eq_some_iff.1 h with ⟨record, hrecord, hid⟩
  unfold bind
  simp only [hrecord, hid]

/-- The service after a name got a fresh id. -/
def withFresh (service : Service S) (app : String) (record : AppRecord S) (domain : TrustDomain)
    (name : String) : Service S :=
  { service with
    lastId := service.lastId + 1
    apps := service.apps.insert app
      { record with bindings := record.bindings ++ [⟨domain, name, ⟨service.lastId + 1⟩⟩] } }

theorem bind_created (hrecord : service.apps.get? app = some record)
    (hfree : record.idOf? domain name = none) :
    service.bind app name domain =
      (.ok (.created ⟨service.lastId + 1⟩), service.withFresh app record domain name) := by
  unfold bind
  simp only [hrecord, hfree]
  rfl

/-- A request to bind ends in one of three ways. -/
theorem bind_cases (service : Service S) (app name : String) (domain : TrustDomain) :
    (service.apps.get? app = none ∧ service.bind app name domain = (.error .io, service)) ∨
    (∃ id, service.boundId? app domain name = some id ∧
      service.bind app name domain = (.ok (.existing id), service)) ∨
    (∃ record, service.apps.get? app = some record ∧ record.idOf? domain name = none ∧
      service.bind app name domain =
        (.ok (.created ⟨service.lastId + 1⟩), service.withFresh app record domain name)) := by
  cases hrecord : service.apps.get? app with
  | none => exact .inl ⟨rfl, bind_unknown hrecord name domain⟩
  | some record =>
    cases hid : record.idOf? domain name with
    | none => exact .inr (.inr ⟨record, rfl, hid, bind_created hrecord hid⟩)
    | some id =>
      have hbound : service.boundId? app domain name = some id :=
        (boundId?_of_get? hrecord domain name).trans hid
      exact .inr (.inl ⟨id, hbound, bind_existing hbound⟩)

/-- The service after an application gave its bindings of an id back. -/
def without (service : Service S) (app : String) (record : AppRecord S) (id : PortId) : Service S :=
  { service with
    apps := service.apps.insert app
      { record with bindings := record.bindings.filter (·.id != id) } }

/-- A request to release an id ends in one of three ways. -/
theorem unbind_cases (service : Service S) (app : String) (id : PortId) :
    (service.apps.get? app = none ∧ service.unbind app id = (.error .io, service)) ∨
    (∃ record, service.apps.get? app = some record ∧ (∀ b ∈ record.bindings, b.id ≠ id) ∧
      service.unbind app id = (.error .portNotFound, service)) ∨
    (∃ record b, service.apps.get? app = some record ∧ b ∈ record.bindings ∧ b.id = id ∧
      service.unbind app id = (.ok (), service.without app record id)) := by
  unfold unbind
  cases hrecord : service.apps.get? app with
  | none => exact .inl ⟨rfl, rfl⟩
  | some record =>
    simp only
    split
    next hlength =>
      refine .inr (.inl ⟨record, rfl, ?_, rfl⟩)
      intro b hb
      simpa using List.length_filter_eq_length_iff.1 hlength b hb
    next hlength =>
      -- Something went, so something had the id.
      have hb : ∃ b ∈ record.bindings, b.id = id := by
        by_contra hnone
        refine hlength (List.length_filter_eq_length_iff.2 fun b hb => ?_)
        have hne : b.id ≠ id := fun heq => hnone ⟨b, hb, heq⟩
        simpa using hne
      rcases hb with ⟨b, hb, hid⟩
      refine .inr (.inr ⟨record, b, rfl, hb, hid, ?_⟩)
      unfold modifyApp without
      rw [SortedMap.modify_eq_insert hrecord]

/-- An application that has connected can release an id exactly if it has a binding of it. -/
theorem unbind_known (hknown : (service.certificate? app).isSome) (id : PortId) :
    (service.binds app id = true ∧ (service.unbind app id).1 = .ok ()) ∨
    (service.binds app id = false ∧ service.unbind app id = (.error .portNotFound, service)) := by
  rcases unbind_cases service app id with
    ⟨hunknown, -⟩ | ⟨record, hrecord, hunbound, hrun⟩ | ⟨record, b, hrecord, hb, hid, hrun⟩
  · unfold certificate? at hknown
    rw [hunknown] at hknown
    cases hknown
  · refine .inr ⟨?_, hrun⟩
    rw [← Bool.not_eq_true, binds_eq_true_iff]
    rintro ⟨found, hfound, b, hb, hid⟩
    rw [hrecord] at hfound
    cases hfound
    exact hunbound b hb hid
  · refine .inl ⟨binds_eq_true_iff.2 ⟨record, hrecord, b, hb, hid⟩, ?_⟩
    rw [hrun]

/-- A release leaves the counter. -/
theorem lastId_unbind (service : Service S) (app : String) (id : PortId) :
    (service.unbind app id).2.lastId = service.lastId := by
  rcases unbind_cases service app id with
    ⟨-, hrun⟩ | ⟨record, -, -, hrun⟩ | ⟨record, b, -, -, -, hrun⟩
  · rw [hrun]
  · rw [hrun]
  · rw [hrun]
    rfl

/-! ## What the views see of the operations -/

theorem get?_withFresh (service : Service S) (app : String) (record : AppRecord S)
    (domain : TrustDomain) (name other : String) :
    (service.withFresh app record domain name).apps.get? other =
      if other = app then
        some { record with bindings := record.bindings ++ [⟨domain, name, ⟨service.lastId + 1⟩⟩] }
      else service.apps.get? other := by
  unfold withFresh
  split
  next h => rw [h, SortedMap.get?_insert_self]
  next h => rw [SortedMap.get?_insert_of_ne _ h]

theorem get?_without (service : Service S) (app : String) (record : AppRecord S) (id : PortId)
    (other : String) :
    (service.without app record id).apps.get? other =
      if other = app then some { record with bindings := record.bindings.filter (·.id != id) }
      else service.apps.get? other := by
  unfold without
  split
  next h => rw [h, SortedMap.get?_insert_self]
  next h => rw [SortedMap.get?_insert_of_ne _ h]

theorem get?_connect (service : Service S) (app certificate other : String) :
    (service.connect app certificate).apps.get? other =
      if other = app then
        some (match service.apps.get? app with
          | some record => { record with certificate := certificate }
          | none => ⟨certificate, none, []⟩)
      else service.apps.get? other := by
  unfold connect modifyApp
  -- One that connected before is changed in place, a new one is put in.
  cases hrecord : service.apps.get? app with
  | some record =>
    simp only [SortedMap.modify_eq_insert hrecord]
    split
    next h => rw [h, SortedMap.get?_insert_self]
    next h => rw [SortedMap.get?_insert_of_ne _ h]
  | none =>
    simp only
    split
    next h => rw [h, SortedMap.get?_insert_self]
    next h => rw [SortedMap.get?_insert_of_ne _ h]

theorem get?_attach (service : Service S) (app other : String) (sink : S) :
    (service.attach app sink).apps.get? other =
      if other = app then (service.apps.get? app).map ({ · with sink := some sink })
      else service.apps.get? other := by
  unfold attach modifyApp
  split
  next h => rw [h, SortedMap.get?_modify_self]
  next h => rw [SortedMap.get?_modify_of_ne _ h]

/-- Of an application two services know the same, up to its bindings. -/
def AlikeAt (service service' : Service S) (app : String) : Prop :=
  ∃ rebound : AppRecord S → List Binding, service'.apps.get? app =
    (service.apps.get? app).map fun record => { record with bindings := rebound record }

namespace AlikeAt

variable {service' : Service S}

theorem of_eq (h : service'.apps.get? app = service.apps.get? app) : AlikeAt service service' app := by
  refine ⟨(·.bindings), ?_⟩
  rw [h]
  cases service.apps.get? app with
  | none => rfl
  | some record => rfl

theorem trans {service'' : Service S} (h : AlikeAt service service' app)
    (h' : AlikeAt service' service'' app) : AlikeAt service service'' app := by
  rcases h with ⟨first, hfirst⟩
  rcases h' with ⟨second, hsecond⟩
  refine ⟨fun record => second { record with bindings := first record }, ?_⟩
  rw [hsecond, hfirst, Option.map_map]
  rfl

theorem certificate? (h : AlikeAt service service' app) :
    service'.certificate? app = service.certificate? app := by
  rcases h with ⟨rebound, h⟩
  unfold Service.certificate?
  rw [h, Option.map_map]
  rfl

theorem sink? (h : AlikeAt service service' app) : service'.sink? app = service.sink? app := by
  rcases h with ⟨rebound, h⟩
  unfold Service.sink?
  rw [h]
  cases service.apps.get? app with
  | none => rfl
  | some record => rfl

end AlikeAt

theorem alikeAt_bind (service : Service S) (app name : String) (domain : TrustDomain)
    (other : String) : AlikeAt service (service.bind app name domain).2 other := by
  rcases bind_cases service app name domain with
    ⟨-, hrun⟩ | ⟨id, -, hrun⟩ | ⟨record, hrecord, -, hrun⟩
  · exact .of_eq (by rw [hrun])
  · exact .of_eq (by rw [hrun])
  · rw [hrun]
    by_cases hother : other = app
    · refine ⟨fun record => record.bindings ++ [⟨domain, name, ⟨service.lastId + 1⟩⟩], ?_⟩
      rw [get?_withFresh, if_pos hother, hother, hrecord]
      rfl
    · exact .of_eq (by rw [get?_withFresh, if_neg hother])

theorem alikeAt_unbind (service : Service S) (app : String) (id : PortId) (other : String) :
    AlikeAt service (service.unbind app id).2 other := by
  rcases unbind_cases service app id with
    ⟨-, hrun⟩ | ⟨record, -, -, hrun⟩ | ⟨record, b, hrecord, -, -, hrun⟩
  · exact .of_eq (by rw [hrun])
  · exact .of_eq (by rw [hrun])
  · rw [hrun]
    by_cases hother : other = app
    · refine ⟨fun record => record.bindings.filter (·.id != id), ?_⟩
      rw [get?_without, if_pos hother, hother, hrecord]
      rfl
    · exact .of_eq (by rw [get?_without, if_neg hother])

theorem certificate?_connect (service : Service S) (app certificate other : String) :
    (service.connect app certificate).certificate? other =
      if other = app then some certificate else service.certificate? other := by
  unfold certificate?
  rw [get?_connect]
  split
  · cases service.apps.get? app with
    | none => rfl
    | some record => rfl
  · rfl

/-- A new certificate is not seen by what looks at the sink and the bindings of a record only. -/
theorem bind_get?_connect {β : Type} {f : AppRecord S → Option β}
    (hf : ∀ record certificate, f { record with certificate := certificate } = f record)
    (hnew : ∀ certificate, f ⟨certificate, none, []⟩ = none) (service : Service S)
    (app certificate other : String) :
    ((service.connect app certificate).apps.get? other).bind f =
      (service.apps.get? other).bind f := by
  rw [get?_connect]
  split
  next h =>
    rw [h]
    cases service.apps.get? app with
    | none => exact hnew certificate
    | some record => exact hf record certificate
  next => rfl

theorem sink?_connect (service : Service S) (app certificate other : String) :
    (service.connect app certificate).sink? other = service.sink? other :=
  bind_get?_connect (fun _ _ => rfl) (fun _ => rfl) service app certificate other

theorem boundId?_connect (service : Service S) (app certificate other : String)
    (domain : TrustDomain) (name : String) :
    (service.connect app certificate).boundId? other domain name =
      service.boundId? other domain name :=
  bind_get?_connect (fun _ _ => rfl) (fun _ => rfl) service app certificate other

theorem certificate?_attach (service : Service S) (app : String) (sink : S) (other : String) :
    (service.attach app sink).certificate? other = service.certificate? other := by
  unfold certificate?
  rw [get?_attach]
  split
  next h =>
    rw [h, Option.map_map]
    rfl
  next => rfl

theorem sink?_attach {sink found : S}
    (h : (service.attach app sink).sink? other = some found) :
    other = app ∧ found = sink ∨ service.sink? other = some found := by
  unfold sink? at h
  rw [get?_attach] at h
  split at h
  next hother =>
    cases hrecord : service.apps.get? app with
    | none =>
      rw [hrecord] at h
      cases h
    | some record =>
      rw [hrecord] at h
      cases h
      exact .inl ⟨hother, rfl⟩
  next => exact .inr h

theorem boundId?_attach (service : Service S) (app : String) (sink : S) (other : String)
    (domain : TrustDomain) (name : String) :
    (service.attach app sink).boundId? other domain name = service.boundId? other domain name := by
  unfold boundId?
  rw [get?_attach]
  split
  next h =>
    rw [h]
    cases service.apps.get? app with
    | none => rfl
    | some record => rfl
  next => rfl

/-- A fresh binding is seen under its own key only. -/
theorem boundId?_withFresh (hrecord : service.apps.get? app = some record)
    (hfree : record.idOf? domain name = none) (other : String) (d : TrustDomain) (n : String) :
    (service.withFresh app record domain name).boundId? other d n =
      if other = app ∧ d = domain ∧ n = name then some ⟨service.lastId + 1⟩
      else service.boundId? other d n := by
  unfold boundId?
  rw [get?_withFresh]
  by_cases hother : other = app
  · subst hother
    -- The new binding comes last, so it is found where nothing was found before.
    have hidOf : ({ record with bindings := record.bindings ++
        [⟨domain, name, ⟨service.lastId + 1⟩⟩] } : AppRecord S).idOf? d n =
          (record.idOf? d n).or
            (if d = domain ∧ n = name then some ⟨service.lastId + 1⟩ else none) := by
      unfold AppRecord.idOf?
      rw [List.find?_append, Option.map_or]
      congr 1
      by_cases hkey : d = domain ∧ n = name
      · rcases hkey with ⟨rfl, rfl⟩
        simp
      · have hkey' : ¬ (domain = d ∧ name = n) := fun h => hkey ⟨h.1.symm, h.2.symm⟩
        simp [hkey, hkey']
    rw [if_pos rfl, Option.bind_some, hidOf, hrecord, Option.bind_some]
    by_cases hkey : d = domain ∧ n = name
    · rcases hkey with ⟨rfl, rfl⟩
      simp [hfree]
    · simp [hkey]
  · simp [hother]

/-- A release is seen only under the keys of the id. -/
theorem boundId?_without (hrecord : service.apps.get? app = some record)
    (hnames : record.NamesOnce) (id : PortId) (other : String) (d : TrustDomain) (n : String) :
    (service.without app record id).boundId? other d n =
      if other = app then (service.boundId? other d n).filter (· != id)
      else service.boundId? other d n := by
  unfold boundId?
  rw [get?_without]
  by_cases hother : other = app
  · subst hother
    rw [if_pos rfl, if_pos rfl, hrecord, Option.bind_some, Option.bind_some]
    let kept : AppRecord S := { record with bindings := record.bindings.filter (·.id != id) }
    have hkept : kept.NamesOnce := hnames.sublist List.filter_sublist
    -- As names are bound once each, to be found is to be in the list, and lists can be filtered.
    apply Option.ext
    intro found
    show kept.idOf? d n = some found ↔ _
    rw [AppRecord.idOf?_eq_some_iff hkept, Option.filter_eq_some_iff,
      AppRecord.idOf?_eq_some_iff hnames]
    exact List.mem_filter
  · simp [hother]

theorem boundId?_bind_of_ne (h : other ≠ app) (name : String) (domain d : TrustDomain) (n : String) :
    (service.bind app name domain).2.boundId? other d n = service.boundId? other d n := by
  rcases bind_cases service app name domain with
    ⟨-, hrun⟩ | ⟨id, -, hrun⟩ | ⟨record, hrecord, hfree, hrun⟩
  · rw [hrun]
  · rw [hrun]
  · rw [hrun, boundId?_withFresh hrecord hfree, if_neg (fun hkey => h hkey.1)]

theorem boundId?_unbind_of_ne (h : other ≠ app) (id : PortId) (d : TrustDomain) (n : String) :
    (service.unbind app id).2.boundId? other d n = service.boundId? other d n := by
  rcases unbind_cases service app id with
    ⟨-, hrun⟩ | ⟨record, -, -, hrun⟩ | ⟨record, b, -, -, -, hrun⟩
  · rw [hrun]
  · rw [hrun]
  · rw [hrun]
    unfold boundId?
    rw [get?_without, if_neg h]

/-! ## The number of bindings -/

theorem boundCount_insert (service : Service S) (app : String) (record : AppRecord S)
    (lastId : Int32) :
    ({ service with lastId := lastId, apps := service.apps.insert app record }).boundCount +
        (service.apps.get? app).elim 0 (·.bindings.length) =
      service.boundCount + record.bindings.length :=
  SortedMap.tally_values_insert (fun r : AppRecord S => r.bindings.length) service.apps app record

/-- A service on which no name is bound has no bindings to count. -/
theorem boundCount_eq_zero (h : ∀ app d name, service.boundId? app d name = none) :
    service.boundCount = 0 := by
  refine tally_eq_zero fun record hmem => List.length_eq_zero_iff.2 ?_
  rcases SortedMap.mem_values_iff.1 hmem with ⟨app, hrecord⟩
  refine List.eq_nil_iff_forall_not_mem.2 fun b hb => ?_
  have hnone : record.idOf? b.domain b.name = none :=
    (boundId?_of_get? hrecord b.domain b.name).symm.trans (h app b.domain b.name)
  exact AppRecord.name_free hnone b hb ⟨rfl, rfl⟩

theorem boundCount_connect (service : Service S) (app certificate : String) :
    (service.connect app certificate).boundCount = service.boundCount := by
  unfold connect modifyApp
  cases hrecord : service.apps.get? app with
  | some record =>
    have hcount := service.boundCount_insert app { record with certificate := certificate }
      service.lastId
    simp only [SortedMap.modify_eq_insert hrecord]
    rw [hrecord] at hcount
    simpa using hcount
  | none =>
    have hcount := service.boundCount_insert app ⟨certificate, none, []⟩ service.lastId
    rw [hrecord] at hcount
    simpa using hcount

theorem boundCount_attach (service : Service S) (app : String) (sink : S) :
    (service.attach app sink).boundCount = service.boundCount := by
  unfold attach modifyApp
  cases hrecord : service.apps.get? app with
  | some record =>
    have hcount := service.boundCount_insert app { record with sink := some sink } service.lastId
    rw [SortedMap.modify_eq_insert hrecord]
    rw [hrecord] at hcount
    simpa using hcount
  | none => rw [SortedMap.modify_eq_self hrecord]

theorem boundCount_withFresh (hrecord : service.apps.get? app = some record) :
    (service.withFresh app record domain name).boundCount = service.boundCount + 1 := by
  have hcount := service.boundCount_insert app { record with bindings :=
    record.bindings ++ [⟨domain, name, ⟨service.lastId + 1⟩⟩] } (service.lastId + 1)
  -- The record that is replaced had one binding less.
  rw [hrecord] at hcount
  simp only [Option.elim_some, List.length_append, List.length_singleton] at hcount
  show Service.boundCount _ = _
  unfold withFresh
  omega

/-- A release takes one binding away, if the ids of the application are all different. -/
theorem boundCount_without (hrecord : service.apps.get? app = some record)
    (hids : (record.bindings.map (·.id)).Nodup) {b : Binding} (hb : b ∈ record.bindings) :
    (service.without app record b.id).boundCount + 1 = service.boundCount := by
  -- Only the binding itself has its id.
  have hfilter : record.bindings.filter (·.id != b.id) = record.bindings.erase b := by
    rw [hids.of_map.erase_eq_filter]
    refine List.filter_congr fun c hc => ?_
    have hinj : c.id = b.id → c = b := fun hid => List.inj_on_of_nodup_map hids hc hb hid
    rw [Bool.eq_iff_iff, bne_iff_ne, bne_iff_ne]
    exact ⟨fun hne heq => hne (congrArg _ heq), fun hne hid => hne (hinj hid)⟩
  have hlength : (record.bindings.filter (·.id != b.id)).length + 1 = record.bindings.length := by
    rw [hfilter, List.length_erase_of_mem hb]
    exact Nat.sub_add_cancel (List.length_pos_of_mem hb)
  have hcount := service.boundCount_insert app
    { record with bindings := record.bindings.filter (·.id != b.id) } service.lastId
  rw [hrecord] at hcount
  simp only [Option.elim_some] at hcount
  show Service.boundCount _ + 1 = _
  unfold without
  omega

/-! ## Routes -/

/-- An address that resolves is bound, and in the trusted domain both sides have one certificate. -/
theorem of_resolve {remote : RemoteAddress} {target : AppRecord S}
    (h : service.resolve app remote domain = .ok (id, target)) :
    service.apps.get? remote.app = some target ∧ target.idOf? domain remote.port = some id ∧
      (domain = .trusted → service.certificate? app = some target.certificate) := by
  unfold resolve at h
  cases hown : service.apps.get? app with
  | none => simp [hown] at h
  | some own =>
    cases htarget : service.apps.get? remote.app with
    | none => simp [hown, htarget] at h
    | some found =>
      cases hid : found.idOf? domain remote.port with
      | none => simp [hown, htarget, hid] at h
      | some bound =>
        -- Certificates are looked at last, when both sides are known.
        by_cases hcert : domain.isTrusted ∧ found.certificate ≠ own.certificate
        · simp [hown, htarget, hid, hcert] at h
        · simp only [hown, htarget, hid, if_neg hcert, Except.ok.injEq, Prod.mk.injEq] at h
          rcases h with ⟨rfl, rfl⟩
          refine ⟨rfl, hid, ?_⟩
          rintro rfl
          have hequal : own.certificate = found.certificate := by
            by_contra hne
            exact hcert ⟨rfl, Ne.symm hne⟩
          unfold certificate?
          rw [hown, ← hequal]
          rfl

theorem target_deliveryOf (target : PortId) (app : String) (reply : Option Binding)
    (payload : Payload) : (deliveryOf target app reply payload).target = target := by
  cases reply <;> rfl

theorem senderApp_deliveryOf (target : PortId) (app : String) (reply : Option Binding)
    (payload : Payload) : (deliveryOf target app reply payload).senderApp = app := by
  cases reply <;> rfl

theorem reply_deliveryOf (target : PortId) (app : String) (reply : Option Binding)
    (payload : Payload) :
    (deliveryOf target app reply payload).senderPort = reply.map (·.name) ∧
      (deliveryOf target app reply payload).senderTrusted =
        reply.elim false (·.domain.isTrusted) := by
  cases reply with
  | none => exact ⟨rfl, rfl⟩
  | some binding => exact ⟨rfl, rfl⟩

section Route

variable {alive : S → Bool} {remote : RemoteAddress} {payload : Payload} {binding : Option Binding}
  {sink : S} {event : DeliveryEvent}

/-- A message that finds its way has an address that resolves, and a sink that is alive takes it. -/
theorem of_route
    (h : service.route alive app remote domain payload binding = .ok (sink, event)) :
    ∃ id target, service.resolve app remote domain = .ok (id, target) ∧
      target.sink.filter alive = some sink ∧ event = deliveryOf id app binding payload := by
  unfold route at h
  -- The size comes first, then the address, then the sink.
  split at h
  · cases h
  · cases hresolve : service.resolve app remote domain with
    | error code => simp [hresolve] at h
    | ok found =>
      rcases found with ⟨id, target⟩
      cases hsink : target.sink.filter alive with
      | none => simp [hresolve, hsink] at h
      | some found =>
        simp only [hresolve, hsink, Except.ok.injEq, Prod.mk.injEq] at h
        rcases h with ⟨rfl, rfl⟩
        exact ⟨id, target, rfl, hsink, rfl⟩

/-- A delivery is for the id to which the address is bound. -/
theorem boundId?_of_route
    (h : service.route alive app remote domain payload binding = .ok (sink, event)) :
    service.boundId? remote.app domain remote.port = some event.target := by
  rcases of_route h with ⟨id, target, hresolve, -, rfl⟩
  rcases of_resolve hresolve with ⟨htarget, hid, -⟩
  calc
    service.boundId? remote.app domain remote.port
        = target.idOf? domain remote.port := boundId?_of_get? htarget domain remote.port
    _ = some id := hid
    _ = some (deliveryOf id app binding payload).target := by rw [target_deliveryOf]

/-- What `route` lets through may be sent. -/
theorem routes_of_route {reply : Option PortId} (hreply : service.Replies app reply binding)
    (h : service.route alive app remote domain payload binding = .ok (sink, event)) :
    service.Routes app remote domain reply sink event := by
  have hbound := boundId?_of_route h
  rcases of_route h with ⟨id, target, hresolve, hsink, rfl⟩
  rcases of_resolve hresolve with ⟨htarget, -, hcertificate⟩
  refine ⟨hbound, ?_, senderApp_deliveryOf id app binding payload,
    ⟨binding, hreply, reply_deliveryOf id app binding payload⟩, ?_⟩
  · simpa [sink?, htarget] using (Option.filter_eq_some_iff.1 hsink).1
  · intro htrusted
    exact ⟨target.certificate, hcertificate htrusted, by simp [certificate?, htarget]⟩

end Route

end Service
end Loopback
end PortMessaging
