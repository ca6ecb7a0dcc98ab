import PortMessaging.Proofs.Attachments
import PortMessaging.Proofs.PortLifetimes

/-!
# StrandedPorts — ports whose binding went behind the back of the registry

A registry unregisters a port by releasing its id first.  So there are two reasons to answer that a port is
missing: the registry has no such port, or the service has no binding of its id.  After the second answer
the port is still active.  Other registries and bare endpoints of the application can bring that about, by
releasing the id (`Stranded`).

Ids are not minted twice, hence nobody can release the id of a stranded port ever again, and every later
attempt to unregister the port is answered in the same way.
-/

namespace PortMessaging
namespace Scenario
namespace World

open Loopback (PortKey keyOf? Service)
open Registry (Unregistration)

variable {w w₂ : World} {minted : List PortKey} {name app : String} {id : PortId} {domain : TrustDomain}
  {registry registry' : Registry} {translator : Translator} {handle : Handle} {n : Nat} {place : Place}
  {desk : Desk}

/-! ## One unregistration -/

/-- Over an honest transport a missing port is answered for one of two reasons, and then nothing has
changed. -/
theorem unregistration_missing {result : Except Fault (Except PortError PortEntry)}
    (h : Unregistration translator (tapped name app) id domain registry w result registry' w₂)
    (hun : w.Unscripted name) (hknown : (w.service.certificate? app).isSome) :
    (∀ missing, result = .ok (.error (.portNotFound missing)) ↔ id.isValid = true ∧
      (missing = .inDomain domain id ∧ registry.lookup id domain = none ∨
        missing = .reportedByTransport ∧ (registry.lookup id domain).isSome ∧
          w.service.binds app id = false)) ∧
    ((∃ missing, result = .ok (.error (.portNotFound missing))) →
      registry' = registry ∧ w₂.service = w.service) := by
  cases h with
  | idInvalid hid => simp [hid]
  | missing hid hlookup =>
    refine ⟨fun missing => ⟨?_, ?_⟩, fun _ => ⟨rfl, rfl⟩⟩
    · rintro ⟨⟩
      exact ⟨hid, .inl ⟨rfl, hlookup⟩⟩
    · rintro ⟨-, ⟨rfl, -⟩ | ⟨-, hactive, -⟩⟩
      · rfl
      · rw [hlookup] at hactive
        cases hactive
  | unbindBroke hid hlookup hunbind => cases (unbind_honest hun hunbind).1
  | unbindRefused hid hlookup hunbind =>
    rcases unbind_honest hun hunbind with ⟨hanswer, hservice⟩
    -- The application has connected, so the only refusal is that there is no such binding.
    rcases Service.unbind_known hknown id with ⟨-, hok⟩ | ⟨hunbound, hrefused⟩
    · rw [hok] at hanswer
      cases hanswer
    · rw [hrefused] at hanswer hservice
      cases hanswer
      refine ⟨fun missing => ⟨?_, ?_⟩, fun _ => ⟨rfl, hservice⟩⟩
      · rintro ⟨⟩
        exact ⟨hid, .inr ⟨rfl, Option.isSome_iff_exists.2 ⟨_, hlookup⟩, hunbound⟩⟩
      · rintro ⟨-, ⟨-, hnone⟩ | ⟨rfl, -⟩⟩
        · cases hlookup.symm.trans hnone
        · rfl
  | retired hid hlookup hunbind =>
    rcases unbind_honest hun hunbind with ⟨hanswer, -⟩
    rcases Service.unbind_known hknown id with ⟨hbound, -⟩ | ⟨-, hrefused⟩
    · simp [hlookup, hbound]
    · rw [hrefused] at hanswer
      cases hanswer

/-- What a desk does to unregister an id. -/
def Desk.unregistration (desk : Desk) (id : PortId) (domain : TrustDomain) :
    Effect World (Except PortError PortEntry) :=
  desk.onRegistry (Registry.unregister desk.messenger.translator desk.transport id domain)

/-- A port is active in the registry of a desk, but the application has no binding of its id. -/
structure Stranded (w : World) (desk : Desk) (app : String) (id : PortId) (domain : TrustDomain) :
    Prop where
  active : (((registryPart desk.site).get w).lookup id domain).isSome
  unbound : w.service.binds app id = false

/-- What a desk answers to an unregistration, if that is a missing port, and what it leaves behind. -/
theorem DeskAt.unregistration_missing (h : DeskAt w name handle n place desk)
    (hscript : handle.script = []) (hknown : (w.service.certificate? handle.app).isSome) (id : PortId)
    (domain : TrustDomain) :
    let before := (registryPart desk.site).get w
    let out := (desk.unregistration id domain).run w
    (∀ missing, out.result = .ok (.error (.portNotFound missing)) ↔ id.isValid = true ∧
      (missing = .inDomain domain id ∧ before.lookup id domain = none ∨
        missing = .reportedByTransport ∧ Stranded w desk handle.app id domain)) ∧
    ((∃ missing, out.result = .ok (.error (.portNotFound missing))) →
      (registryPart desk.site).get out.state = before ∧ out.state.service = w.service) := by
  intro before out
  have hends := Registry.unregister_unregistration desk.messenger.translator (tapped name handle.app)
    id domain place.registry w
  have hbefore : before = place.registry := h.registryPart_get
  have hrun := h.onRegistry_left
    (Registry.unregister desk.messenger.translator (tapped name handle.app) id domain)
    (unregistration_served hends).sites
  have hout : out = (desk.onRegistry (Registry.unregister desk.messenger.translator
      (tapped name handle.app) id domain)).run w := by
    unfold out Desk.unregistration
    rw [h.transport]
  rw [← hout] at hrun
  rcases hrun with ⟨hresult, hservice, hafter⟩
  rcases World.unregistration_missing hends (unscripted_of_get? h.holder hscript) hknown with
    ⟨hanswers, hleft⟩
  rw [hafter, hservice, hresult, hbefore]
  refine ⟨fun missing => (hanswers missing).trans ?_, hleft⟩
  -- To be stranded is said of the registry of the desk, which is that of its site.
  have hstranded : Stranded w desk handle.app id domain ↔
      (place.registry.lookup id domain).isSome ∧ w.service.binds handle.app id = false := by
    rw [← hbefore]
    exact ⟨fun h => ⟨h.active, h.unbound⟩, fun h => ⟨h.1, h.2⟩⟩
  rw [hstranded]

/-! ## Stranded ports over runs -/

/-- No application has a binding of an id that is gone. -/
theorem Gone.binds_eq_false (hgone : w.Gone id) (app : String) : w.service.binds app id = false := by
  rw [← Bool.not_eq_true, Service.binds_eq_true_iff]
  rintro ⟨record, hrecord, b, hb, rfl⟩
  exact hgone ⟨app, b.domain, b.name⟩ (Service.mem_ports_iff.2 ⟨record, hrecord, hb⟩)

/-- The id of a stranded port is gone: it was minted for the application of the registry, so nobody else
has a binding of it either. -/
theorem Filed.gone (hfiled : w.Filed minted) (h : Sound minted w) (hplace : w.places[n]? = some place)
    {entry : PortEntry} (hlookup : place.registry.lookup id domain = some entry)
    (hunbound : w.service.binds place.app id = false) : w.Gone id := by
  have hkey : keyOf? minted id = some ⟨place.app, domain, entry.name⟩ :=
    hfiled n place hplace domain id entry hlookup
  intro key hport
  rcases Service.mem_ports_iff.1 hport with ⟨record, hrecord, hb⟩
  have hsame := Option.some.inj (hkey.symm.trans (h.minted.keys hrecord _ hb))
  have happ : place.app = key.app := congrArg PortKey.app hsame
  have hbinds : w.service.binds place.app id = true := by
    rw [happ]
    exact Service.binds_eq_true_iff.2 ⟨record, hrecord, _, hb, rfl⟩
  rw [hunbound] at hbinds
  cases hbinds

/-- What is gone stays gone in a run. -/
theorem Gone.after (hgone : w.Gone id) (h : Sound minted w) {key : PortKey}
    (hkey : keyOf? minted id = some key) (moves : List Move)
    (hroom : minted.length + w.freshBindings moves < 2 ^ 31) : (w.after moves).Gone id := by
  let P : List PortKey → List Move → World → Prop := fun account _ w =>
    keyOf? account id = some key ∧ w.Gone id
  have hstep : ∀ {account more : List PortKey} {w : World} {move : Move} {rest : List Move},
      Stepped account more w move → P account (move :: rest) w →
        P (account ++ more) rest (w.next move) := by
    rintro account more w move rest hstepped ⟨hkey, hgone⟩
    exact ⟨Loopback.keyOf?_append hkey more, hgone.next hstepped.before hkey hstepped.room⟩
  rcases h.run hstep moves hroom ⟨hkey, hgone⟩ with ⟨-, -, -, -, hend⟩
  exact hend

theorem honest_initial (limit : Nat) : (initial limit).Honest := by
  intro name handle h
  cases h

theorem Honest.after (h : w.Honest) (moves : List Move)
    (hmoves : ∀ move ∈ moves, ∀ name, move.binder? ≠ some (name, .script)) :
    (w.after moves).Honest := by
  induction moves generalizing w with
  | nil => exact h
  | cons move rest ih =>
    rcases List.forall_mem_cons.1 hmoves with ⟨hmove, hrest⟩
    exact ih (h.next hmove) hrest

/-- Let registries and bare endpoints of any applications bind and release in any order, over honest
transports.  A desk answers that a valid id is missing in a domain for one of two reasons, told apart by
what the error says: its registry has no such port, or the port is stranded.  Such an answer changes
neither the registry nor the service.  So the registry has no such port afterwards exactly if the error
names the domain and the id; a stranded port is active as before.

A stranded port stays so.  As long as fewer than 2³¹ ids are minted, whatever happens later, to unregister
its id is answered in the same way and changes nothing, at every desk and in every domain in which a
registry has the id active. -/
theorem missing_ports_over_runs (limit : Nat) (moves : List Move)
    (hhonest : ∀ move ∈ moves, ∀ name, move.binder? ≠ some (name, .script)) {name : String}
    {handle : Handle} {desk : Desk}
    (hhandle : ((initial limit).after moves).handles.get? name = some handle)
    (hdesk : ((initial limit).after moves).deskOf? name handle = some desk) (id : PortId)
    (domain : TrustDomain) :
    let w := (initial limit).after moves
    let before := (registryPart desk.site).get w
    let out := (desk.unregistration id domain).run w
    let after := (registryPart desk.site).get out.state
    (∀ missing, out.result = .ok (.error (.portNotFound missing)) ↔ id.isValid = true ∧
      (missing = .inDomain domain id ∧ before.lookup id domain = none ∨
        missing = .reportedByTransport ∧ Stranded w desk handle.app id domain)) ∧
    (∀ missing, out.result = .ok (.error (.portNotFound missing)) →
      after = before ∧ out.state.service = w.service ∧
        (after.lookup id domain = none ↔ missing = .inDomain domain id)) ∧
    (Stranded w desk handle.app id domain → ∀ later,
      (∀ move ∈ later, ∀ name, move.binder? ≠ some (name, .script)) →
      (initial limit).freshBindings (moves ++ later) < 2 ^ 31 →
      let v := (initial limit).after (moves ++ later)
      ∀ name handle desk d, v.handles.get? name = some handle → v.deskOf? name handle = some desk →
        (((registryPart desk.site).get v).lookup id d).isSome →
        let out := (desk.unregistration id d).run v
        out.result = .ok (.error (.portNotFound .reportedByTransport)) ∧
          (registryPart desk.site).get out.state = (registryPart desk.site).get v) := by
  intro w before out after
  have hunscripted : w.Honest := (honest_initial limit).after moves hhonest
  have hknown := (acquainted_initial limit).after moves
  rcases deskAt_of_deskOf? hhandle hdesk with ⟨n, place, hat⟩
  rcases hat.unregistration_missing (hunscripted name handle hhandle) (hknown name handle hhandle) id
    domain with ⟨hanswers, hleft⟩
  refine ⟨hanswers, ?_, ?_⟩
  · intro missing hmissing
    rcases hleft ⟨missing, hmissing⟩ with ⟨hregistry, hservice⟩
    refine ⟨hregistry, hservice, ?_⟩
    show ((registryPart desk.site).get out.state).lookup id domain = none ↔ _
    rw [hregistry]
    rcases ((hanswers missing).1 hmissing).2 with ⟨hname, hnone⟩ | ⟨hname, hstranded⟩
    · exact ⟨fun _ => hname, fun _ => hnone⟩
    · refine ⟨fun hnone => ?_, fun hother => ?_⟩
      · have hactive := hstranded.active
        rw [hnone] at hactive
        cases hactive
      · cases hname.symm.trans hother
  · intro hstranded later hlater hroom v name' handle' desk' d hhandle' hdesk' hactive'
    -- The run up to now, with the account of its ids.
    have hsplit := (initial limit).freshBindings_append moves later
    have hstart : ([] : List PortKey).length + (initial limit).freshBindings moves < 2 ^ 31 := by
      rw [List.length_nil]
      omega
    rcases filed_after moves hhonest (sound_initial limit) nofun nofun hstart with
      ⟨minted, hlength, hsound, -, hfiled⟩
    rw [List.nil_append] at hsound hfiled
    rcases Option.isSome_iff_exists.1 hstranded.active with ⟨entry, hlookup⟩
    rw [hat.registryPart_get] at hlookup
    have hunbound : w.service.binds place.app id = false := by
      rw [app_of_seat hsound hhandle hat.site hat.place]
      exact hstranded.unbound
    have hgone : w.Gone id := hfiled.gone hsound hat.place hlookup hunbound
    have hkey := hfiled n place hat.place domain id entry hlookup
    have hgone' : v.Gone id := by
      show ((initial limit).after (moves ++ later)).Gone id
      rw [after_append]
      refine hgone.after hsound hkey later ?_
      rw [hlength, ← hsplit]
      exact hroom
    have hhonest' : ∀ move ∈ moves ++ later, ∀ name, move.binder? ≠ some (name, .script) :=
      List.forall_mem_append.2 ⟨hhonest, hlater⟩
    have hunscripted' : v.Honest := (honest_initial limit).after _ hhonest'
    have hknown' := (acquainted_initial limit).after (moves ++ later)
    rcases deskAt_of_deskOf? hhandle' hdesk' with ⟨n', place', hat'⟩
    rcases hat'.unregistration_missing (hunscripted' name' handle' hhandle')
      (hknown' name' handle' hhandle') id d with ⟨hanswers', hleft'⟩
    have hvalid : id.isValid = true := by
      simpa [PortId.isValid] using Loopback.positive_of_keyOf? hkey
    have hresult := (hanswers' .reportedByTransport).2
      ⟨hvalid, .inr ⟨rfl, hactive', hgone'.binds_eq_false handle'.app⟩⟩
    exact ⟨hresult, (hleft' ⟨_, hresult⟩).1⟩

/-- A registry registers a port, and a bare endpoint of the same application releases its id. -/
def releasedBehind : List Move :=
  [.connect "alice" "app.a" "certificate" .defaults .threaded true,
   .connectEndpoint "raw" "app.a" "certificate",
   .act none (.onMessenger "alice" (.register "inbox" false false (.fresh "listener" none [] 0))),
   .act none (.onEndpoint "raw" (.unbind ⟨1⟩))]

/-- The port is asked to be unregistered, and its name is bound anew. -/
def reboundLater : List Move :=
  [.act none (.onMessenger "alice" (.unregister ⟨1⟩ false false)),
   .act none (.onEndpoint "raw" (.bind "inbox" .openToAll))]

/-- The port of the registry is stranded; an unregistration leaves it active, and so does another one after
its name was bound anew, while the id that is bound now is missing. -/
theorem missing_ports_in_releasedBehind :
    let w := (initial 100).after releasedBehind
    let v := (initial 100).after (releasedBehind ++ reboundLater)
    ∃ desk, w.deskOf? "alice" ⟨"app.a", some 0, none, []⟩ = some desk ∧
      Stranded w desk "app.a" ⟨1⟩ .openToAll ∧
      ((desk.unregistration ⟨1⟩ .openToAll).run w).result =
        .ok (.error (.portNotFound .reportedByTransport)) ∧
      ((registryPart desk.site).get ((desk.unregistration ⟨1⟩ .openToAll).run w).state).lookup ⟨1⟩
        .openToAll ≠ none ∧
      v.service.boundId? "app.a" .openToAll "inbox" = some ⟨2⟩ ∧
      ((desk.unregistration ⟨1⟩ .openToAll).run v).result =
        .ok (.error (.portNotFound .reportedByTransport)) := by
  intro w v
  let alice : Handle := ⟨"app.a", some 0, none, []⟩
  let desk : Desk := ⟨⟨.defaults⟩, 0, tapped "alice" "app.a"⟩
  have hhonest : ∀ move ∈ releasedBehind, ∀ name, move.binder? ≠ some (name, .script) := by
    simp [releasedBehind, Move.binder?]
  have hlater : ∀ move ∈ reboundLater, ∀ name, move.binder? ≠ some (name, .script) := by
    simp [reboundLater, Move.binder?]
  have hhandle : w.handles.get? "alice" = some alice := rfl
  have hdesk : w.deskOf? "alice" alice = some desk := rfl
  have hstranded : Stranded w desk "app.a" ⟨1⟩ .openToAll := ⟨by decide +kernel, by decide +kernel⟩
  rcases missing_ports_over_runs 100 releasedBehind hhonest hhandle hdesk ⟨1⟩ .openToAll with
    ⟨hanswers, hleft, hstays⟩
  have hresult := (hanswers .reportedByTransport).2 ⟨by decide, .inr ⟨rfl, hstranded⟩⟩
  rcases hleft _ hresult with ⟨-, -, hnone⟩
  rcases hstays hstranded reboundLater hlater (by decide +kernel) "alice" alice desk .openToAll rfl rfl
    (by decide +kernel) with ⟨hagain, -⟩
  refine ⟨desk, hdesk, hstranded, hresult, ?_, by decide +kernel, hagain⟩
  intro hmissing
  cases hnone.1 hmissing

/-- That a port is missing does not tell that the registry has it no longer. -/
theorem stranded_port_survives_unregistration :
    let w := (initial 100).after releasedBehind
    let out := ((⟨⟨.defaults⟩, 0, tapped "alice" "app.a"⟩ : Desk).unregistration ⟨1⟩ .openToAll).run w
    (∀ move ∈ releasedBehind, ∀ name, move.binder? ≠ some (name, .script)) ∧
      w.deskOf? "alice" ⟨"app.a", some 0, none, []⟩ = some ⟨⟨.defaults⟩, 0, tapped "alice" "app.a"⟩ ∧
      out.result = .ok (.error (.portNotFound .reportedByTransport)) ∧
      ((registryPart 0).get out.state).lookup ⟨1⟩ .openToAll =
        some ⟨⟨1⟩, "inbox", .openToAll, .oneWay 0, .active⟩ := by
  refine ⟨?_, rfl, by decide +kernel, by decide +kernel⟩
  simp [releasedBehind, Move.binder?]

end World
end Scenario
end PortMessaging
