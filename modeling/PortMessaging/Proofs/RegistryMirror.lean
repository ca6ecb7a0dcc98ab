import PortMessaging.Proofs.MirroredPorts
import PortMessaging.Proofs.SoundWorlds

/-!
# RegistryMirror — the registry of an application and the service never drift apart

An application that starts without bindings and leaves all binding and releasing to the registry of one
site (`SoleRun`) has the ports of that registry bound on the service, and nothing else, after every move,
whatever other applications do.  Then registering and unregistering succeed exactly when they should, a
name keeps its id, and a new name gets an id that was never used.  If every application is like that, then
the service has as many bindings as all registries have ports.
-/

namespace PortMessaging
namespace Scenario
namespace World

open Loopback (PortKey Service)
open Registry (Registration Unregistration HonestRegistration HonestUnregistration Together)

variable {w w₁ w₂ w' : World} {move : Move} {minted : List PortKey} {app name : String} {n m : Nat}
  {handle : Handle} {place : Place} {registry' : Registry}

/-! ## Applications with one registry -/

/-- The ports that an application has at a site: none if the site is not one of its own. -/
def portsOf (w : World) (app : String) (n : Nat) : Registry :=
  ((w.places[n]?).filter (·.app == app)).elim .empty (·.registry)

/-- An application has no bindings, no ports at a site, and no scripts in its handles. -/
structure Fresh (w : World) (app : String) (n : Nat) : Prop where
  unbound : ∀ d name, w.service.boundId? app d name = none
  empty : w.portsOf app n = .empty
  plain : ∀ name handle, w.handles.get? name = some handle → handle.app = app → handle.script = []

/-- If a move works on the bindings of an application, it does so by the registry of a site. -/
def SoleMove (w : World) (app : String) (n : Nat) (move : Move) : Prop :=
  ∀ name kind handle, move.binder? = some (name, kind) → w.handles.get? name = some handle →
    handle.app = app → kind = .registry ∧ ∀ m, handle.site = some m → m = n

/-- In a run the registry of a site is all that works on the bindings of an application. -/
def SoleRun (app : String) (n : Nat) : World → List Move → Prop
  | _, [] => True
  | w, move :: rest => SoleMove w app n move ∧ SoleRun app n (w.next move) rest

/-- The number of active ports of all registries. -/
def portCount (w : World) : Nat := tally (·.registry.activeCount) w.sites

theorem portsOf_of_place (hplace : w.places[n]? = some place) (happ : place.app = app) :
    w.portsOf app n = place.registry := by
  have hown : (place.app == app) = true := by simpa using happ
  unfold portsOf
  rw [hplace, Option.filter_some, if_pos hown]
  rfl

theorem portsOf_of_ne (hplace : w.places[n]? = some place) (happ : place.app ≠ app) :
    w.portsOf app n = .empty := by
  have hother : ¬ (place.app == app) = true := by simpa using happ
  unfold portsOf
  rw [hplace, Option.filter_some, if_neg hother]
  rfl

theorem portsOf_of_places (hplaces : w'.places[n]? = w.places[n]?) :
    w'.portsOf app n = w.portsOf app n := by
  unfold portsOf
  rw [hplaces]

/-- Sites that are added without ports give no application any. -/
theorem portsOf_of_append {new : List Place} (hplaces : w'.places = w.places ++ new)
    (hnew : ∀ place ∈ new, place.registry = .empty) : w'.portsOf app n = w.portsOf app n := by
  rcases Nat.lt_or_ge n w.places.length with hlt | hge
  · refine portsOf_of_places ?_
    rw [hplaces, List.getElem?_append_left hlt]
  · have hbefore : w.portsOf app n = .empty := by
      unfold portsOf
      rw [List.getElem?_eq_none hge]
      rfl
    rw [hbefore]
    -- The site is a new one, or there is still none.
    cases hplace : w'.places[n]? with
    | none =>
      unfold portsOf
      rw [hplace]
      rfl
    | some place =>
      have hmem : place ∈ new := by
        rw [hplaces, List.getElem?_append_right hge] at hplace
        exact List.mem_of_getElem? hplace
      by_cases happ : place.app = app
      · exact (portsOf_of_place hplace happ).trans (hnew place hmem)
      · exact portsOf_of_ne hplace happ

/-- Empty registries and those of sound worlds are in order. -/
theorem Sound.portsOf_wellFormed (h : Sound minted w) (app : String) (n : Nat) :
    (w.portsOf app n).WellFormed := by
  cases hplace : w.places[n]? with
  | none =>
    unfold portsOf
    rw [hplace]
    exact .empty
  | some place =>
    by_cases happ : place.app = app
    · rw [portsOf_of_place hplace happ]
      exact h.registries n place hplace
    · rw [portsOf_of_ne hplace happ]
      exact .empty

theorem portCount_eq (w : World) : w.portCount = tally (·.registry.activeCount) w.places :=
  (tally_map (fun place : Place => place.registry.activeCount) Site.place w.sites).symm

theorem soleRun_append (w : World) (moves more : List Move) :
    SoleRun app n w (moves ++ more) ↔ SoleRun app n w moves ∧ SoleRun app n (w.after moves) more := by
  induction moves generalizing w with
  | nil => simp [SoleRun]
  | cons move rest ih => exact (and_congr_right fun _ => ih (w.next move)).trans and_assoc.symm

/-! ## The mirror over one move -/

/-- The ports of an application at a site are its bindings, and its handles have no scripts. -/
structure Mirrored (w : World) (app : String) (n : Nat) : Prop where
  ports : (w.portsOf app n).Mirrors w.service app
  plain : ∀ name handle, w.handles.get? name = some handle → handle.app = app → handle.script = []

theorem Mirrored.unscripted (h : Mirrored w handle.app n) (hhandle : w.handles.get? name = some handle) :
    w.Unscripted name :=
  unscripted_of_get? hhandle (h.plain name handle hhandle rfl)

theorem Fresh.mirrored (h : w.Fresh app n) : Mirrored w app n := by
  refine ⟨?_, h.plain⟩
  intro d name id
  rw [h.unbound, h.empty]
  constructor
  · intro hbound
    cases hbound
  · rintro ⟨entry, hlookup, -⟩
    cases d with
    | openToAll => cases hlookup
    | trusted => cases hlookup

/-- How a registry that mirrors an application changes over an honest service. -/
inductive HonestChange (move : Move) (app : String) (registry : Registry) (service : Service Sink) :
    Registry → Service Sink → Prop where
  | registered {port : String} {domain : TrustDomain} {offered : Option Listener}
      {answer : Except PortError PortId} {registry' : Registry} {service' : Service Sink}
      (h : HonestRegistration service app port domain registry offered answer registry' service') :
      HonestChange move app registry service registry' service'
  | unregistered {id : PortId} {domain : TrustDomain} {answer : Except PortError PortEntry}
      {registry' : Registry} {service' : Service Sink}
      (hasked : move.unregistration? = some (id, domain))
      (h : HonestUnregistration service app id domain registry answer registry' service') :
      HonestChange move app registry service registry' service'

theorem Changed.honest {registry : Registry}
    (h : Changed move (tapped name app) registry w₁ registry' w₂) (hun : w₁.Unscripted name)
    (hs : w₁.service.Minted minted) (hr : registry.WellFormed)
    (hmirrors : registry.Mirrors w₁.service app) (hknown : (w₁.service.certificate? app).isSome)
    (hroom : minted.length + (if w₂.service.lastId = w₁.service.lastId then 0 else 1) < 2 ^ 31) :
    HonestChange move app registry w₁.service registry' w₂.service := by
  cases h with
  | registered hends =>
    rcases registration_honest hends hun hs hr hmirrors hknown hroom with ⟨answer, -, hhonest⟩
    exact .registered hhonest
  | unregistered hasked hends =>
    rcases unregistration_honest hends hun hr hmirrors with ⟨answer, -, hhonest⟩
    exact .unregistered hasked hhonest

section Own

variable (h : Sound minted w) (hmirrored : Mirrored w handle.app m)
  (hhandle : w.handles.get? name = some handle) (hsite : handle.site = some m)
  (hplace : w.places[m]? = some place)

include h hmirrored hhandle hsite hplace in
theorem mirrors_place : place.registry.Mirrors w.service handle.app := by
  have hports := portsOf_of_place hplace (app_of_seat h hhandle hsite hplace)
  exact hports ▸ hmirrored.ports

include h hmirrored hhandle hsite hplace in
/-- The registry that mirrors an application changes in honest ways only. -/
theorem honest_of_changed (hquiet : Quiet w w₁)
    (hchanged : Changed move (tapped name handle.app) place.registry w₁ registry' w₂)
    (hset : w.next move = (registryPart m).set registry' w₂)
    (hroom : minted.length + w.freshBy move < 2 ^ 31) :
    HonestChange move handle.app place.registry w.service registry' (w.next move).service := by
  have hmirrors := mirrors_place h hmirrored hhandle hsite hplace
  have hservice : (w.next move).service = w₂.service := by
    rw [hset]
    rfl
  -- The quiet part before the change mints nothing, so the move mints what the change does.
  have hfresh : w.freshBy move = if w₂.service.lastId = w₁.service.lastId then 0 else 1 := by
    unfold freshBy
    rw [hservice, hquiet.service]
  have hun : w₁.Unscripted name := hquiet.handles.unscripted (hmirrored.unscripted hhandle)
  have hs : w₁.service.Minted minted := by
    rw [hquiet.service]
    exact h.minted
  have hhonest := hchanged.honest hun hs (h.registries m place hplace)
    (hquiet.service ▸ hmirrors) (hquiet.service ▸ h.known name handle hhandle) (hfresh ▸ hroom)
  rw [hquiet.service] at hhonest
  rw [hservice]
  exact hhonest

include h hmirrored hhandle hsite hplace in
/-- A change of the registry that mirrors an application changes the service along with it. -/
theorem together_of_changed (hquiet : Quiet w w₁)
    (hchanged : Changed move (tapped name handle.app) place.registry w₁ registry' w₂)
    (hset : w.next move = (registryPart m).set registry' w₂)
    (hroom : minted.length + w.freshBy move < 2 ^ 31) :
    Together handle.app place.registry w.service registry' (w.next move).service := by
  have hmirrors := mirrors_place h hmirrored hhandle hsite hplace
  have hhonest := honest_of_changed h hmirrored hhandle hsite hplace hquiet hchanged hset hroom
  cases hhonest with
  | registered hhonest => exact hhonest.together hmirrors
  | unregistered _ hhonest =>
    exact hhonest.together hmirrors (h.registries m place hplace) h.minted

end Own

/-- Who asks an endpoint directly works for an application that does not leave it to its registry. -/
theorem SoleMove.app_ne (hsole : SoleMove w app n move) {kind : Binder}
    (hbinder : move.binder? = some (name, kind)) (hkind : kind ≠ .registry)
    (hhandle : w.handles.get? name = some handle) : app ≠ handle.app := by
  intro happ
  exact hkind (hsole name kind handle hbinder hhandle happ.symm).1

/-- Whatever endpoints ask, the bindings of an application stay if it leaves them to its registry. -/
theorem Asked.boundId? {service : Service Sink} (h : Asked w move service)
    (hsole : SoleMove w app n move) (d : TrustDomain) (port : String) :
    service.boundId? app d port = w.service.boundId? app d port := by
  cases h with
  | nothing hservice => rw [hservice]
  | bound hbinder hhandle hservice =>
    have hother : app ≠ _ := hsole.app_ne hbinder (by decide) hhandle
    rw [hservice]
    exact Service.boundId?_bind_of_ne hother _ _ d port
  | unbound hbinder hhandle hservice =>
    have hother : app ≠ _ := hsole.app_ne hbinder (by decide) hhandle
    rw [hservice]
    exact Service.boundId?_unbind_of_ne hother _ d port
  | attached hservice =>
    rw [hservice]
    exact Service.boundId?_attach _ _ _ app d port

theorem ports_next (h : Sound minted w) (hmirrored : Mirrored w app n)
    (hsole : SoleMove w app n move) (hroom : minted.length + w.freshBy move < 2 ^ 31) :
    ((w.next move).portsOf app n).Mirrors (w.next move).service app := by
  cases next_deed w move with
  | kept hkept hasked =>
    have hports : (w.next move).portsOf app n = w.portsOf app n :=
      portsOf_of_places (by rw [hkept.places])
    rw [hports]
    exact hmirrored.ports.of_boundId? (hasked.boundId? hsole)
  | scripted _ _ _ hmodified =>
    rw [hmodified]
    exact hmirrored.ports
  | @changed name handle m place registry' w₁ w₂ hbinder hhandle hsite hplace hquiet hchanged hset =>
    have hturned := hchanged.turned hquiet m
    rw [← hset] at hturned
    have hseat : place.app = handle.app := app_of_seat h hhandle hsite hplace
    have hself := hturned.place_self hplace
    by_cases happ : handle.app = app
    · -- The application's own registry changed, and the service along with it.
      have hm : m = n := (hsole name .registry handle hbinder hhandle happ).2 m hsite
      subst hm
      subst happ
      have htogether := together_of_changed h hmirrored hhandle hsite hplace hquiet hchanged hset hroom
      rw [portsOf_of_place hself hseat]
      exact htogether.mirrors
    · -- The registry of another application changed, perhaps at the same number.
      have hports : (w.next move).portsOf app n = w.portsOf app n := by
        by_cases hm : m = n
        · subst hm
          have hother : place.app ≠ app := fun heq => happ (hseat.symm.trans heq)
          rw [portsOf_of_ne hself hother, portsOf_of_ne hplace hother]
        · exact portsOf_of_places (hturned.place_of_ne (Ne.symm hm))
      rw [hports]
      exact hmirrored.ports.of_boundId? fun d port =>
        hturned.service.boundId? (Ne.symm happ) d port
  | @connected name other certificate site new w₁ hservice hplaces hnew =>
    -- A connection adds no port and leaves every binding.
    have hempty : ∀ place ∈ new, place.registry = .empty := by
      intro place hplace
      rw [hnew place hplace]
    have hports : (w.next move).portsOf app n = w.portsOf app n := portsOf_of_append hplaces hempty
    rw [hports]
    refine hmirrored.ports.of_boundId? fun d port => ?_
    have hsame : (w.next move).service.boundId? app d port = _ :=
      view_of_connected (·.boundId? app d port) hservice fun _ =>
        Service.boundId?_attach _ _ _ _ _ _
    exact hsame.trans (Service.boundId?_connect _ _ _ _ _ _)

theorem plain_next (hmirrored : Mirrored w app n) (hsole : SoleMove w app n move) (name : String)
    (later : Handle) (hlater : (w.next move).handles.get? name = some later)
    (happ : later.app = app) : later.script = [] := by
  rcases handle_next w move hlater with ⟨earlier, hearlier, hsame, -, hscript⟩ | ⟨hscript, -⟩
  · -- Scripts count as work on the bindings of the application, so there were none.
    have hearlierApp : earlier.app = app := hsame.symm.trans happ
    refine hscript (fun hbinder => ?_) (hmirrored.plain name earlier hearlier hearlierApp)
    exact absurd (hsole name .script earlier hbinder hearlier hearlierApp).1 (by decide)
  · exact hscript

theorem Mirrored.next (hmirrored : Mirrored w app n) (h : Sound minted w)
    (hsole : SoleMove w app n move) (hroom : minted.length + w.freshBy move < 2 ^ 31) :
    Mirrored (w.next move) app n :=
  ⟨ports_next h hmirrored hsole hroom, plain_next hmirrored hsole⟩

/-! ## Counts over one move -/

/-- If every application leaves its bindings to one registry, then bindings and ports stay equally many. -/
theorem counts_next {sites : String → Nat} (h : Sound minted w)
    (hmirrored : ∀ app, Mirrored w app (sites app))
    (hsole : ∀ app, SoleMove w app (sites app) move)
    (hroom : minted.length + w.freshBy move < 2 ^ 31)
    (hcounts : w.service.boundCount = w.portCount) :
    (w.next move).service.boundCount = (w.next move).portCount := by
  rw [portCount_eq] at hcounts ⊢
  cases next_deed w move with
  | kept hkept hasked =>
    rw [hkept.places, ← hcounts]
    -- Every application leaves its bindings to its registry, so no endpoint was asked to bind.
    cases hasked with
    | nothing hservice => rw [hservice]
    | bound hbinder hhandle =>
      exact absurd rfl ((hsole _).app_ne hbinder (by decide) hhandle)
    | unbound hbinder hhandle =>
      exact absurd rfl ((hsole _).app_ne hbinder (by decide) hhandle)
    | attached hservice =>
      rw [hservice]
      exact Service.boundCount_attach _ _ _
  | scripted _ _ _ hmodified =>
    rw [hmodified]
    exact hcounts
  | @changed name handle m place registry' w₁ w₂ hbinder hhandle hsite hplace hquiet hchanged hset =>
    have hturned := hchanged.turned hquiet m
    rw [← hset] at hturned
    have hm : m = sites handle.app :=
      (hsole handle.app name .registry handle hbinder hhandle rfl).2 m hsite
    have hown : Mirrored w handle.app m := hm ▸ hmirrored handle.app
    have htogether := together_of_changed h hown hhandle hsite hplace hquiet hchanged hset hroom
    -- The change of the one registry is the change of the whole sum.
    have hbindings := htogether.counts
    have hports := tally_modify (fun place : Place => place.registry.activeCount)
      (fun place => ⟨place.app, registry'⟩) hplace
    rw [hturned.places]
    dsimp only at hports
    omega
  | @connected name other certificate site new w₁ hservice hplaces hnew =>
    have hzero : tally (fun place : Place => place.registry.activeCount) new = 0 := by
      refine tally_eq_zero fun place hplace => ?_
      rw [hnew place hplace]
      rfl
    have hsame : (w.next move).service.boundCount = _ :=
      view_of_connected (·.boundCount) hservice fun _ => Service.boundCount_attach _ _ _
    have hbindings : (w.next move).service.boundCount = w.service.boundCount :=
      hsame.trans (Service.boundCount_connect _ _ _)
    rw [hplaces, tally_append, hzero, hbindings]
    exact hcounts

/-! ## Runs -/

theorem Mirrored.after (hmirrored : Mirrored w app n) (h : Sound minted w) (moves : List Move)
    (hsole : SoleRun app n w moves) (hroom : minted.length + w.freshBindings moves < 2 ^ 31) :
    Mirrored (w.after moves) app n := by
  -- Carried along: the mirror, and that the rest of the run is the registry's alone.
  let P : List PortKey → List Move → World → Prop := fun _ rest w =>
    Mirrored w app n ∧ SoleRun app n w rest
  have hstep : ∀ {account more : List PortKey} {w : World} {move : Move} {rest : List Move},
      Stepped account more w move → P account (move :: rest) w →
        P (account ++ more) rest (w.next move) := by
    rintro account more w move rest hstepped ⟨hw, hmove, hrest⟩
    exact ⟨hw.next hstepped.before hmove hstepped.room, hrest⟩
  rcases h.run hstep moves hroom ⟨hmirrored, hsole⟩ with ⟨-, -, -, hend, -⟩
  exact hend

theorem counts_after {sites : String → Nat} (h : Sound minted w)
    (hmirrored : ∀ app, Mirrored w app (sites app)) (moves : List Move)
    (hsole : ∀ app, SoleRun app (sites app) w moves)
    (hroom : minted.length + w.freshBindings moves < 2 ^ 31)
    (hcounts : w.service.boundCount = w.portCount) :
    (w.after moves).service.boundCount = (w.after moves).portCount := by
  let P : List PortKey → List Move → World → Prop := fun _ rest w =>
    (∀ app, Mirrored w app (sites app)) ∧ (∀ app, SoleRun app (sites app) w rest) ∧
      w.service.boundCount = w.portCount
  have hstep : ∀ {account more : List PortKey} {w : World} {move : Move} {rest : List Move},
      Stepped account more w move → P account (move :: rest) w →
        P (account ++ more) rest (w.next move) := by
    rintro account more w move rest hstepped ⟨hw, hruns, hcount⟩
    refine ⟨fun app => (hw app).next hstepped.before (hruns app).1 hstepped.room,
      fun app => (hruns app).2, ?_⟩
    exact counts_next hstepped.before hw (fun app => (hruns app).1) hstepped.room hcount
  rcases h.run hstep moves hroom ⟨hmirrored, hsole, hcounts⟩ with ⟨-, -, -, -, -, hend⟩
  exact hend

theorem counts_of_empty (hunbound : ∀ app d name, w.service.boundId? app d name = none)
    (hempty : ∀ place ∈ w.places, place.registry = .empty) :
    w.service.boundCount = w.portCount := by
  have hports : w.portCount = 0 := by
    rw [portCount_eq]
    refine tally_eq_zero fun place hplace => ?_
    rw [hempty place hplace]
    rfl
  rw [hports]
  exact Service.boundCount_eq_zero hunbound

theorem freshBindings_le_of_isPrefix (w : World) {past moves : List Move} (h : past <+: moves) :
    w.freshBindings past ≤ w.freshBindings moves := by
  rcases h with ⟨later, rfl⟩
  rw [freshBindings_append]
  exact Nat.le_add_right _ _

/-- The next id is above all that were handed out, and no name was ever bound to it. -/
theorem next_unused (limit : Nat) {past moves : List Move} (hpast : past <+: moves)
    (hroom : (initial limit).freshBindings moves + 1 < 2 ^ 31) :
    let next : PortId := ⟨((initial limit).after moves).service.lastId + 1⟩
    ((initial limit).after past).service.lastId < next.value ∧
      ∀ owner d name, ((initial limit).after past).service.boundId? owner d name ≠ some next := by
  intro next
  have hle := (initial limit).freshBindings_le_of_isPrefix hpast
  rcases sound_after limit moves (by omega) with ⟨account, hlength, hsound⟩
  rcases sound_after limit past (by omega) with ⟨earlier, hearlier, hpastSound⟩
  -- The counter is as far as the account is long.
  have hnext : next.value.toInt = account.length + 1 :=
    Loopback.toInt_add_one hsound.minted.counter (by omega)
  have hlast : ((initial limit).after past).service.lastId.toInt = earlier.length :=
    hpastSound.minted.counter
  -- Both accounts are as long as there were fresh bindings, and the past had no more of them.
  refine ⟨?_, ?_⟩
  · rw [Int32.lt_iff_toInt_lt, hlast, hnext]
    omega
  · intro owner d name hbound
    -- An id that was bound stands in the account of its time.
    have hbelow := Loopback.le_of_keyOf? (hpastSound.minted.key_of_boundId? hbound)
    rw [hnext] at hbelow
    omega

/-! ## At a desk -/

section Desk

variable {desk : Desk} (h : Sound minted w) (hdesk : DeskAt w name handle n place desk)
  (hmirrored : Mirrored w handle.app n)

include h hdesk in
theorem portsOf_of_deskAt : w.portsOf handle.app n = place.registry :=
  portsOf_of_place hdesk.place (app_of_seat h hdesk.holder hdesk.site hdesk.place)

include h hdesk in
theorem portsOf_wellFormed : (w.portsOf handle.app n).WellFormed := by
  rw [portsOf_of_deskAt h hdesk]
  exact h.registries n place hdesk.place

include h hdesk in
/-- What is done on the registry of a desk is done on the ports that its application has there. -/
theorem run_onRegistry {α : Type} (x : Effect (Registry × World) α) :
    let inner := x.run (w.portsOf handle.app n, w)
    ((desk.onRegistry x).run w).result = inner.result ∧
      ((desk.onRegistry x).run w).state.service = inner.state.2.service := by
  have hget : (registryPart desk.site).get w = w.portsOf handle.app n := by
    rw [hdesk.number, portsOf_of_deskAt h hdesk]
    exact registryPart_get hdesk.place
  rw [← hget]
  exact ⟨rfl, rfl⟩

include h hdesk hmirrored in
theorem registering_honest (translator : Translator) (port : String) (domain : TrustDomain)
    (listener : Option Listener) :
    let out := (desk.onRegistry
      (Registry.register translator desk.transport port domain listener)).run w
    minted.length + (if out.state.service.lastId = w.service.lastId then 0 else 1) < 2 ^ 31 →
    ∃ answer registry', out.result = .ok answer ∧
      HonestRegistration w.service handle.app port domain (w.portsOf handle.app n) listener answer
        registry' out.state.service := by
  rw [hdesk.transport]
  intro out hroom
  rcases run_onRegistry h hdesk
    (Registry.register translator (tapped name handle.app) port domain listener) with
    ⟨hresult, hservice⟩
  -- Of all ends that a registration can have, the honest ones are left.
  have hends := Registry.register_registration translator (tapped name handle.app) port domain
    listener (w.portsOf handle.app n) w
  rw [hservice] at hroom
  rcases registration_honest hends (hmirrored.unscripted hdesk.holder) h.minted
    (portsOf_wellFormed h hdesk) hmirrored.ports (h.known name handle hdesk.holder) hroom with
    ⟨answer, hanswer, hhonest⟩
  rw [← hservice] at hhonest
  exact ⟨answer, _, hresult.trans hanswer, hhonest⟩

include h hdesk hmirrored in
theorem unregistering_honest (translator : Translator) (id : PortId) (domain : TrustDomain) :
    let out := (desk.onRegistry (Registry.unregister translator desk.transport id domain)).run w
    ∃ answer registry', out.result = .ok answer ∧
      HonestUnregistration w.service handle.app id domain (w.portsOf handle.app n) answer registry'
        out.state.service := by
  rw [hdesk.transport]
  intro out
  rcases run_onRegistry h hdesk
    (Registry.unregister translator (tapped name handle.app) id domain) with ⟨hresult, hservice⟩
  have hends := Registry.unregister_unregistration translator (tapped name handle.app) id domain
    (w.portsOf handle.app n) w
  rcases unregistration_honest hends (hmirrored.unscripted hdesk.holder)
    (portsOf_wellFormed h hdesk) hmirrored.ports with ⟨answer, hanswer, hhonest⟩
  rw [← hservice] at hhonest
  exact ⟨answer, _, hresult.trans hanswer, hhonest⟩

end Desk

/-! ## The registry and the service -/

/-- Let an application start fresh and leave its bindings to the registry of one site, in a run in which
fewer than 2³¹ ids are minted; what others do is free.  Then at its end:

* the names of the application that are bound on the service are those of its ports, with the same domains
  and ids;
* at a desk of that site, registering a name gives an id exactly if the name is not empty and there is a
  listener: the id of the name if it has one, and otherwise an id above all that were handed out, which no
  name was ever bound to; unregistering succeeds exactly if the id is active in the domain;
* if every application is like that and no registry had ports at the start, then there are as many bindings
  as ports. -/
theorem registry_mirrors_service_over_runs (limit : Nat) (before run : List Move) (app : String)
    (n : Nat) (hfresh : ((initial limit).after before).Fresh app n)
    (hsole : SoleRun app n ((initial limit).after before) run)
    (hfew : (initial limit).freshBindings (before ++ run) < 2 ^ 31) :
    let w := (initial limit).after (before ++ run)
    let ports := w.portsOf app n
    (∀ d name id, w.service.boundId? app d name = some id ↔
      ∃ entry, ports.lookup id d = some entry ∧ entry.name = name) ∧
    (∀ name handle desk, w.handles.get? name = some handle → handle.app = app →
      w.deskOf? name handle = some desk → desk.site = n →
      (∀ translator port d listener,
        let out := (desk.onRegistry
          (Registry.register translator desk.transport port d listener)).run w
        (initial limit).freshBindings (before ++ run) +
          (if out.state.service.lastId = w.service.lastId then 0 else 1) < 2 ^ 31 →
        ∃ answer, out.result = .ok answer ∧
          ((∃ id, answer = .ok id) ↔ port ≠ "" ∧ listener.isSome) ∧
          ∀ id, answer = .ok id →
            (∀ active entry, ports.lookup active d = some entry → entry.name = port →
              id = active) ∧
            ((∀ active entry, ports.lookup active d = some entry → entry.name ≠ port) →
              ∀ past, past <+: before ++ run →
                ((initial limit).after past).service.lastId < id.value ∧
                ∀ owner d' name', ((initial limit).after past).service.boundId? owner d' name' ≠
                  some id)) ∧
      (∀ translator id d,
        let out := (desk.onRegistry (Registry.unregister translator desk.transport id d)).run w
        ∃ answer, out.result = .ok answer ∧
          ((∃ entry, answer = .ok entry) ↔ (ports.lookup id d).isSome))) ∧
    (∀ sites : String → Nat, (∀ app, ((initial limit).after before).Fresh app (sites app)) →
      (∀ app, SoleRun app (sites app) ((initial limit).after before) run) →
      (∀ place ∈ ((initial limit).after before).places, place.registry = .empty) →
      w.service.boundCount = w.portCount) := by
  intro w ports
  have hsplit := (initial limit).freshBindings_append before run
  rcases sound_after limit before (by omega) with ⟨minted, hlength, hstart⟩
  rcases sound_after limit (before ++ run) hfew with ⟨account, haccount, hsound⟩
  have hw : w = ((initial limit).after before).after run := after_append _ _ _
  have hroom : minted.length + ((initial limit).after before).freshBindings run < 2 ^ 31 := by omega
  have hmirrored : Mirrored w app n := by
    rw [hw]
    exact hfresh.mirrored.after hstart run hsole hroom
  refine ⟨hmirrored.ports, ?_, ?_⟩
  · rintro name handle desk hhandle rfl hdesk rfl
    -- The desk is the one at which the sole registry of the application sits.
    rcases deskAt_of_deskOf? hhandle hdesk with ⟨n, place, hat⟩
    have hn := hat.number
    subst hn
    refine ⟨?_, ?_⟩
    · intro translator port d listener out hnext
      -- What is done at the desk is one more change after the run, with room of its own.
      have hcount : account.length +
          (if out.state.service.lastId = w.service.lastId then 0 else 1) < 2 ^ 31 := by
        rw [haccount]
        exact hnext
      rcases registering_honest hsound hat hmirrored translator port d listener hcount with
        ⟨answer, registry', hanswer, hhonest⟩
      refine ⟨answer, hanswer, hhonest.ok_iff, ?_⟩
      rintro id rfl
      refine ⟨?_, ?_⟩
      · intro active entry hlookup hname
        exact hhonest.id_eq hmirrored.ports (portsOf_wellFormed hsound hat) hlookup hname
      · intro hnone past hpast
        rcases hhonest.id_eq_next hnone with ⟨hid, hlast⟩
        have hmoved : out.state.service.lastId ≠ w.service.lastId := by
          rw [hlast]
          exact Loopback.add_one_ne _
        -- The counter went on, so there was room for the id.
        rw [if_neg hmoved] at hnext
        rw [hid]
        exact next_unused limit hpast hnext
    · intro translator id d out
      rcases unregistering_honest hsound hat hmirrored translator id d with
        ⟨answer, registry', hanswer, hhonest⟩
      exact ⟨answer, hanswer, hhonest.ok_iff⟩
  · intro sites hall hruns hempty
    have hcounts := counts_of_empty (fun app d name => (hall app).unbound d name) hempty
    rw [hw]
    exact counts_after hstart (fun app => (hall app).mirrored) run hruns hroom hcounts

theorem fresh_initial (limit : Nat) (app : String) (n : Nat) : (initial limit).Fresh app n where
  unbound _ _ := rfl
  empty := rfl
  plain _ _ h := nomatch h

theorem soleMove_of_binder?_eq_none (h : move.binder? = none) (w : World) (app : String) (n : Nat) :
    SoleMove w app n move := by
  intro name kind handle hbinder
  rw [h] at hbinder
  cases hbinder

/-- A change of the registry at the site of an application is one that it may make. -/
theorem soleMove_of_registry (hbinder : move.binder? = some (name, .registry))
    (hhandle : w.handles.get? name = some handle) {sites : String → Nat}
    (hsite : handle.site = some (sites handle.app)) (app : String) :
    SoleMove w app (sites app) move := by
  intro other kind found hother hfound happ
  rw [hbinder] at hother
  cases hother
  rw [hhandle] at hfound
  cases hfound
  refine ⟨rfl, fun m hm => ?_⟩
  -- The handle sits where its application has its site.
  rw [hsite, happ] at hm
  exact (Option.some.inj hm).symm

/-- Two applications that register and unregister ports. -/
def twoApplications : List Move :=
  [.connect "alice" "app.a" "certificate" .defaults .threaded true,
   .connect "bob" "app.b" "certificate" .defaults .polled true,
   .act none (.onMessenger "bob" (.register "inbox" true false (.fresh "listener" none [] 0))),
   .act none (.onMessenger "alice" (.register "outbox" false false (.tagged "listener"))),
   .act none (.onMessenger "alice" (.unregister ⟨2⟩ false false))]

theorem registry_mirrors_service_in_twoApplications :
    let w := (initial 100).after twoApplications
    (w.service.boundId? "app.b" .trusted "inbox" = some ⟨1⟩ ∧
      ∃ entry, (w.portsOf "app.b" 1).lookup ⟨1⟩ .trusted = some entry ∧ entry.name = "inbox") ∧
    (∃ handle desk id, w.handles.get? "bob" = some handle ∧ w.deskOf? "bob" handle = some desk ∧
      ((desk.onRegistry (Registry.register ⟨false⟩ desk.transport "news" .openToAll
        (some (.oneWay 0)))).run w).result = .ok (.ok id) ∧
      ∀ past, past <+: twoApplications →
        ((initial 100).after past).service.lastId < id.value) ∧
    w.service.boundCount = w.portCount := by
  let sites : String → Nat := fun app => if app = "app.a" then 0 else 1
  let alice : Handle := ⟨"app.a", some 0, none, []⟩
  let bob : Handle := ⟨"app.b", some 1, none, []⟩
  have hsole : ∀ app, SoleRun app (sites app) (initial 100) twoApplications := by
    intro app
    have hconnect : ∀ {move : Move}, move.binder? = none → ∀ w : World,
        SoleMove w app (sites app) move :=
      fun h w => soleMove_of_binder?_eq_none h w app (sites app)
    have hsites : alice.site = some (sites alice.app) ∧ bob.site = some (sites bob.app) := ⟨rfl, rfl⟩
    refine ⟨hconnect rfl _, hconnect rfl _, ?_, ?_, ?_, trivial⟩
    · exact soleMove_of_registry rfl rfl hsites.2 app
    · exact soleMove_of_registry rfl rfl hsites.1 app
    · exact soleMove_of_registry rfl rfl hsites.1 app
  have hfew : (initial 100).freshBindings twoApplications < 2 ^ 31 := by decide
  rcases registry_mirrors_service_over_runs 100 [] twoApplications "app.b" 1
    (fresh_initial 100 "app.b" 1) (hsole "app.b") hfew with ⟨hmirror, hdesks, hcounts⟩
  have hbound : ((initial 100).after twoApplications).service.boundId? "app.b" .trusted "inbox" =
      some ⟨1⟩ := by decide
  refine ⟨⟨hbound, (hmirror .trusted "inbox" ⟨1⟩).1 hbound⟩, ?_, ?_⟩
  · let desk : Desk := ⟨⟨.defaults⟩, 1, tapped "bob" "app.b"⟩
    rcases hdesks "bob" bob desk rfl rfl rfl rfl with ⟨hregister, -⟩
    have hroom : (initial 100).freshBindings twoApplications + 1 < 2 ^ 31 := by decide
    rcases hregister ⟨false⟩ "news" .openToAll (some (.oneWay 0)) hroom with
      ⟨answer, hresult, hok, hid⟩
    rcases hok.2 ⟨by decide, rfl⟩ with ⟨id, rfl⟩
    have hnone : ∀ active entry,
        (((initial 100).after twoApplications).portsOf "app.b" 1).lookup active .openToAll =
          some entry → entry.name ≠ "news" := by
      intro active entry hlookup
      cases hlookup
    refine ⟨bob, desk, id, rfl, rfl, hresult, ?_⟩
    intro past hpast
    exact ((hid id rfl).2 hnone past hpast).1
  · exact hcounts sites (fun app => fresh_initial 100 app (sites app)) hsole nofun

end World
end Scenario
end PortMessaging
