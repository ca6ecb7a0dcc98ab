import PortMessaging.Proofs.Deeds
import PortMessaging.Proofs.ServedRegistries

/-!
# SoundWorlds — what holds in every world that a scenario reaches

`Sound` collects the invariants of all runs: the service agrees with an account of the ids that it
minted, registries are in order, and handles and sinks belong to the sites of their own application.
`Filed` is about the entries of registries: an entry sits under an id that was minted for the
application of its site, its own domain and its own name.  That needs transports that are honest, so it
is kept only while no handle has a script.

Each part is proved to survive one move (`…_next`), and `Sound.after` carries them through a run, as long
as fewer than 2³¹ ids are minted.
-/

namespace PortMessaging
namespace Scenario
namespace World

open Loopback (PortKey Service)
open Loopback.Service (Minted)

variable {w w₁ w₂ w' : World} {move : Move} {minted : List PortKey} {app : String} {n : Nat}

/-- The application of a site. -/
def appAt? (w : World) (n : Nat) : Option String := (w.places[n]?).map (·.app)

/-- The entries of all registries sit under ids that were minted for them. -/
def Filed (minted : List PortKey) (w : World) : Prop :=
  ∀ (n : Nat) (place : Place), w.places[n]? = some place → FiledFor minted place.app place.registry

/-- No handle has a script. -/
def Honest (w : World) : Prop := ∀ name, w.Unscripted name

/-- What holds in every world that a scenario reaches. -/
structure Sound (minted : List PortKey) (w : World) : Prop where
  minted : w.service.Minted minted
  registries : ∀ (n : Nat) (place : Place), w.places[n]? = some place → place.registry.WellFormed
  /-- A handle sits at a site of its own application. -/
  seats : ∀ name handle n, w.handles.get? name = some handle → handle.site = some n →
    w.appAt? n = some handle.app
  /-- The application of a handle has connected. -/
  known : ∀ name handle, w.handles.get? name = some handle →
    (w.service.certificate? handle.app).isSome
  /-- A router that takes the deliveries of an application belongs to a site of that application. -/
  sinks : ∀ app n, w.service.sink? app = some (.router n) → w.appAt? n = some app

theorem sound_initial (maxPayloadBytes : Nat) : Sound [] (initial maxPayloadBytes) where
  minted := .empty maxPayloadBytes
  registries _ _ h := by cases h
  seats _ _ _ h := by cases h
  known _ _ h := by cases h
  sinks _ _ h := by cases h

/-- The place of a handle belongs to the application of the handle. -/
theorem app_of_seat (h : Sound minted w) {name : String} {handle : Handle} {place : Place}
    (hhandle : w.handles.get? name = some handle) (hsite : handle.site = some n)
    (hplace : w.places[n]? = some place) : place.app = handle.app := by
  have hseat := h.seats name handle n hhandle hsite
  unfold appAt? at hseat
  rw [hplace] at hseat
  exact Option.some.inj hseat

/-! ## Changes of the service and of a registry -/

theorem Asked.served_or_attached {service : Service Sink} (h : Asked w move service) :
    (∃ app, ServedBy app w.service service) ∨
      ∃ app number, service = w.service.attach app (.collector number) := by
  cases h with
  | nothing hservice =>
    rw [hservice]
    exact .inl ⟨"", .refl _ _⟩
  | bound _ _ hservice =>
    rw [hservice]
    exact .inl ⟨_, .bind _ _ _ _⟩
  | unbound _ _ hservice =>
    rw [hservice]
    exact .inl ⟨_, .unbind _ _ _⟩
  | attached hservice => exact .inr ⟨_, _, hservice⟩

/-- What does not look at sinks sees of a handle that was connected the connection only. -/
theorem view_of_connected {β : Type} (f : Service Sink → β) {certificate : String}
    {site : Option Nat} {s s' : Service Sink}
    (hservice : s' = s.connect app certificate ∨
      ∃ n, site = some n ∧ s' = (s.connect app certificate).attach app (.router n))
    (hattach : ∀ n, f ((s.connect app certificate).attach app (.router n)) =
      f (s.connect app certificate)) : f s' = f (s.connect app certificate) := by
  rcases hservice with rfl | ⟨n, -, rfl⟩
  · rfl
  · exact hattach n

/-- A world in which one registry was exchanged, while the service served its application. -/
structure Turned (w : World) (n : Nat) (app : String) (registry' : Registry) (w' : World) : Prop where
  places : w'.places = w.places.modify n fun place => ⟨place.app, registry'⟩
  handles : HandlesKept w w'
  waiting : ∀ k, w'.waitingAt k = w.waitingAt k
  service : ServedBy app w.service w'.service

theorem Changed.turned {name : String} {registry registry' : Registry} (hquiet : Quiet w w₁)
    (h : Changed move (tapped name app) registry w₁ registry' w₂) (n : Nat) :
    Turned w n app registry' ((registryPart n).set registry' w₂) := by
  have hserved : Served app w₁ w₂ := by
    cases h with
    | registered hends => exact registration_served hends
    | unregistered _ hends => exact unregistration_served hends
  have hsites : w₂.sites = w.sites := hserved.sites.trans hquiet.sites
  refine ⟨?_, hquiet.handles.trans hserved.handles, ?_, ?_⟩
  · rw [places_setRegistry]
    unfold places
    rw [hsites]
  · intro k
    -- The exchange keeps every queue, also the one of the site itself.
    let f : Site → Site := fun site => { site with registry := registry' }
    have hsame : w₂.waitingAt k = w.waitingAt k := by
      rw [waitingAt_eq, waitingAt_eq, hsites]
    show (w₂.modifySite n f).waitingAt k = _
    rw [← hsame]
    rcases waitingAt_modifySite w₂ n k f with hkeep | ⟨site, rfl, hsite, hchange⟩
    · exact hkeep
    · rw [hchange, waitingAt_eq, hsite]
      rfl
  · have hservice := hserved.service
    rw [hquiet.service] at hservice
    exact hservice

/-- A registry that changed is in order if it was before. -/
theorem Changed.wellFormed {transport : Transport World} {registry registry' : Registry}
    (h : Changed move transport registry w₁ registry' w₂) (hr : registry.WellFormed) :
    registry'.WellFormed := by
  cases h with
  | registered hends => exact hr.registration hends
  | unregistered _ hends => exact hr.unregistration hends

/-- What is at a site after its registry or that of another site was exchanged. -/
theorem Turned.place {registry' : Registry} (h : Turned w n app registry' w') {k : Nat}
    {place' : Place} (hplace : w'.places[k]? = some place') :
    ∃ place, w.places[k]? = some place ∧
      (k ≠ n ∧ place' = place ∨ k = n ∧ place' = ⟨place.app, registry'⟩) := by
  rw [h.places, List.getElem?_modify] at hplace
  rcases Option.map_eq_some_iff.1 hplace with ⟨place, hold, hchange⟩
  refine ⟨place, hold, ?_⟩
  -- Only the site that was turned has another registry.
  by_cases hk : k = n
  · rw [if_pos hk.symm] at hchange
    exact .inr ⟨hk, hchange.symm⟩
  · rw [if_neg (Ne.symm hk)] at hchange
    exact .inl ⟨hk, hchange.symm⟩

theorem Turned.place_self {registry' : Registry} (h : Turned w n app registry' w') {place : Place}
    (hplace : w.places[n]? = some place) : w'.places[n]? = some ⟨place.app, registry'⟩ := by
  rw [h.places, List.getElem?_modify_eq, hplace]
  rfl

theorem Turned.place_of_ne {registry' : Registry} (h : Turned w n app registry' w') {k : Nat}
    (hk : k ≠ n) : w'.places[k]? = w.places[k]? := by
  rw [h.places]
  exact List.getElem?_modify_ne _ _ (Ne.symm hk)

theorem Turned.appAt? {registry' : Registry} (h : Turned w n app registry' w') (k : Nat) :
    w'.appAt? k = w.appAt? k := by
  unfold World.appAt?
  rw [h.places, List.getElem?_modify]
  cases w.places[k]? with
  | none => rfl
  | some place =>
    by_cases hk : n = k
    · simp [hk]
    · simp [hk]

/-! ## Single parts over one move -/

/-- A site keeps its application. -/
theorem appAt?_next (w : World) (move : Move) (h : w.appAt? n = some app) :
    (w.next move).appAt? n = some app := by
  have hsame : ∀ {w' : World}, w'.places = w.places → w'.appAt? n = some app := by
    intro w' hplaces
    unfold appAt?
    rw [hplaces]
    exact h
  cases next_deed w move with
  | kept hkept => exact hsame hkept.places
  | scripted _ _ _ hmodified => exact hsame (by rw [hmodified]; rfl)
  | @changed name handle m place registry' w₁ w₂ _ _ _ _ hquiet hchanged hset =>
    have hturned := hchanged.turned hquiet m
    rw [hset]
    rw [hturned.appAt?]
    exact h
  | connected _ hplaces =>
    unfold appAt?
    rcases Option.map_eq_some_iff.1 h with ⟨old, hold, happ⟩
    -- New sites come behind the old ones.
    have hlt : n < w.places.length := (List.getElem?_eq_some_iff.1 hold).1
    rw [hplaces, List.getElem?_append_left hlt, hold, ← happ]
    rfl

/-- An application that has connected stays known. -/
theorem known_next (w : World) (move : Move) (h : (w.service.certificate? app).isSome) :
    ((w.next move).service.certificate? app).isSome := by
  have hserved : ∀ {s : Service Sink} {other}, ServedBy other w.service s →
      (s.certificate? app).isSome := by
    intro s other hserved
    rw [hserved.certificate?]
    exact h
  cases next_deed w move with
  | kept _ hasked =>
    rcases hasked.served_or_attached with ⟨other, hother⟩ | ⟨other, number, hservice⟩
    · exact hserved hother
    · rw [hservice, Service.certificate?_attach]
      exact h
  | scripted _ _ _ hmodified =>
    rw [hmodified]
    exact h
  | @changed name handle m place registry' w₁ w₂ _ _ _ _ hquiet hchanged hset =>
    rw [hset]
    exact hserved (hchanged.turned hquiet m).service
  | @connected name other certificate site new w₁ hservice =>
    have hsame : (w.next move).service.certificate? app = _ :=
      view_of_connected (·.certificate? app) hservice fun _ => Service.certificate?_attach _ _ _ _
    rw [hsame]
    rw [Service.certificate?_connect]
    split
    · rfl
    · exact h

/-- A router that takes deliveries did so before, or it belongs to the site that was just made. -/
theorem sink?_next (w : World) (move : Move)
    (h : (w.next move).service.sink? app = some (.router n)) :
    w.service.sink? app = some (.router n) ∨ (w.next move).appAt? n = some app := by
  have hserved : ∀ {other}, ServedBy other w.service (w.next move).service →
      w.service.sink? app = some (.router n) := by
    intro other hserved
    rw [← hserved.sink?]
    exact h
  cases next_deed w move with
  | kept _ hasked =>
    rcases hasked.served_or_attached with ⟨other, hother⟩ | ⟨other, number, hservice⟩
    · exact .inl (hserved hother)
    · rw [hservice] at h
      -- A collector is not a router.
      rcases Service.sink?_attach h with ⟨-, hcollector⟩ | hold
      · cases hcollector
      · exact .inl hold
  | scripted _ _ _ hmodified =>
    rw [hmodified] at h
    exact .inl h
  | @changed name handle m place registry' w₁ w₂ _ _ _ _ hquiet hchanged hset =>
    have hturned := hchanged.turned hquiet m
    rw [← hset] at hturned
    exact .inl (hserved hturned.service)
  | @connected name other certificate site new w₁ hservice _ _ hsite =>
    rcases hservice with hservice | ⟨m, hm, hservice⟩
    · rw [hservice, Service.sink?_connect] at h
      exact .inl h
    · rw [hservice] at h
      rcases Service.sink?_attach h with ⟨rfl, hrouter⟩ | hold
      · -- The router that was attached is the one of the new site.
        have hn : n = m := Sink.router.inj hrouter
        refine .inr ?_
        unfold appAt?
        rw [hsite n (hn ▸ hm)]
        rfl
      · rw [Service.sink?_connect] at hold
        exact .inl hold

/-- A handle goes on as it was, apart from its script, or it has just been made. -/
theorem handle_next (w : World) (move : Move) {name : String} {later : Handle}
    (h : (w.next move).handles.get? name = some later) :
    (∃ earlier, w.handles.get? name = some earlier ∧ later.app = earlier.app ∧
      (later.site = earlier.site ∨ later.site = none) ∧
      (move.binder? ≠ some (name, .script) → earlier.script = [] → later.script = [])) ∨
    (later.script = [] ∧ ((w.next move).service.certificate? later.app).isSome ∧
      ∀ n, later.site = some n → (w.next move).appAt? n = some later.app) := by
  have hkeeps : HandlesKept w (w.next move) → ∃ earlier, w.handles.get? name = some earlier ∧
      later.app = earlier.app ∧ (later.site = earlier.site ∨ later.site = none) ∧
      (move.binder? ≠ some (name, .script) → earlier.script = [] → later.script = []) := by
    intro hkept
    rcases hkept name later h with ⟨earlier, hearlier, hcontinues⟩
    exact ⟨earlier, hearlier, hcontinues.app, hcontinues.site, fun _ => hcontinues.script⟩
  cases next_deed w move with
  | kept hkept => exact .inl (hkeeps hkept.handles)
  | @scripted other f hbinder happ hsite hmodified =>
    rw [hmodified, get?_modifyHandle] at h
    split at h
    next hname =>
      rcases Option.map_eq_some_iff.1 h with ⟨earlier, hearlier, rfl⟩
      refine .inl ⟨earlier, hname ▸ hearlier, happ earlier, .inl (hsite earlier), ?_⟩
      -- A move that writes scripts is one of those that the last part leaves out.
      intro hne
      exact absurd (hname ▸ hbinder) hne
    next => exact .inl ⟨later, h, rfl, .inl rfl, fun _ hnil => hnil⟩
  | @changed other handle m place registry' w₁ w₂ _ _ _ _ hquiet hchanged hset =>
    have hturned := hchanged.turned hquiet m
    rw [← hset] at hturned
    exact .inl (hkeeps hturned.handles)
  | @connected other app certificate site new w₁ hservice _ _ hsite hhandles hinsert =>
    -- The handle that was connected is new; the others go on.
    by_cases hname : name = other
    · rw [hinsert, hname, SortedMap.get?_insert_self, Option.some.injEq] at h
      rw [← h]
      refine .inr ⟨rfl, ?_, ?_⟩
      · have hsame : (w.next move).service.certificate? app = _ :=
          view_of_connected (·.certificate? app) hservice fun _ => Service.certificate?_attach _ _ _ _
        show ((w.next move).service.certificate? app).isSome
        rw [hsame]
        rw [Service.certificate?_connect, if_pos rfl]
        rfl
      · intro n hn
        unfold appAt?
        rw [hsite n hn]
        rfl
    · rw [hinsert, SortedMap.get?_insert_of_ne _ hname] at h
      rcases hhandles name later h with ⟨earlier, hearlier, hcontinues⟩
      exact .inl ⟨earlier, hearlier, hcontinues.app, hcontinues.site, fun _ => hcontinues.script⟩

/-- No handle has a script as long as nobody writes one. -/
theorem Honest.next (h : w.Honest) (hmove : ∀ name, move.binder? ≠ some (name, .script)) :
    (w.next move).Honest := by
  intro name later hlater
  rcases handle_next w move hlater with ⟨earlier, hearlier, -, -, hscript⟩ | ⟨hscript, -⟩
  · exact hscript (hmove name) (h name earlier hearlier)
  · exact hscript

/-- Registries stay in order. -/
theorem registries_next
    (h : ∀ (n : Nat) (place : Place), w.places[n]? = some place → place.registry.WellFormed)
    (move : Move) (n : Nat) (place : Place) (hplace : (w.next move).places[n]? = some place) :
    place.registry.WellFormed := by
  cases next_deed w move with
  | kept hkept =>
    rw [hkept.places] at hplace
    exact h n place hplace
  | scripted _ _ _ hmodified =>
    rw [hmodified] at hplace
    exact h n place hplace
  | @changed name handle m old registry' w₁ w₂ _ _ _ hold hquiet hchanged hset =>
    have hturned := hchanged.turned hquiet m
    rw [hset] at hplace
    -- Either the site was left alone, or it has the registry that changed.
    rcases hturned.place hplace with ⟨before, hbefore, ⟨-, rfl⟩ | ⟨rfl, rfl⟩⟩
    · exact h n place hbefore
    · exact hchanged.wellFormed (h n old hold)
  | connected _ hplaces hnew =>
    rw [hplaces, List.getElem?_append] at hplace
    split at hplace
    · exact h n place hplace
    · rw [hnew place (List.mem_of_getElem? hplace)]
      exact .empty

theorem registries_after
    (h : ∀ (n : Nat) (place : Place), w.places[n]? = some place → place.registry.WellFormed)
    (moves : List Move) (n : Nat) (place : Place)
    (hplace : (w.after moves).places[n]? = some place) : place.registry.WellFormed := by
  induction moves generalizing w with
  | nil => exact h n place hplace
  | cons move rest ih => exact ih (registries_next h move) hplace

/-! ## The account of ids over one move -/

theorem Filed.of_places (h : w.Filed minted) (hplaces : w'.places = w.places)
    (more : List PortKey) : w'.Filed (minted ++ more) := by
  intro n place hplace
  rw [hplaces] at hplace
  exact (h n place hplace).append more

/-- A registry that changed over an honest transport keeps its entries filed. -/
theorem Changed.filed {name : String} {registry registry' : Registry}
    (h : Changed move (tapped name app) registry w₁ registry' w₂) (hun : w₁.Unscripted name)
    (hs : w₁.service.Minted minted) (hfiled : FiledFor minted app registry) :
    FiledAfter minted app w₁.service registry' w₂.service := by
  cases h with
  | registered hends => exact registration_filed hends hun hs hfiled
  | unregistered _ hends =>
    have hfiled' := unregistration_filed hends hfiled
    -- An unregistration mints nothing, but the service went on.
    rcases (unregistration_served hends).service.minted hs with ⟨more, hlength, hmore⟩
    exact ⟨more, hlength, fun hroom => ⟨hmore hroom, hfiled'.append more⟩⟩

/-- A move adds keys to the account of ids, as many as it makes fresh bindings.  If there is room for them,
the account agrees with the service then; and while no handle has a script, the entries of the registries
stay filed. -/
def Accounted (minted : List PortKey) (w w' : World) : Prop :=
  ∃ more : List PortKey,
    more.length = (if w'.service.lastId = w.service.lastId then 0 else 1) ∧
    (minted.length + more.length < 2 ^ 31 → w'.service.Minted (minted ++ more) ∧
      (w.Honest → w.Filed minted → w'.Filed (minted ++ more)))

/-- Where no registry changed, only the service matters. -/
theorem Accounted.of_served (hs : w.service.Minted minted) (hplaces : w'.places = w.places)
    (hserved : ServedBy app w.service w'.service) : Accounted minted w w' := by
  rcases hserved.minted hs with ⟨more, hlength, hmore⟩
  exact ⟨more, hlength, fun hroom => ⟨hmore hroom, fun _ hfiled => hfiled.of_places hplaces more⟩⟩

/-- No id was minted, and the registries that came are empty. -/
theorem Accounted.of_steady (hlast : w'.service.lastId = w.service.lastId)
    (hminted : w'.service.Minted minted) {new : List Place} (hplaces : w'.places = w.places ++ new)
    (hnew : ∀ place ∈ new, place.registry = .empty) : Accounted minted w w' := by
  refine ⟨[], (if_pos hlast).symm, fun _ => ?_⟩
  rw [List.append_nil]
  refine ⟨hminted, fun _ hfiled n place hplace => ?_⟩
  rw [hplaces, List.getElem?_append] at hplace
  split at hplace
  · exact hfiled n place hplace
  · rw [hnew place (List.mem_of_getElem? hplace)]
    exact .empty _ _

/-- The registry of a handle's site changed.  If all was honest and filed before, then the change was honest
too; otherwise only the service matters. -/
theorem Accounted.of_changed (h : Sound minted w) {name : String} {handle : Handle} {place : Place}
    {registry' : Registry} (hhandle : w.handles.get? name = some handle)
    (hsite : handle.site = some n) (hplace : w.places[n]? = some place) (hquiet : Quiet w w₁)
    (hchanged : Changed move (tapped name handle.app) place.registry w₁ registry' w₂)
    (hset : w' = (registryPart n).set registry' w₂) : Accounted minted w w' := by
  have hturned := hchanged.turned hquiet n
  rw [← hset] at hturned
  -- The stronger part needs that the world was honest and filed, and the key of the fresh id is
  -- known only then; so the two cases grow the account differently.
  by_cases hgood : w.Honest ∧ w.Filed minted
  · rcases hgood with ⟨hhonest, hfiled⟩
    have happ : place.app = handle.app := app_of_seat h hhandle hsite hplace
    have hun : w₁.Unscripted name := hquiet.handles.unscripted (hhonest name)
    have hs : w₁.service.Minted minted := by
      rw [hquiet.service]
      exact h.minted
    have hown : FiledFor minted handle.app place.registry := happ ▸ hfiled n place hplace
    rcases hchanged.filed hun hs hown with ⟨more, hlength, hmore⟩
    have hservice : w'.service = w₂.service := by
      rw [hset]
      rfl
    refine ⟨more, by rw [hservice, hlength, hquiet.service], fun hroom => ?_⟩
    rcases hmore hroom with ⟨hminted, hfiled'⟩
    refine ⟨hservice ▸ hminted, fun _ _ k later hlater => ?_⟩
    -- The entries of other sites were filed before; those of this one are by the change.
    rcases hturned.place hlater with ⟨before, hbefore, ⟨-, rfl⟩ | ⟨rfl, rfl⟩⟩
    · exact (hfiled k later hbefore).append more
    · rw [hplace] at hbefore
      cases hbefore
      rw [happ]
      exact hfiled'
  · rcases hturned.service.minted h.minted with ⟨more, hlength, hmore⟩
    refine ⟨more, hlength, fun hroom => ⟨hmore hroom, fun hhonest hfiled => ?_⟩⟩
    exact absurd ⟨hhonest, hfiled⟩ hgood

theorem accounted_next (h : Sound minted w) (move : Move) : Accounted minted w (w.next move) := by
  cases next_deed w move with
  | kept hkept hasked =>
    rcases hasked.served_or_attached with ⟨other, hother⟩ | ⟨other, number, hservice⟩
    · exact .of_served h.minted hkept.places hother
    · have hlast : (w.next move).service.lastId = w.service.lastId := by
        rw [hservice]
        rfl
      have hminted : (w.next move).service.Minted minted := by
        rw [hservice]
        exact h.minted.attach other (.collector number)
      have hplaces : (w.next move).places = w.places ++ [] := by
        rw [List.append_nil]
        exact hkept.places
      exact .of_steady hlast hminted hplaces nofun
  | scripted _ _ _ hmodified =>
    have hserved : ServedBy "" w.service (w.next move).service := by
      rw [hmodified]
      exact .refl _ _
    refine .of_served h.minted ?_ hserved
    rw [hmodified]
    rfl
  | changed _ hhandle hsite hplace hquiet hchanged hset =>
    exact .of_changed h hhandle hsite hplace hquiet hchanged hset
  | @connected name other certificate site new w₁ hservice hplaces hnew =>
    have hconnect := h.minted.connect other certificate
    have hlast : (w.service.connect other certificate).lastId = w.service.lastId := by
      unfold Service.connect
      cases w.service.apps.get? other with
      | none => rfl
      | some record => rfl
    have hempty : ∀ place ∈ new, place.registry = .empty := by
      intro place hplace
      rw [hnew place hplace]
    have hsame : (w.next move).service.lastId = _ :=
      view_of_connected (·.lastId) hservice fun _ => rfl
    have hminted : (w.next move).service.Minted minted := by
      rcases hservice with hservice | ⟨m, -, hservice⟩
      · rw [hservice]
        exact hconnect
      · rw [hservice]
        exact hconnect.attach other (.router m)
    exact .of_steady (hsame.trans hlast) hminted hplaces hempty

/-! ## Moves and runs -/

/-- A move between sound worlds: the account of ids grows by the keys of the fresh bindings, and the entries
of the registries stay filed while no handle has a script. -/
structure Stepped (minted more : List PortKey) (w : World) (move : Move) : Prop where
  before : Sound minted w
  length : more.length = w.freshBy move
  room : minted.length + w.freshBy move < 2 ^ 31
  after : Sound (minted ++ more) (w.next move)
  filed : w.Honest → w.Filed minted → (w.next move).Filed (minted ++ more)

/-- The invariants survive a move, as long as there is room for the id that it may mint. -/
theorem Sound.next (h : Sound minted w) (move : Move)
    (hroom : minted.length + w.freshBy move < 2 ^ 31) :
    ∃ more : List PortKey, Stepped minted more w move := by
  rcases accounted_next h move with ⟨more, hlength, hmore⟩
  have hlength' : more.length = w.freshBy move := hlength
  rcases hmore (hlength' ▸ hroom) with ⟨hminted, hfiled⟩
  refine ⟨more, h, hlength, hroom, ⟨hminted, registries_next h.registries move, ?_, ?_, ?_⟩, hfiled⟩
  · intro name later n hlater hsite
    rcases handle_next w move hlater with
      ⟨earlier, hearlier, happ, hsame | hnone, -⟩ | ⟨-, -, hnew⟩
    · rw [happ]
      exact appAt?_next w move (h.seats name earlier n hearlier (hsame ▸ hsite))
    · -- The messenger was given up, and the handle has no site any more.
      rw [hnone] at hsite
      cases hsite
    · exact hnew n hsite
  · intro name later hlater
    rcases handle_next w move hlater with ⟨earlier, hearlier, happ, -⟩ | ⟨-, hknown, -⟩
    · rw [happ]
      exact known_next w move (h.known name earlier hearlier)
    · exact hknown
  · intro app n hsink
    rcases sink?_next w move hsink with hold | hnew
    · exact appAt?_next w move (h.sinks app n hold)
    · exact hnew

/-- The invariants hold along a run in which fewer than 2³¹ ids are minted, and so does what every move
between sound worlds preserves.  The property may speak of the account of ids and of the moves that are
still to come. -/
theorem Sound.run {P : List PortKey → List Move → World → Prop}
    (hstep : ∀ {account more : List PortKey} {w : World} {move : Move} {rest : List Move},
      Stepped account more w move → P account (move :: rest) w → P (account ++ more) rest (w.next move))
    (h : Sound minted w) (moves : List Move)
    (hroom : minted.length + w.freshBindings moves < 2 ^ 31) (hstart : P minted moves w) :
    ∃ more : List PortKey, more.length = w.freshBindings moves ∧
      Sound (minted ++ more) (w.after moves) ∧ P (minted ++ more) [] (w.after moves) := by
  induction moves generalizing w minted with
  | nil =>
    refine ⟨[], rfl, ?_⟩
    rw [List.append_nil]
    exact ⟨h, hstart⟩
  | cons move rest ih =>
    have hsplit : w.freshBindings (move :: rest) =
        w.freshBy move + (w.next move).freshBindings rest := rfl
    rcases h.next move (by omega) with ⟨more, hstepped⟩
    have hlength := hstepped.length
    -- The ids that the move may have minted are counted among those of the run.
    have hroom' : (minted ++ more).length + (w.next move).freshBindings rest < 2 ^ 31 := by
      rw [List.length_append]
      omega
    rcases ih hstepped.after hroom' (hstep hstepped hstart) with ⟨later, hlater, hafter⟩
    refine ⟨more ++ later, ?_, ?_⟩
    · rw [List.length_append]
      omega
    · rw [← List.append_assoc]
      exact hafter

/-- A run takes a sound world to a sound world, and the account grows by as many keys as there are fresh
bindings. -/
theorem Sound.after (h : Sound minted w) (moves : List Move)
    (hroom : minted.length + w.freshBindings moves < 2 ^ 31) :
    ∃ more : List PortKey, more.length = w.freshBindings moves ∧
      Sound (minted ++ more) (w.after moves) := by
  rcases h.run (P := fun _ _ _ => True) (fun _ _ => trivial) moves hroom trivial with
    ⟨more, hlength, hsound, -⟩
  exact ⟨more, hlength, hsound⟩

/-- Every world that a scenario reaches is sound, for an account as long as there were fresh bindings. -/
theorem sound_after (maxPayloadBytes : Nat) (moves : List Move)
    (hroom : (initial maxPayloadBytes).freshBindings moves < 2 ^ 31) :
    ∃ minted : List PortKey, minted.length = (initial maxPayloadBytes).freshBindings moves ∧
      Sound minted ((initial maxPayloadBytes).after moves) := by
  refine (sound_initial maxPayloadBytes).after moves ?_
  rw [List.length_nil, Nat.zero_add]
  exact hroom

theorem appAt?_after (moves : List Move) (h : w.appAt? n = some app) :
    (w.after moves).appAt? n = some app := by
  induction moves generalizing w with
  | nil => exact h
  | cons move rest ih => exact ih (appAt?_next w move h)

/-- In a run in which nobody writes a script the registries stay filed as well. -/
theorem filed_after (moves : List Move) (hmoves : ∀ move ∈ moves, ∀ name,
    move.binder? ≠ some (name, .script)) (h : Sound minted w) (hhonest : w.Honest)
    (hfiled : w.Filed minted) (hroom : minted.length + w.freshBindings moves < 2 ^ 31) :
    ∃ more : List PortKey, more.length = w.freshBindings moves ∧
      Sound (minted ++ more) (w.after moves) ∧ (w.after moves).Honest ∧
        (w.after moves).Filed (minted ++ more) := by
  -- Carried along: nobody will write a script, nobody has, and the entries are filed.
  let P : List PortKey → List Move → World → Prop := fun account rest w =>
    (∀ move ∈ rest, ∀ name, move.binder? ≠ some (name, .script)) ∧ w.Honest ∧ w.Filed account
  have hstep : ∀ {account more : List PortKey} {w : World} {move : Move} {rest : List Move},
      Stepped account more w move → P account (move :: rest) w →
        P (account ++ more) rest (w.next move) := by
    rintro account more w move rest hstepped ⟨hwritten, hw, hfiled⟩
    rcases List.forall_mem_cons.1 hwritten with ⟨hmove, hrest⟩
    exact ⟨hrest, hw.next hmove, hstepped.filed hw hfiled⟩
  rcases h.run hstep moves hroom ⟨hmoves, hhonest, hfiled⟩ with
    ⟨more, hlength, hafter, -, hhonest', hfiled'⟩
  exact ⟨more, hlength, hafter, hhonest', hfiled'⟩

end World
end Scenario
end PortMessaging
