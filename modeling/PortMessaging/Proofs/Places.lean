import Mathlib.Logic.Basic
import PortMessaging.Proofs.SortedMap
import PortMessaging.Scenario.Endpoint

/-!
# Places — what a world is told by

Of all that a world holds, the theorems about runs speak of four things only: the service, the
registries with the applications that they serve (`World.places`), the tasks that wait at a site
(`World.waitingAt`), and what the handles stand for.  `Quiet` and `Kept` say that some of these are as
they were before; a handle is as before if it stands for the same application and, unless its messenger
was given up, for the same site, and if it has no replies of its own to give when it had none
(`Handle.Continues`).
-/

namespace PortMessaging
namespace Scenario

/-- A site as far as its ports go. -/
structure Place where
  app : String
  registry : Registry

/-- The part of a site that its ports are told by. -/
def Site.place (site : Site) : Place := ⟨site.app, site.registry⟩

/-- A later handle of the same name stands for what the earlier one stood for. -/
structure Handle.Continues (earlier later : Handle) : Prop where
  app : later.app = earlier.app
  site : later.site = earlier.site ∨ later.site = none
  script : earlier.script = [] → later.script = []

theorem Handle.Continues.refl (handle : Handle) : handle.Continues handle :=
  ⟨rfl, .inl rfl, id⟩

theorem Handle.Continues.trans {a b c : Handle} (hab : a.Continues b) (hbc : b.Continues c) :
    a.Continues c := by
  refine ⟨hbc.app.trans hab.app, ?_, fun h => hbc.script (hab.script h)⟩
  rcases hbc.site with hsame | hnone
  · rcases hab.site with hsame' | hnone'
    · exact .inl (hsame.trans hsame')
    · exact .inr (hsame.trans hnone')
  · exact .inr hnone

namespace World

variable {w w₁ w₂ : World} {n k : Nat}

/-- The sites of a world as far as their ports go. -/
def places (w : World) : List Place := w.sites.map Site.place

/-- The tasks that wait at a site. -/
def waitingAt (w : World) (n : Nat) : List Task := ((queuePart n).get w).waiting

/-! ## Handles -/

/-- Every handle of the later world continues one of the earlier world. -/
def HandlesKept (w₁ w₂ : World) : Prop :=
  ∀ name later, w₂.handles.get? name = some later →
    ∃ earlier, w₁.handles.get? name = some earlier ∧ earlier.Continues later

theorem HandlesKept.of_eq (h : w₂.handles = w₁.handles) : HandlesKept w₁ w₂ := by
  intro name later hlater
  rw [h] at hlater
  exact ⟨later, hlater, .refl later⟩

theorem HandlesKept.trans {w₃ : World} (h₁ : HandlesKept w₁ w₂) (h₂ : HandlesKept w₂ w₃) :
    HandlesKept w₁ w₃ := by
  intro name later hlater
  -- A handle is followed back through the world in between.
  rcases h₂ name later hlater with ⟨middle, hmiddle, hcontinues⟩
  rcases h₁ name middle hmiddle with ⟨earlier, hearlier, hcontinues'⟩
  exact ⟨earlier, hearlier, hcontinues'.trans hcontinues⟩

/-- The handles of a world in which one handle was changed. -/
theorem get?_modifyHandle (w : World) (name other : String) (f : Handle → Handle) :
    (w.modifyHandle name f).handles.get? other =
      if other = name then (w.handles.get? name).map f else w.handles.get? other := by
  unfold modifyHandle
  split
  next h => rw [h, SortedMap.get?_modify_self]
  next h => rw [SortedMap.get?_modify_of_ne _ h]

theorem handlesKept_modifyHandle (w : World) (name : String) {f : Handle → Handle}
    (hf : ∀ handle, w.handles.get? name = some handle → handle.Continues (f handle)) :
    HandlesKept w (w.modifyHandle name f) := by
  intro other later hlater
  rw [get?_modifyHandle] at hlater
  split at hlater
  next h =>
    subst h
    rcases Option.map_eq_some_iff.1 hlater with ⟨earlier, hearlier, rfl⟩
    exact ⟨earlier, hearlier, hf earlier hearlier⟩
  next => exact ⟨later, hlater, .refl later⟩

/-! ## Quiet changes -/

/-- The sites are as far as their ports go as before, and so are the handles. -/
structure Kept (w₁ w₂ : World) : Prop where
  places : w₂.places = w₁.places
  handles : HandlesKept w₁ w₂

/-- The service, the sites and the handles are as before. -/
structure Quiet (w₁ w₂ : World) : Prop where
  service : w₂.service = w₁.service
  sites : w₂.sites = w₁.sites
  handles : HandlesKept w₁ w₂

theorem Quiet.refl (w : World) : Quiet w w := ⟨rfl, rfl, .of_eq rfl⟩

theorem Quiet.trans {w₃ : World} (h₁ : Quiet w₁ w₂) (h₂ : Quiet w₂ w₃) : Quiet w₁ w₃ :=
  ⟨h₂.service.trans h₁.service, h₂.sites.trans h₁.sites, h₁.handles.trans h₂.handles⟩

theorem Quiet.places (h : Quiet w₁ w₂) : w₂.places = w₁.places := by
  unfold World.places
  rw [h.sites]

theorem Quiet.kept (h : Quiet w₁ w₂) : Kept w₁ w₂ := ⟨h.places, h.handles⟩

theorem Quiet.queue (h : Quiet w₁ w₂) (n : Nat) : (queuePart n).get w₂ = (queuePart n).get w₁ := by
  show (w₂.sites[n]?).elim _ _ = (w₁.sites[n]?).elim _ _
  rw [h.sites]

theorem Quiet.waitingAt (h : Quiet w₁ w₂) (n : Nat) : w₂.waitingAt n = w₁.waitingAt n := by
  unfold World.waitingAt
  rw [h.queue n]

theorem quiet_modifyHandle (w : World) (name : String) {f : Handle → Handle}
    (hf : ∀ handle, w.handles.get? name = some handle → handle.Continues (f handle)) :
    Quiet w (w.modifyHandle name f) :=
  ⟨rfl, rfl, handlesKept_modifyHandle w name hf⟩

/-! ## Changes of one site -/

theorem places_getElem? (w : World) (n : Nat) : w.places[n]? = (w.sites[n]?).map Site.place :=
  List.getElem?_map

theorem waitingAt_eq (w : World) (n : Nat) :
    w.waitingAt n = (w.sites[n]?).elim [] (·.queue.waiting) := by
  show ((w.sites[n]?).elim _ _ : TaskQueue Task).waiting = _
  cases w.sites[n]? with
  | none => rfl
  | some site => rfl

theorem queuePart_get {site : Site} (h : w.sites[n]? = some site) :
    (queuePart n).get w = site.queue := by
  show (w.sites[n]?).elim _ _ = _
  rw [h]
  rfl

/-- A site that does not exist has a queue that nobody posts to and nobody drains. -/
theorem queuePart_get_of_none (h : w.sites[n]? = none) :
    (queuePart n).get w = ⟨[], false, false⟩ := by
  show (w.sites[n]?).elim _ _ = _
  rw [h]
  rfl

theorem registryPart_get {place : Place} (h : w.places[n]? = some place) :
    (registryPart n).get w = place.registry := by
  rw [places_getElem?] at h
  rcases Option.map_eq_some_iff.1 h with ⟨site, hsite, rfl⟩
  show (w.sites[n]?).elim _ _ = _
  rw [hsite]
  rfl

theorem places_of_site {site : Site} (h : w.sites[n]? = some site) :
    w.places[n]? = some site.place := by
  rw [places_getElem?, h]
  rfl

theorem sites_modifySite (w : World) (n k : Nat) (f : Site → Site) :
    (w.modifySite n f).sites[k]? = (w.sites[k]?).map (if n = k then f else id) := by
  show (w.sites.modify n f)[k]? = _
  rw [List.getElem?_modify]
  split
  · rfl
  · cases w.sites[k]? with
    | none => rfl
    | some site => rfl

/-- A change of a site that leaves its application and its registry leaves the places. -/
theorem places_modifySite (w : World) (n : Nat) {f : Site → Site}
    (hf : ∀ site, (f site).place = site.place) : (w.modifySite n f).places = w.places := by
  apply List.ext_getElem?
  intro k
  rw [places_getElem?, places_getElem?, sites_modifySite, Option.map_map]
  cases w.sites[k]? with
  | none => rfl
  | some site =>
    by_cases hk : n = k
    · simp [hk, hf]
    · simp [hk]

/-- The registry of one site is exchanged. -/
theorem places_setRegistry (w : World) (n : Nat) (registry : Registry) :
    ((registryPart n).set registry w).places =
      w.places.modify n fun place => ⟨place.app, registry⟩ := by
  apply List.ext_getElem?
  intro k
  have hset : ((registryPart n).set registry w).sites[k]? = _ := sites_modifySite w n k _
  rw [places_getElem?, hset, List.getElem?_modify, places_getElem?, Option.map_map]
  cases w.sites[k]? with
  | none => rfl
  | some site =>
    by_cases hk : n = k
    · simp [hk, Site.place]
    · simp [hk]

theorem registryPart_get_set {place : Place} (h : w.places[n]? = some place) (registry : Registry) :
    (registryPart n).get ((registryPart n).set registry w) = registry := by
  have hplace : ((registryPart n).set registry w).places[n]? = some ⟨place.app, registry⟩ := by
    rw [places_setRegistry, List.getElem?_modify_eq, h]
    rfl
  exact registryPart_get hplace

/-- To put back the registry that is there changes nothing. -/
theorem registryPart_set_get (w : World) (n : Nat) :
    (registryPart n).set ((registryPart n).get w) w = w := by
  have hsites : ((registryPart n).set ((registryPart n).get w) w).sites = w.sites := by
    apply List.ext_getElem?
    intro k
    refine (sites_modifySite w n k _).trans ?_
    cases hsite : w.sites[k]? with
    | none => rfl
    | some site =>
      by_cases hk : n = k
      · subst hk
        simp [registryPart, hsite]
      · simp [hk]
  exact congrArg (fun sites => { w with sites := sites }) hsites

/-- A change of one site changes the tasks of that site only, and those as it changes its queue. -/
theorem waitingAt_modifySite (w : World) (n k : Nat) (f : Site → Site) :
    (w.modifySite n f).waitingAt k = w.waitingAt k ∨
      ∃ site, k = n ∧ w.sites[n]? = some site ∧
        (w.modifySite n f).waitingAt k = (f site).queue.waiting := by
  rw [waitingAt_eq, waitingAt_eq, sites_modifySite]
  by_cases hk : n = k
  · subst hk
    cases w.sites[n]? with
    | none => exact .inl rfl
    | some site => exact .inr ⟨site, rfl, rfl, by simp⟩
  · refine .inl ?_
    cases w.sites[k]? with
    | none => rfl
    | some site => simp [hk]

/-! ## Queues -/

/-- The registry of a site is the same whatever waits there. -/
theorem registryPart_get_setQueue {site : Site} (h : w.sites[n]? = some site)
    (queue : TaskQueue Task) :
    (registryPart n).get ((queuePart n).set queue w) = site.registry := by
  have hplaces : ((queuePart n).set queue w).places = w.places :=
    places_modifySite w n (f := fun site => { site with queue := queue }) fun _ => rfl
  have hplace : ((queuePart n).set queue w).places[n]? = some site.place := by
    rw [hplaces]
    exact places_of_site h
  exact registryPart_get hplace

/-- A new site has no tasks, so its number adds none. -/
theorem waitingAt_of_new_site {site : Site} (hsites : w₂.sites = w₁.sites ++ [site])
    (hsite : site.queue.waiting = []) (n : Nat) :
    w₂.waitingAt n = w₁.waitingAt n ∨ w₂.waitingAt n = [] := by
  rw [waitingAt_eq, waitingAt_eq, hsites]
  -- Older sites keep their numbers; the new one has the next number, and beyond it there is none.
  rcases Nat.lt_trichotomy n w₁.sites.length with hlt | heq | hgt
  · refine .inl ?_
    rw [List.getElem?_append_left hlt]
  · refine .inr ?_
    rw [heq, List.getElem?_concat_length]
    exact hsite
  · refine .inr ?_
    have hlength : (w₁.sites ++ [site]).length ≤ n := by
      rw [List.length_append]
      exact hgt
    rw [List.getElem?_eq_none hlength]
    rfl

/-- A task that is posted waits behind the others. -/
theorem posted_spec {task : Task} {queue : TaskQueue Task}
    (h : ((queuePart n).get w).post? task = some queue) :
    ((queuePart n).set queue w).service = w.service ∧ Kept w ((queuePart n).set queue w) ∧
      ((queuePart n).set queue w).waitingAt n = w.waitingAt n ++ [task] ∧
      ∀ k, k ≠ n → ((queuePart n).set queue w).waitingAt k = w.waitingAt k := by
  let f : Site → Site := fun site => { site with queue := queue }
  refine ⟨rfl, ⟨places_modifySite w n (f := f) fun _ => rfl, .of_eq rfl⟩, ?_, ?_⟩
  · have hwaiting : queue.waiting = w.waitingAt n ++ [task] := TaskQueue.waiting_post? h
    -- A site that does not exist takes no tasks.
    have hsite : ∃ site, w.sites[n]? = some site := by
      cases hsite : w.sites[n]? with
      | some site => exact ⟨site, rfl⟩
      | none =>
        rw [queuePart_get_of_none hsite] at h
        cases h
    rcases hsite with ⟨site, hsite⟩
    show (w.modifySite n f).waitingAt n = _
    rw [waitingAt_eq, sites_modifySite, hsite, if_pos rfl]
    exact hwaiting
  · intro k hk
    rcases waitingAt_modifySite w n k f with hsame | ⟨site, heq, -, -⟩
    · exact hsame
    · exact absurd heq hk

/-- A task that is taken was the first of those that waited. -/
theorem taken_spec {task : Task} {queue : TaskQueue Task}
    (h : ((queuePart n).get w).next? = some (task, queue)) :
    ((queuePart n).set queue w).service = w.service ∧ Kept w ((queuePart n).set queue w) ∧
      w.waitingAt n = task :: ((queuePart n).set queue w).waitingAt n ∧
      ∀ k, k ≠ n → ((queuePart n).set queue w).waitingAt k = w.waitingAt k := by
  let f : Site → Site := fun site => { site with queue := queue }
  refine ⟨rfl, ⟨places_modifySite w n (f := f) fun _ => rfl, .of_eq rfl⟩, ?_, ?_⟩
  · have hwaiting : w.waitingAt n = task :: queue.waiting := TaskQueue.waiting_next? h
    cases hsite : w.sites[n]? with
    | none =>
      rw [waitingAt_eq, hsite] at hwaiting
      cases hwaiting
    | some site =>
      have hset : (w.modifySite n f).waitingAt n = queue.waiting := by
        rw [waitingAt_eq, sites_modifySite, hsite, if_pos rfl]
        rfl
      show _ = task :: (w.modifySite n f).waitingAt n
      rw [hset]
      exact hwaiting
  · intro k hk
    rcases waitingAt_modifySite w n k f with hsame | ⟨site, heq, -, -⟩
    · exact hsame
    · exact absurd heq hk

/-- Giving up the messenger of a handle leaves all tasks and all ports. -/
theorem dropMessenger_spec (w : World) (name : String) :
    (w.dropMessenger name).service = w.service ∧ Kept w (w.dropMessenger name) ∧
      ∀ n, (w.dropMessenger name).waitingAt n = w.waitingAt n := by
  unfold dropMessenger
  cases (w.handles.get? name).bind (·.site) with
  | none => exact ⟨rfl, (Quiet.refl w).kept, fun _ => rfl⟩
  | some n =>
    let f : Site → Site := fun site => { site with queue := site.queue.dropPosting }
    refine ⟨rfl, ⟨places_modifySite w n (f := f) fun _ => rfl, ?_⟩, ?_⟩
    · exact handlesKept_modifyHandle w name fun _ _ => ⟨rfl, .inr rfl, id⟩
    · intro k
      show (w.modifySite n f).waitingAt k = w.waitingAt k
      -- Nobody posts to the queue any more, but what waits there still waits.
      rcases waitingAt_modifySite w n k f with hsame | ⟨site, rfl, hsite, hchanged⟩
      · exact hsame
      · rw [hchanged, waitingAt_eq, hsite]
        rfl

/-- Giving up a loop leaves all ports, and each site keeps its tasks or loses them all. -/
theorem dropLoop_spec (w : World) (name : String) :
    (w.dropLoop name).service = w.service ∧ Kept w (w.dropLoop name) ∧
      ∀ n, (w.dropLoop name).waitingAt n = w.waitingAt n ∨ (w.dropLoop name).waitingAt n = [] := by
  unfold dropLoop
  cases w.loops.get? name with
  | none => exact ⟨rfl, (Quiet.refl w).kept, fun _ => .inl rfl⟩
  | some n =>
    let f : Site → Site := fun site => { site with queue := site.queue.dropDraining }
    refine ⟨rfl, ⟨places_modifySite w n (f := f) fun _ => rfl, .of_eq rfl⟩, ?_⟩
    intro k
    show (w.modifySite n f).waitingAt k = w.waitingAt k ∨ (w.modifySite n f).waitingAt k = []
    -- The queue of the loop is emptied, as nobody will run its tasks.
    rcases waitingAt_modifySite w n k f with hsame | ⟨site, rfl, hsite, hchanged⟩
    · exact .inl hsame
    · exact .inr hchanged

end World
end Scenario
end PortMessaging
