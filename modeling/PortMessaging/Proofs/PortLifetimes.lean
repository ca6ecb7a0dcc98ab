import PortMessaging.Proofs.RegistryMirror
import PortMessaging.Proofs.Sends

/-!
# PortLifetimes — from the registration of a port to its end

While the registry of one site is all that works on the bindings of an application, the name of a port
stays bound to its id, whatever happens, until that registry grants to unregister the id
(`bound_after`).  From then on no name of any application is bound to the id, as ids are not minted twice
(`gone_after`).  Both are proved along the moves of a run: a move keeps the binding or ends it, and what is
gone stays gone.
-/

namespace PortMessaging
namespace Scenario
namespace World

open Loopback (PortKey keyOf? Service)
open Registry (HonestUnregistration)

variable {w w' : World} {move : Move} {minted account : List PortKey} {app port name : String}
  {n : Nat} {id : PortId} {domain : TrustDomain} {handle : Handle} {place : Place} {desk : Desk}

/-! ## The end of a port -/

/-- A move unregisters an id of an application: the messenger of one of its handles is asked for that, and
the registry grants it. -/
inductive Unregisters (w : World) (app : String) (id : PortId) (move : Move) : Prop where
  | granted {name : String} {handle : Handle} {desk : Desk} {domain : TrustDomain} {entry : PortEntry}
      (hbinder : move.binder? = some (name, .registry))
      (hasked : move.unregistration? = some (id, domain))
      (hhandle : w.handles.get? name = some handle) (happ : handle.app = app)
      (hdesk : w.deskOf? name handle = some desk)
      (hgranted : ((desk.onRegistry (Registry.unregister desk.messenger.translator desk.transport id
        domain)).run w).result = .ok (.ok entry))

/-- In a run a move unregisters an id of an application. -/
def UnregisteredIn (app : String) (id : PortId) : World → List Move → Prop
  | _, [] => False
  | w, move :: rest => Unregisters w app id move ∨ UnregisteredIn app id (w.next move) rest

/-- No name of any application is bound to an id. -/
def Gone (w : World) (id : PortId) : Prop := ∀ key, (key, id) ∉ w.service.ports

/-- A move that asks to unregister does what the registry does for it. -/
theorem next_unregistration (hbinder : move.binder? = some (name, .registry))
    (hasked : move.unregistration? = some (id, domain)) (hhandle : w.handles.get? name = some handle)
    (hdesk : w.deskOf? name handle = some desk) :
    w.next move = ((desk.onRegistry
      (Registry.unregister desk.messenger.translator desk.transport id domain)).run w).state := by
  cases move with
  | act message? action =>
    cases action with
    | onMessenger other action =>
      cases action with
      | unregister asked trusted named =>
        cases hbinder
        cases hasked
        calc
          w.next (.act message? (.onMessenger name (.unregister id trusted named)))
              = ((desk.perform message? (.unregister id trusted named)).run w).state :=
            state_perform message? _ hhandle hdesk
          _ = ((desk.onRegistry (desk.unregister id trusted named)).run w).state :=
            Effect.state_bind_silent _ (fun _ => Effect.silent_pure _) w
          _ = _ := desk.state_unregister id trusted named w
      | registryUnregister asked domain' =>
        cases hbinder
        cases hasked
        -- The entry that is shown in the reply is looked at in the world after the change.
        calc
          w.next (.act message? (.onMessenger name (.registryUnregister id domain)))
              = ((desk.perform message? (.registryUnregister id domain)).run w).state :=
            state_perform message? _ hhandle hdesk
          _ = _ := Effect.state_bind_silent _ (fun _ => fun _ => rfl) w
      | _ => cases hasked
    | _ => cases hasked
  | _ => cases hasked

/-! ## One move -/

/-- At the registry that mirrors an application, to ask for an active id is to unregister it. -/
theorem unregisters_of_active (h : Sound minted w) (hmirrored : Mirrored w handle.app n)
    (hbinder : move.binder? = some (name, .registry))
    (hasked : move.unregistration? = some (id, domain)) (hhandle : w.handles.get? name = some handle)
    (hsite : handle.site = some n) (hplace : w.places[n]? = some place)
    (hactive : (place.registry.lookup id domain).isSome) : Unregisters w handle.app id move := by
  rcases exists_deskAt hhandle hsite hplace with ⟨desk, hdesk, hat⟩
  rcases unregistering_honest h hat hmirrored desk.messenger.translator id domain with
    ⟨answer, registry', hanswer, hhonest⟩
  rw [portsOf_of_deskAt h hat] at hhonest
  rcases hhonest.ok_iff.2 hactive with ⟨entry, rfl⟩
  exact .granted hbinder hasked hhandle rfl hdesk hanswer

/-- A name stays bound over a move that does not unregister its id. -/
theorem bound_next (h : Sound minted w) (hmirrored : Mirrored w app n)
    (hsole : SoleMove w app n move) (hroom : minted.length + w.freshBy move < 2 ^ 31)
    (hbound : w.service.boundId? app domain port = some id) (hkept : ¬ Unregisters w app id move) :
    (w.next move).service.boundId? app domain port = some id := by
  cases next_deed w move with
  | kept _ hasked => exact (hasked.boundId? hsole domain port).trans hbound
  | scripted _ _ _ hmodified =>
    rw [hmodified]
    exact hbound
  | @changed name handle m place registry' w₁ w₂ hbinder hhandle hsite hplace hquiet hchanged hset =>
    by_cases happ : handle.app = app
    · subst happ
      have hm : m = n := (hsole name .registry handle hbinder hhandle rfl).2 m hsite
      subst hm
      have hhonest := honest_of_changed h hmirrored hhandle hsite hplace hquiet hchanged hset hroom
      generalize (w.next move).service = service' at hhonest ⊢
      cases hhonest with
      | registered hhonest => exact hhonest.boundId?_of_bound hbound
      | @unregistered other d answer _ _ hasked hhonest =>
        by_cases hid : id = other
        · subst hid
          -- The id was asked for, so it was not active, and nothing changed.
          cases hhonest with
          | refused => exact hbound
          | released hlookup =>
            have hactive := Option.isSome_iff_exists.2 ⟨_, hlookup⟩
            exact absurd (unregisters_of_active h hmirrored hbinder hasked hhandle hsite hplace
              hactive) hkept
        · exact hhonest.boundId?_of_bound h.minted hbound hid
    · have hturned := hchanged.turned hquiet m
      rw [← hset] at hturned
      exact (hturned.service.boundId? (Ne.symm happ) domain port).trans hbound
  | connected hservice =>
    have hsame := view_of_connected (·.boundId? app domain port) hservice fun _ =>
      Service.boundId?_attach _ _ _ _ _ _
    rw [hsame, Service.boundId?_connect]
    exact hbound

/-- An id that a move unregisters is gone. -/
theorem Unregisters.gone (hun : Unregisters w app id move) (h : Sound minted w)
    (hmirrored : Mirrored w app n) (hsole : SoleMove w app n move)
    (hafter : Sound account (w.next move)) : (w.next move).Gone id := by
  rcases hun with ⟨hbinder, hasked, hhandle, rfl, hdesk, hgranted⟩
  rcases deskAt_of_deskOf? hhandle hdesk with ⟨m, place, hat⟩
  have hm : m = n := (hsole _ .registry _ hbinder hhandle rfl).2 m hat.site
  subst hm
  have hminted := hafter.minted
  intro key hport
  rw [hminted.mem_ports_iff] at hport
  rw [next_unregistration hbinder hasked hhandle hdesk] at hminted hport
  rcases unregistering_honest h hat hmirrored _ id _ with ⟨answer, registry', hanswer, hhonest⟩
  rw [hgranted] at hanswer
  cases hanswer
  generalize World.service _ = service' at hminted hport hhonest
  cases hhonest with
  | released _ hrecord hb hid =>
    subst hid
    -- The search for the key finds nothing that has the id.
    rw [h.minted.idAt?_without hrecord hb, Option.filter_eq_some_iff] at hport
    simp at hport

/-- A binding that a move makes has the next id. -/
theorem mem_ports_next (w : World) (move : Move) {port : PortKey × PortId}
    (hport : port ∈ (w.next move).service.ports) :
    port ∈ w.service.ports ∨ port.2 = ⟨w.service.lastId + 1⟩ ∧
      (w.next move).service.lastId = w.service.lastId + 1 := by
  cases next_deed w move with
  | kept _ hasked =>
    rcases hasked.served_or_attached with ⟨other, hserved⟩ | ⟨other, number, hservice⟩
    · exact hserved.mem_ports hport
    · rw [hservice] at hport
      exact .inl ((Service.fewer_attach _ _ _).mem_ports hport)
  | scripted _ _ _ hmodified =>
    rw [hmodified] at hport
    exact .inl hport
  | @changed name handle m place registry' w₁ w₂ _ _ _ _ hquiet hchanged hset =>
    have hturned := hchanged.turned hquiet m
    rw [← hset] at hturned
    exact hturned.service.mem_ports hport
  | @connected name other certificate site new w₁ hservice =>
    have hconnect := w.service.fewer_connect other certificate
    rcases hservice with hservice | ⟨k, -, hservice⟩
    · rw [hservice] at hport
      exact .inl (hconnect.mem_ports hport)
    · rw [hservice] at hport
      exact .inl (hconnect.mem_ports ((Service.fewer_attach _ _ _).mem_ports hport))

/-- An id that was minted and is gone stays gone. -/
theorem Gone.next (hgone : w.Gone id) (h : Sound minted w) {key : PortKey}
    (hkey : keyOf? minted id = some key) (hroom : minted.length + w.freshBy move < 2 ^ 31) :
    (w.next move).Gone id := by
  intro other hport
  rcases mem_ports_next w move hport with hold | ⟨hid, hlast⟩
  · exact hgone other hold
  · -- A new binding has an id that was not minted before.
    have hfresh : w.freshBy move = 1 := by
      unfold freshBy
      rw [hlast, if_neg (Loopback.add_one_ne _)]
    have hnone := h.minted.keyOf?_next (by omega)
    rw [← hid, hkey] at hnone
    cases hnone

/-! ## Runs -/

/-- A name stays bound in a run that does not unregister its id. -/
theorem bound_after (h : Sound minted w) (hmirrored : Mirrored w app n) (moves : List Move)
    (hsole : SoleRun app n w moves) (hroom : minted.length + w.freshBindings moves < 2 ^ 31)
    (hbound : w.service.boundId? app domain port = some id)
    (hkept : ¬ UnregisteredIn app id w moves) :
    (w.after moves).service.boundId? app domain port = some id := by
  -- Carried along with the mirror: the binding, and that it will not end.
  let P : List PortKey → List Move → World → Prop := fun _ rest w =>
    Mirrored w app n ∧ SoleRun app n w rest ∧ w.service.boundId? app domain port = some id ∧
      ¬ UnregisteredIn app id w rest
  have hstep : ∀ {account more : List PortKey} {w : World} {move : Move} {rest : List Move},
      Stepped account more w move → P account (move :: rest) w →
        P (account ++ more) rest (w.next move) := by
    rintro account more w move rest hstepped ⟨hw, ⟨hmove, hrest⟩, hbound, hkept⟩
    rcases not_or.1 hkept with ⟨hnow, hlater⟩
    refine ⟨hw.next hstepped.before hmove hstepped.room, hrest, ?_, hlater⟩
    exact bound_next hstepped.before hw hmove hstepped.room hbound hnow
  rcases h.run hstep moves hroom ⟨hmirrored, hsole, hbound, hkept⟩ with ⟨-, -, -, -, -, hend, -⟩
  exact hend

/-- An id is gone after a run that unregisters it. -/
theorem gone_after (h : Sound minted w) (hmirrored : Mirrored w app n) (moves : List Move)
    (hsole : SoleRun app n w moves) (hroom : minted.length + w.freshBindings moves < 2 ^ 31)
    (hbound : w.service.boundId? app domain port = some id)
    (hun : UnregisteredIn app id w moves) : (w.after moves).Gone id := by
  let key : PortKey := ⟨app, domain, port⟩
  -- Carried along: the id is gone, or its binding is there and will end.
  let P : List PortKey → List Move → World → Prop := fun account rest w =>
    Mirrored w app n ∧ SoleRun app n w rest ∧ keyOf? account id = some key ∧
      (w.Gone id ∨
        w.service.boundId? app domain port = some id ∧ UnregisteredIn app id w rest)
  have hstep : ∀ {account more : List PortKey} {w : World} {move : Move} {rest : List Move},
      Stepped account more w move → P account (move :: rest) w →
        P (account ++ more) rest (w.next move) := by
    rintro account more w move rest hstepped ⟨hw, ⟨hmove, hrest⟩, hkey, hfate⟩
    refine ⟨hw.next hstepped.before hmove hstepped.room, hrest, Loopback.keyOf?_append hkey more, ?_⟩
    rcases hfate with hgone | ⟨hbound, hun⟩
    · exact .inl (hgone.next hstepped.before hkey hstepped.room)
    · by_cases hnow : Unregisters w app id move
      · exact .inl (hnow.gone hstepped.before hw hmove hstepped.after)
      · have hbound' := bound_next hstepped.before hw hmove hstepped.room hbound hnow
        exact .inr ⟨hbound', hun.resolve_left hnow⟩
  have hkey : keyOf? minted id = some key := h.minted.key_of_boundId? hbound
  rcases h.run hstep moves hroom ⟨hmirrored, hsole, hkey, .inr ⟨hbound, hun⟩⟩ with
    ⟨-, -, -, -, -, -, hgone | ⟨-, hnever⟩⟩
  · exact hgone
  · exact hnever.elim

/-! ## Messages to the port -/

/-- A message to a bound name reaches its id. -/
theorem reaches_of_bound (hbound : w.service.boundId? app domain port = some id) :
    w.Reaches ⟨app, port⟩ domain id := by
  intro sender payload reply hknown
  exact Service.route_reached hbound hknown w.isAlive payload reply

/-- No message is delivered to an id that is gone. -/
theorem Gone.misses (hgone : w.Gone id) (h : Sound minted w) (remote : RemoteAddress)
    (domain : TrustDomain) : w.Misses remote domain id := by
  rintro sender payload reply sink event hroute rfl
  have hbound := Service.boundId?_of_route hroute
  exact hgone ⟨remote.app, domain, remote.port⟩ (h.minted.mem_ports_iff.2 hbound)

/-- After a run the name of a port leads to its id, if the run does not unregister it, and otherwise it does
not lead there. -/
theorem sends_after (h : Sound minted w) (hmirrored : Mirrored w app n) (moves : List Move)
    (hsole : SoleRun app n w moves) (hroom : minted.length + w.freshBindings moves < 2 ^ 31)
    (hbound : w.service.boundId? app domain port = some id)
    (hafter : Sound account (w.after moves)) :
    (¬ UnregisteredIn app id w moves →
      (w.after moves).service.boundId? app domain port = some id ∧
        (w.after moves).Reaches ⟨app, port⟩ domain id) ∧
    (UnregisteredIn app id w moves → (w.after moves).Misses ⟨app, port⟩ domain id) := by
  constructor
  · intro hkept
    have hstill := bound_after h hmirrored moves hsole hroom hbound hkept
    exact ⟨hstill, reaches_of_bound hstill⟩
  · intro hun
    have hgone := gone_after h hmirrored moves hsole hroom hbound hun
    exact hgone.misses hafter ⟨app, port⟩ domain

end World
end Scenario
end PortMessaging
