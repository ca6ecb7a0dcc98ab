import PortMessaging.Proofs.SoundWorlds

/-!
# Attachments — what a service has of the last connection and the last attachment

A service keeps one certificate and one sink for an application.  In a run they are those of the last
connection (`certificatesOf`) and of the last attachment (`World.sinksOf`), whatever happened in between,
and the limit on payloads is the one that the run started with.  One lemma says what a move makes of the
service (`service_next`): it serves an application, connects one, and attaches a sink, each or none.
-/

namespace PortMessaging

/-! ## Single operations -/

namespace Loopback.Service

variable {S : Type} {service : Service S} {app other : String}

theorem maxPayloadBytes_bind (service : Service S) (app name : String) (domain : TrustDomain) :
    (service.bind app name domain).2.maxPayloadBytes = service.maxPayloadBytes := by
  rcases bind_cases service app name domain with
    ⟨-, hrun⟩ | ⟨id, -, hrun⟩ | ⟨record, -, -, hrun⟩
  · rw [hrun]
  · rw [hrun]
  · rw [hrun]
    rfl

theorem maxPayloadBytes_unbind (service : Service S) (app : String) (id : PortId) :
    (service.unbind app id).2.maxPayloadBytes = service.maxPayloadBytes := by
  rcases unbind_cases service app id with
    ⟨-, hrun⟩ | ⟨record, -, -, hrun⟩ | ⟨record, b, -, -, -, hrun⟩
  · rw [hrun]
  · rw [hrun]
  · rw [hrun]
    rfl

theorem maxPayloadBytes_connect (service : Service S) (app certificate : String) :
    (service.connect app certificate).maxPayloadBytes = service.maxPayloadBytes := by
  unfold connect
  cases service.apps.get? app with
  | none => rfl
  | some record => rfl

/-- An application that has connected gets the sink that is attached. -/
theorem sink?_attach_self (hknown : (service.certificate? app).isSome) (sink : S) :
    (service.attach app sink).sink? app = some sink := by
  rcases Option.isSome_iff_exists.1 hknown with ⟨certificate, hcertificate⟩
  rcases Option.map_eq_some_iff.1 hcertificate with ⟨record, hrecord, -⟩
  unfold sink?
  rw [get?_attach, if_pos rfl, hrecord]
  rfl

theorem sink?_attach_of_ne (h : other ≠ app) (sink : S) :
    (service.attach app sink).sink? other = service.sink? other := by
  unfold sink?
  rw [get?_attach, if_neg h]

end Loopback.Service

namespace Scenario

/-! ## Readings of a run -/

/-- The certificate with which a move connects an application. -/
def Move.certificateFor? (app : String) (move : Move) : Option String :=
  (move.connection?.filter (·.1 == app)).map (·.2)

/-- The certificates with which an application is connected in a run, in their order. -/
def certificatesOf (app : String) (moves : List Move) : List String :=
  moves.filterMap (Move.certificateFor? app)

namespace World

open Loopback (Service)

variable {w : World} {move : Move} {app : String} {sink : Sink}

/-- The sink that a move attaches for an application. -/
def sinkFor? (w : World) (app : String) (move : Move) : Option Sink :=
  ((w.attachment? move).filter (·.1 == app)).map (·.2)

/-- The sinks that are attached for an application in a run, in their order. -/
def sinksOf (w : World) (app : String) : List Move → List Sink
  | [] => []
  | move :: rest => (w.sinkFor? app move).toList ++ (w.next move).sinksOf app rest

/-! ## One move -/

theorem ServedBy.maxPayloadBytes {s s' : Service Sink} (h : ServedBy app s s') :
    s'.maxPayloadBytes = s.maxPayloadBytes := by
  rcases h with ⟨s₁, hbind, hunbind⟩
  have hfirst : s₁.maxPayloadBytes = s.maxPayloadBytes := by
    rcases hbind with rfl | ⟨port, domain, rfl⟩
    · rfl
    · exact s.maxPayloadBytes_bind app port domain
  rcases hunbind with rfl | ⟨id, rfl⟩
  · exact hfirst
  · exact (s₁.maxPayloadBytes_unbind app id).trans hfirst

/-- A move that neither connects nor attaches leaves the service to one application. -/
theorem served_next (hconnection : move.connection? = none) (hattachment : w.attachment? move = none) :
    ∃ other, ServedBy other w.service (w.next move).service := by
  cases next_deed w move with
  | kept _ hasked =>
    cases hasked with
    | nothing hservice =>
      rw [hservice]
      exact ⟨"", .refl _ _⟩
    | bound _ _ hservice =>
      rw [hservice]
      exact ⟨_, .bind _ _ _ _⟩
    | unbound _ _ hservice =>
      rw [hservice]
      exact ⟨_, .unbind _ _ _⟩
    | attached _ hattaches =>
      rw [hattachment] at hattaches
      cases hattaches
  | scripted _ _ _ hmodified =>
    rw [hmodified]
    exact ⟨"", .refl _ _⟩
  | @changed name handle n place registry' w₁ w₂ _ _ _ _ hquiet hchanged hset =>
    rw [hset]
    exact ⟨handle.app, (hchanged.turned hquiet n).service⟩
  | connected _ _ _ _ _ _ _ hconnects =>
    rw [hconnection] at hconnects
    cases hconnects

theorem service_of_attachment {other : String} (hconnection : move.connection? = none)
    (hattachment : w.attachment? move = some (other, sink)) :
    (w.next move).service = w.service.attach other sink := by
  unfold attachment? at hattachment
  split at hattachment
  · cases hconnection
  next message? name =>
    rcases Option.map_eq_some_iff.1 hattachment with ⟨handle, hhandle, hpair⟩
    cases hpair
    simp only [next, perform, Effect.run_bind, Effect.run_getState, hhandle]
    rfl
  · cases hattachment

/-- What a move makes of the service: it serves one application, then a connection is made and a sink is
attached, if the move does that. -/
theorem service_next (w : World) (move : Move) :
    ∃ other served, ServedBy other w.service served ∧
      let connected := move.connection?.elim served fun c => served.connect c.1 c.2
      (w.next move).service = (w.attachment? move).elim connected fun a => connected.attach a.1 a.2 := by
  cases hconnection : move.connection? with
  | none =>
    cases hattachment : w.attachment? move with
    | none =>
      rcases served_next hconnection hattachment with ⟨other, hserved⟩
      exact ⟨other, _, hserved, rfl⟩
    | some a => exact ⟨"", w.service, .refl _ _, service_of_attachment hconnection hattachment⟩
  | some c =>
    refine ⟨"", w.service, .refl _ _, ?_⟩
    -- Only the two kinds of connections are left.
    unfold Move.connection? at hconnection
    split at hconnection
    next name app certificate config kind attach =>
      cases hconnection
      rw [service_connect]
      cases attach with
      | true => rfl
      | false => rfl
    next name app certificate =>
      cases hconnection
      exact (dropMessenger_spec { w with service := w.service.connect app certificate } name).1
    · cases hconnection

theorem maxPayloadBytes_next (w : World) (move : Move) :
    (w.next move).service.maxPayloadBytes = w.service.maxPayloadBytes := by
  rcases service_next w move with ⟨other, served, hserved, hservice⟩
  rw [hservice, ← hserved.maxPayloadBytes]
  cases w.attachment? move <;> cases move.connection?
  · rfl
  · exact Service.maxPayloadBytes_connect _ _ _
  · rfl
  · exact Service.maxPayloadBytes_connect _ _ _

theorem certificate?_next (w : World) (move : Move) (app : String) :
    (w.next move).service.certificate? app =
      (move.certificateFor? app).or (w.service.certificate? app) := by
  rcases service_next w move with ⟨other, served, hserved, hservice⟩
  -- An attachment leaves the certificates.
  have hconnected : (w.next move).service.certificate? app =
      (move.connection?.elim served fun c => served.connect c.1 c.2).certificate? app := by
    rw [hservice]
    cases w.attachment? move with
    | none => rfl
    | some a => exact Service.certificate?_attach _ _ _ _
  rw [hconnected, ← hserved.certificate?]
  unfold Move.certificateFor?
  cases move.connection? with
  | none => rfl
  | some c =>
    rw [Option.elim_some, Service.certificate?_connect]
    by_cases happ : app = c.1
    · simp [Option.filter_some, happ]
    · simp [Option.filter_some, happ, Ne.symm happ]

/-- Whoever has a handle has connected. -/
def Acquainted (w : World) : Prop := ∀ name handle, w.handles.get? name = some handle →
  (w.service.certificate? handle.app).isSome

theorem Acquainted.next (h : w.Acquainted) (move : Move) : (w.next move).Acquainted := by
  intro name later hlater
  rcases handle_next w move hlater with ⟨earlier, hearlier, happ, -⟩ | ⟨-, hknown, -⟩
  · rw [happ]
    exact known_next w move (h name earlier hearlier)
  · exact hknown

/-- A sink is attached for an application that has connected, if only with the same move. -/
theorem Acquainted.of_attachment (h : w.Acquainted) {served : Service Sink} {other : String}
    (hserved : ServedBy other w.service served) (hattachment : w.attachment? move = some (app, sink)) :
    ((move.connection?.elim served fun c => served.connect c.1 c.2).certificate? app).isSome := by
  unfold attachment? at hattachment
  split at hattachment
  · cases hattachment
    show ((served.connect app _).certificate? app).isSome
    rw [Service.certificate?_connect, if_pos rfl]
    rfl
  next message? name =>
    rcases Option.map_eq_some_iff.1 hattachment with ⟨handle, hhandle, hpair⟩
    cases hpair
    show (served.certificate? handle.app).isSome
    rw [hserved.certificate?]
    exact h name handle hhandle
  · cases hattachment

theorem Acquainted.sink?_next (h : w.Acquainted) (move : Move) (app : String) :
    (w.next move).service.sink? app = (w.sinkFor? app move).or (w.service.sink? app) := by
  rcases service_next w move with ⟨other, served, hserved, hservice⟩
  have hconnected : (move.connection?.elim served fun c => served.connect c.1 c.2).sink? app =
      w.service.sink? app := by
    rw [← hserved.sink?]
    cases move.connection? with
    | none => rfl
    | some c => exact Service.sink?_connect _ _ _ _
  rw [hservice, ← hconnected]
  unfold sinkFor?
  cases hattachment : w.attachment? move with
  | none => rfl
  | some a =>
    rcases a with ⟨attached, sink⟩
    by_cases happ : app = attached
    · have hknown := h.of_attachment hserved hattachment
      simp [Option.filter_some, happ, Service.sink?_attach_self hknown]
    · simp [Option.filter_some, Service.sink?_attach_of_ne happ, Ne.symm happ]

/-! ## Runs -/

theorem maxPayloadBytes_after (w : World) (moves : List Move) :
    (w.after moves).service.maxPayloadBytes = w.service.maxPayloadBytes := by
  induction moves generalizing w with
  | nil => rfl
  | cons move rest ih => exact (ih _).trans (maxPayloadBytes_next w move)

/-- The certificate of an application is that of its last connection. -/
theorem certificate?_after (w : World) (moves : List Move) (app : String) :
    (w.after moves).service.certificate? app =
      (certificatesOf app moves).getLast?.or (w.service.certificate? app) := by
  induction moves generalizing w with
  | nil => rfl
  | cons move rest ih =>
    have hsplit : certificatesOf app (move :: rest) =
        (move.certificateFor? app).toList ++ certificatesOf app rest := by
      unfold certificatesOf
      cases hmove : move.certificateFor? app with
      | none => exact List.filterMap_cons_none hmove
      | some certificate => exact List.filterMap_cons_some hmove
    rw [after_cons, ih, certificate?_next, hsplit, List.getLast?_append, Option.or_assoc]
    cases move.certificateFor? app with
    | none => rfl
    | some certificate => rfl

theorem Acquainted.after (h : w.Acquainted) (moves : List Move) : (w.after moves).Acquainted := by
  induction moves generalizing w with
  | nil => exact h
  | cons move rest ih => exact ih (h.next move)

/-- The sink of an application is the one that was attached last. -/
theorem Acquainted.sink?_after (h : w.Acquainted) (moves : List Move) (app : String) :
    (w.after moves).service.sink? app = (w.sinksOf app moves).getLast?.or (w.service.sink? app) := by
  induction moves generalizing w with
  | nil => rfl
  | cons move rest ih =>
    have hsplit : w.sinksOf app (move :: rest) =
        (w.sinkFor? app move).toList ++ (w.next move).sinksOf app rest := rfl
    rw [after_cons, ih (h.next move), h.sink?_next, hsplit, List.getLast?_append, Option.or_assoc]
    cases w.sinkFor? app move with
    | none => rfl
    | some sink => rfl

theorem acquainted_initial (maxPayloadBytes : Nat) : (initial maxPayloadBytes).Acquainted := by
  intro name handle h
  cases h

end World
end Scenario
end PortMessaging
