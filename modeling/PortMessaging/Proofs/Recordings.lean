import PortMessaging.Proofs.Ends
import PortMessaging.Registry
import PortMessaging.Scenario.World

/-!
# Recordings — which calls reach a transport

A recorded transport does what the transport does, and notes every call that is made on it, also one that
breaks off (`Transport.recorded`).  What a registry or a gateway asks of its transport is what stands in
the record when it is done.

The record is only looked at.  `Effect.Reflects` says of two computations, one on states with more to
them, that they end alike and log alike, and leave states that look the same.  A registry on a transport
reflects the registry on any transport that its own reflects, in particular on the one without the
record.
-/

namespace PortMessaging

open Scenario (Call)

variable {σ ω ρ α β : Type}

/-! ## The record -/

namespace Effect

/-- Notes a call before it is made. -/
def noted (call : Call) (x : Effect σ α) : Effect (List Call × σ) α where
  run s :=
    let inner := x.run s.2
    ⟨inner.result, (s.1 ++ [call], inner.state), inner.log⟩

theorem ends_noted (call : Call) (x : Effect σ α) (calls : List Call) (s : σ) :
    (noted call x).Ends (calls, s) (x.run s).result (calls ++ [call], (x.run s).state) :=
  ⟨rfl, rfl⟩

/-- How a noted call ends is how the call ends, and it stands last in the record. -/
theorem Ends.of_noted {call : Call} {x : Effect σ α} {s s' : List Call × σ} {result : Except Fault α}
    (h : (noted call x).Ends s result s') : x.Ends s.2 result s'.2 ∧ s'.1 = s.1 ++ [call] := by
  rcases h.unique (ends_noted call x s.1 s.2) with ⟨hresult, hstate⟩
  refine ⟨⟨hresult.symm, ?_⟩, ?_⟩
  · rw [hstate]
  · rw [hstate]

end Effect

/-- The transport with a record of the calls that are made on it. -/
def Transport.recorded (transport : Transport σ) : Transport (List Call × σ) where
  bind name domain := (transport.bind name domain).noted (.bind name domain)
  unbind id := (transport.unbind id).noted (.unbind id)
  checkRemote remote domain := (transport.checkRemote remote domain).noted (.check remote domain)
  send remote domain payload :=
    (transport.send remote domain payload).noted (.send remote domain payload)
  sendWithReply reply remote domain payload :=
    (transport.sendWithReply reply remote domain payload).noted
      (.sendWithReply reply remote domain payload)

/-! ## Reflections -/

namespace Effect

variable {view : ω → σ}

/-- The view of a state beside a part that is held, which is seen as it is. -/
def besideView (ρ : Type) (view : ω → σ) (s : ρ × ω) : ρ × σ := (s.1, view s.2)

/-- On what the view shows of a state `y` does what `x` does on the state. -/
def Reflects (view : ω → σ) (x : Effect ω α) (y : Effect σ α) : Prop :=
  ∀ w, y.run (view w) = ⟨(x.run w).result, view (x.run w).state, (x.run w).log⟩

theorem reflects_pure (a : α) : Reflects view (pure a) (pure a) := fun _ => rfl

theorem reflects_log {level : LogLevel} {message : String} {fields : List (String × LogValue)} :
    Reflects view (log level message fields) (log level message fields) := fun _ => rfl

theorem Reflects.bind {x : Effect ω α} {y : Effect σ α} {f : α → Effect ω β} {g : α → Effect σ β}
    (hx : Reflects view x y) (hf : ∀ a, Reflects view (f a) (g a)) :
    Reflects view (x >>= f) (y >>= g) := by
  intro w
  rw [run_bind, run_bind, hx w]
  cases (x.run w).result with
  | error fault => rfl
  | ok a =>
    have hrest := hf a (x.run w).state
    simp only [hrest]

theorem Reflects.beside {x : Effect ω α} {y : Effect σ α} (hx : Reflects view x y) :
    Reflects (besideView ρ view) (beside x) (Effect.beside y) := by
  intro s
  unfold besideView
  rw [run_beside, hx s.2]
  rfl

theorem reflects_held : Reflects (besideView ρ view) held held := fun _ => rfl

theorem reflects_modifyHeld (f : ρ → ρ) :
    Reflects (besideView ρ view) (modifyHeld f) (modifyHeld f) := fun _ => rfl

theorem reflects_translated (translator : Translator) (answer : Except TransportCode α) :
    Reflects view (translator.result answer) (translator.result answer) := by
  cases answer with
  | ok a => exact reflects_pure _
  | error code =>
    refine Reflects.bind ?_ fun e => reflects_pure _
    unfold Translator.translate
    split
    · exact reflects_log.bind fun _ => reflects_pure _
    · exact reflects_pure _

/-- What reflects on recorded states what `y` does ends as `y` does, with some calls in the record. -/
theorem Reflects.recorded_ends {x : Effect (ρ × (List Call × σ)) α} {y : Effect (ρ × σ) α}
    (h : Reflects (besideView ρ Prod.snd) x y) (r : ρ) (s : σ) :
    let out := y.run (r, s)
    ∃ calls, x.Ends (r, ([], s)) out.result (out.state.1, (calls, out.state.2)) := by
  intro out
  have hrun : out = _ := h (r, ([], s))
  rw [hrun]
  exact ⟨(x.run (r, ([], s))).state.2.1, rfl, rfl⟩

end Effect

open Effect

/-- The transport does on its states what the other one does on what the view shows of them. -/
structure Transport.Reflects (view : ω → σ) (transport : Transport ω) (shown : Transport σ) : Prop where
  bind : ∀ name domain, Effect.Reflects view (transport.bind name domain) (shown.bind name domain)
  unbind : ∀ id, Effect.Reflects view (transport.unbind id) (shown.unbind id)
  checkRemote : ∀ remote domain,
    Effect.Reflects view (transport.checkRemote remote domain) (shown.checkRemote remote domain)
  send : ∀ remote domain payload,
    Effect.Reflects view (transport.send remote domain payload) (shown.send remote domain payload)
  sendWithReply : ∀ reply remote domain payload,
    Effect.Reflects view (transport.sendWithReply reply remote domain payload)
      (shown.sendWithReply reply remote domain payload)

/-- Without its record a recorded transport is the transport. -/
theorem Transport.recorded_reflects (transport : Transport σ) :
    transport.recorded.Reflects Prod.snd transport where
  bind _ _ _ := rfl
  unbind _ _ := rfl
  checkRemote _ _ _ := rfl
  send _ _ _ _ := rfl
  sendWithReply _ _ _ _ _ := rfl

/-! ## Registries -/

namespace Registry

variable {view : ω → σ} {transport : Transport ω} {shown : Transport σ}

theorem reflects_releaseRejected (h : transport.Reflects view shown) (outcome : BindOutcome) :
    Effect.Reflects (besideView Registry view) (releaseRejected transport outcome)
      (releaseRejected shown outcome) := by
  cases outcome with
  | existing id => exact reflects_pure ()
  | created id =>
    refine (h.unbind id).beside.bind fun released => ?_
    cases released with
    | ok => exact reflects_pure ()
    | error code => exact reflects_log

theorem reflects_evictStale (h : transport.Reflects view shown) (name : String)
    (domain : TrustDomain) (id : PortId) :
    Effect.Reflects (besideView Registry view) (evictStale transport name domain id)
      (evictStale shown name domain id) := by
  refine reflects_held.bind fun registry => ?_
  cases (registry.idOfName? name domain).filter (· != id) with
  | none => exact reflects_pure ()
  | some stale =>
    refine reflects_log.bind fun _ => (h.unbind stale).beside.bind fun released => ?_
    cases released with
    | ok => exact reflects_modifyHeld _
    | error code => exact reflects_log.bind fun _ => reflects_modifyHeld _

theorem reflects_seat (name : String) (domain : TrustDomain) (listener : Listener)
    (outcome : BindOutcome) :
    Effect.Reflects (besideView Registry view) (seat name domain listener outcome)
      (seat name domain listener outcome) := by
  -- To take a seat asks nothing of the transport, and each end is a change and a note in the log.
  refine reflects_held.bind fun registry => ?_
  cases registry.lookup outcome.id domain with
  | some entry => exact (reflects_modifyHeld _).bind fun _ => reflects_log
  | none =>
    cases outcome with
    | existing id =>
      exact reflects_log.bind fun _ => (reflects_modifyHeld _).bind fun _ => reflects_log
    | created id => exact (reflects_modifyHeld _).bind fun _ => reflects_log

theorem reflects_accept (h : transport.Reflects view shown) (name : String) (domain : TrustDomain)
    (listener : Listener) (outcome : BindOutcome) :
    Effect.Reflects (besideView Registry view) (accept transport name domain listener outcome)
      (accept shown name domain listener outcome) := by
  refine reflects_held.bind fun registry => ?_
  cases registry.refusal? domain outcome.id with
  | some reason =>
    exact reflects_log.bind fun _ => (reflects_releaseRejected h outcome).bind fun _ =>
      reflects_pure _
  | none =>
    exact (reflects_evictStale h name domain outcome.id).bind fun _ =>
      (reflects_seat name domain listener outcome).bind fun _ => reflects_pure _

/-- A registration reflects the registration on a transport that is reflected. -/
theorem reflects_register (h : transport.Reflects view shown) (translator : Translator)
    (name : String) (domain : TrustDomain) (listener : Option Listener) :
    Effect.Reflects (besideView Registry view) (register translator transport name domain listener)
      (register translator shown name domain listener) := by
  unfold register
  split
  · exact reflects_log.bind fun _ => reflects_pure _
  · cases listener with
    | none => exact reflects_log.bind fun _ => reflects_pure _
    | some listener =>
      refine (h.bind name domain).beside.bind fun answer =>
        (reflects_translated translator answer).bind fun result => ?_
      cases result with
      | error e => exact reflects_pure _
      | ok outcome => exact reflects_accept h name domain listener outcome

/-- So does an unregistration. -/
theorem reflects_unregister (h : transport.Reflects view shown) (translator : Translator)
    (id : PortId) (domain : TrustDomain) :
    Effect.Reflects (besideView Registry view) (unregister translator transport id domain)
      (unregister translator shown id domain) := by
  unfold unregister
  split
  · exact reflects_log.bind fun _ => reflects_pure _
  · refine reflects_held.bind fun registry => ?_
    cases registry.lookup id domain with
    | none =>
      dsimp only
      split
      · exact reflects_log.bind fun _ => reflects_pure _
      · exact reflects_log.bind fun _ => reflects_pure _
    | some entry =>
      refine (h.unbind id).beside.bind fun answer =>
        (reflects_translated translator answer).bind fun result => ?_
      cases result with
      | error e => exact reflects_pure _
      | ok =>
        exact (reflects_modifyHeld _).bind fun _ => reflects_log.bind fun _ => reflects_pure _

end Registry
end PortMessaging
