import PortMessaging.Proofs.Ends
import PortMessaging.Registry

/-!
# RegistryExits — how registrations and unregistrations end

`Registry.register` speaks to its transport once or twice and changes the registry in between, so it
has many ends.  `Registration` lists all of them: the result, the registry then, and the state of
the transport then, for every transport and every state that it may be in.  `Unregistration` does the
same for `Registry.unregister`.

What is said elsewhere about all calls of the two operations follows by going through these lists;
no other module opens the two definitions.  The log is left out here.
-/

namespace PortMessaging
namespace Registry

variable {σ : Type}

/-! ## The steps of a registration as functions of the registry -/

/-- The id under which a name is active in a domain, if that is another id than the one given. -/
def staleId? (registry : Registry) (name : String) (domain : TrustDomain) (id : PortId) :
    Option PortId :=
  (registry.idOfName? name domain).filter (· != id)

/-- The registry after a listener took its seat under an id. -/
def seated (registry : Registry) (id : PortId) (name : String) (domain : TrustDomain)
    (listener : Listener) : Registry :=
  match registry.lookup id domain with
  | some _ => registry.rebind id domain listener
  | none => registry.add id name domain listener

theorem seat_ends (name : String) (domain : TrustDomain) (listener : Listener)
    (outcome : BindOutcome) (registry : Registry) (s : σ) :
    (seat name domain listener outcome : Effect (Registry × σ) Unit).Ends (registry, s) (.ok ())
      (registry.seated outcome.id name domain listener, s) := by
  unfold seat seated
  refine Effect.ends_bind (Effect.ends_held registry s) ?_
  cases registry.lookup outcome.id domain with
  | some entry => exact ⟨rfl, rfl⟩
  | none =>
    cases outcome with
    | created id => exact ⟨rfl, rfl⟩
    | existing id => exact ⟨rfl, rfl⟩

theorem releaseRejected_existing (transport : Transport σ) (id : PortId) (registry : Registry)
    (s : σ) : (releaseRejected transport (.existing id)).Ends (registry, s) (.ok ()) (registry, s) :=
  ⟨rfl, rfl⟩

theorem releaseRejected_created {transport : Transport σ} {id : PortId} {s s' : σ}
    {answer : Except TransportCode Unit} (h : (transport.unbind id).Ends s (.ok answer) s')
    (registry : Registry) :
    (releaseRejected transport (.created id)).Ends (registry, s) (.ok ()) (registry, s') := by
  refine Effect.ends_bind (Effect.ends_beside h registry) ?_
  cases answer with
  | ok => exact ⟨rfl, rfl⟩
  | error code => exact ⟨rfl, rfl⟩

theorem releaseRejected_broke {transport : Transport σ} {id : PortId} {s s' : σ} {fault : Fault}
    (h : (transport.unbind id).Ends s (.error fault) s') (registry : Registry) :
    (releaseRejected transport (.created id)).Ends (registry, s) (.error fault) (registry, s') :=
  Effect.ends_bind_error (Effect.ends_beside h registry)

theorem evictStale_none {registry : Registry} {name : String} {domain : TrustDomain} {id : PortId}
    (h : registry.staleId? name domain id = none) (transport : Transport σ) (s : σ) :
    (evictStale transport name domain id).Ends (registry, s) (.ok ()) (registry, s) := by
  unfold evictStale
  refine Effect.ends_bind (Effect.ends_held registry s) ?_
  unfold staleId? at h
  rw [h]
  exact ⟨rfl, rfl⟩

theorem evictStale_some {registry : Registry} {name : String} {domain : TrustDomain}
    {id stale : PortId} (h : registry.staleId? name domain id = some stale)
    {transport : Transport σ} {s s' : σ} {answer : Except TransportCode Unit}
    (hunbind : (transport.unbind stale).Ends s (.ok answer) s') :
    (evictStale transport name domain id).Ends (registry, s) (.ok ())
      (registry.erase stale domain, s') := by
  unfold evictStale
  refine Effect.ends_bind (Effect.ends_held registry s) ?_
  unfold staleId? at h
  rw [h]
  refine Effect.ends_bind (Effect.ends_log _ _ _ _) ?_
  refine Effect.ends_bind (Effect.ends_beside hunbind registry) ?_
  -- A refused release is logged, and the entry goes all the same.
  cases answer with
  | ok => exact ⟨rfl, rfl⟩
  | error code => exact ⟨rfl, rfl⟩

theorem evictStale_broke {registry : Registry} {name : String} {domain : TrustDomain}
    {id stale : PortId} (h : registry.staleId? name domain id = some stale)
    {transport : Transport σ} {s s' : σ} {fault : Fault}
    (hunbind : (transport.unbind stale).Ends s (.error fault) s') :
    (evictStale transport name domain id).Ends (registry, s) (.error fault) (registry, s') := by
  unfold evictStale
  refine Effect.ends_bind (Effect.ends_held registry s) ?_
  unfold staleId? at h
  rw [h]
  refine Effect.ends_bind (Effect.ends_log _ _ _ _) ?_
  exact Effect.ends_bind_error (Effect.ends_beside hunbind registry)

/-! ## Registrations -/

section Registration

variable (translator : Translator) (transport : Transport σ) (name : String) (domain : TrustDomain)
  (registry : Registry) (s : σ)

/-- The ends of a registration that was started with a registry and a state of the transport: the
listener that was offered, the result, and the registry and the state of the transport then. -/
inductive Registration :
    Option Listener → Except Fault (Except PortError PortId) → Registry → σ → Prop where
  | nameEmpty {listener : Option Listener} (hname : name = "") :
      Registration listener (.ok (.error (.invalidParameter .portNameEmpty))) registry s
  | listenerMissing (hname : name ≠ "") :
      Registration none (.ok (.error (.invalidParameter .listenerMissing))) registry s
  | bindBroke {listener : Listener} {fault : Fault} {s₁ : σ} (hname : name ≠ "")
      (hbind : (transport.bind name domain).Ends s (.error fault) s₁) :
      Registration (some listener) (.error fault) registry s₁
  | bindRefused {listener : Listener} {code : TransportCode} {s₁ : σ} (hname : name ≠ "")
      (hbind : (transport.bind name domain).Ends s (.ok (.error code)) s₁) :
      Registration (some listener) (.ok (.error (translator.errorOf code))) registry s₁
  /-- The id belongs to an older binding and cannot be used; the binding stays. -/
  | existingRejected {listener : Listener} {id : PortId} {s₁ : σ} (hname : name ≠ "")
      (hbind : (transport.bind name domain).Ends s (.ok (.ok (.existing id))) s₁)
      (hrefusal : (registry.refusal? domain id).isSome) :
      Registration (some listener) (.ok (.error .io)) registry s₁
  /-- The id is fresh and cannot be used; the binding is handed back. -/
  | createdRejected {listener : Listener} {id : PortId} {s₁ s₂ : σ}
      {answer : Except TransportCode Unit} (hname : name ≠ "")
      (hbind : (transport.bind name domain).Ends s (.ok (.ok (.created id))) s₁)
      (hrefusal : (registry.refusal? domain id).isSome)
      (hunbind : (transport.unbind id).Ends s₁ (.ok answer) s₂) :
      Registration (some listener) (.ok (.error .io)) registry s₂
  | createdRejectedBroke {listener : Listener} {id : PortId} {s₁ s₂ : σ} {fault : Fault}
      (hname : name ≠ "")
      (hbind : (transport.bind name domain).Ends s (.ok (.ok (.created id))) s₁)
      (hrefusal : (registry.refusal? domain id).isSome)
      (hunbind : (transport.unbind id).Ends s₁ (.error fault) s₂) :
      Registration (some listener) (.error fault) registry s₂
  | accepted {listener : Listener} {outcome : BindOutcome} {s₁ : σ} (hname : name ≠ "")
      (hbind : (transport.bind name domain).Ends s (.ok (.ok outcome)) s₁)
      (hrefusal : registry.refusal? domain outcome.id = none)
      (hstale : registry.staleId? name domain outcome.id = none) :
      Registration (some listener) (.ok (.ok outcome.id))
        (registry.seated outcome.id name domain listener) s₁
  /-- The name was active under another id, which is given up. -/
  | moved {listener : Listener} {outcome : BindOutcome} {stale : PortId} {s₁ s₂ : σ}
      {answer : Except TransportCode Unit} (hname : name ≠ "")
      (hbind : (transport.bind name domain).Ends s (.ok (.ok outcome)) s₁)
      (hrefusal : registry.refusal? domain outcome.id = none)
      (hstale : registry.staleId? name domain outcome.id = some stale)
      (hunbind : (transport.unbind stale).Ends s₁ (.ok answer) s₂) :
      Registration (some listener) (.ok (.ok outcome.id))
        ((registry.erase stale domain).seated outcome.id name domain listener) s₂
  | movedBroke {listener : Listener} {outcome : BindOutcome} {stale : PortId} {s₁ s₂ : σ}
      {fault : Fault} (hname : name ≠ "")
      (hbind : (transport.bind name domain).Ends s (.ok (.ok outcome)) s₁)
      (hrefusal : registry.refusal? domain outcome.id = none)
      (hstale : registry.staleId? name domain outcome.id = some stale)
      (hunbind : (transport.unbind stale).Ends s₁ (.error fault) s₂) :
      Registration (some listener) (.error fault) registry s₂

variable {translator transport name domain registry s} in
/-- A computation that ends as a registration may end is run to such an end. -/
theorem Registration.of_ends {offered : Option Listener} {s₁ s' : σ} {registry₁ registry' : Registry}
    {result : Except Fault (Except PortError PortId)}
    {x : Effect (Registry × σ) (Except PortError PortId)}
    (hends : x.Ends (registry₁, s₁) result (registry', s'))
    (h : Registration translator transport name domain registry s offered result registry' s') :
    Registration translator transport name domain registry s offered (x.run (registry₁, s₁)).result
      (x.run (registry₁, s₁)).state.1 (x.run (registry₁, s₁)).state.2 := by
  rw [hends.result, hends.state]
  exact h

end Registration

section Accept

variable {translator : Translator} {transport : Transport σ} {name : String} {domain : TrustDomain}
  {registry : Registry} {s s₁ : σ}

theorem accept_rejected (name : String) {outcome : BindOutcome} {s₂ : σ}
    {result : Except Fault Unit}
    (hrefusal : (registry.refusal? domain outcome.id).isSome)
    (hrelease : (releaseRejected transport outcome).Ends (registry, s₁) result (registry, s₂))
    (listener : Listener) :
    (accept transport name domain listener outcome).Ends (registry, s₁)
      (result.map fun _ => .error .io) (registry, s₂) := by
  rcases Option.isSome_iff_exists.1 hrefusal with ⟨reason, hreason⟩
  unfold accept
  refine Effect.ends_bind (Effect.ends_held registry s₁) ?_
  simp only [hreason]
  refine Effect.ends_bind (Effect.ends_log _ _ _ _) ?_
  cases result with
  | ok => exact Effect.ends_bind hrelease ⟨rfl, rfl⟩
  | error fault => exact Effect.ends_bind_error hrelease

theorem accept_seated {outcome : BindOutcome} {registry' : Registry} {s₂ : σ}
    (hrefusal : registry.refusal? domain outcome.id = none)
    (hevict : (evictStale transport name domain outcome.id).Ends (registry, s₁) (.ok ())
      (registry', s₂)) (listener : Listener) :
    (accept transport name domain listener outcome).Ends (registry, s₁) (.ok (.ok outcome.id))
      (registry'.seated outcome.id name domain listener, s₂) := by
  unfold accept
  refine Effect.ends_bind (Effect.ends_held registry s₁) ?_
  simp only [hrefusal]
  refine Effect.ends_bind hevict ?_
  exact Effect.ends_bind (seat_ends name domain listener outcome registry' s₂) ⟨rfl, rfl⟩

theorem accept_broke {outcome : BindOutcome} {s₂ : σ} {fault : Fault}
    (hrefusal : registry.refusal? domain outcome.id = none)
    (hevict : (evictStale transport name domain outcome.id).Ends (registry, s₁) (.error fault)
      (registry, s₂)) (listener : Listener) :
    (accept transport name domain listener outcome).Ends (registry, s₁) (.error fault)
      (registry, s₂) := by
  unfold accept
  refine Effect.ends_bind (Effect.ends_held registry s₁) ?_
  simp only [hrefusal]
  exact Effect.ends_bind_error hevict

/-- What is accepted of a binding is one of the ends of the registration that asked for it. -/
theorem accept_registration {outcome : BindOutcome} (hname : name ≠ "")
    (hbind : (transport.bind name domain).Ends s (.ok (.ok outcome)) s₁) (listener : Listener) :
    let out := (accept transport name domain listener outcome).run (registry, s₁)
    Registration translator transport name domain registry s (some listener) out.result
      out.state.1 out.state.2 := by
  intro out
  -- First whether the id can be used, then who has to be asked to release what.
  cases hrefusal : registry.refusal? domain outcome.id with
  | some reason =>
    have hsome : (registry.refusal? domain outcome.id).isSome := by simp [hrefusal]
    cases outcome with
    | existing id =>
      have hends := accept_rejected name hsome
        (releaseRejected_existing transport id registry s₁) listener
      exact .of_ends hends (.existingRejected hname hbind hsome)
    | created id =>
      rcases Effect.ends_cases (transport.unbind id) s₁ with ⟨fault, s₂, hunbind⟩ | ⟨answer, s₂, hunbind⟩
      · have hends := accept_rejected name hsome
          (releaseRejected_broke hunbind registry) listener
        exact .of_ends hends (.createdRejectedBroke hname hbind hsome hunbind)
      · have hends := accept_rejected name hsome
          (releaseRejected_created hunbind registry) listener
        exact .of_ends hends (.createdRejected hname hbind hsome hunbind)
  | none =>
    cases hstale : registry.staleId? name domain outcome.id with
    | none =>
      have hends := accept_seated hrefusal (evictStale_none hstale transport s₁) listener
      exact .of_ends hends (.accepted hname hbind hrefusal hstale)
    | some stale =>
      rcases Effect.ends_cases (transport.unbind stale) s₁ with ⟨fault, s₂, hunbind⟩ | ⟨answer, s₂, hunbind⟩
      · have hends := accept_broke hrefusal (evictStale_broke hstale hunbind) listener
        exact .of_ends hends (.movedBroke hname hbind hrefusal hstale hunbind)
      · have hends := accept_seated hrefusal (evictStale_some hstale hunbind) listener
        exact .of_ends hends (.moved hname hbind hrefusal hstale hunbind)

end Accept

/-- Every registration ends in one of the listed ways. -/
theorem register_registration (translator : Translator) (transport : Transport σ) (name : String)
    (domain : TrustDomain) (listener : Option Listener) (registry : Registry) (s : σ) :
    let out := (register translator transport name domain listener).run (registry, s)
    Registration translator transport name domain registry s listener out.result out.state.1
      out.state.2 := by
  intro out
  -- The offer is checked before the transport is asked.
  by_cases hname : name = ""
  · have hends : (register translator transport name domain listener).Ends (registry, s)
        (.ok (.error (.invalidParameter .portNameEmpty))) (registry, s) := by
      unfold register
      rw [if_pos hname]
      exact ⟨rfl, rfl⟩
    exact .of_ends hends (.nameEmpty hname)
  · cases listener with
    | none =>
      have hends : (register translator transport name domain none).Ends (registry, s)
          (.ok (.error (.invalidParameter .listenerMissing))) (registry, s) := by
        unfold register
        rw [if_neg hname]
        exact ⟨rfl, rfl⟩
      exact .of_ends hends (.listenerMissing hname)
    | some listener =>
      rcases Effect.ends_cases (transport.bind name domain) s with ⟨fault, s₁, hbind⟩ | ⟨answer, s₁, hbind⟩
      · have hends : (register translator transport name domain (some listener)).Ends (registry, s)
            (.error fault) (registry, s₁) := by
          unfold register
          rw [if_neg hname]
          exact Effect.ends_bind_error (Effect.ends_beside hbind registry)
        exact .of_ends hends (.bindBroke hname hbind)
      · cases answer with
        | error code =>
          have hends : (register translator transport name domain (some listener)).Ends
              (registry, s) (.ok (.error (translator.errorOf code))) (registry, s₁) := by
            unfold register
            rw [if_neg hname]
            refine Effect.ends_bind (Effect.ends_beside hbind registry) ?_
            exact Effect.ends_bind (Effect.ends_translated_error translator code _) ⟨rfl, rfl⟩
          exact .of_ends hends (.bindRefused hname hbind)
        | ok outcome =>
          have hrest : (register translator transport name domain (some listener)).Ends (registry, s)
              ((accept transport name domain listener outcome).run (registry, s₁)).result
              ((accept transport name domain listener outcome).run (registry, s₁)).state := by
            unfold register
            rw [if_neg hname]
            refine Effect.ends_bind (Effect.ends_beside hbind registry) ?_
            exact Effect.ends_bind (Effect.ends_translated_ok translator outcome _) ⟨rfl, rfl⟩
          rw [hrest.result, hrest.state]
          exact accept_registration hname hbind listener

/-! ## Unregistrations -/

section Unregistration

variable (translator : Translator) (transport : Transport σ) (id : PortId) (domain : TrustDomain)
  (registry : Registry) (s : σ)

/-- The ends of an unregistration: the result, and the registry and the state of the transport
then. -/
inductive Unregistration :
    Except Fault (Except PortError PortEntry) → Registry → σ → Prop where
  | idInvalid (hid : id.isValid = false) :
      Unregistration (.ok (.error (.invalidParameter (.portIdNotPositive id)))) registry s
  | missing (hid : id.isValid = true) (hlookup : registry.lookup id domain = none) :
      Unregistration (.ok (.error (.portNotFound (.inDomain domain id)))) registry s
  | unbindBroke {entry : PortEntry} {fault : Fault} {s₁ : σ} (hid : id.isValid = true)
      (hlookup : registry.lookup id domain = some entry)
      (hunbind : (transport.unbind id).Ends s (.error fault) s₁) :
      Unregistration (.error fault) registry s₁
  | unbindRefused {entry : PortEntry} {code : TransportCode} {s₁ : σ} (hid : id.isValid = true)
      (hlookup : registry.lookup id domain = some entry)
      (hunbind : (transport.unbind id).Ends s (.ok (.error code)) s₁) :
      Unregistration (.ok (.error (translator.errorOf code))) registry s₁
  | retired {entry : PortEntry} {s₁ : σ} (hid : id.isValid = true)
      (hlookup : registry.lookup id domain = some entry)
      (hunbind : (transport.unbind id).Ends s (.ok (.ok ())) s₁) :
      Unregistration (.ok (.ok { entry with state := .retired })) (registry.erase id domain) s₁

variable {translator transport id domain registry s} in
theorem Unregistration.of_ends {s₁ s' : σ} {registry₁ registry' : Registry}
    {result : Except Fault (Except PortError PortEntry)}
    {x : Effect (Registry × σ) (Except PortError PortEntry)}
    (hends : x.Ends (registry₁, s₁) result (registry', s'))
    (h : Unregistration translator transport id domain registry s result registry' s') :
    Unregistration translator transport id domain registry s (x.run (registry₁, s₁)).result
      (x.run (registry₁, s₁)).state.1 (x.run (registry₁, s₁)).state.2 := by
  rw [hends.result, hends.state]
  exact h

end Unregistration

/-- Every unregistration ends in one of the listed ways. -/
theorem unregister_unregistration (translator : Translator) (transport : Transport σ) (id : PortId)
    (domain : TrustDomain) (registry : Registry) (s : σ) :
    let out := (unregister translator transport id domain).run (registry, s)
    Unregistration translator transport id domain registry s out.result out.state.1
      out.state.2 := by
  intro out
  cases hid : id.isValid with
  | false =>
    have hends : (unregister translator transport id domain).Ends (registry, s)
        (.ok (.error (.invalidParameter (.portIdNotPositive id)))) (registry, s) := by
      simp only [unregister, hid]
      exact ⟨rfl, rfl⟩
    exact .of_ends hends (.idInvalid hid)
  | true =>
    cases hlookup : registry.lookup id domain with
    | none =>
      have hends : (unregister translator transport id domain).Ends (registry, s)
          (.ok (.error (.portNotFound (.inDomain domain id)))) (registry, s) := by
        simp only [unregister, hid]
        refine Effect.ends_bind (Effect.ends_held registry s) ?_
        simp only [hlookup]
        split
        · exact ⟨rfl, rfl⟩
        · exact ⟨rfl, rfl⟩
      exact .of_ends hends (.missing hid hlookup)
    | some entry =>
      -- An active id is left to `retire`, which asks the transport.
      have hretire : (unregister translator transport id domain).Ends (registry, s)
          ((retire translator transport entry id domain).run (registry, s)).result
          ((retire translator transport entry id domain).run (registry, s)).state := by
        simp only [unregister, hid]
        refine Effect.ends_bind (Effect.ends_held registry s) ?_
        simp only [hlookup]
        exact ⟨rfl, rfl⟩
      rw [hretire.result, hretire.state]
      rcases Effect.ends_cases (transport.unbind id) s with ⟨fault, s₁, hunbind⟩ | ⟨answer, s₁, hunbind⟩
      · have hends : (retire translator transport entry id domain).Ends (registry, s)
            (.error fault) (registry, s₁) :=
          Effect.ends_bind_error (Effect.ends_beside hunbind registry)
        exact .of_ends hends (.unbindBroke hid hlookup hunbind)
      · cases answer with
        | error code =>
          have hends : (retire translator transport entry id domain).Ends (registry, s)
              (.ok (.error (translator.errorOf code))) (registry, s₁) := by
            refine Effect.ends_bind (Effect.ends_beside hunbind registry) ?_
            exact Effect.ends_bind (Effect.ends_translated_error translator code _) ⟨rfl, rfl⟩
          exact .of_ends hends (.unbindRefused hid hlookup hunbind)
        | ok =>
          have hends : (retire translator transport entry id domain).Ends (registry, s)
              (.ok (.ok { entry with state := .retired })) (registry.erase id domain, s₁) := by
            refine Effect.ends_bind (Effect.ends_beside hunbind registry) ?_
            exact Effect.ends_bind (Effect.ends_translated_ok translator () _) ⟨rfl, rfl⟩
          exact .of_ends hends (.retired hid hlookup hunbind)

end Registry
end PortMessaging
