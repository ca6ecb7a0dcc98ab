import PortMessaging.Proofs.GatewayFilter
import PortMessaging.Proofs.RegistryExits

/-!
# FailureCodes — the numbers of the failures that callers see

A failure that a caller sees was found by the library itself, or it was reported by the transport, in the
call that decides the operation, and translated.  A failure of the library has a negative number.  What
becomes of a reported code is read off four tables: `TransportCode.ofRaw?` and `TransportCode.raw` between
raw numbers and codes, `Translator.errorOf` from codes to public errors, and `PortError.code` back to numbers.

`Operation.Refused` says that the deciding call of an operation is made and fails with a code.  The operation
then fails with the error of that code, unless it is the check of a missing port, so what the tables say of
one code holds of all operations.
-/

namespace PortMessaging

variable {σ ω : Type}

/-! ## The tables -/

namespace TransportCode

/-- The codes that have a meaning. -/
def known : List TransportCode :=
  [io, outOfMemory, invalidParameter, portNotFound, certificateMismatch, tooLarge, unavailable]

/-- What a raw number may be read as. -/
inductive Reading (raw : Int32) : Option TransportCode → Prop where
  | noFailure (hraw : 0 ≤ raw) : Reading raw none
  | known {code : TransportCode} (hknown : code ∈ known) (hraw : code.raw = raw) : Reading raw (some code)
  | unknown (hraw : raw < 0) (hunknown : raw ∉ known.map TransportCode.raw) :
      Reading raw (some (.other raw))

theorem negative_of_known : ∀ code ∈ known, code.raw < 0 := by decide

theorem ofRaw?_raw_of_known : ∀ code ∈ known, ofRaw? code.raw = some code := by decide

theorem eq_of_kind_eq :
    ∀ code ∈ known, ∀ other ∈ known, code.ctorIdx = other.ctorIdx → code = other := by decide

theorem reading (raw : Int32) : Reading raw (ofRaw? raw) := by
  by_cases hraw : 0 ≤ raw
  · rw [show ofRaw? raw = none from if_pos hraw]
    exact .noFailure hraw
  · by_cases hknown : raw ∈ known.map TransportCode.raw
    · rcases List.mem_map.1 hknown with ⟨code, hcode, rfl⟩
      rw [ofRaw?_raw_of_known code hcode]
      exact .known hcode rfl
    · have hother : ofRaw? raw = some (.other raw) := by
        simp only [known, List.map_cons, List.map_nil, List.mem_cons, List.not_mem_nil, not_or,
          TransportCode.raw] at hknown
        simp [ofRaw?, hraw, hknown]
      rw [hother]
      exact .unknown (Int32.not_le.1 hraw) hknown

theorem ofRaw?_eq_none_iff (raw : Int32) : ofRaw? raw = none ↔ 0 ≤ raw := by
  have h := reading raw
  generalize ofRaw? raw = read at h
  cases h with
  | noFailure hraw => simpa using hraw
  | known hknown hraw => simpa using hraw ▸ negative_of_known _ hknown
  | unknown hraw _ => simpa using hraw

theorem raw_of_ofRaw? {raw : Int32} {code : TransportCode} (h : ofRaw? raw = some code) :
    code.raw = raw := by
  have hreading := reading raw
  rw [h] at hreading
  cases hreading with
  | known _ hraw => exact hraw
  | unknown _ _ => rfl

theorem known_of_ofRaw? {raw : Int32} {code : TransportCode} (h : ofRaw? raw = some code)
    (hknown : raw ∈ known.map TransportCode.raw) : code ∈ known := by
  have hreading := reading raw
  rw [h] at hreading
  cases hreading with
  | known hcode _ => exact hcode
  | unknown _ hunknown => exact absurd hknown hunknown

end TransportCode

namespace PortError

/-- An error has a number that is not negative only if it hands such a number of the transport through. -/
theorem nonnegative_iff {e : PortError} : 0 ≤ e.code ↔ ∃ raw, 0 ≤ raw ∧ e = .unrecognized raw := by
  cases e with
  | unrecognized raw => simp [code]
  | _ => simp [code, TransportCode.raw]

end PortError

namespace Translator

variable {translator : Translator} {code : TransportCode}

theorem errorOf_known (h : code ∈ TransportCode.known) : (translator.errorOf code).code = code.raw := by
  cases code with
  | other raw => simp [TransportCode.known] at h
  | _ => rfl

theorem errorOf_eq_unrecognized_iff {raw : Int32} :
    translator.errorOf code = .unrecognized raw ↔ translator.passthrough = true ∧ code = .other raw := by
  cases code with
  | other n =>
    cases hpassthrough : translator.passthrough with
    | true => simp [errorOf, hpassthrough]
    | false => simp [errorOf, hpassthrough]
  | _ => simp [errorOf]

/-- The number of the error of a raw number: the same, or that of an input/output error. -/
theorem code_errorOf {raw : Int32} (h : TransportCode.ofRaw? raw = some code) :
    (translator.errorOf code).code =
      if translator.passthrough ∨ raw ∈ TransportCode.known.map TransportCode.raw then raw
      else TransportCode.io.raw := by
  have hreading := TransportCode.reading raw
  rw [h] at hreading
  cases hreading with
  | known hknown hraw =>
    rw [if_pos (.inr (List.mem_map.2 ⟨code, hknown, hraw⟩)), errorOf_known hknown, hraw]
  | unknown _ hunknown =>
    cases hpassthrough : translator.passthrough with
    | true => simp [errorOf, hpassthrough, PortError.code]
    | false => simp [errorOf, hpassthrough, PortError.code, hunknown]

/-- Known codes and their errors are listed in the same order. -/
theorem kind_errorOf (h : code ∈ TransportCode.known) :
    (translator.errorOf code).ctorIdx = code.ctorIdx := by
  cases code with
  | other raw => simp [TransportCode.known] at h
  | _ => rfl

end Translator

/-! ## Operations -/

namespace Messenger

/-- What is asked of a messenger, with a flag for the trusted domain.  The listener and the payload may be
missing. -/
inductive Operation where
  | register (name : String) (trusted : Bool) (listener : Option Listener)
  | unregister (id : PortId) (trusted : Bool)
  | check (remote : RemoteAddress) (trusted : Bool)
  | send (remote : RemoteAddress) (trusted : Bool) (payload : Option Payload) (reply : Option PortId)
  | portName (id : PortId)
  | isTrusted (id : PortId)

/-- What an operation answers if it succeeds. -/
def Operation.Value : Operation → Type
  | register .. => PortId
  | unregister .. => Unit
  | check .. => Bool
  | send .. => Unit
  | portName .. => String
  | isTrusted .. => Bool

/-- Performs an operation in a state with the registry in it.  The transport may reach for all of the
state. -/
def perform (messenger : Messenger) (lock : Part ω Registry) (transport : Transport ω) :
    (operation : Operation) → Effect ω (Except PortError operation.Value)
  | .register name trusted listener =>
    Effect.holding lock
      (Registry.register messenger.translator transport name (.ofTrusted trusted) listener)
  | .unregister id trusted => Effect.holding lock (messenger.unregisterPort transport id trusted)
  | .check remote trusted => messenger.checkRemote transport remote.app remote.port trusted
  | .send remote trusted payload reply => do
    let w ← Effect.getState
    messenger.gateway.attempt (lock.get w) transport remote (.ofTrusted trusted) payload reply
  | .portName id => do localPortName (lock.get (← Effect.getState)) id
  | .isTrusted id => do isTrustedLocalPort (lock.get (← Effect.getState)) id

/-- In this state the operation comes to the call of the transport that decides it, and the call fails with
the code. -/
inductive Operation.Refused (lock : Part ω Registry) (transport : Transport ω) (w : ω) :
    Operation → TransportCode → Prop where
  | bind {name : String} {trusted : Bool} {listener : Listener} {code : TransportCode} (hname : name ≠ "")
      (hasked : ((transport.bind name (.ofTrusted trusted)).run w).result = .ok (.error code)) :
      Refused lock transport w (.register name trusted (some listener)) code
  | unbind {id : PortId} {trusted : Bool} {code : TransportCode} (hid : 0 < id.value)
      (hactive : ((lock.get w).lookup id (.ofTrusted trusted)).isSome)
      (hasked : ((transport.unbind id).run w).result = .ok (.error code)) :
      Refused lock transport w (.unregister id trusted) code
  | check {remote : RemoteAddress} {trusted : Bool} {code : TransportCode}
      (hpasses : verdict remote.conditions = .ok ())
      (hasked : ((transport.checkRemote remote (.ofTrusted trusted)).run w).result = .ok (.error code)) :
      Refused lock transport w (.check remote trusted) code
  | send {remote : RemoteAddress} {trusted : Bool} {payload : Payload} {reply : Option PortId}
      {code : TransportCode}
      (hpasses : verdict (Gateway.sendConditions (lock.get w) remote (some payload) reply) = .ok ())
      (hasked : ((transport.request remote (.ofTrusted trusted) payload reply).run w).result =
        .ok (.error code)) :
      Refused lock transport w (.send remote trusted (some payload) reply) code

end Messenger

/-! ## Failures of the library -/

/-- An error that the library finds itself. -/
inductive PortError.FoundHere : PortError → Prop where
  | argument (fault : ParameterFault) : FoundHere (.invalidParameter fault)
  | missing (port : MissingPort) : FoundHere (.portNotFound port)
  /-- The transport bound a name to an id that cannot be used. -/
  | unusableId : FoundHere .io

theorem PortError.FoundHere.negative {e : PortError} (h : e.FoundHere) : e.code < 0 := by
  cases h with
  | argument fault => exact TransportCode.negative_of_known .invalidParameter (by decide)
  | missing port => exact TransportCode.negative_of_known .portNotFound (by decide)
  | unusableId => exact TransportCode.negative_of_known .io (by decide)

/-- The answer to a request that fails a condition is the error of one of its conditions. -/
theorem error_mem_of_verdict {conditions : List Condition} {e : PortError}
    (h : verdict conditions = .error e) : ∃ condition ∈ conditions, condition.error = e := by
  induction conditions with
  | nil => cases h
  | cons condition rest ih =>
    unfold verdict at h
    split at h
    · rcases ih h with ⟨failed, hmem, herror⟩
      exact ⟨failed, List.mem_cons_of_mem _ hmem, herror⟩
    · cases h
      exact ⟨condition, List.mem_cons_self, rfl⟩

theorem RemoteAddress.foundHere_of_conditions {remote : RemoteAddress} {e : PortError}
    (h : verdict remote.conditions = .error e) : e.FoundHere := by
  rcases error_mem_of_verdict h with ⟨condition, hmem, rfl⟩
  simp only [RemoteAddress.conditions, List.mem_cons, List.not_mem_nil, or_false] at hmem
  rcases hmem with rfl | rfl
  · exact .argument _
  · exact .argument _

theorem Gateway.foundHere_of_sendConditions {registry : Registry} {remote : RemoteAddress}
    {payload : Option Payload} {reply : Option PortId} {e : PortError}
    (h : verdict (sendConditions registry remote payload reply) = .error e) : e.FoundHere := by
  unfold sendConditions at h
  rw [verdict_append] at h
  cases hremote : verdict remote.conditions with
  | error e' =>
    rw [hremote] at h
    cases h
    exact RemoteAddress.foundHere_of_conditions hremote
  | ok =>
    rw [hremote] at h
    rcases error_mem_of_verdict h with ⟨condition, hmem, rfl⟩
    rcases List.mem_cons.1 hmem with rfl | hreply
    · exact .argument _
    · cases reply with
      | none => cases hreply
      | some id =>
        simp only [Option.elim_some, replyConditions, List.mem_cons, List.not_mem_nil, or_false] at hreply
        rcases hreply with rfl | rfl
        · exact .argument _
        · exact .missing _

namespace Registry

variable {translator : Translator} {transport : Transport σ} {name : String} {domain : TrustDomain}
  {id : PortId} {registry registry' : Registry} {s s' : σ}

theorem Registration.fails {listener : Option Listener} {result : Except Fault (Except PortError PortId)}
    (h : Registration translator transport name domain registry s listener result registry' s')
    {e : PortError} (hfails : result = .ok (.error e)) :
    e.FoundHere ∨ ∃ l code, name ≠ "" ∧ listener = some l ∧
      ((transport.bind name domain).run s).result = .ok (.error code) ∧ e = translator.errorOf code := by
  cases h with
  | nameEmpty =>
    cases hfails
    exact .inl (.argument _)
  | listenerMissing =>
    cases hfails
    exact .inl (.argument _)
  | bindRefused hname hbind =>
    cases hfails
    exact .inr ⟨_, _, hname, rfl, hbind.result, rfl⟩
  | existingRejected =>
    cases hfails
    exact .inl .unusableId
  | createdRejected =>
    cases hfails
    exact .inl .unusableId
  | bindBroke => cases hfails
  | createdRejectedBroke => cases hfails
  | accepted => cases hfails
  | moved => cases hfails
  | movedBroke => cases hfails

/-- A registration fails with the code that the transport answers to the request to bind the name. -/
theorem Registration.result_of_refused {listener : Listener}
    {result : Except Fault (Except PortError PortId)}
    (h : Registration translator transport name domain registry s (some listener) result registry' s')
    (hname : name ≠ "") {code : TransportCode}
    (hasked : ((transport.bind name domain).run s).result = .ok (.error code)) :
    result = .ok (.error (translator.errorOf code)) := by
  cases h with
  | nameEmpty hempty => exact absurd hempty hname
  | bindRefused _ hbind =>
    cases hbind.result.symm.trans hasked
    rfl
  | bindBroke _ hbind => cases hbind.result.symm.trans hasked
  | existingRejected _ hbind => cases hbind.result.symm.trans hasked
  | createdRejected _ hbind => cases hbind.result.symm.trans hasked
  | createdRejectedBroke _ hbind => cases hbind.result.symm.trans hasked
  | accepted _ hbind => cases hbind.result.symm.trans hasked
  | moved _ hbind => cases hbind.result.symm.trans hasked
  | movedBroke _ hbind => cases hbind.result.symm.trans hasked

theorem Unregistration.fails {result : Except Fault (Except PortError PortEntry)}
    (h : Unregistration translator transport id domain registry s result registry' s') {e : PortError}
    (hfails : result = .ok (.error e)) :
    e.FoundHere ∨ ∃ code, 0 < id.value ∧ (registry.lookup id domain).isSome ∧
      ((transport.unbind id).run s).result = .ok (.error code) ∧ e = translator.errorOf code := by
  cases h with
  | idInvalid =>
    cases hfails
    exact .inl (.argument _)
  | missing =>
    cases hfails
    exact .inl (.missing _)
  | unbindRefused hid hlookup hunbind =>
    cases hfails
    refine .inr ⟨_, ?_, ?_, hunbind.result, rfl⟩
    · simpa [PortId.isValid] using hid
    · rw [hlookup]
      rfl
  | unbindBroke => cases hfails
  | retired => cases hfails

theorem Unregistration.result_of_refused {result : Except Fault (Except PortError PortEntry)}
    (h : Unregistration translator transport id domain registry s result registry' s')
    (hid : 0 < id.value) (hactive : (registry.lookup id domain).isSome) {code : TransportCode}
    (hasked : ((transport.unbind id).run s).result = .ok (.error code)) :
    result = .ok (.error (translator.errorOf code)) := by
  cases h with
  | idInvalid hinvalid => simp [PortId.isValid, hid] at hinvalid
  | missing _ hlookup => simp [hlookup] at hactive
  | unbindRefused _ _ hunbind =>
    cases hunbind.result.symm.trans hasked
    rfl
  | unbindBroke _ _ hunbind => cases hunbind.result.symm.trans hasked
  | retired _ _ hunbind => cases hunbind.result.symm.trans hasked

end Registry

/-! ## Failures of operations -/

/-- A computation whose result is a changed one returns only if the other one does. -/
theorem ok_of_map {α β : Type} {result : Except Fault α} {f : α → β} {b : β}
    (h : result.map f = .ok b) : ∃ a, result = .ok a ∧ f a = b := by
  cases result with
  | error fault => cases h
  | ok a => exact ⟨a, rfl, Except.ok.inj h⟩

theorem Translator.of_found {translator : Translator} {answer : Except TransportCode Bool} {e : PortError}
    (h : translator.found answer = .error e) :
    ∃ code, answer = .error code ∧ e = translator.errorOf code := by
  cases answer with
  | ok found => cases h
  | error code =>
    cases code with
    | portNotFound => cases h
    | _ =>
      cases h
      exact ⟨_, rfl, rfl⟩

theorem Translator.found_error {translator : Translator} {code : TransportCode} (h : code ≠ .portNotFound) :
    translator.found (.error code) = .error (translator.errorOf code) := by
  cases code with
  | portNotFound => exact absurd rfl h
  | _ => rfl

namespace Messenger

variable {messenger : Messenger} {lock : Part ω Registry} {transport : Transport ω} {w : ω}
  {operation : Operation}

theorem unregisterPort_result (messenger : Messenger) (transport : Transport σ) (id : PortId)
    (trusted : Bool) (s : Registry × σ) :
    ((messenger.unregisterPort transport id trusted).run s).result =
      ((Registry.unregister messenger.translator transport id (.ofTrusted trusted)).run s).result.map
        (·.map fun _ => ()) := by
  unfold unregisterPort
  rw [Effect.run_bind]
  cases ((Registry.unregister messenger.translator transport id (.ofTrusted trusted)).run s).result with
  | error fault => rfl
  | ok retired =>
    cases retired with
    | error e => rfl
    | ok entry => rfl

/-- What asks about a valid id fails only if the question does. -/
theorem foundHere_of_validated {α : Type} {id : PortId} {question : Effect ω (Except PortError α)}
    (hquestion : ∀ e, (question.run w).result = .ok (.error e) → e.FoundHere) {e : PortError}
    (h : ((do
      match ← validateId id with
      | .error e => return .error e
      | .ok () => question : Effect ω (Except PortError α)).run w).result = .ok (.error e)) :
    e.FoundHere := by
  unfold validateId at h
  cases hid : id.isValid with
  | true =>
    simp only [hid] at h
    exact hquestion e h
  | false =>
    simp only [hid] at h
    cases h
    exact .argument _

/-- An operation that fails has found the failure itself, or was refused by the transport. -/
theorem fails_cases {e : PortError}
    (h : ((messenger.perform lock transport operation).run w).result = .ok (.error e)) :
    e.FoundHere ∨ ∃ code, operation.Refused lock transport w code ∧
      e = messenger.translator.errorOf code := by
  -- How each operation ends is known of its registry or gateway; only questions never ask the transport.
  cases operation with
  | register name trusted listener =>
    have hregistration := Registry.register_registration messenger.translator transport name
      (.ofTrusted trusted) listener (lock.get w) w
    rcases hregistration.fails h with hhere | ⟨l, code, hname, rfl, hasked, rfl⟩
    · exact .inl hhere
    · exact .inr ⟨code, .bind hname hasked, rfl⟩
  | unregister id trusted =>
    have hunregistration := Registry.unregister_unregistration messenger.translator transport id
      (.ofTrusted trusted) (lock.get w) w
    rcases ok_of_map ((messenger.unregisterPort_result transport id trusted _).symm.trans h) with
      ⟨retired, hresult, hretired⟩
    cases retired with
    | ok entry => cases hretired
    | error e' =>
      cases hretired
      rcases hunregistration.fails hresult with hhere | ⟨code, hid, hactive, hasked, rfl⟩
      · exact .inl hhere
      · exact .inr ⟨code, .unbind hid hactive hasked, rfl⟩
  | check remote trusted =>
    cases hverdict : verdict remote.conditions with
    | error e' =>
      have hends := messenger.gateway.checkRemote_refused_ends transport (.ofTrusted trusted) hverdict w
      cases hends.result.symm.trans h
      exact .inl (RemoteAddress.foundHere_of_conditions hverdict)
    | ok =>
      have hends := messenger.gateway.checkRemote_passed_ends transport (.ofTrusted trusted) hverdict w
      rcases ok_of_map (hends.result.symm.trans h) with ⟨answer, hasked, hfound⟩
      rcases Translator.of_found hfound with ⟨code, rfl, rfl⟩
      exact .inr ⟨code, .check hverdict hasked, rfl⟩
  | send remote trusted payload reply =>
    cases hverdict : verdict (Gateway.sendConditions (lock.get w) remote payload reply) with
    | error e' =>
      have hends : (messenger.gateway.attempt (lock.get w) transport remote (.ofTrusted trusted) payload
          reply).Ends w (.ok (.error e')) w := Gateway.attempt_refused_ends hverdict w
      cases hends.result.symm.trans h
      exact .inl (Gateway.foundHere_of_sendConditions hverdict)
    | ok =>
      rcases messenger.gateway.attempt_passed_ends transport (.ofTrusted trusted) hverdict w with
        ⟨p, rfl, hends⟩
      rcases ok_of_map (hends.result.symm.trans h) with ⟨answer, hasked, htranslated⟩
      cases answer with
      | ok => cases htranslated
      | error code =>
        cases htranslated
        exact .inr ⟨code, .send hverdict hasked, rfl⟩
  | portName id =>
    refine .inl (foundHere_of_validated ?_ h)
    intro e hquestion
    cases hname : (lock.get w).nameOf? id with
    | none =>
      simp only [hname] at hquestion
      cases hquestion
      exact .missing _
    | some name =>
      simp only [hname] at hquestion
      cases hquestion
  | isTrusted id =>
    refine .inl (foundHere_of_validated ?_ h)
    intro e hquestion
    cases hdomain : (lock.get w).domainOf? id with
    | none =>
      simp only [hdomain] at hquestion
      cases hquestion
      exact .missing _
    | some domain =>
      simp only [hdomain] at hquestion
      cases hquestion

/-- An operation that is refused by the transport fails with the error of the code, except that the check
of a missing port finds none. -/
theorem result_of_refused (messenger : Messenger) {code : TransportCode}
    (h : operation.Refused lock transport w code)
    (hcheck : code = .portNotFound → ∀ remote trusted, operation ≠ .check remote trusted) :
    ((messenger.perform lock transport operation).run w).result =
      .ok (.error (messenger.translator.errorOf code)) := by
  cases h with
  | @bind name trusted listener code hname hasked =>
    have hregistration := Registry.register_registration messenger.translator transport name
      (.ofTrusted trusted) (some listener) (lock.get w) w
    exact hregistration.result_of_refused hname hasked
  | @unbind id trusted code hid hactive hasked =>
    have hunregistration := Registry.unregister_unregistration messenger.translator transport id
      (.ofTrusted trusted) (lock.get w) w
    refine (messenger.unregisterPort_result transport id trusted _).trans ?_
    rw [hunregistration.result_of_refused hid hactive hasked]
    rfl
  | @check remote trusted code hpasses hasked =>
    have hends := messenger.gateway.checkRemote_passed_ends transport (.ofTrusted trusted) hpasses w
    have hcode : code ≠ .portNotFound := fun hcode => hcheck hcode remote trusted rfl
    rw [hasked] at hends
    refine hends.result.trans ?_
    exact congrArg Except.ok (Translator.found_error hcode)
  | @send remote trusted payload reply code hpasses hasked =>
    rcases messenger.gateway.attempt_passed_ends transport (.ofTrusted trusted) hpasses w with
      ⟨p, hpayload, hends⟩
    cases hpayload
    rw [hasked] at hends
    exact hends.result

/-- That there is no such port is what a check finds. -/
theorem result_of_missing {remote : RemoteAddress} {trusted : Bool}
    (h : Operation.Refused lock transport w (.check remote trusted) .portNotFound) :
    ((messenger.perform lock transport (.check remote trusted)).run w).result = .ok (.ok false) := by
  cases h with
  | check hpasses hasked =>
    have hends := messenger.gateway.checkRemote_passed_ends transport (.ofTrusted trusted) hpasses w
    rw [hasked] at hends
    exact hends.result

/-! ## Failures with numbers of successes -/

/-- For every transport and every configuration: the error that an operation returns has a number that is not
negative exactly if unmapped codes are handed through and the deciding call was answered with such a
number, which is then handed through as it is. -/
theorem nonnegative_code_iff (messenger : Messenger) (lock : Part ω Registry) (transport : Transport ω)
    (w : ω) (operation : Operation) {e : PortError}
    (hfails : ((messenger.perform lock transport operation).run w).result = .ok (.error e)) :
    (0 ≤ e.code ↔ messenger.config.passthroughUnmappedCodes = true ∧
      ∃ raw, 0 ≤ raw ∧ operation.Refused lock transport w (.other raw)) ∧
    (messenger.config.passthroughUnmappedCodes = true →
      ∀ raw, operation.Refused lock transport w (.other raw) → e = .unrecognized raw) ∧
    messenger.Forwards transport (lock.get w) := by
  have hthrough : messenger.config.passthroughUnmappedCodes = true →
      ∀ raw, operation.Refused lock transport w (.other raw) → e = .unrecognized raw := by
    intro hpassthrough raw hrefused
    have herror : messenger.translator.errorOf (.other raw) = .unrecognized raw :=
      Translator.errorOf_eq_unrecognized_iff.2 ⟨hpassthrough, rfl⟩
    have hresult := messenger.result_of_refused hrefused (fun hcode => nomatch hcode)
    rw [hfails, herror] at hresult
    exact Except.error.inj (Except.ok.inj hresult)
  refine ⟨⟨?_, ?_⟩, hthrough, messenger.forwards transport (lock.get w)⟩
  · intro hcode
    rcases fails_cases hfails with hhere | ⟨code, hrefused, rfl⟩
    · exact absurd hhere.negative (Int32.not_lt.2 hcode)
    · rcases PortError.nonnegative_iff.1 hcode with ⟨raw, hraw, herror⟩
      rcases Translator.errorOf_eq_unrecognized_iff.1 herror with ⟨hpassthrough, rfl⟩
      exact ⟨hpassthrough, raw, hraw, hrefused⟩
  · rintro ⟨hpassthrough, raw, hraw, hrefused⟩
    exact PortError.nonnegative_iff.2 ⟨raw, hraw, hthrough hpassthrough raw hrefused⟩

/-- A transport that refuses everything with a code. -/
def refusing (code : TransportCode) : Transport σ where
  bind _ _ := pure (.error code)
  unbind _ := pure (.error code)
  checkRemote _ _ := pure (.error code)
  send _ _ _ := pure (.error code)
  sendWithReply _ _ _ _ := pure (.error code)

/-- All that there is in these states is the registry. -/
def wholeRegistry : Part Registry Registry := ⟨fun registry => registry, fun registry _ => registry⟩

def handingThrough : Messenger := ⟨{ passthroughUnmappedCodes := true }⟩

/-- A send without a reply port to a port of another application. -/
def sendToInbox : Operation := .send ⟨"app.b", "inbox"⟩ false (some .empty) none

theorem refused_sendToInbox (code : TransportCode) :
    sendToInbox.Refused wholeRegistry (refusing code) .empty code :=
  .send rfl rfl

/-- The send failed, and the number of its error says that it succeeded. -/
theorem failed_send_with_code_of_success :
    ∃ e, ((handingThrough.perform wholeRegistry (refusing (.other 0)) sendToInbox).run .empty).result =
        .ok (.error e) ∧
      e.code = 0 ∧ ¬ e.code < 0 :=
  ⟨.unrecognized 0,
    handingThrough.result_of_refused (refused_sendToInbox (.other 0)) (fun hcode => nomatch hcode), rfl,
    by decide⟩

theorem nonnegative_code_of_sendToInbox :
    ((handingThrough.perform wholeRegistry (refusing (.other 7)) sendToInbox).run .empty).result =
        .ok (.error (.unrecognized 7)) ∧
      0 ≤ (PortError.unrecognized 7).code := by
  have hfails : ((handingThrough.perform wholeRegistry (refusing (.other 7)) sendToInbox).run .empty).result =
      .ok (.error (.unrecognized 7)) :=
    handingThrough.result_of_refused (refused_sendToInbox (.other 7)) (fun hcode => nomatch hcode)
  have hiff := (nonnegative_code_iff handingThrough wholeRegistry (refusing (.other 7)) .empty sendToInbox
    hfails).1
  exact ⟨hfails, hiff.2 ⟨rfl, 7, by decide, refused_sendToInbox (.other 7)⟩⟩

/-! ## Raw codes -/

/-- Some messenger returns the error from an operation whose deciding call fails with the raw code. -/
inductive Reported (ω : Type) (raw : Int32) (e : PortError) : Prop where
  | returned {messenger : Messenger} {lock : Part ω Registry} {transport : Transport ω} {w : ω}
      {operation : Operation} {code : TransportCode} (hraw : TransportCode.ofRaw? raw = some code)
      (hrefused : operation.Refused lock transport w code)
      (hresult : ((messenger.perform lock transport operation).run w).result = .ok (.error e)) :
      Reported ω raw e

theorem Reported.is_translated {raw : Int32} {e : PortError} (h : Reported ω raw e) :
    ∃ (translator : Translator) (code : TransportCode), TransportCode.ofRaw? raw = some code ∧
      e = translator.errorOf code := by
  rcases h with @⟨messenger, lock, transport, w, operation, code, hraw, hrefused, hresult⟩
  refine ⟨messenger.translator, code, hraw, ?_⟩
  by_cases hcheck : code = .portNotFound → ∀ remote trusted, operation ≠ .check remote trusted
  · have htranslated := (messenger.result_of_refused hrefused hcheck).symm.trans hresult
    exact (Except.error.inj (Except.ok.inj htranslated)).symm
  · -- The check of a missing port returns no error.
    simp only [not_forall, not_not] at hcheck
    rcases hcheck with ⟨rfl, remote, trusted, rfl⟩
    cases (result_of_missing hrefused).symm.trans hresult

/-- A raw number is a code exactly if it is negative, and the code keeps the number.  An operation whose
deciding call fails with the code returns an error, which has the same number if unmapped codes are handed
through or the code has a meaning, and that of an input/output error otherwise; only the check of a missing
port returns that there is none.  Codes with different meanings come to errors of different kinds. -/
theorem raw_codes_survive (messenger : Messenger) (lock : Part ω Registry) (transport : Transport ω)
    (w : ω) :
    (∀ raw, (TransportCode.ofRaw? raw = none ↔ 0 ≤ raw) ∧
      ∀ code, TransportCode.ofRaw? raw = some code →
        code.raw = raw ∧ TransportCode.ofRaw? code.raw = some code) ∧
    (∀ raw code, TransportCode.ofRaw? raw = some code →
      ∀ operation : Operation, operation.Refused lock transport w code →
        (code = .portNotFound → ∀ remote trusted, operation ≠ .check remote trusted) →
          ∃ e, ((messenger.perform lock transport operation).run w).result = .ok (.error e) ∧
            e.code =
              if messenger.config.passthroughUnmappedCodes ∨
                raw ∈ TransportCode.known.map TransportCode.raw then raw
              else TransportCode.io.raw) ∧
    (∀ remote trusted, Operation.Refused lock transport w (.check remote trusted) .portNotFound →
      ((messenger.perform lock transport (.check remote trusted)).run w).result = .ok (.ok false)) ∧
    (∀ raw₁ raw₂ e₁ e₂, raw₁ ∈ TransportCode.known.map TransportCode.raw →
      raw₂ ∈ TransportCode.known.map TransportCode.raw → raw₁ ≠ raw₂ →
        Reported ω raw₁ e₁ → Reported ω raw₂ e₂ → e₁.ctorIdx ≠ e₂.ctorIdx) ∧
    messenger.Forwards transport (lock.get w) := by
  refine ⟨?_, ?_, fun remote trusted => result_of_missing, ?_, messenger.forwards transport (lock.get w)⟩
  · intro raw
    refine ⟨TransportCode.ofRaw?_eq_none_iff raw, fun code hcode => ?_⟩
    have hraw := TransportCode.raw_of_ofRaw? hcode
    exact ⟨hraw, hraw.symm ▸ hcode⟩
  · intro raw code hcode operation hrefused hcheck
    exact ⟨_, messenger.result_of_refused hrefused hcheck, Translator.code_errorOf hcode⟩
  · intro raw₁ raw₂ e₁ e₂ hknown₁ hknown₂ hne hreported₁ hreported₂ hkind
    rcases hreported₁.is_translated with ⟨translator₁, code₁, hcode₁, rfl⟩
    rcases hreported₂.is_translated with ⟨translator₂, code₂, hcode₂, rfl⟩
    have hmeaning₁ := TransportCode.known_of_ofRaw? hcode₁ hknown₁
    have hmeaning₂ := TransportCode.known_of_ofRaw? hcode₂ hknown₂
    rw [Translator.kind_errorOf hmeaning₁, Translator.kind_errorOf hmeaning₂] at hkind
    -- Codes of one kind have one number.
    have hsame := TransportCode.eq_of_kind_eq code₁ hmeaning₁ code₂ hmeaning₂ hkind
    subst hsame
    exact hne ((TransportCode.raw_of_ofRaw? hcode₁).symm.trans (TransportCode.raw_of_ofRaw? hcode₂))

theorem reported_sendToInbox (code : TransportCode) (h : TransportCode.ofRaw? code.raw = some code) :
    Reported Registry code.raw (handingThrough.translator.errorOf code) :=
  .returned h (refused_sendToInbox code)
    (handingThrough.result_of_refused (refused_sendToInbox code) (fun _ _ _ hcheck => nomatch hcheck))

/-- An unmapped code is handed through by one messenger and not by the other. -/
theorem raw_codes_survive_sendToInbox :
    (∃ e, ((handingThrough.perform wholeRegistry (refusing (.other (-4242))) sendToInbox).run .empty).result =
        .ok (.error e) ∧ e.code = -4242) ∧
    (∃ e, ((Messenger.perform ⟨.defaults⟩ wholeRegistry (refusing (.other (-4242))) sendToInbox).run
        .empty).result = .ok (.error e) ∧ e.code = -5) ∧
    ((handingThrough.perform wholeRegistry (refusing .portNotFound) (.check ⟨"app.b", "inbox"⟩ false)).run
        .empty).result = .ok (.ok false) ∧
    ∃ e₁ e₂, Reported Registry (-12) e₁ ∧ Reported Registry (-7) e₂ ∧ e₁.ctorIdx ≠ e₂.ctorIdx := by
  refine ⟨?_, ?_, ?_, ?_⟩
  · exact (raw_codes_survive handingThrough wholeRegistry (refusing (.other (-4242))) .empty).2.1 (-4242) _
      rfl sendToInbox (refused_sendToInbox _) (fun hcode => nomatch hcode)
  · exact (raw_codes_survive ⟨.defaults⟩ wholeRegistry (refusing (.other (-4242))) .empty).2.1 (-4242) _
      rfl sendToInbox (refused_sendToInbox _) (fun hcode => nomatch hcode)
  · exact (raw_codes_survive handingThrough wholeRegistry (refusing .portNotFound) .empty).2.2.1
      ⟨"app.b", "inbox"⟩ false (.check rfl rfl)
  · have houtOfMemory := reported_sendToInbox .outOfMemory rfl
    have htooLarge := reported_sendToInbox .tooLarge rfl
    exact ⟨_, _, houtOfMemory, htooLarge,
      (raw_codes_survive handingThrough wholeRegistry (refusing .io) .empty).2.2.2.1 (-12) (-7) _ _
        (by decide) (by decide) (by decide) houtOfMemory htooLarge⟩

end Messenger

end PortMessaging
