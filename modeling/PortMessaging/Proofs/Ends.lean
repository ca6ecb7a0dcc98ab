import PortMessaging.Translator

/-!
# Ends — how a computation ends

`x.Ends s result s'` says that `x`, started in `s`, ends with `result` in the state `s'`; the log is
left out.  The rules below take a computation apart along its sequencing, so a proof about a long
operation names the end of each of its parts.
-/

namespace PortMessaging

/-- What is put into the part is what is found there, and to put back what is there changes
nothing. -/
structure Part.Lawful {ω σ : Type} (part : Part ω σ) : Prop where
  get_set : ∀ s w, part.get (part.set s w) = s
  set_get : ∀ w, part.set (part.get w) w = w

namespace Effect

variable {σ ω ρ α β : Type}

/-- The computation, started in `s`, ends with `result` in the state `s'`. -/
structure Ends (x : Effect σ α) (s : σ) (result : Except Fault α) (s' : σ) : Prop where
  result : (x.run s).result = result
  state : (x.run s).state = s'

/-- Every computation ends with a fault or with a value. -/
theorem ends_cases (x : Effect σ α) (s : σ) :
    (∃ fault s', x.Ends s (.error fault) s') ∨ ∃ a s', x.Ends s (.ok a) s' := by
  cases h : (x.run s).result with
  | error fault => exact .inl ⟨fault, _, h, rfl⟩
  | ok a => exact .inr ⟨a, _, h, rfl⟩

/-- A computation ends in one way only. -/
theorem Ends.unique {x : Effect σ α} {s s₁ s₂ : σ} {r₁ r₂ : Except Fault α} (h₁ : x.Ends s r₁ s₁)
    (h₂ : x.Ends s r₂ s₂) : r₁ = r₂ ∧ s₁ = s₂ :=
  ⟨h₁.result.symm.trans h₂.result, h₁.state.symm.trans h₂.state⟩

/-! ## Sequencing -/

theorem ends_bind {x : Effect σ α} {f : α → Effect σ β} {s s₁ s₂ : σ} {a : α}
    {result : Except Fault β} (hx : x.Ends s (.ok a) s₁) (hf : (f a).Ends s₁ result s₂) :
    (x >>= f).Ends s result s₂ := by
  refine ⟨?_, ?_⟩
  · rw [run_bind, hx.result, hx.state]
    exact hf.result
  · rw [run_bind, hx.result, hx.state]
    exact hf.state

theorem ends_bind_error {x : Effect σ α} {f : α → Effect σ β} {s s₁ : σ} {fault : Fault}
    (hx : x.Ends s (.error fault) s₁) : (x >>= f).Ends s (.error fault) s₁ := by
  refine ⟨?_, ?_⟩
  · rw [run_bind, hx.result]
  · rw [run_bind, hx.result]
    exact hx.state

/-! ## Primitive effects -/

theorem ends_log (level : LogLevel) (message : String) (fields : List (String × LogValue)) (s : σ) :
    (log level message fields).Ends s (.ok ()) s := ⟨rfl, rfl⟩

theorem ends_getState (s : σ) : (getState : Effect σ σ).Ends s (.ok s) s := ⟨rfl, rfl⟩

theorem ends_modifyState (f : σ → σ) (s : σ) : (modifyState f).Ends s (.ok ()) (f s) := ⟨rfl, rfl⟩

theorem ends_held (r : ρ) (s : σ) : (held : Effect (ρ × σ) ρ).Ends (r, s) (.ok r) (r, s) :=
  ⟨rfl, rfl⟩

theorem ends_beside {x : Effect σ α} {s s' : σ} {result : Except Fault α}
    (hx : x.Ends s result s') (r : ρ) : (beside x).Ends (r, s) result (r, s') := by
  refine ⟨hx.result, ?_⟩
  rw [run_beside, hx.state]

/-! ## Translated answers -/

theorem ends_translated_ok (translator : Translator) (a : α) (s : σ) :
    (translator.result (.ok a)).Ends s (.ok (.ok a)) s := ⟨rfl, rfl⟩

theorem ends_translate (translator : Translator) (code : TransportCode) (s : σ) :
    (translator.translate code).Ends s (.ok (translator.errorOf code)) s := by
  cases code with
  -- Unknown codes are logged or passed through, and both leave the state.
  | other raw =>
    cases htranslator : translator.passthrough with
    | true =>
      unfold Translator.translate
      rw [htranslator]
      exact ⟨rfl, rfl⟩
    | false =>
      unfold Translator.translate
      rw [htranslator]
      exact ⟨rfl, rfl⟩
  | _ => exact ⟨rfl, rfl⟩

theorem ends_translated_error (translator : Translator) (code : TransportCode) (s : σ) :
    (translator.result (.error code : Except TransportCode α)).Ends s
      (.ok (.error (translator.errorOf code))) s :=
  ends_bind (ends_translate translator code s) ⟨rfl, rfl⟩

/-- A translated answer is the answer with the public error in place of the code. -/
theorem ends_translated (translator : Translator) (answer : Except TransportCode α) (s : σ) :
    (translator.result answer).Ends s (.ok (answer.mapError translator.errorOf)) s := by
  cases answer with
  | ok a => exact ends_translated_ok translator a s
  | error code => exact ends_translated_error translator code s

/-- A request whose answer is translated ends as the request does, with the answer translated. -/
theorem ends_answered (translator : Translator) (x : Effect σ (Except TransportCode α)) (s : σ) :
    (x >>= translator.result).Ends s ((x.run s).result.map (·.mapError translator.errorOf))
      (x.run s).state := by
  rcases ends_cases x s with ⟨fault, s', hx⟩ | ⟨answer, s', hx⟩
  · rw [hx.result, hx.state]
    exact ends_bind_error hx
  · rw [hx.result, hx.state]
    exact ends_bind hx (ends_translated translator answer s')

/-! ## Computations that leave the state alone -/

/-- The computation changes no state. -/
def Silent (x : Effect σ α) : Prop := ∀ s, (x.run s).state = s

theorem silent_pure (a : α) : (pure a : Effect σ α).Silent := fun _ => rfl

theorem silent_log (level : LogLevel) (message : String) (fields : List (String × LogValue)) :
    (log level message fields : Effect σ Unit).Silent := fun _ => rfl

theorem state_log_bind (level : LogLevel) (message : String) (fields : List (String × LogValue))
    (f : Unit → Effect σ β) (s : σ) :
    ((log level message fields >>= f).run s).state = ((f ()).run s).state := rfl

/-- What follows a computation and is silent leaves the state that the computation left. -/
theorem state_bind_silent (x : Effect σ α) {f : α → Effect σ β} (hf : ∀ a, (f a).Silent) (s : σ) :
    ((x >>= f).run s).state = (x.run s).state := by
  rw [run_bind]
  cases (x.run s).result with
  | error fault => rfl
  | ok a => exact hf a _

/-- After a silent computation what follows starts in the same state, if it starts at all. -/
theorem state_silent_bind {x : Effect σ α} (hx : x.Silent) (f : α → Effect σ β) (s : σ) :
    ((x >>= f).run s).state = s ∨
      ∃ a, (x.run s).result = .ok a ∧ ((x >>= f).run s).state = ((f a).run s).state := by
  have hstate := hx s
  rw [run_bind, hstate]
  cases (x.run s).result with
  | error fault => exact .inl rfl
  | ok a => exact .inr ⟨a, rfl, rfl⟩

/-- To drop the value of a computation changes nothing of the state that it leaves. -/
theorem state_discard (x : Effect σ α) (s : σ) :
    ((x >>= fun _ => pure ()).run s).state = (x.run s).state :=
  state_bind_silent x (fun _ => silent_pure ()) s

theorem silent_bind {x : Effect σ α} {f : α → Effect σ β} (hx : x.Silent) (hf : ∀ a, (f a).Silent) :
    (x >>= f).Silent := by
  intro s
  rw [state_bind_silent x hf]
  exact hx s

theorem silent_translate (translator : Translator) (code : TransportCode) :
    (translator.translate code : Effect σ PortError).Silent :=
  fun s => (ends_translate translator code s).state

theorem silent_translated (translator : Translator) (answer : Except TransportCode α) :
    (translator.result answer : Effect σ (Except PortError α)).Silent :=
  fun s => (ends_translated translator answer s).state

end Effect
end PortMessaging
