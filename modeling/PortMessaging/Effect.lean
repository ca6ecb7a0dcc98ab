import PortMessaging.Log

/-!
# Effect — computations that change a state, write a log and may break off

Every operation of the library that touches the outside (a transport, a listener, the log) is an
`Effect σ α`: started in a state of type `σ` it ends in a state, with the log entries it wrote, and
with either a value or a fault.  A fault breaks the computation off at once; the state it leaves is
the state of that moment, and the entries written so far are kept.

The two combinators `within` and `holding` run an effect on a part of a larger state.  The second
takes the part out for the duration, as an exclusive lock does, and puts it back afterwards,
whether the effect ended with a value or broke off.
-/

namespace PortMessaging

/-- Where an abrupt end came from. -/
inductive Fault where
  | transport
  | listener
  deriving DecidableEq, Repr

/-- How a computation ended: its value or its fault, the state then, and what it logged. -/
structure Outcome (σ α : Type) where
  result : Except Fault α
  state : σ
  log : List LogEntry

/-- A computation on a state of type `σ` with a value of type `α`. -/
structure Effect (σ α : Type) where
  run : σ → Outcome σ α

/-- A part of a larger state. -/
structure Part (ω σ : Type) where
  get : ω → σ
  set : σ → ω → ω

namespace Effect

variable {σ ω ρ α β : Type}

/-! ## Sequencing -/

/-- Runs `x` and then, unless it broke off, what follows. -/
protected def bind (x : Effect σ α) (f : α → Effect σ β) : Effect σ β where
  run s :=
    let first := x.run s
    match first.result with
    | .error fault => ⟨.error fault, first.state, first.log⟩
    | .ok a =>
      let second := (f a).run first.state
      ⟨second.result, second.state, first.log ++ second.log⟩

instance : Monad (Effect σ) where
  pure a := ⟨fun s => ⟨.ok a, s, []⟩⟩
  bind := Effect.bind

@[simp] theorem run_pure (a : α) (s : σ) :
    (pure a : Effect σ α).run s = ⟨.ok a, s, []⟩ := rfl

/-- The value and the fault of a sequence, and the order of its log. -/
theorem run_bind (x : Effect σ α) (f : α → Effect σ β) (s : σ) :
    (x >>= f).run s =
      match (x.run s).result with
      | .error fault => ⟨.error fault, (x.run s).state, (x.run s).log⟩
      | .ok a =>
        ⟨((f a).run (x.run s).state).result, ((f a).run (x.run s).state).state,
          (x.run s).log ++ ((f a).run (x.run s).state).log⟩ := rfl

/-! ## Primitive effects -/

def getState : Effect σ σ := ⟨fun s => ⟨.ok s, s, []⟩⟩

def modifyState (f : σ → σ) : Effect σ Unit := ⟨fun s => ⟨.ok (), f s, []⟩⟩

def log (level : LogLevel) (message : String) (fields : List (String × LogValue)) :
    Effect σ Unit :=
  ⟨fun s => ⟨.ok (), s, [⟨level, message, fields⟩]⟩⟩

/-- Breaks off. -/
def abort (fault : Fault) : Effect σ α := ⟨fun s => ⟨.error fault, s, []⟩⟩

/-- Changes the state after an effect, whether it ended with a value or broke off. -/
def ensuring (x : Effect σ α) (f : σ → σ) : Effect σ α where
  run s :=
    let inner := x.run s
    ⟨inner.result, f inner.state, inner.log⟩

@[simp] theorem run_getState (s : σ) : (getState : Effect σ σ).run s = ⟨.ok s, s, []⟩ := rfl

@[simp] theorem run_modifyState (f : σ → σ) (s : σ) :
    (modifyState f).run s = ⟨.ok (), f s, []⟩ := rfl

@[simp] theorem run_log (level : LogLevel) (message : String) (fields : List (String × LogValue))
    (s : σ) : (log level message fields).run s = ⟨.ok (), s, [⟨level, message, fields⟩]⟩ := rfl

@[simp] theorem run_abort (fault : Fault) (s : σ) :
    (abort fault : Effect σ α).run s = ⟨.error fault, s, []⟩ := rfl

@[simp] theorem run_ensuring (x : Effect σ α) (f : σ → σ) (s : σ) :
    (x.ensuring f).run s = ⟨(x.run s).result, f (x.run s).state, (x.run s).log⟩ := rfl

/-! ## Effects on a part of the state -/

/-- Runs an effect on a part of a larger state. -/
def within (part : Part ω σ) (x : Effect σ α) : Effect ω α where
  run w :=
    let inner := x.run (part.get w)
    ⟨inner.result, part.set inner.state w, inner.log⟩

/-- Takes a part out of the state, runs an effect on the part and the rest, and puts the part
back.  The rest still shows the part as it was when it was taken out. -/
def holding (part : Part ω ρ) (x : Effect (ρ × ω) α) : Effect ω α where
  run w :=
    let inner := x.run (part.get w, w)
    ⟨inner.result, part.set inner.state.1 inner.state.2, inner.log⟩

/-- Runs an effect beside a part that it does not touch. -/
def beside (x : Effect σ α) : Effect (ρ × σ) α where
  run s :=
    let inner := x.run s.2
    ⟨inner.result, (s.1, inner.state), inner.log⟩

/-- Reads the part that is held beside the rest. -/
def held : Effect (ρ × σ) ρ := ⟨fun s => ⟨.ok s.1, s, []⟩⟩

/-- Changes the part that is held beside the rest. -/
def modifyHeld (f : ρ → ρ) : Effect (ρ × σ) Unit := ⟨fun s => ⟨.ok (), (f s.1, s.2), []⟩⟩

@[simp] theorem run_beside (x : Effect σ α) (r : ρ) (s : σ) :
    (beside x).run (r, s) = ⟨(x.run s).result, (r, (x.run s).state), (x.run s).log⟩ := rfl

@[simp] theorem run_held (r : ρ) (s : σ) :
    (held : Effect (ρ × σ) ρ).run (r, s) = ⟨.ok r, (r, s), []⟩ := rfl

@[simp] theorem run_modifyHeld (f : ρ → ρ) (r : ρ) (s : σ) :
    (modifyHeld f : Effect (ρ × σ) Unit).run (r, s) = ⟨.ok (), (f r, s), []⟩ := rfl

/-! ## Lawfulness -/

@[ext] theorem ext {x y : Effect σ α} (h : ∀ s, x.run s = y.run s) : x = y := by
  cases x
  cases y
  simp only [mk.injEq]
  exact funext h

instance : LawfulMonad (Effect σ) := LawfulMonad.mk' (Effect σ)
  (by
    intro α x
    apply ext
    intro s
    show (x >>= fun a => pure (id a)).run s = x.run s
    rw [run_bind]
    cases h : (x.run s).result with
    | error fault => simp [← h]
    | ok a => simp [← h])
  (by
    intro α β a f
    apply ext
    intro s
    simp [run_bind])
  (by
    intro α β γ x f g
    apply ext
    intro s
    simp only [run_bind]
    cases (x.run s).result with
    | error fault => rfl
    | ok a =>
      dsimp only
      cases ((f a).run (x.run s).state).result with
      | error fault => rfl
      | ok b => simp [List.append_assoc])

end Effect

end PortMessaging
