import PortMessaging.Effect

/-!
# Looks — computations that cannot tell two states apart

A look of states (`Look`) replaces a state by another one.  A computation commutes with a look
(`Effect.Commutes`) if it does in the replaced state what it does in the state itself: it ends in the same
way, logs the same, and the state that it leaves is replaced like the one in which it started.  What the
look changes is then nothing that the computation depends on.

The two computations that are compared may differ, as data from the states may stand in their texts, and so
may their values.  Most of them are one and the same (`Effect.Blind`).  The rules below follow the
sequencing of a computation.
-/

namespace PortMessaging

/-- A replacement of states, with the states for which it is meant. -/
structure Look (σ : Type) where
  map : σ → σ
  meant : σ → Prop

/-- The look of a state beside a part that is held and stays as it is. -/
def Look.beside {σ : Type} (ρ : Type) (look : Look σ) : Look (ρ × σ) where
  map s := (s.1, look.map s.2)
  meant s := look.meant s.2

/-- A change `f` of states is the change `f'` of replaced states, and leads to states that are meant. -/
def Look.Keeps {σ : Type} (look : Look σ) (f f' : σ → σ) : Prop :=
  ∀ s, look.meant s → f' (look.map s) = look.map (f s) ∧ look.meant (f s)

theorem Look.Keeps.comp {σ : Type} {look : Look σ} {f f' g g' : σ → σ} (hg : look.Keeps g g')
    (hf : look.Keeps f f') : look.Keeps (g ∘ f) (g' ∘ f') := by
  intro s hs
  obtain ⟨hmap, hmeant⟩ := hf s hs
  obtain ⟨hrest, hend⟩ := hg (f s) hmeant
  exact ⟨(congrArg g' hmap).trans hrest, hend⟩

/-- A part of the state that the look leaves alone, and changes of which it keeps. -/
structure Look.Spares {ω ρ : Type} (look : Look ω) (part : Part ω ρ) : Prop where
  get : ∀ w, part.get (look.map w) = part.get w
  set : ∀ r, look.Keeps (part.set r) (part.set r)

namespace Effect

variable {σ ω ρ α β γ δ : Type} {look : Look σ}

/-- In the replaced state `y` does what `x` does in the state itself, and its value is the one of `x` under
`g`. -/
def Commutes (look : Look σ) (g : α → β) (x : Effect σ α) (y : Effect σ β) : Prop :=
  ∀ s, look.meant s →
    y.run (look.map s) = ⟨(x.run s).result.map g, look.map (x.run s).state, (x.run s).log⟩ ∧
      look.meant (x.run s).state

/-- The computation does the same in a state and in the replaced state. -/
abbrev Blind (look : Look σ) (x : Effect σ α) : Prop := Commutes look id x x

/-! ## Sequencing -/

theorem commutes_pure {g : α → β} {a : α} {b : β} (h : g a = b) :
    Commutes look g (pure a) (pure b) := by
  intro s hs
  subst h
  exact ⟨rfl, hs⟩

theorem blind_pure (a : α) : Blind look (pure a) := commutes_pure rfl

theorem Commutes.bind {g : α → β} {k : γ → δ} {x : Effect σ α} {y : Effect σ β}
    {f : α → Effect σ γ} {f' : β → Effect σ δ} (hx : Commutes look g x y)
    (hf : ∀ a, Commutes look k (f a) (f' (g a))) : Commutes look k (x >>= f) (y >>= f') := by
  intro s hs
  obtain ⟨hrun, hmeant⟩ := hx s hs
  rw [run_bind, run_bind, hrun]
  cases (x.run s).result with
  | error fault => exact ⟨rfl, hmeant⟩
  | ok a =>
    obtain ⟨hrest, hend⟩ := hf a (x.run s).state hmeant
    refine ⟨?_, hend⟩
    simp only [Except.map, hrest]

theorem Blind.bind {k : γ → δ} {x : Effect σ α} {f : α → Effect σ γ} {f' : α → Effect σ δ}
    (hx : Blind look x) (hf : ∀ a, Commutes look k (f a) (f' a)) :
    Commutes look k (x >>= f) (x >>= f') :=
  Commutes.bind hx hf

/-- To change the value at the end is to change what it becomes in the replaced state. -/
theorem Commutes.bind_pure {g : α → β} {k : γ → δ} {x : Effect σ α} {y : Effect σ β} {f : α → γ}
    {f' : β → δ} (hx : Commutes look g x y) (hf : ∀ a, k (f a) = f' (g a)) :
    Commutes look k (x >>= fun a => pure (f a)) (y >>= fun b => pure (f' b)) :=
  hx.bind fun a => commutes_pure (hf a)

theorem Blind.bind_pure {x : Effect σ α} (hx : Blind look x) (f : α → β) :
    Blind look (x >>= fun a => pure (f a)) :=
  Commutes.bind_pure hx fun _ => rfl

/-- One computation after the other on the members of a list. -/
theorem Commutes.mapM {h : γ → δ} {g : α → β} {f : γ → Effect σ α} {f' : δ → Effect σ β}
    (hf : ∀ c, Commutes look g (f c) (f' (h c))) (items : List γ) :
    Commutes look (List.map g) (items.mapM f) ((items.map h).mapM f') := by
  induction items with
  | nil => exact commutes_pure rfl
  | cons item rest ih =>
    rw [List.map_cons, List.mapM_cons, List.mapM_cons]
    exact (hf item).bind fun _ => ih.bind fun _ => commutes_pure rfl

/-! ## Primitive effects -/

theorem blind_log {level : LogLevel} {message : String} {fields : List (String × LogValue)} :
    Blind look (log level message fields) := fun _ hs => ⟨rfl, hs⟩

theorem commutes_abort (g : α → β) (fault : Fault) :
    Commutes look g (abort fault) (abort fault) := fun _ hs => ⟨rfl, hs⟩

/-- What reads the state first reads the replaced one there. -/
theorem commutes_getState_bind {k : γ → δ} {f : σ → Effect σ γ} {f' : σ → Effect σ δ}
    (hf : ∀ s, look.meant s → Commutes look k (f s) (f' (look.map s))) :
    Commutes look k (getState >>= f) (getState >>= f') := by
  intro s hs
  obtain ⟨hrun, hmeant⟩ := hf s hs s hs
  refine ⟨?_, hmeant⟩
  rw [run_bind, run_bind]
  simp only [run_getState, hrun]

theorem commutes_modifyState {f f' : σ → σ} (h : look.Keeps f f') :
    Commutes look id (modifyState f) (modifyState f') := by
  intro s hs
  obtain ⟨hmap, hmeant⟩ := h s hs
  refine ⟨?_, hmeant⟩
  simp only [run_modifyState, hmap]
  rfl

theorem Commutes.ensuring {g : α → β} {x : Effect σ α} {y : Effect σ β} {f f' : σ → σ}
    (hx : Commutes look g x y) (h : look.Keeps f f') :
    Commutes look g (x.ensuring f) (y.ensuring f') := by
  intro s hs
  obtain ⟨hrun, hmeant⟩ := hx s hs
  obtain ⟨hmap, hkept⟩ := h _ hmeant
  refine ⟨?_, hkept⟩
  simp only [run_ensuring, hrun, hmap]

/-! ## Effects on a part of the state -/

theorem Commutes.beside {g : α → β} {x : Effect σ α} {y : Effect σ β} (hx : Commutes look g x y) :
    Commutes (look.beside ρ) g (beside x) (Effect.beside y) := by
  intro s hs
  obtain ⟨hrun, hmeant⟩ := hx s.2 hs
  refine ⟨?_, hmeant⟩
  show Outcome.mk _ _ _ = _
  simp only [Look.beside, hrun]
  rfl

theorem blind_held : Blind (look.beside ρ) held := fun _ hs => ⟨rfl, hs⟩

theorem blind_modifyHeld (f : ρ → ρ) : Blind (look.beside ρ) (modifyHeld f) := fun _ hs => ⟨rfl, hs⟩

theorem Commutes.holding {look : Look ω} {part : Part ω ρ} {g : α → β} {x : Effect (ρ × ω) α}
    {y : Effect (ρ × ω) β} (hpart : look.Spares part) (hx : Commutes (look.beside ρ) g x y) :
    Commutes look g (holding part x) (Effect.holding part y) := by
  intro w hw
  obtain ⟨hrun, hmeant⟩ := hx (part.get w, w) hw
  obtain ⟨hset, hkept⟩ := hpart.set (x.run (part.get w, w)).state.1 _ hmeant
  refine ⟨?_, hkept⟩
  have hstart : (part.get (look.map w), look.map w) = (look.beside ρ).map (part.get w, w) := by
    rw [hpart.get]
    rfl
  show Outcome.mk _ _ _ = _
  simp only [hstart, hrun]
  simp only [Look.beside, hset]
  rfl

end Effect
end PortMessaging
