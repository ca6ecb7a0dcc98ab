import PortMessaging.Proofs.SoundWorlds

/-!
# Plays — a scenario that is played is a run of moves

A step of a scenario may run many tasks, and a listener that a task calls may act in the middle of it.
Whatever a step does, and wherever it breaks off, it leaves a world to which some moves lead
(`laidOut_step`).  So what is shown of all runs of moves holds of all scenarios that are played.
-/

namespace PortMessaging
namespace Scenario
namespace World

variable {w w₁ w₂ w₃ : World} {α β : Type}

/-- Some moves lead from a world to another one. -/
def Leads (w w' : World) : Prop := ∃ moves : List Move, w' = w.after moves

theorem Leads.refl (w : World) : Leads w w := ⟨[], rfl⟩

theorem Leads.trans (h₁ : Leads w₁ w₂) (h₂ : Leads w₂ w₃) : Leads w₁ w₃ := by
  rcases h₁ with ⟨moves, rfl⟩
  rcases h₂ with ⟨more, rfl⟩
  exact ⟨moves ++ more, (after_append _ _ _).symm⟩

theorem Leads.next (w : World) (move : Move) : Leads w (w.next move) := ⟨[move], rfl⟩

/-- A computation that leaves every world where some moves lead, however it ends. -/
def LaidOut (x : Effect World α) : Prop := ∀ w, Leads w (x.run w).state

section LaidOut

variable {x : Effect World α} {f : α → Effect World β}

theorem LaidOut.of_silent (h : x.Silent) : LaidOut x := by
  intro w
  rw [h w]
  exact .refl w

theorem LaidOut.pure (a : α) : LaidOut (pure a : Effect World α) := .of_silent (Effect.silent_pure a)

theorem LaidOut.bind (hx : LaidOut x) (hf : ∀ a, LaidOut (f a)) : LaidOut (x >>= f) := by
  intro w
  have hfirst := hx w
  rw [Effect.run_bind]
  -- A computation that broke off is not followed by anything.
  cases (x.run w).result with
  | error fault => exact hfirst
  | ok a => exact hfirst.trans (hf a _)

theorem LaidOut.mapM {items : List α} (h : ∀ a, LaidOut (f a)) : LaidOut (items.mapM f) := by
  induction items with
  | nil => exact .pure _
  | cons a rest ih =>
    rw [List.mapM_cons]
    exact (h a).bind fun b => ih.bind fun bs => .pure _

/-- What reads the state first is laid out if what follows leads on from the state that was read. -/
theorem leads_getState {f : World → Effect World α} (h : Leads w ((f w).run w).state) :
    Leads w ((Effect.getState >>= f).run w).state := by
  rw [Effect.run_bind]
  exact h

end LaidOut

/-! ## Tasks -/

theorem laidOut_perform (message? : Option InboundMessage) (action : Action) :
    LaidOut (perform message? action) :=
  fun w => .next w (.act message? action)

/-- What a listener does is a run of moves that starts where it has just been called. -/
theorem hear_leads (w : World) (listener : Listener) (message : InboundMessage) :
    Leads ((noteHearing listener message).run w).state ((hear listener message).run w).state := by
  cases hbehaviour : w.behaviours[listener.callback]? with
  | none =>
    have hnoted : ((noteHearing listener message).run w).state = w := by
      simp only [noteHearing, Effect.run_bind, Effect.run_getState, hbehaviour]
      rfl
    have hheard : ((hear listener message).run w).state = w := by
      simp only [hear, Effect.run_bind, Effect.run_getState, hbehaviour]
      rfl
    rw [hnoted, hheard]
    exact .refl w
  | some behaviour =>
    let called := w.noteCall listener behaviour message
    -- The listener acts only while it has calls left; afterwards its replies are noted.
    let acting : Effect World Unit :=
      if behaviour.calls < behaviour.limit ∧ behaviour.actions ≠ [] then do
        let replies ← behaviour.actions.mapM (perform (some message))
        Effect.modifyState (·.setReplies w.receipts.length replies)
      else pure ()
    have hnoted : ((noteHearing listener message).run w).state = called := by
      simp only [noteHearing, Effect.run_bind, Effect.run_getState, hbehaviour]
      rfl
    have hheard : ((hear listener message).run w).state = (acting.run called).state := by
      simp only [hear, Effect.run_bind, Effect.run_getState, hbehaviour]
      rfl
    rw [hnoted, hheard]
    have hacting : LaidOut acting := by
      show LaidOut (ite _ _ _)
      split
      · refine .bind (.mapM fun action => laidOut_perform (some message) action) fun replies => ?_
        exact fun w' => .next w' (.noteReplies _ replies)
      · exact .pure ()
    exact hacting called

theorem runTask_leads (w : World) (n : Nat) (task : Task) :
    Leads ((startTask n task).run w).state ((runTask n task).run w).state := by
  cases task with
  | mark tag => exact .refl _
  | delivery delivery =>
    let registry := (registryPart n).get w
    show Leads ((delivery.run registry noteHearing).run w).state
      ((delivery.run registry hear).run w).state
    unfold Delivery.run
    cases delivery.listener? registry with
    | none => exact .refl _
    | some listener => exact hear_leads w listener _

theorem laidOut_runNext (n : Nat) : LaidOut (MainLoop.runNext (mainLoop n)) := by
  intro w
  cases hnext : ((queuePart n).get w).next? with
  | none =>
    have hstate : ((MainLoop.runNext (mainLoop n)).run w).state = w := by
      have hnone : ((mainLoop n).queue.get w).next? = none := hnext
      simp only [MainLoop.runNext, MainLoop.take, Effect.run_bind, hnone]
      rfl
    rw [hstate]
    exact .refl w
  | some found =>
    rcases found with ⟨task, queue⟩
    let w₁ := (queuePart n).set queue w
    have hstate : ((MainLoop.runNext (mainLoop n)).run w).state = ((runTask n task).run w₁).state := by
      have hsome : ((mainLoop n).queue.get w).next? = some (task, queue) := hnext
      have htake : (MainLoop.take (mainLoop n).queue).Ends w (.ok (some task)) w₁ := by
        refine ⟨?_, ?_⟩
        · simp only [MainLoop.take, hsome]
        · simp only [MainLoop.take, hsome]
          rfl
      show ((MainLoop.take (mainLoop n).queue >>= _).run w).state = _
      rw [Effect.run_bind, htake.result, htake.state]
      exact Effect.state_bind_silent _ (fun _ => Effect.silent_pure _) _
    -- A move takes the task and calls the listener; the listener's own moves lead on from there.
    have hstart : Leads w ((startTask n task).run w₁).state := by
      rw [← next_runNext_some hnext]
      exact .next w (.runNext n)
    rw [hstate]
    exact hstart.trans (runTask_leads w₁ n task)

/-! ## Loops -/

theorem laidOut_runUpTo (n limit : Nat) : LaidOut (MainLoop.runUpTo (mainLoop n) limit) := by
  induction limit with
  | zero => exact .pure 0
  | succ limit ih =>
    refine (laidOut_runNext n).bind fun ran => ?_
    cases ran with
    | true => exact ih.bind fun _ => .pure _
    | false => exact .pure 0

theorem laidOut_drain (n : Nat) : LaidOut (drain n) :=
  fun w => leads_getState (laidOut_runUpTo n w.budget w)

theorem laidOut_poll (n : Nat) : LaidOut (poll n) := by
  have hpoll : LaidOut (MainLoop.poll (mainLoop n)) := by
    refine (laidOut_runNext n).bind fun ran => ?_
    cases ran with
    | true => exact .pure _
    | false =>
      refine fun w => leads_getState ?_
      -- Whether the loop ended is only looked at.
      split
      · exact .refl w
      · exact .refl w
  refine hpoll.bind fun outcome => ?_
  cases outcome with
  | ran => exact .pure _
  | idle => exact .pure _
  | ended => exact .pure _

theorem laidOut_runOut (name : String) (n : Nat) : LaidOut (runOut name n) := by
  intro w
  have hrun : Leads w ((MainLoop.runToEnd (mainLoop n) w.budget).run w).state :=
    ((laidOut_runUpTo n w.budget).bind fun _ => .of_silent fun _ => rfl) w
  -- The loop is given up even if a task broke off.
  exact hrun.trans (.next _ (.closeLoop name))

theorem laidOut_onLoop (name : String) (accepted : LoopKind → Bool) {x : Nat → Effect World Reply}
    (hx : ∀ n, LaidOut (x n)) : LaidOut (onLoop name accepted x) := by
  intro w
  refine leads_getState ?_
  cases (w.loops.get? name).bind fun n => w.sites[n]?.map fun site => (n, site.kind) with
  | none => exact .refl w
  | some found =>
    rcases found with ⟨n, kind⟩
    dsimp only
    split
    · exact hx n w
    · exact .refl w

/-! ## Steps -/

theorem next_dropMessenger (w : World) (name : String) :
    w.next (.act none (.onEndpoint name .dropMessenger)) = w.dropMessenger name := by
  cases hhandle : w.handles.get? name with
  | none =>
    have hnext : w.next (.act none (.onEndpoint name .dropMessenger)) = w := by
      simp only [next, perform, Effect.run_bind, Effect.run_getState, hhandle]
      rfl
    rw [hnext]
    unfold dropMessenger
    rw [hhandle]
    rfl
  | some handle =>
    simp only [next, perform, Effect.run_bind, Effect.run_getState, hhandle]
    rfl

/-- Every step of a scenario is a run of moves. -/
theorem laidOut_step (step : Step) : LaidOut (World.step step) := by
  have hcount : ∀ {x : Effect World Nat}, LaidOut x →
      LaidOut (x >>= fun ran => pure (Reply.count ran)) :=
    fun hx => hx.bind fun _ => .pure _
  cases step with
  | connect name app certificate config kind attach =>
    exact fun w => .next w (.connect name app certificate config kind attach)
  | connectEndpoint name app certificate =>
    exact fun w => .next w (.connectEndpoint name app certificate)
  | act action => exact laidOut_perform none action
  | runPending name => exact laidOut_onLoop name _ fun n => hcount (laidOut_drain n)
  | runUntilIdle name => exact laidOut_onLoop name _ fun n => hcount (laidOut_drain n)
  | runUntil name limit expired =>
    refine laidOut_onLoop name _ fun n => ?_
    cases expired with
    | true => exact .pure _
    | false => exact hcount (laidOut_runUpTo n limit)
  | pendingCount name => exact laidOut_onLoop name _ fun n => .of_silent fun _ => rfl
  | loopInfo name => exact laidOut_onLoop name _ fun n => .pure _
  | runOne name => exact laidOut_onLoop name _ fun n => laidOut_poll n
  | runToEnd name =>
    refine .bind (fun w => ?_) fun _ =>
      laidOut_onLoop name _ fun n => hcount (laidOut_runOut name n)
    show Leads w (w.dropMessenger name)
    rw [← next_dropMessenger]
    exact .next w _
  | closeLoop name => exact fun w => .next w (.closeLoop name)

/-- The world after some steps of a scenario. -/
def played (w : World) (steps : List Step) : World :=
  steps.foldl (fun w step => (playStep w step).2) w

/-- What can be seen in the end of a scenario is what its last world shows. -/
theorem final_playFrom (w : World) (steps : List Step) :
    (playFrom w steps).final = (w.played steps).snapshot := by
  induction steps generalizing w with
  | nil => rfl
  | cons step rest ih => exact ih _

/-- A scenario that is played goes through worlds to which runs of moves lead. -/
theorem leads_played (w : World) (steps : List Step) : Leads w (w.played steps) := by
  induction steps generalizing w with
  | nil => exact .refl w
  | cons step rest ih =>
    -- The record of calls is cleared before each step.
    have hstep : Leads w (playStep w step).2 :=
      (Leads.next w .beginStep).trans (laidOut_step step (w.next .beginStep))
    exact hstep.trans (ih _)

/-- Whatever is played, and whatever scripts give in place of the service, the tables of all registries
are in order at the end of every step. -/
theorem registries_played (maxPayloadBytes : Nat) (steps : List Step) (n : Nat) (place : Place)
    (hplace : ((initial maxPayloadBytes).played steps).places[n]? = some place) :
    place.registry.WellFormed := by
  rcases leads_played (initial maxPayloadBytes) steps with ⟨moves, hmoves⟩
  rw [hmoves] at hplace
  exact registries_after (sound_initial maxPayloadBytes).registries moves n place hplace

end World
end Scenario
end PortMessaging
