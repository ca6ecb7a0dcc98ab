import PortMessaging.Proofs.Ends
import PortMessaging.Scenario.Play

/-!
# QueueHistory — main loops neither lose, repeat nor reorder tasks

The functions of a main loop (`MainLoop.post`, `runUpTo`, `poll`, `runToEnd`) work on a queue inside some
state.  Here that state also keeps the history of the loop (`Timeline`): the tasks whose posts were
accepted or refused, as `post` told, and the tasks that were started.  What tasks do is left open
(`Tasks`): while one runs the loop may be given any posts, and handles may be made and dropped, by the
task itself or by others, and in the end it may panic.

All that happens to a loop is a sequence of instants (`Instant`): an act of whoever holds a handle, the
start of the oldest task, the end of the draining half.  What others do between two tasks is counted to
the earlier of them.  So is what they do while a drain waits for a task to come, as it is the same to the
queue whether a task came before the drain looked or while it waited.

`Orderly` says how the history and the queue fit together, at every instant.  The drains are then shown to
be sequences of instants, and to tell the number of tasks that they started.  A drain that takes the
draining half along (`Drain.toEnd`) leaves nothing behind, however it ended.
-/

namespace PortMessaging
namespace MainLoop

variable {τ : Type}

/-! ## Main loops with a history -/

/-- What whoever holds a handle can do. -/
inductive Act (τ : Type) where
  | post (task : τ)
  | cloneHandle
  | dropHandle

/-- What can happen to a loop at one instant. -/
inductive Instant (τ : Type) where
  | act (act : Act τ)
  /-- The oldest task leaves the queue and starts. -/
  | start
  /-- The draining half is dropped. -/
  | close

/-- A main loop and what became of the tasks that were posted to it, the oldest first. -/
structure Timeline (τ : Type) where
  queue : TaskQueue τ
  /-- The number of handles that can post. -/
  handles : Nat
  accepted : List τ
  refused : List τ
  started : List τ
  /-- All that happened, as it was noted when it happened. -/
  past : List (Instant τ)

namespace Timeline

/-- A main loop with one handle, to which nothing was posted yet. -/
def fresh : Timeline τ := ⟨.fresh, 1, [], [], [], []⟩

def queuePart : Part (Timeline τ) (TaskQueue τ) where
  get t := t.queue
  set queue t := { t with queue := queue }

def note (t : Timeline τ) (instant : Instant τ) : Timeline τ :=
  { t with past := t.past ++ [instant] }

/-- Notes what a post told. -/
def notePost (t : Timeline τ) (task : τ) (taken : Bool) : Timeline τ :=
  if taken then { t with accepted := t.accepted ++ [task] }
  else { t with refused := t.refused ++ [task] }

def noteStart (t : Timeline τ) (task : τ) : Timeline τ :=
  { t.note .start with started := t.started ++ [task] }

/-- Clones a handle, if there is one. -/
def cloneHandle (t : Timeline τ) : Timeline τ :=
  if t.handles = 0 then t else { t with handles := t.handles + 1 }

/-- Drops a handle; the posting side goes with the last one. -/
def dropHandle (t : Timeline τ) : Timeline τ :=
  { t with
    queue := if t.handles ≤ 1 then t.queue.dropPosting else t.queue
    handles := t.handles - 1 }

/-- Drops the draining half. -/
def close (t : Timeline τ) : Timeline τ := { t.note .close with queue := t.queue.dropDraining }

end Timeline

open Timeline (fresh queuePart)

def Act.perform (act : Act τ) : Effect (Timeline τ) Unit := do
  Effect.modifyState (·.note (.act act))
  match act with
  | .post task =>
    -- Once all handles are gone there is nobody who could post.
    if (← Effect.getState).handles = 0 then return ()
    else
      let taken ← MainLoop.post queuePart task
      Effect.modifyState (·.notePost task taken)
  | .cloneHandle => Effect.modifyState (·.cloneHandle)
  | .dropHandle => Effect.modifyState (·.dropHandle)

/-- What happens while tasks run, and which of them panic.  It may depend on all that happened before. -/
structure Tasks (τ : Type) where
  acts : Timeline τ → τ → List (Act τ)
  panics : Timeline τ → τ → Bool

namespace Tasks

/-- Runs a task that has just left the queue. -/
def exec (tasks : Tasks τ) (task : τ) : Effect (Timeline τ) Unit := do
  Effect.modifyState (·.noteStart task)
  let t ← Effect.getState
  (tasks.acts t task).forM Act.perform
  if tasks.panics t task then Effect.abort .listener

def loop (tasks : Tasks τ) : Loop (Timeline τ) τ := ⟨queuePart, tasks.exec⟩

end Tasks

/-- The ways of draining a loop. -/
inductive Drain where
  /-- Runs tasks until none waits, at most as many as the limit says. -/
  | pending (limit : Nat)
  /-- Runs the oldest task. -/
  | one
  /-- Runs tasks until none waits and gives the draining half up, also if a task panics. -/
  | toEnd (limit : Nat)

/-- Drains a loop; tells how many tasks ran. -/
def Drain.exec (tasks : Tasks τ) : Drain → Effect (Timeline τ) Nat
  | .pending limit => runUpTo tasks.loop limit
  | .one => do
    match ← poll tasks.loop with
    | .ran => return 1
    | .idle => return 0
    | .ended => return 0
  | .toEnd limit =>
    Effect.ensuring (runToEnd tasks.loop limit) (·.close)

/-! ## Instants -/

namespace Timeline

def next (t : Timeline τ) : Instant τ → Timeline τ
  | .act act => (act.perform.run t).state
  | .start =>
    match t.queue.next? with
    | some (task, rest) => { t with queue := rest }.noteStart task
    | none => t.note .start
  | .close => t.close

def after (t : Timeline τ) (instants : List (Instant τ)) : Timeline τ := instants.foldl next t

theorem after_append (t : Timeline τ) (instants more : List (Instant τ)) :
    t.after (instants ++ more) = (t.after instants).after more := List.foldl_append

/-! ## What an instant does -/

/-- What an instant made of a loop, apart from its being noted. -/
inductive Turn (t : Timeline τ) : Instant τ → Timeline τ → Prop where
  | accepted {task : τ} (hdraining : t.queue.draining = true) :
      Turn t (.act (.post task))
        { t with
          queue := { t.queue with waiting := t.queue.waiting ++ [task] }
          accepted := t.accepted ++ [task] }
  | refused {task : τ} (hclosed : t.queue.draining = false) :
      Turn t (.act (.post task)) { t with refused := t.refused ++ [task] }
  /-- Only handles came or went, or nothing happened. -/
  | handled {instant : Instant τ} (posting : Bool) (handles : Nat) (hinstant : instant ≠ .close) :
      Turn t instant { t with queue := { t.queue with posting := posting }, handles := handles }
  | started {task : τ} {rest : List τ} (hwaiting : t.queue.waiting = task :: rest) :
      Turn t .start
        { t with queue := { t.queue with waiting := rest }, started := t.started ++ [task] }
  | closed : Turn t .close { t with queue := t.queue.dropDraining }

/-- A post of somebody who holds a handle does what the queue says. -/
theorem next_post {t : Timeline τ} (hhandles : t.handles ≠ 0) (task : τ) :
    t.next (.act (.post task)) =
      (match t.queue.post? task with
        | some queue => { t with queue := queue, accepted := t.accepted ++ [task] }
        | none => { t with refused := t.refused ++ [task] }).note (.act (.post task)) := by
  unfold next Act.perform
  simp only [Effect.run_bind, Effect.run_modifyState, Effect.run_getState, note, if_neg hhandles,
    post, queuePart]
  cases t.queue.post? task with
  | some queue => rfl
  | none => rfl

/-- The post is refused if the draining half is gone, and else the task comes last. -/
theorem turn_post {t : Timeline τ} (hhandles : t.handles ≠ 0) (task : τ) :
    ∃ t', Turn t (.act (.post task)) t' ∧
      t.next (.act (.post task)) = t'.note (.act (.post task)) := by
  refine ⟨_, ?_, next_post hhandles task⟩
  cases hdraining : t.queue.draining with
  | true =>
    have hpost : t.queue.post? task = some { t.queue with waiting := t.queue.waiting ++ [task] } := by
      unfold TaskQueue.post?
      rw [if_pos hdraining]
    rw [hpost]
    exact .accepted hdraining
  | false =>
    rw [(TaskQueue.post?_eq_none_iff _ _).2 hdraining]
    exact .refused hdraining

theorem turn_next (t : Timeline τ) (instant : Instant τ) :
    ∃ t', Turn t instant t' ∧ t.next instant = t'.note instant := by
  cases instant with
  | act act =>
    cases act with
    | post task =>
      by_cases hhandles : t.handles = 0
      · refine ⟨t, .handled t.queue.posting t.handles nofun, ?_⟩
        unfold next Act.perform
        simp only [Effect.run_bind, Effect.run_modifyState, Effect.run_getState, note,
          if_pos hhandles]
        rfl
      · exact turn_post hhandles task
    | cloneHandle =>
      refine ⟨t.cloneHandle, ?_, ?_⟩
      · unfold cloneHandle
        split
        · exact .handled t.queue.posting t.handles nofun
        · exact .handled t.queue.posting (t.handles + 1) nofun
      · show (t.note _).cloneHandle = t.cloneHandle.note _
        unfold cloneHandle note
        split <;> rfl
    | dropHandle =>
      refine ⟨t.dropHandle, ?_, rfl⟩
      unfold dropHandle
      split
      · exact .handled false (t.handles - 1) nofun
      · exact .handled t.queue.posting (t.handles - 1) nofun
  | start =>
    cases hwaiting : t.queue.waiting with
    | nil =>
      refine ⟨t, .handled t.queue.posting t.handles nofun, ?_⟩
      unfold next TaskQueue.next?
      rw [hwaiting]
    | cons task rest =>
      refine ⟨_, .started hwaiting, ?_⟩
      unfold next TaskQueue.next?
      rw [hwaiting]
      rfl
  | close => exact ⟨_, .closed, rfl⟩

/-- Every instant is noted. -/
theorem past_next (t : Timeline τ) (instant : Instant τ) :
    (t.next instant).past = t.past ++ [instant] := by
  obtain ⟨t', hturn, hnext⟩ := t.turn_next instant
  rw [hnext]
  cases hturn <;> rfl

theorem past_after (t : Timeline τ) (instants : List (Instant τ)) :
    (t.after instants).past = t.past ++ instants := by
  induction instants generalizing t with
  | nil => exact (List.append_nil _).symm
  | cons instant rest ih =>
    calc
      ((t.next instant).after rest).past = (t.next instant).past ++ rest := ih _
      _ = t.past ++ instant :: rest := by rw [past_next, List.append_assoc, List.singleton_append]

/-- What was noted tells how the loop became what it is. -/
theorem after_past (instants : List (Instant τ)) :
    fresh.after (fresh.after instants).past = fresh.after instants := by
  rw [past_after]
  rfl

/-! ## Order at every instant -/

/-- How the history of a loop and its queue fit together.  While the draining half is there, the tasks that
were started and those that wait are the accepted ones in their order. -/
structure Orderly (t : Timeline τ) : Prop where
  begun : t.started <+: t.accepted
  inOrder : t.queue.draining = true → t.started ++ t.queue.waiting = t.accepted
  noneRefused : t.queue.draining = true → t.refused = []
  nothingLeft : t.queue.draining = false → t.queue.waiting = []

theorem orderly_fresh : Orderly (fresh : Timeline τ) :=
  ⟨List.prefix_rfl, fun _ => rfl, fun _ => rfl, nofun⟩

/-- A queue in which a task waits has its draining half. -/
theorem Orderly.draining_of_waiting {t : Timeline τ} (h : Orderly t) {task : τ} {rest : List τ}
    (hwaiting : t.queue.waiting = task :: rest) : t.queue.draining = true := by
  cases hdraining : t.queue.draining with
  | true => rfl
  | false =>
    rw [h.nothingLeft hdraining] at hwaiting
    cases hwaiting

theorem Orderly.next {t : Timeline τ} (h : Orderly t) (instant : Instant τ) :
    Orderly (t.next instant) := by
  obtain ⟨t', hturn, hnext⟩ := t.turn_next instant
  rw [hnext]
  suffices horderly : Orderly t' from
    ⟨horderly.begun, horderly.inOrder, horderly.noneRefused, horderly.nothingLeft⟩
  cases hturn with
  | @accepted task hdraining =>
    have hall : t.started ++ (t.queue.waiting ++ [task]) = t.accepted ++ [task] := by
      rw [← List.append_assoc, h.inOrder hdraining]
    exact ⟨⟨_, hall⟩, fun _ => hall, h.noneRefused,
      fun hclosed => (nomatch hdraining.symm.trans hclosed)⟩
  | refused hclosed =>
    exact ⟨h.begun, h.inOrder, fun hdraining => (nomatch hclosed.symm.trans hdraining),
      h.nothingLeft⟩
  | handled => exact ⟨h.begun, h.inOrder, h.noneRefused, h.nothingLeft⟩
  | @started task rest hwaiting =>
    have hdraining := h.draining_of_waiting hwaiting
    have hall : (t.started ++ [task]) ++ rest = t.accepted := by
      calc
        (t.started ++ [task]) ++ rest = t.started ++ t.queue.waiting := by simp [hwaiting]
        _ = t.accepted := h.inOrder hdraining
    exact ⟨⟨rest, hall⟩, fun _ => hall, h.noneRefused,
      fun hclosed => (nomatch hdraining.symm.trans hclosed)⟩
  | closed => exact ⟨h.begun, nofun, nofun, fun _ => rfl⟩

theorem Orderly.after {t : Timeline τ} (h : Orderly t) (instants : List (Instant τ)) :
    Orderly (t.after instants) := by
  induction instants generalizing t with
  | nil => exact h
  | cons instant rest ih => exact ih (h.next instant)

/-! ## The end of the draining half -/

/-- The draining half goes when it is dropped, and not before. -/
theorem draining_next (t : Timeline τ) (instant : Instant τ) :
    (t.next instant).queue.draining = false ↔ t.queue.draining = false ∨ instant = .close := by
  obtain ⟨t', hturn, hnext⟩ := t.turn_next instant
  rw [hnext]
  cases hturn with
  | accepted => simp [note]
  | refused => simp [note]
  | handled posting handles hinstant => simp [note, hinstant]
  | started => simp [note]
  | closed => simp [note, TaskQueue.dropDraining]

theorem draining_after (t : Timeline τ) (instants : List (Instant τ)) :
    (t.after instants).queue.draining = false ↔ t.queue.draining = false ∨ .close ∈ instants := by
  induction instants generalizing t with
  | nil => simp [Timeline.after]
  | cons instant rest ih =>
    refine (ih (t.next instant)).trans ?_
    rw [draining_next, List.mem_cons, or_assoc]
    exact or_congr_right (or_congr_left eq_comm)

/-- Once the draining half is gone, nothing is accepted and nothing starts any more. -/
theorem Orderly.still {t : Timeline τ} (h : Orderly t) (hclosed : t.queue.draining = false)
    (instants : List (Instant τ)) :
    (t.after instants).accepted = t.accepted ∧ (t.after instants).started = t.started := by
  induction instants generalizing t with
  | nil => exact ⟨rfl, rfl⟩
  | cons instant rest ih =>
    have hnext : (t.next instant).accepted = t.accepted ∧ (t.next instant).started = t.started := by
      obtain ⟨t', hturn, hnext⟩ := t.turn_next instant
      rw [hnext]
      cases hturn with
      | accepted hdraining => exact nomatch hdraining.symm.trans hclosed
      | refused => exact ⟨rfl, rfl⟩
      | handled => exact ⟨rfl, rfl⟩
      | started hwaiting => exact nomatch (h.draining_of_waiting hwaiting).symm.trans hclosed
      | closed => exact ⟨rfl, rfl⟩
    rcases ih (h.next instant) ((t.draining_next instant).2 (.inl hclosed)) with
      ⟨haccepted, hstarted⟩
    exact ⟨haccepted.trans hnext.1, hstarted.trans hnext.2⟩

/-- Handles that go take no task with them. -/
theorem waiting_after_drops (t : Timeline τ) (n : Nat) :
    (t.after (List.replicate n (.act .dropHandle))).queue.waiting = t.queue.waiting := by
  induction n generalizing t with
  | zero => rfl
  | succ n ih =>
    calc
      ((t.next (.act .dropHandle)).after (List.replicate n (.act .dropHandle))).queue.waiting
        = (t.next (.act .dropHandle)).queue.waiting := ih _
      _ = t.queue.waiting := by
        show (if t.handles ≤ 1 then t.queue.dropPosting else t.queue).waiting = t.queue.waiting
        split <;> rfl

/-- Acts start no task. -/
theorem started_after_acts (t : Timeline τ) (acts : List (Act τ)) :
    (t.after (acts.map .act)).started = t.started := by
  induction acts generalizing t with
  | nil => rfl
  | cons act rest ih =>
    refine (ih (t.next (.act act))).trans ?_
    obtain ⟨t', hturn, hnext⟩ := t.turn_next (.act act)
    rw [hnext]
    cases hturn with
    | accepted => rfl
    | refused => rfl
    | handled => rfl

end Timeline

/-! ## Drains -/

/-- To perform acts one after the other is to let their instants pass. -/
theorem forM_ends (acts : List (Act τ)) (t : Timeline τ) :
    (acts.forM Act.perform).Ends t (.ok ()) (t.after (acts.map .act)) := by
  induction acts generalizing t with
  | nil => exact ⟨rfl, rfl⟩
  | cons act rest ih =>
    have hact : act.perform.Ends t (.ok ()) (t.next (.act act)) := by
      refine ⟨?_, rfl⟩
      cases act with
      | post task =>
        unfold Act.perform
        simp only [Effect.run_bind, Effect.run_modifyState, Effect.run_getState]
        split
        · rfl
        · simp only [Effect.run_bind, post]
          cases (queuePart.get (t.note (.act (.post task)))).post? task with
          | some queue => rfl
          | none => rfl
      | cloneHandle => rfl
      | dropHandle => rfl
    exact Effect.ends_bind hact (ih (t.next (.act act)))

theorem Tasks.exec_ends (tasks : Tasks τ) (task : τ) (t : Timeline τ) :
    let s := t.noteStart task
    (tasks.exec task).Ends t (if tasks.panics s task then .error .listener else .ok ())
      (s.after ((tasks.acts s task).map .act)) := by
  intro s
  refine Effect.ends_bind (Effect.ends_modifyState _ t) ?_
  refine Effect.ends_bind (Effect.ends_getState s) ?_
  refine Effect.ends_bind (forM_ends _ s) ?_
  cases tasks.panics s task with
  | true => exact ⟨rfl, rfl⟩
  | false => exact ⟨rfl, rfl⟩

theorem runNext_ends_of_empty (tasks : Tasks τ) {t : Timeline τ} (h : t.queue.waiting = []) :
    (runNext tasks.loop).Ends t (.ok false) t := by
  have htake : (take tasks.loop.queue).Ends t (.ok none) t := by
    have hnext : (tasks.loop.queue.get t).next? = none := by
      show t.queue.next? = none
      unfold TaskQueue.next?
      rw [h]
    unfold take
    exact ⟨by simp only [hnext], by simp only [hnext]⟩
  exact Effect.ends_bind htake ⟨rfl, rfl⟩

/-- All that happens while a task runs that is the oldest of those that wait. -/
def Tasks.instants (tasks : Tasks τ) (t : Timeline τ) (task : τ) : List (Instant τ) :=
  .start :: (tasks.acts (t.next .start) task).map .act

/-- The oldest task starts, and then happens what happens while it runs. -/
theorem runNext_ends (tasks : Tasks τ) {t : Timeline τ} {task : τ} {rest : List τ}
    (h : t.queue.waiting = task :: rest) :
    (runNext tasks.loop).Ends t
      (if tasks.panics (t.next .start) task then .error .listener else .ok true)
      (t.after (tasks.instants t task)) := by
  let queue : TaskQueue τ := { t.queue with waiting := rest }
  have hnext : t.queue.next? = some (task, queue) := by
    unfold TaskQueue.next?
    rw [h]
  have hstart : t.next .start = { t with queue := queue }.noteStart task := by
    show Timeline.next t .start = _
    unfold Timeline.next
    rw [hnext]
  have htake : (take tasks.loop.queue).Ends t (.ok (some task)) { t with queue := queue } := by
    have hget : (tasks.loop.queue.get t).next? = some (task, queue) := hnext
    unfold take
    exact ⟨by simp only [hget], by simp only [hget]; rfl⟩
  have hexec : (tasks.exec task).Ends { t with queue := queue }
      (if tasks.panics (t.next .start) task then .error .listener else .ok ())
      (t.after (tasks.instants t task)) := by
    show Effect.Ends _ _ _ ((t.next .start).after ((tasks.acts (t.next .start) task).map .act))
    rw [hstart]
    exact tasks.exec_ends task { t with queue := queue }
  refine Effect.ends_bind htake ?_
  cases hpanics : tasks.panics (t.next .start) task with
  | true =>
    rw [hpanics] at hexec
    exact Effect.ends_bind_error hexec
  | false =>
    rw [hpanics] at hexec
    exact Effect.ends_bind hexec ⟨rfl, rfl⟩

/-! ## Drains with a limit -/

section Limits

variable {σ : Type} {loop : Loop σ τ} {s u s' : σ} {limit : Nat} {result : Except Fault Nat} {fault : Fault}

theorem runUpTo_succ_idle (h : (runNext loop).Ends s (.ok false) s') :
    (runUpTo loop (limit + 1)).Ends s (.ok 0) s' := Effect.ends_bind h ⟨rfl, rfl⟩

theorem runUpTo_succ_broke (h : (runNext loop).Ends s (.error fault) s') :
    (runUpTo loop (limit + 1)).Ends s (.error fault) s' := Effect.ends_bind_error h

theorem runUpTo_succ_ran (h : (runNext loop).Ends s (.ok true) u)
    (hrest : (runUpTo loop limit).Ends u result s') :
    (runUpTo loop (limit + 1)).Ends s (result.map (· + 1)) s' := by
  refine Effect.ends_bind h ?_
  show ((runUpTo loop limit) >>= fun ran => pure (ran + 1)).Ends u _ _
  cases result with
  | error fault => exact Effect.ends_bind_error hrest
  | ok n => exact Effect.ends_bind hrest ⟨rfl, rfl⟩

end Limits

theorem Timeline.started_next_start {t : Timeline τ} {task : τ} {rest : List τ}
    (h : t.queue.waiting = task :: rest) : (t.next .start).started = t.started ++ [task] := by
  unfold next TaskQueue.next?
  rw [h]
  rfl

theorem Tasks.started_after_instants (tasks : Tasks τ) {t : Timeline τ} {task : τ} {rest : List τ}
    (h : t.queue.waiting = task :: rest) :
    (t.after (tasks.instants t task)).started = t.started ++ [task] :=
  (Timeline.started_after_acts _ _).trans (Timeline.started_next_start h)

/-- How a drain `x` went on from `t`: what happened during it and the tasks that it started. -/
structure Drained (tasks : Tasks τ) (x : Effect (Timeline τ) Nat) (t : Timeline τ)
    (during : List (Instant τ)) (ran : List τ) : Prop where
  after : (x.run t).state = t.after during
  started : (x.run t).state.started = t.started ++ ran
  counted : ∀ n, (x.run t).result = .ok n → ran.length = n
  /-- A drain breaks off with the last task that it started, when that panics. -/
  panicked : ∀ fault, (x.run t).result = .error fault → ∃ finished task before,
    ran = finished ++ [task] ∧ before <+: during ∧ (t.after before).started = t.started ++ ran ∧
      tasks.panics (t.after before) task = true

/-- A drain that finds no task. -/
theorem drained_of_idle (tasks : Tasks τ) {x : Effect (Timeline τ) Nat} {t : Timeline τ}
    (h : x.Ends t (.ok 0) t) : Drained tasks x t [] [] where
  after := h.state
  started := by rw [h.state, List.append_nil]
  counted n hn := by
    rw [h.result] at hn
    cases hn
    rfl
  panicked fault hfault := nomatch h.result.symm.trans hfault

/-- A drain that breaks off with its first task. -/
theorem drained_of_panic {tasks : Tasks τ} {x : Effect (Timeline τ) Nat} {t : Timeline τ} {task : τ}
    {rest : List τ} {fault : Fault} (hwaiting : t.queue.waiting = task :: rest)
    (hpanics : tasks.panics (t.next .start) task = true)
    (h : x.Ends t (.error fault) (t.after (tasks.instants t task))) :
    Drained tasks x t (tasks.instants t task) [task] where
  after := h.state
  started := by rw [h.state, tasks.started_after_instants hwaiting]
  counted n hn := nomatch h.result.symm.trans hn
  panicked _ _ :=
    ⟨[], task, [.start], rfl, ⟨_, rfl⟩, Timeline.started_next_start hwaiting, hpanics⟩

/-- A drain that goes on like `y` after its first task. -/
theorem Drained.cons {tasks : Tasks τ} {x y : Effect (Timeline τ) Nat} {t u : Timeline τ} {task : τ}
    {rest ran : List τ} {during : List (Instant τ)} (hwaiting : t.queue.waiting = task :: rest)
    (hu : t.after (tasks.instants t task) = u) (h : Drained tasks y u during ran)
    (hx : x.Ends t ((y.run u).result.map (· + 1)) (y.run u).state) :
    Drained tasks x t (tasks.instants t task ++ during) (task :: ran) := by
  have hafter : ∀ instants, t.after (tasks.instants t task ++ instants) = u.after instants := by
    intro instants
    rw [Timeline.after_append, hu]
  have hran : u.started ++ ran = t.started ++ task :: ran := by
    rw [← hu, tasks.started_after_instants hwaiting, List.append_assoc, List.singleton_append]
  refine ⟨?_, ?_, ?_, ?_⟩
  · rw [hx.state, h.after, hafter]
  · rw [hx.state, h.started, hran]
  · intro n hn
    rw [hx.result] at hn
    cases hrest : (y.run u).result with
    | error fault =>
      rw [hrest] at hn
      cases hn
    | ok m =>
      rw [hrest] at hn
      cases hn
      rw [List.length_cons, h.counted m hrest]
  · intro fault hfault
    rw [hx.result] at hfault
    cases hrest : (y.run u).result with
    | ok m =>
      rw [hrest] at hfault
      cases hfault
    | error other =>
      obtain ⟨finished, last, before, hlast, hbefore, hmoment, hpanics⟩ := h.panicked other hrest
      refine ⟨task :: finished, last, tasks.instants t task ++ before, ?_, ?_, ?_, ?_⟩
      · rw [hlast, List.cons_append]
      · exact (List.prefix_append_right_inj _).2 hbefore
      · rw [hafter, hmoment, hran]
      · rw [hafter]
        exact hpanics

theorem Tasks.not_close_mem_instants (tasks : Tasks τ) (t : Timeline τ) (task : τ) :
    .close ∉ tasks.instants t task := by
  simp [Tasks.instants]

/-- A drain with a limit runs the tasks that wait until none is left or the limit is reached. -/
theorem runUpTo_drained (tasks : Tasks τ) (limit : Nat) (t : Timeline τ) :
    ∃ during ran, Drained tasks (runUpTo tasks.loop limit) t during ran ∧ .close ∉ during ∧
      ∀ n, ((runUpTo tasks.loop limit).run t).result = .ok n → n < limit →
        ((runUpTo tasks.loop limit).run t).state.queue.waiting = [] := by
  induction limit generalizing t with
  | zero => exact ⟨[], [], drained_of_idle tasks ⟨rfl, rfl⟩, nofun, nofun⟩
  | succ limit ih =>
    cases hwaiting : t.queue.waiting with
    | nil =>
      have hends : (runUpTo tasks.loop (limit + 1)).Ends t (.ok 0) t :=
        runUpTo_succ_idle (runNext_ends_of_empty tasks hwaiting)
      refine ⟨[], [], drained_of_idle tasks hends, nofun, fun _ _ _ => ?_⟩
      rw [hends.state, hwaiting]
    | cons task rest =>
      have hnext := runNext_ends tasks hwaiting
      cases hpanics : tasks.panics (t.next .start) task with
      | true =>
        rw [hpanics] at hnext
        have hends : (runUpTo tasks.loop (limit + 1)).Ends t (.error .listener)
            (t.after (tasks.instants t task)) := runUpTo_succ_broke hnext
        refine ⟨_, _, drained_of_panic hwaiting hpanics hends,
          tasks.not_close_mem_instants t task, fun n hn => ?_⟩
        exact nomatch hends.result.symm.trans hn
      | false =>
        rw [hpanics] at hnext
        generalize hu : t.after (tasks.instants t task) = u at hnext
        obtain ⟨during, ran, hdrained, hopen, hempty⟩ := ih u
        have hends : (runUpTo tasks.loop (limit + 1)).Ends t
            (((runUpTo tasks.loop limit).run u).result.map (· + 1))
            ((runUpTo tasks.loop limit).run u).state := runUpTo_succ_ran hnext ⟨rfl, rfl⟩
        refine ⟨_, _, hdrained.cons hwaiting hu hends, ?_, fun n hn hlimit => ?_⟩
        · rw [List.mem_append, not_or]
          exact ⟨tasks.not_close_mem_instants t task, hopen⟩
        · rw [hends.state]
          rw [hends.result] at hn
          cases hrest : ((runUpTo tasks.loop limit).run u).result with
          | error fault =>
            rw [hrest] at hn
            cases hn
          | ok m =>
            rw [hrest] at hn
            cases hn
            exact hempty m hrest (Nat.lt_of_succ_lt_succ hlimit)

/-! ## All ways of draining -/

/-- The largest number of tasks that a drain may run. -/
def Drain.limit : Drain → Nat
  | .pending limit => limit
  | .one => 1
  | .toEnd limit => limit

/-- To poll a loop once is to drain it with the limit one. -/
theorem one_exec (tasks : Tasks τ) : Drain.one.exec tasks = runUpTo tasks.loop 1 := by
  simp only [Drain.exec, poll, runUpTo, bind_assoc]
  congr 1
  funext ran
  cases ran with
  | true => rfl
  | false =>
    apply Effect.ext
    intro t
    -- An idle loop and one that has ended are told apart, but no task ran in either.
    cases hposting : (tasks.loop.queue.get t).posting <;>
      simp [Effect.run_bind, hposting]

/-- A drain to the end runs tasks like one with a limit, and takes the draining half along. -/
theorem toEnd_ends (tasks : Tasks τ) (limit : Nat) (t : Timeline τ) :
    ((Drain.toEnd limit).exec tasks).Ends t ((runUpTo tasks.loop limit).run t).result
      ((runUpTo tasks.loop limit).run t).state.close := by
  refine ⟨?_, ?_⟩
  · simp only [Drain.exec, runToEnd, Effect.run_ensuring, Effect.run_bind]
    cases ((runUpTo tasks.loop limit).run t).result <;> rfl
  · simp only [Drain.exec, runToEnd, Effect.run_ensuring, Effect.run_bind]
    cases ((runUpTo tasks.loop limit).run t).result <;> rfl

/-- Every drain runs tasks that wait, in their order, and tells how many.  The draining half goes with a
drain to the end only. -/
theorem exec_drained (tasks : Tasks τ) (drain : Drain) (t : Timeline τ) :
    ∃ during ran, Drained tasks (drain.exec tasks) t during ran ∧
      (.close ∈ during ↔ ∃ limit, drain = .toEnd limit) ∧
      ∀ n, ((drain.exec tasks).run t).result = .ok n → n < drain.limit →
        ((drain.exec tasks).run t).state.queue.waiting = [] := by
  cases drain with
  | pending limit =>
    obtain ⟨during, ran, hdrained, hopen, hempty⟩ := runUpTo_drained tasks limit t
    exact ⟨during, ran, hdrained, by simp [hopen], hempty⟩
  | one =>
    rw [one_exec]
    obtain ⟨during, ran, hdrained, hopen, hempty⟩ := runUpTo_drained tasks 1 t
    exact ⟨during, ran, hdrained, by simp [hopen], hempty⟩
  | toEnd limit =>
    obtain ⟨during, ran, hdrained, hopen, hempty⟩ := runUpTo_drained tasks limit t
    have hends := toEnd_ends tasks limit t
    refine ⟨during ++ [.close], ran, ⟨?_, ?_, ?_, ?_⟩, by simp, ?_⟩
    · rw [hends.state, hdrained.after, Timeline.after_append]
      rfl
    · rw [hends.state]
      exact hdrained.started
    · rw [hends.result]
      exact hdrained.counted
    · intro fault hfault
      rw [hends.result] at hfault
      obtain ⟨finished, task, before, hran, hbefore, hrest⟩ := hdrained.panicked fault hfault
      exact ⟨finished, task, before, hran, hbefore.trans (List.prefix_append _ _), hrest⟩
    · intro _ _ _
      rw [hends.state]
      rfl

/-! ## Whole histories -/

/-- What can be done to a loop from outside. -/
inductive Op (τ : Type) where
  | act (act : Act τ)
  | drain (drain : Drain)
  /-- Drops the draining half. -/
  | close

namespace Timeline

def afterOp (tasks : Tasks τ) (t : Timeline τ) : Op τ → Timeline τ
  | .act act => (act.perform.run t).state
  | .drain drain => ((drain.exec tasks).run t).state
  | .close => t.close

def afterOps (tasks : Tasks τ) (t : Timeline τ) (ops : List (Op τ)) : Timeline τ :=
  ops.foldl (afterOp tasks) t

theorem afterOp_is_after (tasks : Tasks τ) (t : Timeline τ) (op : Op τ) :
    ∃ instants, t.afterOp tasks op = t.after instants := by
  cases op with
  | act act => exact ⟨[.act act], rfl⟩
  | drain drain =>
    obtain ⟨during, ran, hdrained, -⟩ := exec_drained tasks drain t
    exact ⟨during, hdrained.after⟩
  | close => exact ⟨[.close], rfl⟩

theorem afterOps_is_after (tasks : Tasks τ) (t : Timeline τ) (ops : List (Op τ)) :
    ∃ instants, t.afterOps tasks ops = t.after instants := by
  induction ops generalizing t with
  | nil => exact ⟨[], rfl⟩
  | cons op rest ih =>
    obtain ⟨first, hfirst⟩ := t.afterOp_is_after tasks op
    obtain ⟨instants, hinstants⟩ := ih (t.afterOp tasks op)
    refine ⟨first ++ instants, ?_⟩
    rw [after_append, ← hfirst]
    exact hinstants

end Timeline

/-- What holds of a fresh loop after `past`.  Each task that started is one post that was accepted, the
posts in their order. -/
structure OrderlyAfter (past : List (Instant τ)) : Prop where
  begun : (fresh.after past).started <+: (fresh.after past).accepted
  /-- Before the draining half is dropped, exactly the other accepted tasks wait. -/
  waiting : .close ∉ past →
    (fresh.after past).started ++ (fresh.after past).queue.waiting = (fresh.after past).accepted
  /-- A post is refused when the draining half was dropped, and only then. -/
  answer : ∀ task, ∃ taken, ((post queuePart task).run (fresh.after past)).result = .ok taken ∧
    (taken = false ↔ .close ∈ past)
  noneRefused : .close ∉ past → (fresh.after past).refused = []
  /-- When the draining half was dropped nothing waits, and nothing is taken and nothing starts later. -/
  still : .close ∈ past → (fresh.after past).queue.waiting = [] ∧ ∀ more,
    (fresh.after (past ++ more)).accepted = (fresh.after past).accepted ∧
      (fresh.after (past ++ more)).started = (fresh.after past).started
  /-- The tasks that wait stay when handles are dropped, also when all are. -/
  handlesDropped : ∀ n, (fresh.after (past ++ List.replicate n (.act .dropHandle))).queue.waiting =
    (fresh.after past).queue.waiting

theorem orderlyAfter (past : List (Instant τ)) : OrderlyAfter past := by
  have horderly : Timeline.Orderly (fresh.after past) := Timeline.orderly_fresh.after past
  have hgone : (fresh.after past).queue.draining = false ↔ .close ∈ past := by
    simpa [fresh, TaskQueue.fresh] using Timeline.draining_after fresh past
  have hthere : .close ∉ past → (fresh.after past).queue.draining = true := by
    intro hopen
    rw [← hgone] at hopen
    simpa using hopen
  refine ⟨horderly.begun, fun hopen => horderly.inOrder (hthere hopen), fun task => ?_,
    fun hopen => horderly.noneRefused (hthere hopen), fun hclosed => ?_, fun n => ?_⟩
  · rw [← hgone, ← TaskQueue.post?_eq_none_iff _ task]
    have hqueue : queuePart.get (fresh.after past) = (fresh.after past).queue := rfl
    unfold post
    dsimp only
    rw [hqueue]
    cases (fresh.after past).queue.post? task with
    | some posted => exact ⟨true, rfl, by simp⟩
    | none => exact ⟨false, rfl, by simp⟩
  · refine ⟨horderly.nothingLeft (hgone.2 hclosed), fun more => ?_⟩
    rw [Timeline.after_append]
    exact horderly.still (hgone.2 hclosed) more
  · rw [Timeline.after_append, Timeline.waiting_after_drops]

/-- However posts, clones and drops of handles, drains and panics follow each other, and whatever happens
while tasks run: at every instant that was noted the tasks that started are the first of the accepted ones
in their order, and while the draining half is there the others wait.  The same goes for the instants of a
further drain.  It tells the number of tasks that it started, unless the last of them panics; the others
wait on, except after a drain to the end, which takes the draining half along. -/
theorem tasks_in_order_over_drains (tasks : Tasks τ) (ops : List (Op τ)) :
    let t := fresh.afterOps tasks ops
    (fresh.after t.past = t ∧ ∀ past, past <+: t.past → OrderlyAfter past) ∧
      ∀ drain : Drain, ∃ during ran, Drained tasks (drain.exec tasks) t during ran ∧
        (∀ past, past <+: t.past ++ during → OrderlyAfter past) ∧
        ((drain.exec tasks).run t).state = fresh.after (t.past ++ during) ∧
        (.close ∈ during ↔ ∃ limit, drain = .toEnd limit) ∧
        ∀ n, ((drain.exec tasks).run t).result = .ok n → n < drain.limit →
          ((drain.exec tasks).run t).state.queue.waiting = [] := by
  intro t
  have hpast : fresh.after t.past = t := by
    obtain ⟨instants, hinstants⟩ := Timeline.afterOps_is_after tasks fresh ops
    have ht : t = fresh.after instants := hinstants
    rw [ht]
    exact Timeline.after_past instants
  refine ⟨⟨hpast, fun past _ => orderlyAfter past⟩, fun drain => ?_⟩
  obtain ⟨during, ran, hdrained, hclose, hempty⟩ := exec_drained tasks drain t
  refine ⟨during, ran, hdrained, fun past _ => orderlyAfter past, ?_, hclose, hempty⟩
  rw [hdrained.after, Timeline.after_append, hpast]

/-! ## Tasks lost by a panic -/

/-- Two tasks are posted and the loop is run to its end, but the first task panics. -/
def panicWhileRunning : Timeline Nat :=
  fresh.afterOps ⟨fun _ _ => [], fun _ task => task == 0⟩
    [.act (.post 0), .act (.post 1), .drain (.toEnd 2)]

open Scenario in
/-- A listener that panics and a mark are posted to a loop, the loop is run to its end, and then drained
again. -/
def panicBeforeMark : List Step :=
  [.connect "a" "app.a" "cert-a" .defaults .threaded true,
    .act (.onMessenger "a" (.register "p" false false (.fresh "p" none [.breakOff] 1))),
    .act (.onMessenger "a" (.dispatch (.oneWay ⟨1⟩ "app.s" .empty))),
    .act (.onEndpoint "a" (.post "t")), .runToEnd "a", .runPending "a"]

open Scenario in
/-- After the panic the second task neither waits nor ever starts, although it was accepted.  The mark is lost
in the same way: there is no loop that could be drained. -/
theorem panic_while_running_loses_tasks :
    (panicWhileRunning.accepted = [0, 1] ∧ panicWhileRunning.started = [0] ∧
      panicWhileRunning.queue.waiting = [] ∧
      panicWhileRunning.started ++ panicWhileRunning.queue.waiting ≠ panicWhileRunning.accepted) ∧
    ((play 100 panicBeforeMark).answers.map (·.reply) =
        [.text "app.a", .portId ⟨1⟩, .dispatched .scheduled, .nothing, .brokenOff .listener, .noLoop] ∧
      ∀ answer ∈ (play 100 panicBeforeMark).answers, .mark "t" ∉ answer.receipts) := by
  decide +kernel

end MainLoop
end PortMessaging
