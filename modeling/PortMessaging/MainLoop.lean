import PortMessaging.Effect

/-!
# MainLoop — tasks that wait for the main loop

Listeners run on their application's main loop: whoever has something for it posts a task, and the
owner of the loop runs the tasks later, in the order in which they were posted.  A loop has a
posting side and a draining side.  Posting is refused once the draining side is gone; tasks that
wait stay in the queue when the posting side goes.

A task may post further tasks, so a drain that goes on until the queue is empty has no bound of its
own.  Draining therefore counts the tasks that it may still run (`runUpTo`).
-/

namespace PortMessaging

/-- The tasks of a main loop. -/
structure TaskQueue (τ : Type) where
  /-- The tasks that wait, the oldest first. -/
  waiting : List τ
  /-- Whether the draining side is there. -/
  draining : Bool
  /-- Whether the posting side is there. -/
  posting : Bool
  deriving DecidableEq, Repr

namespace TaskQueue

variable {τ : Type}

/-- A fresh queue with both sides. -/
def fresh : TaskQueue τ := ⟨[], true, true⟩

/-- Adds a task at the end; refused if nobody will run it. -/
def post? (queue : TaskQueue τ) (task : τ) : Option (TaskQueue τ) :=
  if queue.draining then some { queue with waiting := queue.waiting ++ [task] } else none

/-- Takes the oldest task out. -/
def next? (queue : TaskQueue τ) : Option (τ × TaskQueue τ) :=
  match queue.waiting with
  | [] => none
  | task :: rest => some (task, { queue with waiting := rest })

/-- The queue without its posting side. -/
def dropPosting (queue : TaskQueue τ) : TaskQueue τ := { queue with posting := false }

/-- The queue without its draining side; the tasks that wait are lost. -/
def dropDraining (queue : TaskQueue τ) : TaskQueue τ :=
  { queue with waiting := [], draining := false }

def size (queue : TaskQueue τ) : Nat := queue.waiting.length

theorem waiting_post? {queue posted : TaskQueue τ} {task : τ} (h : queue.post? task = some posted) :
    posted.waiting = queue.waiting ++ [task] := by
  unfold post? at h
  split at h
  · cases h
    rfl
  · cases h

theorem post?_eq_none_iff (queue : TaskQueue τ) (task : τ) :
    queue.post? task = none ↔ queue.draining = false := by
  cases h : queue.draining <;> simp [post?, h]

theorem waiting_next? {queue rest : TaskQueue τ} {task : τ} (h : queue.next? = some (task, rest)) :
    queue.waiting = task :: rest.waiting := by
  unfold next? at h
  split at h
  · cases h
  · next first others hw =>
    cases h
    exact hw

end TaskQueue

/-- The text that tells that a task was refused. -/
def MainLoop.closedText : String := "main loop is closed"

namespace MainLoop

variable {σ τ : Type}

/-! ## Draining -/

/-- A main loop inside a state: where its queue is and how one of its tasks runs. -/
structure Loop (σ τ : Type) where
  queue : Part σ (TaskQueue τ)
  exec : τ → Effect σ Unit

/-- Posts a task; tells whether it was taken. -/
def post (queue : Part σ (TaskQueue τ)) (task : τ) : Effect σ Bool where
  run s :=
    match (queue.get s).post? task with
    | some posted => ⟨.ok true, queue.set posted s, []⟩
    | none => ⟨.ok false, s, []⟩

/-- Takes the oldest task out of the queue. -/
def take (queue : Part σ (TaskQueue τ)) : Effect σ (Option τ) where
  run s :=
    match (queue.get s).next? with
    | some (task, rest) => ⟨.ok (some task), queue.set rest s, []⟩
    | none => ⟨.ok none, s, []⟩

/-- Runs the oldest task; tells whether there was one.  The task has left the queue before it
runs. -/
def runNext (loop : Loop σ τ) : Effect σ Bool := do
  match ← take loop.queue with
  | none => return false
  | some task => do
    loop.exec task
    return true

/-- What one poll of a main loop finds. -/
inductive PollOutcome where
  | ran
  /-- Nothing waits, but something may still be posted. -/
  | idle
  /-- Nothing waits, and nothing will ever be posted. -/
  | ended
  deriving DecidableEq, Repr

/-- Polls a main loop once. -/
def poll (loop : Loop σ τ) : Effect σ PollOutcome := do
  if ← runNext loop then return .ran
  else if (loop.queue.get (← Effect.getState)).posting then return .idle
  else return .ended

/-- Runs tasks until the queue is empty or `limit` of them have run; tells how many ran. -/
def runUpTo (loop : Loop σ τ) : Nat → Effect σ Nat
  | 0 => return 0
  | limit + 1 => do
    -- A task that was posted by an earlier one counts like any other.
    if ← runNext loop then return (← runUpTo loop limit) + 1
    else return 0

/-- Runs tasks like `runUpTo` and notes in the log that the loop has come to its end. -/
def runToEnd (loop : Loop σ τ) (limit : Nat) : Effect σ Nat := do
  let ran ← runUpTo loop limit
  Effect.log .debug "Main loop finished" [("tasks", .number ran)]
  return ran

end MainLoop

end PortMessaging
