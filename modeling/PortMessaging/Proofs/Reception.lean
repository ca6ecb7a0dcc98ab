import PortMessaging.Dispatch
import PortMessaging.Proofs.RegistryTables

/-!
# Reception — from the arrival of a delivery to the call of a listener

The receiving side of a messenger is its registry, its transport and the queue of its main loop
(`Reception`).  What happens there is a list of moves in any order: changes of the registry through a
transport about which nothing is known, deliveries that arrive, tasks of somebody else that are posted
to the same loop, and tasks that run.  A task that calls a listener is one move, and what the listener
does while it runs are the moves that follow; `drain_eq_moves` shows that a whole drain with listeners
that act in any way is such a list of moves.

The account of a run is kept in three lists: the tasks that were posted (`posted`), the tasks that
ran with the registry of that moment (`started`), and the calls that listeners got
(`Reception.heard`).  The first two are read off the states of the run, by rules that mention neither
the router nor the deliveries' own code.
-/

namespace PortMessaging

/-- A call that a listener got: its callback, its own context, and the message. -/
structure Hearing where
  callback : CallbackId
  context : Option ContextId
  message : InboundMessage

/-- The receiving side of a messenger over a transport with states of type `σ`. -/
structure Reception (σ : Type) where
  registry : Registry
  transport : σ
  /-- The tasks of the main loop.  The loop may be shared, so a task need not be a delivery. -/
  queue : TaskQueue (Option Delivery)
  /-- The calls that listeners got so far. -/
  heard : List Hearing

namespace Reception

variable {σ : Type}

/-- The receiving side before anything happened. -/
def initial (s : σ) : Reception σ := ⟨.empty, s, .fresh, []⟩

/-- The queue of a receiving side. -/
def queuePart : Part (Reception σ) (TaskQueue (Option Delivery)) where
  get r := r.queue
  set queue r := { r with queue := queue }

/-- Notes the call of a listener. -/
def hear (r : Reception σ) (listener : Listener) (message : InboundMessage) : Reception σ :=
  { r with heard := r.heard ++ [⟨listener.callback, listener.context?, message⟩] }

/-- One thing that happens on the receiving side. -/
inductive Move where
  | change (change : Registry.Change)
  /-- A delivery arrives. -/
  | arrival (event : DeliveryEvent)
  /-- Somebody else posts a task to the same loop. -/
  | otherPost
  /-- The oldest task runs; a listener that it calls has only just been called. -/
  | runNext
  /-- The draining side of the loop goes, with the tasks that wait. -/
  | closeLoop

end Reception

/-- What a receiving side is run with. -/
structure ReceptionDesk (σ : Type) where
  translator : Translator
  transport : Transport σ
  router : Router

namespace ReceptionDesk

open Reception

variable {σ : Type} (desk : ReceptionDesk σ)

/-- Takes a delivery. -/
def arrive (event : DeliveryEvent) : Effect (Reception σ) DispatchOutcome := do
  let r ← Effect.getState
  desk.router.dispatch r.registry (fun delivery => MainLoop.post queuePart (some delivery)) event

/-- Runs a task, with what a call of a listener does. -/
def exec (call : Listener → InboundMessage → Effect (Reception σ) Unit) :
    Option Delivery → Effect (Reception σ) Unit
  | none => return ()
  | some delivery => do
    let r ← Effect.getState
    delivery.run r.registry call

/-- The main loop, with what a call of a listener does. -/
def mainLoop (call : Listener → InboundMessage → Effect (Reception σ) Unit) :
    MainLoop.Loop (Reception σ) (Option Delivery) :=
  ⟨queuePart, exec call⟩

/-- The effect of a move. -/
def effect : Move → Effect (Reception σ) Unit
  | .change change => Effect.modifyState fun r =>
    let state := Registry.afterChange desk.translator desk.transport (r.registry, r.transport) change
    { r with registry := state.1, transport := state.2 }
  | .arrival event => do
    let _ ← desk.arrive event
    return ()
  | .otherPost => do
    let _ ← MainLoop.post queuePart none
    return ()
  | .runNext => do
    let _ ← MainLoop.runNext (mainLoop fun listener message =>
      Effect.modifyState (·.hear listener message))
    return ()
  | .closeLoop => Effect.modifyState fun r => { r with queue := r.queue.dropDraining }

/-- The receiving side after a move, however it ended. -/
def next (r : Reception σ) (move : Move) : Reception σ := ((desk.effect move).run r).state

/-- The receiving side after some moves. -/
def after (r : Reception σ) (moves : List Move) : Reception σ := moves.foldl desk.next r

/-! ## The account of a run -/

/-- The task that a delivery becomes on arrival: it is for the domain in which its target is active,
and there is none if the target is not active or the loop is closed. -/
def taskOf (r : Reception σ) (event : DeliveryEvent) : Option Delivery :=
  if r.queue.draining = false then none
  else if (r.registry.lookup event.target .openToAll).isSome then some ⟨.openToAll, event⟩
  else if (r.registry.lookup event.target .trusted).isSome then some ⟨.trusted, event⟩
  else none

/-- The tasks that a move posts. -/
def postedBy (r : Reception σ) : Move → List (Option Delivery)
  | .arrival event => ((taskOf r event).map some).toList
  | .otherPost => if r.queue.draining then [none] else []
  | _ => []

/-- The tasks that a move starts, with the registry of that moment. -/
def startedBy (r : Reception σ) : Move → List (Option Delivery × Registry)
  | .runNext => (r.queue.waiting.head?.map fun task => (task, r.registry)).toList
  | _ => []

/-- The tasks that were posted in a run, in order. -/
def posted (r : Reception σ) : List Move → List (Option Delivery)
  | [] => []
  | move :: rest => postedBy r move ++ posted (desk.next r move) rest

/-- The tasks that were started in a run, in order, with the registry of the moment. -/
def started (r : Reception σ) : List Move → List (Option Delivery × Registry)
  | [] => []
  | move :: rest => startedBy r move ++ started (desk.next r move) rest

/-- The calls that a task makes when it runs with a registry: one, of the listener that is registered
then, if the target is active in the domain that the task is for, and otherwise none. -/
def callsOf : Option Delivery × Registry → List Hearing
  | (none, _) => []
  | (some ⟨domain, event⟩, registry) =>
    match registry.lookup event.target domain with
    | none => []
    | some entry =>
      [{ callback := entry.listener.callback
         context := entry.listener.context?
         message :=
          { localPort := event.target
            remoteApp := event.senderApp
            remotePort := event.senderPort
            trustedRemotePort := event.senderTrusted
            payload := event.payload } }]

/-! ## Single moves -/

theorem ends_post_open {r : Reception σ} (h : r.queue.draining = true) (task : Option Delivery) :
    (MainLoop.post queuePart task).Ends r (.ok true)
      { r with queue := { r.queue with waiting := r.queue.waiting ++ [task] } } := by
  have hpost : (queuePart.get r).post? task =
      some { r.queue with waiting := r.queue.waiting ++ [task] } := if_pos h
  refine ⟨?_, ?_⟩
  · simp only [MainLoop.post, hpost]
  · simp only [MainLoop.post, hpost]
    rfl

theorem ends_post_closed {r : Reception σ} (h : r.queue.draining = false) (task : Option Delivery) :
    (MainLoop.post queuePart task).Ends r (.ok false) r := by
  have hpost : (queuePart.get r).post? task = none := (TaskQueue.post?_eq_none_iff _ _).2 h
  refine ⟨?_, ?_⟩
  · simp only [MainLoop.post, hpost]
  · simp only [MainLoop.post, hpost]

/-- A delivery for an active port is posted, once and for the domain of the port. -/
theorem ends_arrive_scheduled {r : Reception σ} {event : DeliveryEvent} {domain : TrustDomain}
    (hdomain : r.registry.domainOf? event.target = some domain) (hopen : r.queue.draining = true) :
    (desk.arrive event).Ends r (.ok .scheduled)
      { r with queue :=
        { r.queue with waiting := r.queue.waiting ++ [some ⟨domain, event⟩] } } := by
  unfold arrive Router.dispatch
  refine Effect.ends_bind (Effect.ends_getState r) ?_
  simp only [hdomain]
  refine Effect.ends_bind (Effect.ends_log _ _ _ _) ?_
  exact Effect.ends_bind (ends_post_open hopen _) ⟨rfl, rfl⟩

/-- A delivery for a port that is not active changes nothing. -/
theorem ends_arrive_noListener {r : Reception σ} {event : DeliveryEvent}
    (hdomain : r.registry.domainOf? event.target = none) :
    (desk.arrive event).Ends r (.ok .noListener) r := by
  unfold arrive Router.dispatch
  refine Effect.ends_bind (Effect.ends_getState r) ?_
  simp only [hdomain]
  exact ⟨rfl, rfl⟩

/-- A delivery that finds the loop closed changes nothing. -/
theorem ends_arrive_loopClosed {r : Reception σ} {event : DeliveryEvent} {domain : TrustDomain}
    (hdomain : r.registry.domainOf? event.target = some domain) (hclosed : r.queue.draining = false) :
    (desk.arrive event).Ends r (.ok .loopClosed) r := by
  unfold arrive Router.dispatch
  refine Effect.ends_bind (Effect.ends_getState r) ?_
  simp only [hdomain]
  refine Effect.ends_bind (Effect.ends_log _ _ _ _) ?_
  exact Effect.ends_bind (ends_post_closed hclosed _) ⟨rfl, rfl⟩

theorem next_arrival (r : Reception σ) (event : DeliveryEvent) :
    desk.next r (.arrival event) = ((desk.arrive event).run r).state :=
  Effect.state_discard _ r

theorem next_otherPost_open {r : Reception σ} (h : r.queue.draining = true) :
    desk.next r .otherPost =
      { r with queue := { r.queue with waiting := r.queue.waiting ++ [none] } } :=
  (Effect.state_discard _ r).trans (ends_post_open h none).state

theorem next_otherPost_closed {r : Reception σ} (h : r.queue.draining = false) :
    desk.next r .otherPost = r :=
  (Effect.state_discard _ r).trans (ends_post_closed h none).state

theorem ends_take_none {r : Reception σ} (h : r.queue.waiting = []) :
    (MainLoop.take queuePart).Ends r (.ok none) r := by
  have hnext : (queuePart.get r).next? = none := by
    show r.queue.next? = none
    unfold TaskQueue.next?
    rw [h]
  refine ⟨?_, ?_⟩
  · simp only [MainLoop.take, hnext]
  · simp only [MainLoop.take, hnext]

theorem ends_take_some {r : Reception σ} {task : Option Delivery} {rest : List (Option Delivery)}
    (h : r.queue.waiting = task :: rest) :
    (MainLoop.take queuePart).Ends r (.ok (some task))
      { r with queue := { r.queue with waiting := rest } } := by
  have hnext : (queuePart.get r).next? = some (task, { r.queue with waiting := rest }) := by
    show r.queue.next? = _
    unfold TaskQueue.next?
    rw [h]
  refine ⟨?_, ?_⟩
  · simp only [MainLoop.take, hnext]
  · simp only [MainLoop.take, hnext]
    rfl

/-- A delivery that runs calls the listener that is registered now, in the domain of the delivery. -/
theorem ends_exec (call : Listener → InboundMessage → Effect (Reception σ) Unit)
    (r : Reception σ) (delivery : Delivery) :
    (delivery.listener? r.registry = none ∧ (exec call (some delivery)).Ends r (.ok ()) r) ∨
      ∃ listener, delivery.listener? r.registry = some listener ∧
        (exec call (some delivery)).Ends r ((call listener delivery.event.inbound).run r).result
          ((call listener delivery.event.inbound).run r).state := by
  cases hlistener : delivery.listener? r.registry with
  | none =>
    refine .inl ⟨rfl, ?_⟩
    refine Effect.ends_bind (Effect.ends_getState r) ?_
    unfold Delivery.run
    rw [hlistener]
    exact ⟨rfl, rfl⟩
  | some listener =>
    refine .inr ⟨listener, rfl, ?_⟩
    refine Effect.ends_bind (Effect.ends_getState r) ?_
    unfold Delivery.run
    rw [hlistener]
    exact ⟨rfl, rfl⟩

/-- The calls of a task are those of its delivery's listener. -/
theorem callsOf_eq (delivery : Delivery) (registry : Registry) :
    callsOf (some delivery, registry) =
      match delivery.listener? registry with
      | none => []
      | some listener => [⟨listener.callback, listener.context?, delivery.event.inbound⟩] := by
  rcases delivery with ⟨domain, event⟩
  simp only [callsOf, Delivery.listener?]
  cases registry.lookup event.target domain with
  | none => rfl
  | some entry => rfl

theorem next_runNext_nil {r : Reception σ} (h : r.queue.waiting = []) :
    desk.next r .runNext = r := by
  have hrun : (MainLoop.runNext (mainLoop fun listener message =>
      Effect.modifyState (·.hear listener message))).Ends r (.ok false) r :=
    Effect.ends_bind (ends_take_none h) ⟨rfl, rfl⟩
  exact (Effect.state_discard _ r).trans hrun.state

theorem next_runNext_cons {r : Reception σ} {task : Option Delivery}
    {rest : List (Option Delivery)} (h : r.queue.waiting = task :: rest) :
    desk.next r .runNext =
      { r with
        queue := { r.queue with waiting := rest }
        heard := r.heard ++ callsOf (task, r.registry) } := by
  let call : Listener → InboundMessage → Effect (Reception σ) Unit := fun listener message =>
    Effect.modifyState (·.hear listener message)
  let taken : Reception σ := { r with queue := { r.queue with waiting := rest } }
  have hexec : (exec call task).Ends taken (.ok ())
      { taken with heard := r.heard ++ callsOf (task, r.registry) } := by
    -- Taking the task leaves the registry alone, so the calls can be read off `r`.
    cases task with
    | none =>
      have hnil : r.heard ++ callsOf (none, r.registry) = r.heard := List.append_nil _
      rw [hnil]
      exact ⟨rfl, rfl⟩
    | some delivery =>
      rw [callsOf_eq]
      rcases ends_exec call taken delivery with ⟨hnone, hends⟩ | ⟨listener, hsome, hends⟩
      · have hnone' : delivery.listener? r.registry = none := hnone
        rw [hnone', List.append_nil]
        exact hends
      · have hsome' : delivery.listener? r.registry = some listener := hsome
        rw [hsome']
        exact hends
  -- Taking the task, running it and telling that one ran are three ends in a row.
  have hrun : (MainLoop.runNext (mainLoop call)).Ends r (.ok true)
      { taken with heard := r.heard ++ callsOf (task, r.registry) } :=
    Effect.ends_bind (ends_take_some h) (Effect.ends_bind hexec ⟨rfl, rfl⟩)
  exact (Effect.state_discard _ r).trans hrun.state

/-! ## Single moves against the account -/

/-- On arrival a delivery becomes the task of the account, or nothing happens. -/
theorem arrive_cases {r : Reception σ} (hr : r.registry.WellFormed) (event : DeliveryEvent) :
    (taskOf r event = none ∧ ((desk.arrive event).run r).state = r) ∨
      ∃ delivery, taskOf r event = some delivery ∧ delivery.event = event ∧
        ((desk.arrive event).run r).state =
          { r with queue := { r.queue with waiting := r.queue.waiting ++ [some delivery] } } := by
  -- A closed loop refuses whatever the registry says; with an open one the registry decides.
  cases hopen : r.queue.draining with
  | false =>
    refine .inl ⟨by simp [taskOf, hopen], ?_⟩
    cases hdomain : r.registry.domainOf? event.target with
    | none => exact (desk.ends_arrive_noListener hdomain).state
    | some domain => exact (desk.ends_arrive_loopClosed hdomain hopen).state
  | true =>
    cases hdomain : r.registry.domainOf? event.target with
    | none =>
      have hnone := hr.domainOf?_eq_none_iff.1 hdomain
      refine .inl ⟨by simp [taskOf, hopen, hnone], ?_⟩
      exact (desk.ends_arrive_noListener hdomain).state
    | some domain =>
      have hactive := hr.domainOf?_eq_some_iff.1 hdomain
      refine .inr ⟨⟨domain, event⟩, ?_, rfl, (desk.ends_arrive_scheduled hdomain hopen).state⟩
      cases domain with
      | openToAll => simp [taskOf, hopen, hactive]
      | trusted =>
        -- The target is active in one domain only.
        rcases Option.isSome_iff_exists.1 hactive with ⟨entry, hentry⟩
        have hother : r.registry.lookup event.target .openToAll = none := hr.disjoint hentry
        simp [taskOf, hopen, hactive, hother]

theorem wellFormed_next {r : Reception σ} (hr : r.registry.WellFormed) (move : Move) :
    (desk.next r move).registry.WellFormed := by
  cases move with
  -- Only a change touches the registry; the other moves leave it as it is.
  | change change => exact hr.afterChange desk.translator desk.transport change
  | arrival event =>
    rw [next_arrival]
    rcases desk.arrive_cases hr event with ⟨-, hstate⟩ | ⟨delivery, -, -, hstate⟩
    · rw [hstate]
      exact hr
    · rw [hstate]
      exact hr
  | otherPost =>
    cases hopen : r.queue.draining with
    | true =>
      rw [desk.next_otherPost_open hopen]
      exact hr
    | false =>
      rw [desk.next_otherPost_closed hopen]
      exact hr
  | runNext =>
    cases hwaiting : r.queue.waiting with
    | nil =>
      rw [desk.next_runNext_nil hwaiting]
      exact hr
    | cons task rest =>
      rw [desk.next_runNext_cons hwaiting]
      exact hr
  | closeLoop => exact hr

/-- A move that does not close the loop starts, posts and calls what the account says. -/
structure Accounted (r r' : Reception σ) (move : Move) : Prop where
  heard : r'.heard = r.heard ++ (startedBy r move).flatMap callsOf
  draining : r'.queue.draining = r.queue.draining
  tasks : (startedBy r move).map (·.1) ++ r'.queue.waiting = r.queue.waiting ++ postedBy r move

theorem accounted {r : Reception σ} (hr : r.registry.WellFormed) {move : Move}
    (hmove : move ≠ .closeLoop) : Accounted r (desk.next r move) move := by
  cases move with
  | change change => exact ⟨(List.append_nil _).symm, rfl, (List.append_nil _).symm⟩
  | arrival event =>
    rw [next_arrival]
    rcases desk.arrive_cases hr event with ⟨htask, hstate⟩ | ⟨delivery, htask, -, hstate⟩
    · rw [hstate]
      refine ⟨(List.append_nil _).symm, rfl, ?_⟩
      simp [startedBy, postedBy, htask]
    · rw [hstate]
      refine ⟨(List.append_nil _).symm, rfl, ?_⟩
      simp [startedBy, postedBy, htask]
  | otherPost =>
    cases hopen : r.queue.draining with
    | true =>
      rw [desk.next_otherPost_open hopen]
      refine ⟨(List.append_nil _).symm, rfl, ?_⟩
      simp [startedBy, postedBy, hopen]
    | false =>
      rw [desk.next_otherPost_closed hopen]
      refine ⟨(List.append_nil _).symm, rfl, ?_⟩
      simp [startedBy, postedBy, hopen]
  -- What was at the head of the queue is what was started.
  | runNext =>
    cases hwaiting : r.queue.waiting with
    | nil =>
      rw [desk.next_runNext_nil hwaiting]
      refine ⟨?_, rfl, ?_⟩ <;> simp [startedBy, postedBy, hwaiting]
    | cons task rest =>
      rw [desk.next_runNext_cons hwaiting]
      refine ⟨?_, rfl, ?_⟩ <;> simp [startedBy, postedBy, hwaiting]
  | closeLoop => exact absurd rfl hmove

/-! ## Runs -/

@[simp] theorem after_nil (r : Reception σ) : desk.after r [] = r := rfl

@[simp] theorem after_cons (r : Reception σ) (move : Move) (rest : List Move) :
    desk.after r (move :: rest) = desk.after (desk.next r move) rest := rfl

theorem after_append (r : Reception σ) (first second : List Move) :
    desk.after r (first ++ second) = desk.after (desk.after r first) second :=
  List.foldl_append

theorem wellFormed_after {r : Reception σ} (hr : r.registry.WellFormed) (moves : List Move) :
    (desk.after r moves).registry.WellFormed := by
  induction moves generalizing r with
  | nil => exact hr
  | cons move rest ih => exact ih (desk.wellFormed_next hr move)

/-- Once the loop is closed nothing is posted and nothing is started. -/
theorem closed_run {r : Reception σ} (hr : r.registry.WellFormed) (hclosed : r.queue.draining = false)
    (hempty : r.queue.waiting = []) (moves : List Move) :
    desk.posted r moves = [] ∧ desk.started r moves = [] ∧
      (desk.after r moves).queue.draining = false ∧ (desk.after r moves).queue.waiting = [] := by
  -- The induction carries that the queue stays closed and empty.
  induction moves generalizing r with
  | nil => exact ⟨rfl, rfl, hclosed, hempty⟩
  | cons move rest ih =>
    have hposted : postedBy r move = [] := by
      cases move with
      | arrival event => simp [postedBy, taskOf, hclosed]
      | otherPost => simp [postedBy, hclosed]
      | _ => rfl
    have hstarted : startedBy r move = [] := by
      cases move with
      | runNext => simp [startedBy, hempty]
      | _ => rfl
    have hnext : (desk.next r move).queue.draining = false ∧
        (desk.next r move).queue.waiting = [] := by
      -- `accounted` leaves closing out, so closing once more is looked at by itself.
      by_cases hmove : move = .closeLoop
      · subst hmove
        exact ⟨rfl, rfl⟩
      · have hacc := desk.accounted hr hmove
        refine ⟨hacc.draining.trans hclosed, ?_⟩
        have htasks := hacc.tasks
        rw [hstarted, hposted, hempty] at htasks
        simpa using htasks
    have hrest := ih (desk.wellFormed_next hr move) hnext.1 hnext.2
    refine ⟨?_, ?_, hrest.2.2.1, hrest.2.2.2⟩
    · show postedBy r move ++ desk.posted (desk.next r move) rest = []
      rw [hposted, hrest.1]
      rfl
    · show startedBy r move ++ desk.started (desk.next r move) rest = []
      rw [hstarted, hrest.2.1]
      rfl

/-- The listeners got the calls of the tasks that were started, in that order. -/
theorem heard_after {r : Reception σ} (hr : r.registry.WellFormed) (moves : List Move) :
    (desk.after r moves).heard = r.heard ++ (desk.started r moves).flatMap callsOf := by
  induction moves generalizing r with
  | nil => exact (List.append_nil _).symm
  | cons move rest ih =>
    have hmove : (desk.next r move).heard = r.heard ++ (startedBy r move).flatMap callsOf := by
      -- Closing calls nobody and starts nothing.
      by_cases hclose : move = .closeLoop
      · subst hclose
        exact (List.append_nil _).symm
      · exact (desk.accounted hr hclose).heard
    calc (desk.after r (move :: rest)).heard
        = (desk.next r move).heard ++ (desk.started (desk.next r move) rest).flatMap callsOf :=
          ih (desk.wellFormed_next hr move)
      _ = r.heard ++ (desk.started r (move :: rest)).flatMap callsOf := by
          rw [hmove, List.append_assoc]
          show _ = r.heard ++ (startedBy r move ++ desk.started (desk.next r move) rest).flatMap callsOf
          rw [List.flatMap_append]

/-- The tasks that were started and those that wait are the first of the tasks that were there or
were posted; the others were lost with the loop. -/
theorem tasks_prefix {r : Reception σ} (hr : r.registry.WellFormed) (moves : List Move) :
    (desk.started r moves).map (·.1) ++ (desk.after r moves).queue.waiting <+:
      r.queue.waiting ++ desk.posted r moves := by
  induction moves generalizing r with
  | nil => exact ⟨[], by simp [started, posted]⟩
  | cons move rest ih =>
    have hr' := desk.wellFormed_next hr move
    by_cases hclose : move = .closeLoop
    · subst hclose
      -- What waited is dropped here, and after that nothing starts and nothing is posted, so the
      -- prefix may be a proper one.
      have hclosed := desk.closed_run hr' rfl rfl rest
      have hstarted : desk.started r (.closeLoop :: rest) = [] := hclosed.2.1
      rw [hstarted, after_cons, hclosed.2.2.2]
      exact List.nil_prefix
    · have htasks := (desk.accounted hr hclose).tasks
      have hgoal : (startedBy r move).map (·.1) ++
            ((desk.started (desk.next r move) rest).map (·.1) ++
              (desk.after (desk.next r move) rest).queue.waiting) <+:
          (startedBy r move).map (·.1) ++
            ((desk.next r move).queue.waiting ++ desk.posted (desk.next r move) rest) :=
        (List.prefix_append_right_inj _).2 (ih hr')
      -- The step's own tasks stand in front on both sides; `accounted` moves them into the queue.
      rw [← List.append_assoc, ← List.append_assoc, ← List.map_append, htasks,
        List.append_assoc] at hgoal
      exact hgoal

/-- While the loop is open no task is lost. -/
theorem tasks_eq {r : Reception σ} (hr : r.registry.WellFormed) {moves : List Move}
    (hopen : (desk.after r moves).queue.draining = true) :
    (desk.started r moves).map (·.1) ++ (desk.after r moves).queue.waiting =
      r.queue.waiting ++ desk.posted r moves := by
  induction moves generalizing r with
  | nil => simp [started, posted]
  | cons move rest ih =>
    have hr' := desk.wellFormed_next hr move
    by_cases hclose : move = .closeLoop
    · subst hclose
      have hclosed := desk.closed_run hr' rfl rfl rest
      -- A loop that was closed is not open at the end.
      rw [after_cons, hclosed.2.2.1] at hopen
      cases hopen
    · have htasks := (desk.accounted hr hclose).tasks
      calc (desk.started r (move :: rest)).map (·.1) ++ (desk.after r (move :: rest)).queue.waiting
          = (startedBy r move).map (·.1) ++
              ((desk.started (desk.next r move) rest).map (·.1) ++
                (desk.after (desk.next r move) rest).queue.waiting) := by
            show (startedBy r move ++ desk.started (desk.next r move) rest).map (·.1) ++ _ = _
            rw [List.map_append, List.append_assoc]
            rfl
        _ = ((startedBy r move).map (·.1) ++ (desk.next r move).queue.waiting) ++
              desk.posted (desk.next r move) rest := by
            rw [ih hr' hopen, List.append_assoc]
        _ = r.queue.waiting ++ desk.posted r (move :: rest) := by
            rw [htasks, List.append_assoc]
            rfl

/-! ## Listeners that act -/

/-- The call of a listener that acts: `act` tells what the listener does in the state in which it is
called. -/
def callActing (act : Reception σ → Listener → InboundMessage → List Move) (listener : Listener)
    (message : InboundMessage) : Effect (Reception σ) Unit where
  run r :=
    let called := r.hear listener message
    ⟨.ok (), desk.after called (act called listener message), []⟩

theorem runNext_eq_moves (act : Reception σ → Listener → InboundMessage → List Move)
    (r : Reception σ) :
    ∃ ran moves, (MainLoop.runNext (mainLoop (desk.callActing act))).Ends r (.ok ran)
      (desk.after r moves) := by
  cases hwaiting : r.queue.waiting with
  | nil => exact ⟨false, [], Effect.ends_bind (ends_take_none hwaiting) ⟨rfl, rfl⟩⟩
  | cons task rest =>
    let taken : Reception σ := { r with queue := { r.queue with waiting := rest } }
    have hnext := desk.next_runNext_cons hwaiting
    -- The calls of the task are noted first, and then the listener's moves follow.
    suffices hexec : ∃ moves, (exec (desk.callActing act) task).Ends taken (.ok ())
        (desk.after (desk.next r .runNext) moves) by
      rcases hexec with ⟨moves, hexec⟩
      exact ⟨true, .runNext :: moves,
        Effect.ends_bind (ends_take_some hwaiting) (Effect.ends_bind hexec ⟨rfl, rfl⟩)⟩
    rw [hnext]
    cases task with
    | none =>
      refine ⟨[], ?_⟩
      have hnil : r.heard ++ callsOf (none, r.registry) = r.heard := List.append_nil _
      rw [hnil]
      exact ⟨rfl, rfl⟩
    | some delivery =>
      rw [callsOf_eq]
      rcases ends_exec (desk.callActing act) taken delivery with
        ⟨hnone, hends⟩ | ⟨listener, hsome, hends⟩
      · have hnone' : delivery.listener? r.registry = none := hnone
        rw [hnone', List.append_nil]
        exact ⟨[], hends⟩
      · have hsome' : delivery.listener? r.registry = some listener := hsome
        rw [hsome']
        exact ⟨act (taken.hear listener delivery.event.inbound) listener delivery.event.inbound, hends⟩

/-- A drain whose listeners act in any way is a list of moves. -/
theorem drain_eq_moves (act : Reception σ → Listener → InboundMessage → List Move) (limit : Nat)
    (r : Reception σ) :
    ∃ ran moves, (MainLoop.runUpTo (mainLoop (desk.callActing act)) limit).Ends r (.ok ran)
      (desk.after r moves) := by
  induction limit generalizing r with
  | zero => exact ⟨0, [], rfl, rfl⟩
  | succ limit ih =>
    rcases desk.runNext_eq_moves act r with ⟨ran, moves, hrun⟩
    -- Each turn of the drain is itself a list of moves, and the lists are put one after the other.
    cases ran with
    | false => exact ⟨0, moves, Effect.ends_bind hrun ⟨rfl, rfl⟩⟩
    | true =>
      rcases ih (desk.after r moves) with ⟨ranRest, movesRest, hrest⟩
      refine ⟨ranRest + 1, moves ++ movesRest, ?_⟩
      rw [after_append]
      exact Effect.ends_bind hrun (Effect.ends_bind hrest ⟨rfl, rfl⟩)

/-! ## Exactness -/

/-- At every moment of every run: a delivery that arrives becomes exactly one task if its target is
active in some domain and the loop is open, and changes nothing otherwise; the oldest task calls
exactly one listener if its target is active in the domain that it had on arrival, the one that is
registered now, with the data of the delivery, and otherwise none.  Tasks run in the order in which
they were posted, none is lost while the loop is open, and the listeners got the calls of the tasks
that ran, in that order, and no others.  A drain, whatever its listeners do meanwhile, leads to the
end of another run, about which the same is said. -/
theorem dispatch_exact_over_runs (s : σ) (moves : List Move) :
    let r := desk.after (initial s) moves
    (∀ event : DeliveryEvent,
      (∀ domain, (r.registry.lookup event.target domain).isSome → r.queue.draining = true →
        (desk.arrive event).Ends r (.ok .scheduled)
          { r with queue :=
            { r.queue with waiting := r.queue.waiting ++ [some ⟨domain, event⟩] } }) ∧
      (((∀ domain, r.registry.lookup event.target domain = none) ∨ r.queue.draining = false) →
        ((desk.arrive event).run r).state = r ∧
          ((desk.arrive event).run r).result ≠ .ok .scheduled)) ∧
    (∀ domain event rest, r.queue.waiting = some ⟨domain, event⟩ :: rest →
      desk.next r .runNext =
        { r with
          queue := { r.queue with waiting := rest }
          heard := r.heard ++
            match r.registry.lookup event.target domain with
            | none => []
            | some entry =>
              [⟨entry.listener.callback, entry.listener.context?, event.target, event.senderApp,
                event.senderPort, event.senderTrusted, event.payload⟩] }) ∧
    (desk.started (initial s) moves).map (·.1) ++ r.queue.waiting <+:
      desk.posted (initial s) moves ∧
    (r.queue.draining = true → (desk.started (initial s) moves).map (·.1) ++ r.queue.waiting =
      desk.posted (initial s) moves) ∧
    r.heard = (desk.started (initial s) moves).flatMap callsOf ∧
    (∀ act limit, ∃ ran later, (MainLoop.runUpTo (mainLoop (desk.callActing act)) limit).Ends r
      (.ok ran) (desk.after (initial s) (moves ++ later))) := by
  intro r
  have hinitial : (initial s).registry.WellFormed := Registry.WellFormed.empty
  have hr : r.registry.WellFormed := desk.wellFormed_after hinitial moves
  refine ⟨fun event => ⟨?_, ?_⟩, ?_, ?_, ?_, ?_, ?_⟩
  · intro domain hactive hopen
    exact desk.ends_arrive_scheduled (hr.domainOf?_eq_some_iff.2 hactive) hopen
  · intro hrefused
    cases hdomain : r.registry.domainOf? event.target with
    | none =>
      have hends := desk.ends_arrive_noListener hdomain
      refine ⟨hends.state, ?_⟩
      rw [hends.result]
      intro h
      cases h
    | some domain =>
      -- A target that is active is refused for the loop alone.
      have hactive := hr.domainOf?_eq_some_iff.1 hdomain
      have hclosed : r.queue.draining = false := by
        rcases hrefused with hnone | hclosed
        · simp [hnone] at hactive
        · exact hclosed
      have hends := desk.ends_arrive_loopClosed hdomain hclosed
      refine ⟨hends.state, ?_⟩
      rw [hends.result]
      intro h
      cases h
  · intro domain event rest hwaiting
    rw [desk.next_runNext_cons hwaiting]
    rfl
  · exact desk.tasks_prefix hinitial moves
  · intro hopen
    exact desk.tasks_eq hinitial hopen
  · exact desk.heard_after hinitial moves
  · intro act limit
    rcases desk.drain_eq_moves act limit r with ⟨ran, later, hdrain⟩
    refine ⟨ran, later, ?_⟩
    rw [after_append]
    exact hdrain

end ReceptionDesk
end PortMessaging
