import PortMessaging.Proofs.QueueHistory

/-!
# PendingTasks — a drain goes on with what is posted while it runs

A drain without a limit runs tasks until it finds none (`RunsDry`); it is what `runUpTo` does with any
limit that it does not come to.  The tasks that wait when it begins are its first round.  To run only these
(`runWaiting`) takes as many steps as tasks wait, starts just them, in their order, and leaves what was
posted meanwhile.  The drain without a limit does the same and then goes on: what the first round left is
its second round, and so on until a round leaves nothing or breaks off.

So a drain keeps to the tasks that wait exactly if none of them has anything posted, and a task that posts
itself again keeps it busy for ever, although each task ends.
-/

namespace PortMessaging
namespace MainLoop

variable {σ τ : Type}

/-! ## Drains without a limit -/

/-- A drain that runs tasks until none waits ends with the result in the state `s'`. -/
inductive RunsDry (loop : Loop σ τ) : σ → Except Fault Nat → σ → Prop where
  | idle {s s' : σ} (h : (runNext loop).Ends s (.ok false) s') : RunsDry loop s (.ok 0) s'
  | broke {s s' : σ} {fault : Fault} (h : (runNext loop).Ends s (.error fault) s') :
      RunsDry loop s (.error fault) s'
  | ran {s u s' : σ} {result : Except Fault Nat} (h : (runNext loop).Ends s (.ok true) u)
      (hrest : RunsDry loop u result s') : RunsDry loop s (result.map (· + 1)) s'

section Limits

variable {loop : Loop σ τ} {s u s' : σ} {limit : Nat} {result : Except Fault Nat} {fault : Fault}

/-- What the next task of a loop may come to. -/
theorem runNext_cases (loop : Loop σ τ) (s : σ) :
    (∃ s', (runNext loop).Ends s (.ok false) s') ∨
      (∃ fault s', (runNext loop).Ends s (.error fault) s') ∨
        ∃ u, (runNext loop).Ends s (.ok true) u := by
  rcases Effect.ends_cases (runNext loop) s with hbroke | ⟨ran, s', h⟩
  · exact .inr (.inl hbroke)
  · cases ran with
    | false => exact .inl ⟨s', h⟩
    | true => exact .inr (.inr ⟨s', h⟩)

/-- A drain that ran a task went on with one less. -/
theorem ran_of_runUpTo {n : Nat} (h : (runUpTo loop (limit + 1)).Ends s (.ok (n + 1)) s') :
    ∃ u, (runNext loop).Ends s (.ok true) u ∧ (runUpTo loop limit).Ends u (.ok n) s' := by
  rcases runNext_cases loop s with ⟨s₁, hidle⟩ | ⟨fault, s₁, hbroke⟩ | ⟨u, hran⟩
  · cases (h.unique (runUpTo_succ_idle hidle)).1
  · cases (h.unique (runUpTo_succ_broke hbroke)).1
  · rcases h.unique (runUpTo_succ_ran hran ⟨rfl, rfl⟩) with ⟨hresult, hstate⟩
    cases hrest : ((runUpTo loop limit).run u).result with
    | error fault =>
      rw [hrest] at hresult
      cases hresult
    | ok m =>
      rw [hrest] at hresult
      cases hresult
      exact ⟨u, hran, hrest, hstate.symm⟩

/-- A drain without a limit is one with a limit that it does not come to. -/
theorem runsDry_iff_exists_limit :
    RunsDry loop s result s' ↔
      ∃ limit, (runUpTo loop limit).Ends s result s' ∧ ∀ n, result = .ok n → n < limit := by
  constructor
  · intro h
    induction h with
    | idle h =>
      refine ⟨1, runUpTo_succ_idle h, ?_⟩
      rintro n ⟨⟩
      exact Nat.one_pos
    | broke h => exact ⟨1, runUpTo_succ_broke h, nofun⟩
    | @ran s u s' result h _ ih =>
      rcases ih with ⟨limit, hrest, hlimit⟩
      refine ⟨limit + 1, runUpTo_succ_ran h hrest, ?_⟩
      cases result with
      | error fault => exact nofun
      | ok m =>
        rintro n ⟨⟩
        exact Nat.succ_lt_succ (hlimit m rfl)
  · rintro ⟨limit, h, hlimit⟩
    induction limit generalizing s result with
    | zero => exact absurd (hlimit 0 h.result.symm) (Nat.not_lt_zero 0)
    | succ limit ih =>
      rcases runNext_cases loop s with ⟨s₁, hidle⟩ | ⟨fault, s₁, hbroke⟩ | ⟨u, hran⟩
      · rcases h.unique (runUpTo_succ_idle hidle) with ⟨rfl, rfl⟩
        exact .idle hidle
      · rcases h.unique (runUpTo_succ_broke hbroke) with ⟨rfl, rfl⟩
        exact .broke hbroke
      · rcases h.unique (runUpTo_succ_ran hran ⟨rfl, rfl⟩) with ⟨rfl, rfl⟩
        refine .ran hran (ih ⟨rfl, rfl⟩ ?_)
        intro n hn
        rw [hn] at hlimit
        exact Nat.lt_of_succ_lt_succ (hlimit (n + 1) rfl)

theorem RunsDry.unique {s₁ s₂ : σ} {result₁ result₂ : Except Fault Nat}
    (h₁ : RunsDry loop s result₁ s₁) (h₂ : RunsDry loop s result₂ s₂) : result₁ = result₂ ∧ s₁ = s₂ := by
  induction h₁ generalizing result₂ with
  | idle h =>
    cases h₂ with
    | idle h' => exact ⟨rfl, (h.unique h').2⟩
    | broke h' => cases (h.unique h').1
    | ran h' _ => cases (h.unique h').1
  | broke h =>
    cases h₂ with
    | idle h' => cases (h.unique h').1
    | broke h' =>
      cases (h.unique h').1
      exact ⟨rfl, (h.unique h').2⟩
    | ran h' _ => cases (h.unique h').1
  | ran h _ ih =>
    cases h₂ with
    | idle h' => cases (h.unique h').1
    | broke h' => cases (h.unique h').1
    | ran h' hrest =>
      rcases ih ((h.unique h').2 ▸ hrest) with ⟨rfl, rfl⟩
      exact ⟨rfl, rfl⟩

theorem runsDry_of_broke (h : (runUpTo loop limit).Ends s (.error fault) s') :
    RunsDry loop s (.error fault) s' := runsDry_iff_exists_limit.2 ⟨limit, h, nofun⟩

theorem runsDry_ran_iff (h : (runNext loop).Ends s (.ok true) u) :
    RunsDry loop s result s' ↔
      ∃ later, RunsDry loop u later s' ∧ result = later.map (· + 1) := by
  constructor
  · intro hdry
    cases hdry with
    | idle h' => cases (h.unique h').1
    | broke h' => cases (h.unique h').1
    | ran h' hrest => exact ⟨_, (h.unique h').2 ▸ hrest, rfl⟩
  · rintro ⟨later, hrest, rfl⟩
    exact .ran h hrest

/-- To drain a loop is to run some of its tasks and then to drain it. -/
theorem runsDry_after_iff (h : (runUpTo loop limit).Ends s (.ok limit) u) :
    RunsDry loop s result s' ↔
      ∃ later, RunsDry loop u later s' ∧ result = later.map (· + limit) := by
  induction limit generalizing s result with
  | zero =>
    have hsame : s = u := h.state
    subst hsame
    constructor
    · intro hdry
      exact ⟨result, hdry, by cases result <;> rfl⟩
    · rintro ⟨later, hlater, rfl⟩
      cases later with
      | error fault => exact hlater
      | ok n => exact hlater
  | succ limit ih =>
    rcases ran_of_runUpTo h with ⟨v, hran, hrest⟩
    have hmap : ∀ later : Except Fault Nat,
        (later.map (· + limit)).map (· + 1) = later.map (· + (limit + 1)) := fun later => by
      cases later <;> rfl
    rw [runsDry_ran_iff hran]
    constructor
    · rintro ⟨middle, hmiddle, rfl⟩
      rcases (ih hrest).1 hmiddle with ⟨later, hlater, rfl⟩
      exact ⟨later, hlater, hmap later⟩
    · rintro ⟨later, hlater, rfl⟩
      exact ⟨_, (ih hrest).2 ⟨later, hlater, rfl⟩, (hmap later).symm⟩

/-- A drain that ran no task has found none. -/
theorem RunsDry.idle_of_zero (h : RunsDry loop s (.ok 0) s') : (runNext loop).Ends s (.ok false) s' := by
  generalize hresult : (Except.ok 0 : Except Fault Nat) = result at h
  cases h with
  | idle h => exact h
  | broke h => cases hresult
  | @ran _ u _ later h hrest =>
    cases later with
    | error fault => cases hresult
    | ok n => cases hresult

end Limits

/-- Runs the tasks that wait, and none that is posted meanwhile. -/
def runWaiting (loop : Loop σ τ) : Effect σ Nat := do
  runUpTo loop (loop.queue.get (← Effect.getState)).size

/-! ## What a round leaves -/

namespace Timeline

/-- Since `t` just these tasks were accepted, and none was lost. -/
structure Accounted (t t' : Timeline τ) (posted : List τ) : Prop where
  accepted : t'.accepted = t.accepted ++ posted
  kept : t'.started ++ t'.queue.waiting = t.started ++ t.queue.waiting ++ posted

theorem Accounted.refl (t : Timeline τ) : Accounted t t [] := ⟨by simp, by simp⟩

theorem Accounted.trans {t u t' : Timeline τ} {posted more : List τ} (h : Accounted t u posted)
    (h' : Accounted u t' more) : Accounted t t' (posted ++ more) where
  accepted := by rw [h'.accepted, h.accepted, List.append_assoc]
  kept := by rw [h'.kept, h.kept, List.append_assoc]

theorem accounted_next (t : Timeline τ) {instant : Instant τ} (h : instant ≠ .close) :
    ∃ posted, Accounted t (t.next instant) posted := by
  obtain ⟨t', hturn, hnext⟩ := t.turn_next instant
  rw [hnext]
  cases hturn with
  | @accepted task => exact ⟨[task], rfl, by simp [note]⟩
  | refused => exact ⟨[], by simp [note], by simp [note]⟩
  | handled => exact ⟨[], by simp [note], by simp [note]⟩
  | started hwaiting => exact ⟨[], by simp [note], by simp [note, hwaiting]⟩
  | closed => exact absurd rfl h

theorem accounted_after (t : Timeline τ) {instants : List (Instant τ)} (h : .close ∉ instants) :
    ∃ posted, Accounted t (t.after instants) posted := by
  induction instants generalizing t with
  | nil => exact ⟨[], Accounted.refl t⟩
  | cons instant rest ih =>
    rw [List.mem_cons, not_or] at h
    rcases t.accounted_next (Ne.symm h.1) with ⟨posted, hfirst⟩
    rcases ih (t.next instant) h.2 with ⟨more, hrest⟩
    exact ⟨posted ++ more, hfirst.trans hrest⟩

/-- A drain from `t` ran exactly the tasks that waited, in their order, and left what was posted meanwhile. -/
structure Served (t : Timeline τ) (result : Except Fault Nat) (t' : Timeline τ) : Prop where
  counted : result = .ok t.queue.size
  inOrder : t'.started = t.started ++ t.queue.waiting
  left : t'.accepted = t.accepted ++ t'.queue.waiting

end Timeline

open Timeline (fresh Served)

section Rounds

variable {tasks : Tasks τ} {t : Timeline τ}

/-- A drain with a limit starts no more tasks. -/
theorem started_runUpTo_le (tasks : Tasks τ) (limit : Nat) (t : Timeline τ) :
    ((runUpTo tasks.loop limit).run t).state.started.length ≤ t.started.length + limit := by
  induction limit generalizing t with
  | zero => exact Nat.le_refl _
  | succ limit ih =>
    cases hwaiting : t.queue.waiting with
    | nil =>
      rw [(runUpTo_succ_idle (runNext_ends_of_empty tasks hwaiting)).state]
      exact Nat.le_add_right _ _
    | cons task rest =>
      have hnext := runNext_ends tasks hwaiting
      have hstarted := congrArg List.length (tasks.started_after_instants hwaiting)
      rw [List.length_append, List.length_singleton] at hstarted
      split at hnext
      · rw [(runUpTo_succ_broke hnext).state]
        omega
      · rw [(runUpTo_succ_ran hnext ⟨rfl, rfl⟩).state]
        have hrest := ih (t.after (tasks.instants t task))
        omega

/-- What happens in a round: the tasks that it starts waited when it began, the oldest of them, and those that
wait in the end are the others and those that were posted. -/
structure Rounded (tasks : Tasks τ) (t : Timeline τ) (ran posted : List τ) : Prop where
  drained : ∃ during, Drained tasks (runUpTo tasks.loop t.queue.size) t during ran
  accepted : (((runWaiting tasks.loop).run t).state).accepted = t.accepted ++ posted
  kept : ran ++ ((runWaiting tasks.loop).run t).state.queue.waiting = t.queue.waiting ++ posted
  begun : ran <+: t.queue.waiting
  emptied : ∀ n, ((runWaiting tasks.loop).run t).result = .ok n → n < t.queue.size →
    ((runWaiting tasks.loop).run t).state.queue.waiting = []

theorem rounded (tasks : Tasks τ) (t : Timeline τ) : ∃ ran posted, Rounded tasks t ran posted := by
  obtain ⟨during, ran, hdrained, hopen, hempty⟩ := runUpTo_drained tasks t.queue.size t
  obtain ⟨posted, hposted⟩ := t.accounted_after hopen
  have hle := started_runUpTo_le tasks t.queue.size t
  rw [hdrained.started, List.length_append] at hle
  rw [← hdrained.after] at hposted
  have hkept : ran ++ ((runUpTo tasks.loop t.queue.size).run t).state.queue.waiting =
      t.queue.waiting ++ posted := by
    have hall := hposted.kept
    rw [hdrained.started, List.append_assoc, List.append_assoc] at hall
    exact List.append_cancel_left hall
  refine ⟨ran, posted, ⟨during, hdrained⟩, hposted.accepted, hkept, ?_, hempty⟩
  exact List.prefix_of_prefix_length_le ⟨_, hkept⟩ (List.prefix_append _ _) (Nat.le_of_add_le_add_left hle)

/-- A round that does not break off has served the tasks that waited. -/
theorem served_of_runWaiting {n : Nat} (h : ((runWaiting tasks.loop).run t).result = .ok n) :
    Served t (.ok n) ((runWaiting tasks.loop).run t).state := by
  obtain ⟨ran, posted, hround⟩ := rounded tasks t
  obtain ⟨during, hdrained⟩ := hround.drained
  have hcounted : ran.length = n := hdrained.counted n h
  have hran : ran = t.queue.waiting := by
    refine hround.begun.eq_of_length_le (Nat.le_of_not_lt fun hlt => ?_)
    have hempty := hround.emptied n h (hcounted ▸ hlt)
    have hlength := congrArg List.length hround.kept
    rw [hempty, List.append_nil, List.length_append] at hlength
    omega
  have hleft : ((runWaiting tasks.loop).run t).state.queue.waiting = posted :=
    List.append_cancel_left (hran ▸ hround.kept)
  refine ⟨?_, ?_, ?_⟩
  · rw [← hcounted, hran]
    rfl
  · exact hran ▸ hdrained.started
  · rw [hround.accepted, hleft]

/-- A round breaks off with one of the tasks that waited, when that panics. -/
theorem panicked_of_runWaiting {fault : Fault} (h : ((runWaiting tasks.loop).run t).result = .error fault) :
    ∃ finished task before, finished ++ [task] <+: t.queue.waiting ∧
      (t.after before).started = t.started ++ (finished ++ [task]) ∧
        tasks.panics (t.after before) task = true := by
  obtain ⟨ran, posted, hround⟩ := rounded tasks t
  obtain ⟨during, hdrained⟩ := hround.drained
  obtain ⟨finished, task, before, rfl, -, hstarted, hpanics⟩ := hdrained.panicked fault h
  exact ⟨finished, task, before, hround.begun, hstarted, hpanics⟩

theorem waiting_of_idle {t' : Timeline τ} (h : (runNext tasks.loop).Ends t (.ok false) t') :
    t.queue.waiting = [] := by
  cases hwaiting : t.queue.waiting with
  | nil => rfl
  | cons task rest =>
    have hresult := (h.unique (runNext_ends tasks hwaiting)).1
    split at hresult
    · cases hresult
    · cases hresult

/-- A drain goes on where its first round ended, and counts its tasks to those of the round. -/
theorem runsDry_first_round_iff {n : Nat} (h : ((runWaiting tasks.loop).run t).result = .ok n)
    {result : Except Fault Nat} {t' : Timeline τ} :
    RunsDry tasks.loop t result t' ↔
      ∃ later, RunsDry tasks.loop ((runWaiting tasks.loop).run t).state later t' ∧
        result = later.map (· + t.queue.size) := by
  refine runsDry_after_iff ⟨?_, rfl⟩
  exact h.trans (served_of_runWaiting h).counted

/-- A drain keeps to the tasks that wait exactly if its first round leaves none. -/
theorem served_runsDry_iff {n : Nat} (h : ((runWaiting tasks.loop).run t).result = .ok n) :
    (∃ result t', RunsDry tasks.loop t result t' ∧ Served t result t') ↔
      ((runWaiting tasks.loop).run t).state.queue.waiting = [] := by
  have hserved := served_of_runWaiting h
  constructor
  · rintro ⟨result, t', hdry, hkept⟩
    rcases (runsDry_first_round_iff h).1 hdry with ⟨later, hlater, hresult⟩
    rw [hkept.counted] at hresult
    cases later with
    | error fault => cases hresult
    | ok m =>
      have hcount : t.queue.size = m + t.queue.size := Except.ok.inj hresult
      have hm : m = 0 := by omega
      subst hm
      exact waiting_of_idle hlater.idle_of_zero
  · intro hempty
    have hlater := RunsDry.idle (runNext_ends_of_empty tasks hempty)
    refine ⟨_, _, (runsDry_first_round_iff h).2 ⟨_, hlater, rfl⟩, ?_, hserved.inOrder, hserved.left⟩
    show Except.ok (0 + t.queue.size) = .ok t.queue.size
    rw [Nat.zero_add]

/-- The loop after one round. -/
def Tasks.round (tasks : Tasks τ) (t : Timeline τ) : Timeline τ := ((runWaiting tasks.loop).run t).state

/-- The loop after some rounds. -/
def Tasks.afterRounds (tasks : Tasks τ) (t : Timeline τ) : Nat → Timeline τ
  | 0 => t
  | k + 1 => tasks.afterRounds (tasks.round t) k

/-- There is no further round: nothing waits, or the round breaks off. -/
def Tasks.AtLastRound (tasks : Tasks τ) (t : Timeline τ) : Prop :=
  t.queue.waiting = [] ∨ ∃ fault, ((runWaiting tasks.loop).run t).result = .error fault

theorem RunsDry.started {result : Except Fault Nat} {t' : Timeline τ} (h : RunsDry tasks.loop t result t') :
    t.started.length ≤ t'.started.length := by
  rcases runsDry_iff_exists_limit.1 h with ⟨limit, hends, -⟩
  obtain ⟨during, ran, hdrained, -⟩ := runUpTo_drained tasks limit t
  have hstarted := hdrained.started
  rw [hends.state] at hstarted
  rw [hstarted, List.length_append]
  exact Nat.le_add_right _ _

/-- A drain goes on after a round that is not the last, and has started a task in it. -/
theorem RunsDry.next_round {result : Except Fault Nat} {t' : Timeline τ}
    (h : RunsDry tasks.loop t result t') (hlast : ¬ tasks.AtLastRound t) :
    ∃ later, RunsDry tasks.loop (tasks.round t) later t' ∧
      t.started.length < (tasks.round t).started.length := by
  unfold Tasks.AtLastRound at hlast
  rw [not_or] at hlast
  cases hround : ((runWaiting tasks.loop).run t).result with
  | error fault => exact absurd ⟨fault, hround⟩ hlast.2
  | ok n =>
    rcases (runsDry_first_round_iff hround).1 h with ⟨later, hlater, -⟩
    have hstarted : (tasks.round t).started.length = t.started.length + t.queue.waiting.length :=
      (congrArg List.length (served_of_runWaiting hround).inOrder).trans List.length_append
    have hwaiting : 0 < t.queue.waiting.length := List.length_pos_iff.2 hlast.1
    exact ⟨later, hlater, by omega⟩

/-- A drain that ends comes to a last round. -/
theorem RunsDry.last_round {result : Except Fault Nat} {t' : Timeline τ}
    (h : RunsDry tasks.loop t result t') {bound : Nat}
    (hbound : t'.started.length ≤ t.started.length + bound) :
    ∃ k, tasks.AtLastRound (tasks.afterRounds t k) := by
  -- The bound is on the tasks that the drain still starts, and every round but the last starts one.
  induction bound generalizing t result with
  | zero =>
    refine ⟨0, Classical.byContradiction fun hlast => ?_⟩
    rcases h.next_round hlast with ⟨later, hlater, hmore⟩
    have hstarted := hlater.started
    omega
  | succ bound ih =>
    by_cases hlast : tasks.AtLastRound t
    · exact ⟨0, hlast⟩
    · rcases h.next_round hlast with ⟨later, hlater, hmore⟩
      rcases ih hlater (by omega) with ⟨k, hk⟩
      exact ⟨k + 1, hk⟩

/-- A drain ends exactly if it comes to a last round. -/
theorem runsDry_ends_iff :
    (∃ result t', RunsDry tasks.loop t result t') ↔ ∃ k, tasks.AtLastRound (tasks.afterRounds t k) := by
  constructor
  · rintro ⟨result, t', hdry⟩
    exact hdry.last_round (Nat.le_add_left _ _)
  · rintro ⟨k, hlast⟩
    induction k generalizing t with
    | zero =>
      rcases hlast with hempty | ⟨fault, hbroke⟩
      · exact ⟨_, _, .idle (runNext_ends_of_empty tasks hempty)⟩
      · exact ⟨_, _, runsDry_of_broke ⟨hbroke, rfl⟩⟩
    | succ k ih =>
      cases hround : ((runWaiting tasks.loop).run t).result with
      | error fault => exact ⟨_, _, runsDry_of_broke ⟨hround, rfl⟩⟩
      | ok n =>
        rcases ih hlast with ⟨later, t', hlater⟩
        exact ⟨_, t', (runsDry_first_round_iff hround).2 ⟨later, hlater, rfl⟩⟩

end Rounds

/-- For every queue and whatever happens while tasks run: the first round of a drain breaks off only if one of
the tasks that wait panics.  Otherwise a drain without a limit first runs the tasks that wait, just these and
in their order, and then goes on as a drain of what was posted meanwhile; so it ran and counted just the tasks
that waited, and left what was posted, exactly if nothing was.  It ends exactly if after some rounds nothing
waits or a task panics.  It does what any limit lets it do that it does not come to. -/
theorem drain_goes_on_in_rounds (tasks : Tasks τ) (t : Timeline τ) :
    let first := (runWaiting tasks.loop).run t
    (∀ fault, first.result = .error fault → ∃ finished task before,
      finished ++ [task] <+: t.queue.waiting ∧
        (t.after before).started = t.started ++ (finished ++ [task]) ∧
          tasks.panics (t.after before) task = true) ∧
    ((∀ fault, first.result ≠ .error fault) →
      Served t first.result first.state ∧
      (∀ result t', RunsDry tasks.loop t result t' ↔
        ∃ later, RunsDry tasks.loop first.state later t' ∧ result = later.map (· + t.queue.size)) ∧
      ((∃ result t', RunsDry tasks.loop t result t' ∧ Served t result t') ↔
        first.state.queue.waiting = [])) ∧
    ((∃ result t', RunsDry tasks.loop t result t') ↔
      ∃ k, tasks.AtLastRound (tasks.afterRounds t k)) ∧
    ∀ result t', RunsDry tasks.loop t result t' ↔
      ∃ limit, (runUpTo tasks.loop limit).Ends t result t' ∧ ∀ n, result = .ok n → n < limit := by
  intro first
  refine ⟨fun fault => panicked_of_runWaiting, fun hquiet => ?_, runsDry_ends_iff,
    fun result t' => runsDry_iff_exists_limit⟩
  cases hfirst : first.result with
  | error fault => exact absurd hfirst (hquiet fault)
  | ok n =>
    exact ⟨served_of_runWaiting hfirst, fun result t' => runsDry_first_round_iff hfirst,
      served_runsDry_iff hfirst⟩

/-! ## Tasks that post -/

/-- The task `0` hands on to the task `1`, which posts nothing. -/
def handingOn : Tasks Nat := ⟨fun _ task => if task = 0 then [.post 1] else [], fun _ _ => false⟩

/-- Each task posts itself again. -/
def reposting : Tasks Nat := ⟨fun _ task => [.post task], fun _ _ => false⟩

/-- One task waits. -/
def oneWaits : Timeline Nat := fresh.after [.act (.post 0)]

theorem drain_goes_on_with_handed_task :
    (∀ fault, ((runWaiting handingOn.loop).run oneWaits).result ≠ .error fault) ∧
      Served oneWaits (.ok 1) ((runWaiting handingOn.loop).run oneWaits).state ∧
      ¬ ∃ result t', RunsDry handingOn.loop oneWaits result t' ∧ Served oneWaits result t' := by
  have hquiet : ∀ fault, ((runWaiting handingOn.loop).run oneWaits).result ≠ .error fault := nofun
  rcases (drain_goes_on_in_rounds handingOn oneWaits).2.1 hquiet with ⟨hserved, -, hiff⟩
  refine ⟨hquiet, hserved, fun hkept => ?_⟩
  have hempty := hiff.1 hkept
  revert hempty
  decide

/-- The one task that waits posts itself, and is accepted. -/
structure Busy (t : Timeline Nat) : Prop where
  waiting : t.queue.waiting = [0]
  draining : t.queue.draining = true
  handles : t.handles = 1

theorem Busy.round {t : Timeline Nat} (h : Busy t) :
    ((runWaiting reposting.loop).run t).result = .ok 1 ∧ Busy (reposting.round t) := by
  rcases t with ⟨⟨waiting, draining, posting⟩, handles, accepted, refused, started, past⟩
  cases h.waiting
  cases h.draining
  cases h.handles
  exact ⟨rfl, rfl, rfl, rfl⟩

theorem Busy.never_ends {t : Timeline Nat} (h : Busy t) :
    ¬ ∃ result t', RunsDry reposting.loop t result t' := by
  rw [runsDry_ends_iff]
  rintro ⟨k, hlast⟩
  induction k generalizing t with
  | zero =>
    rcases hlast with hempty | ⟨fault, hbroke⟩
    · cases h.waiting.symm.trans hempty
    · cases h.round.1.symm.trans hbroke
  | succ k ih => exact ih h.round.2 hlast

open Scenario in
/-- A listener of an application is called, and sends a message to its own port. -/
def sendToOwnPort : List Step :=
  let sending : Action := .onMessenger "a" (.send ⟨"app.a", "p"⟩ false false .empty)
  [.connect "a" "app.a" "cert-a" .defaults .threaded true,
    .act (.onMessenger "a" (.register "p" false false (.fresh "p" none [sending] 1))),
    .act (.onMessenger "a" (.dispatch (.oneWay ⟨1⟩ "app.s" .empty))), .runPending "a",
    .pendingCount "a"]

open Scenario in
/-- One task waits, and the one that it posts is run by the same drain, also where a listener posts it by
sending to its own application.  With a task that posts itself the drain does not end, although each task
does. -/
theorem drain_runs_posted_tasks :
    ((∃ t', RunsDry handingOn.loop oneWaits (.ok 2) t' ∧ t'.started = [0, 1]) ∧
      ¬ ∃ result t', RunsDry handingOn.loop oneWaits result t' ∧ Served oneWaits result t') ∧
    ((∀ t task, ∃ t', (reposting.exec task).Ends t (.ok ()) t') ∧
      ¬ ∃ result t', RunsDry reposting.loop oneWaits result t') ∧
    (play 100 sendToOwnPort).answers.map (·.reply) =
      [.text "app.a", .portId ⟨1⟩, .dispatched .scheduled, .count 2, .count 0] := by
  refine ⟨?_, ⟨fun t task => ⟨_, reposting.exec_ends task t⟩, Busy.never_ends ⟨rfl, rfl, rfl⟩⟩, ?_⟩
  · have hends : (runUpTo handingOn.loop 3).Ends oneWaits (.ok 2)
        ((runUpTo handingOn.loop 3).run oneWaits).state := ⟨rfl, rfl⟩
    have hlimit : ∀ n, (.ok 2 : Except Fault Nat) = .ok n → n < 3 := by
      rintro n ⟨⟩
      decide
    have hdry := runsDry_iff_exists_limit.2 ⟨3, hends, hlimit⟩
    refine ⟨⟨_, hdry, rfl⟩, ?_⟩
    rintro ⟨result, t', hother, hserved⟩
    cases (hdry.unique hother).1.trans hserved.counted
  · decide +kernel

end MainLoop
end PortMessaging
