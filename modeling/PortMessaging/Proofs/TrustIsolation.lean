import Mathlib.Data.List.Forall2
import PortMessaging.Proofs.SoundWorlds

/-!
# TrustIsolation — for whom a listener is called

When a task calls a listener, that goes back to one move of the run, the one that posted the task.
`origins` finds it: it watches the number of tasks that wait at a site and notes which move each of them
came with.  That is all it looks at, so it knows nothing of routers and deliveries; that it is right is
part of what is proved (`traced_origins`).

The certificate is checked when a message is sent, and the domain of the call is looked up in another
registry, on arrival and again when the task runs.  The two agree because ids are never minted twice: the
id to which the service routed the message and the id under which the registry of the receiver found its
port were minted for one key, so the application and the domain are the same on both sides.
-/

namespace PortMessaging
namespace Scenario
namespace World

open Loopback (PortKey keyOf?)

variable {w start : World} {move : Move} {minted : List PortKey} {n : Nat}

/-! ## Calls -/

/-- The call of a listener: the application that it belongs to, its port, and the delivery. -/
structure Calling where
  app : String
  entry : PortEntry
  delivery : Delivery
  deriving DecidableEq

/-- The call that a move makes.  Only a task that runs calls a listener, namely the one that is
registered then under the target of the delivery, in the domain of the delivery. -/
def calling? (w : World) : Move → Option Calling
  | .runNext n =>
    match w.sites[n]? with
    | none => none
    | some site =>
      match site.queue.waiting with
      | .delivery delivery :: _ =>
        (site.registry.lookup delivery.event.target delivery.domain).map fun entry =>
          ⟨site.app, entry, delivery⟩
      | _ => none
  | _ => none

/-- What has to hold for a call: a site, its oldest task, and the entry of the target. -/
theorem exists_of_calling? {calling : Calling} (h : w.calling? move = some calling) :
    ∃ n site rest, move = .runNext n ∧ w.sites[n]? = some site ∧
      site.queue.waiting = .delivery calling.delivery :: rest ∧ site.app = calling.app ∧
      site.registry.lookup calling.delivery.event.target calling.delivery.domain =
        some calling.entry := by
  cases move with
  | runNext n =>
    cases hsite : w.sites[n]? with
    | none =>
      simp only [calling?, hsite] at h
      cases h
    | some site =>
      simp only [calling?, hsite] at h
      -- Only a delivery that is next can be the call.
      split at h
      next delivery rest hwaiting =>
        rcases Option.map_eq_some_iff.1 h with ⟨entry, hentry, rfl⟩
        exact ⟨n, site, rest, rfl, hsite, hwaiting, rfl, hentry⟩
      next => cases h
  | _ => cases h

/-- A move with a call takes the task and calls the listener of the port with the message of the
delivery. -/
theorem next_of_calling? {calling : Calling} (h : w.calling? move = some calling) :
    ∃ n queue, move = .runNext n ∧
      w.next move = ((noteHearing calling.entry.listener calling.delivery.event.inbound).run
        ((queuePart n).set queue w)).state := by
  rcases exists_of_calling? h with ⟨n, site, rest, rfl, hsite, hwaiting, -, hentry⟩
  let queue : TaskQueue Task := { site.queue with waiting := rest }
  refine ⟨n, queue, rfl, ?_⟩
  let w₁ := (queuePart n).set queue w
  have hnext : ((queuePart n).get w).next? = some (.delivery calling.delivery, queue) := by
    rw [queuePart_get hsite]
    unfold TaskQueue.next?
    rw [hwaiting]
  have hlistener : calling.delivery.listener? ((registryPart n).get w₁) =
      some calling.entry.listener := by
    unfold Delivery.listener?
    rw [registryPart_get_setQueue hsite, hentry]
    rfl
  have hstart : ((startTask n (.delivery calling.delivery)).run w₁).state =
      ((noteHearing calling.entry.listener calling.delivery.event.inbound).run w₁).state := by
    show ((calling.delivery.run ((registryPart n).get w₁) noteHearing).run w₁).state = _
    unfold Delivery.run
    rw [hlistener]
  have hstate : w.next (.runNext n) = ((startTask n (.delivery calling.delivery)).run w₁).state :=
    next_runNext_some hnext
  rw [hstate]
  exact hstart

/-- A task that runs without a call leaves the listeners alone. -/
theorem behaviours_of_calling?_eq_none (h : w.calling? (.runNext n) = none) :
    (w.next (.runNext n)).behaviours = w.behaviours := by
  cases hnext : ((queuePart n).get w).next? with
  | none => rw [next_runNext_none hnext]
  | some found =>
    rcases found with ⟨task, queue⟩
    rw [next_runNext_some hnext]
    cases task with
    | mark tag => rfl
    | delivery delivery =>
      let w₁ := (queuePart n).set queue w
      have hwaiting : ((queuePart n).get w).waiting = .delivery delivery :: queue.waiting :=
        TaskQueue.waiting_next? hnext
      -- There is no listener to call, or there would be a call.
      have hlistener : delivery.listener? ((registryPart n).get w₁) = none := by
        cases hsite : w.sites[n]? with
        | none =>
          rw [queuePart_get_of_none hsite] at hwaiting
          cases hwaiting
        | some site =>
          rw [queuePart_get hsite] at hwaiting
          simp only [calling?, hsite, hwaiting] at h
          unfold Delivery.listener?
          rw [registryPart_get_setQueue hsite, Option.map_eq_none_iff.1 h]
          rfl
      show ((delivery.run ((registryPart n).get w₁) noteHearing).run w₁).state.behaviours = _
      unfold Delivery.run
      rw [hlistener]
      rfl

/-! ## Where tasks come from -/

/-- The positions, in a run, of the moves that posted the tasks which wait at a site, for the oldest task
first.  A task that comes in is noted with the position of the move; tasks that go out are the oldest
ones. -/
def origins (n : Nat) (w : World) (position : Nat) (posted : List Nat) : List Move → List Nat
  | [] => posted
  | move :: rest =>
    let before := (w.waitingAt n).length
    let after := ((w.next move).waitingAt n).length
    origins n (w.next move) (position + 1)
      (if before < after then posted ++ [position] else posted.drop (before - after)) rest

/-- The move at a position of a run posted a task at a site. -/
structure PostedAt (start : World) (run : List Move) (n i : Nat) (task : Task) (move : Move) :
    Prop where
  position : run[i]? = some move
  queue : ((start.after (run.take i)).next move).waitingAt n =
    (start.after (run.take i)).waitingAt n ++ [task]
  posts : Posts (start.after (run.take i)) move n task

/-- Each task that waits at a site has its origin. -/
def Traced (start : World) (run : List Move) (n : Nat) (posted : List Nat) : Prop :=
  List.Forall₂ (fun i task => ∃ move, PostedAt start run n i task move) posted
    ((start.after run).waitingAt n)

theorem PostedAt.append {run : List Move} {i : Nat} {task : Task}
    (h : PostedAt start run n i task move) (more : List Move) :
    PostedAt start (run ++ more) n i task move := by
  have hlt : i < run.length := (List.getElem?_eq_some_iff.1 h.position).1
  have htake : (run ++ more).take i = run.take i :=
    List.take_append_of_le_length (Nat.le_of_lt hlt)
  refine ⟨?_, ?_, ?_⟩
  · rw [List.getElem?_append_left hlt]
    exact h.position
  · rw [htake]
    exact h.queue
  · rw [htake]
    exact h.posts

/-- A move posts one task at the end, or tasks go from the front. -/
theorem waitingAt_next (w : World) (move : Move) (n : Nat) :
    (∃ task, (w.next move).waitingAt n = w.waitingAt n ++ [task] ∧ Posts w move n task) ∨
      ((w.next move).waitingAt n).length ≤ (w.waitingAt n).length ∧
        (w.next move).waitingAt n =
          (w.waitingAt n).drop ((w.waitingAt n).length - ((w.next move).waitingAt n).length) := by
  -- Where a queue stays or is emptied, tasks only go, and they go from the front.
  have hleft : (w.next move).waitingAt n = w.waitingAt n ∨ (w.next move).waitingAt n = [] →
      ((w.next move).waitingAt n).length ≤ (w.waitingAt n).length ∧
        (w.next move).waitingAt n =
          (w.waitingAt n).drop ((w.waitingAt n).length - ((w.next move).waitingAt n).length) := by
    rintro (hsame | hnil)
    · simp [hsame]
    · simp [hnil]
  cases next_deed w move with
  | kept _ _ hqueued =>
    cases hqueued with
    | left hwaiting => exact .inr (hleft (hwaiting n))
    | @posted m task hself hother hposts =>
      by_cases hn : n = m
      · subst hn
        exact .inl ⟨task, hself, hposts⟩
      · exact .inr (hleft (.inl (hother n hn)))
    | @took m task hself hother =>
      by_cases hn : n = m
      · subst hn
        refine .inr ?_
        rw [hself]
        simp
      · exact .inr (hleft (.inl (hother n hn)))
  | scripted _ _ _ hmodified =>
    refine .inr (hleft (.inl ?_))
    rw [hmodified]
    rfl
  | @changed name handle m place registry' w₁ w₂ _ _ _ _ hquiet hchanged hset =>
    have hturned := hchanged.turned hquiet m
    rw [← hset] at hturned
    exact .inr (hleft (.inl (hturned.waiting n)))
  | connected _ _ _ _ _ _ hwaiting => exact .inr (hleft (hwaiting n))

/-- One move keeps the origins of the tasks right. -/
theorem Traced.next {run : List Move} {posted : List Nat} (h : Traced start run n posted)
    (move : Move) :
    let before := ((start.after run).waitingAt n).length
    let after := (((start.after run).next move).waitingAt n).length
    Traced start (run ++ [move]) n
      (if before < after then posted ++ [run.length] else posted.drop (before - after)) := by
  intro before after
  let w := start.after run
  have hafter : start.after (run ++ [move]) = w.next move := after_append start run [move]
  -- What was traced before is traced still, in the longer run.
  have hold : List.Forall₂ (fun i task => ∃ m, PostedAt start (run ++ [move]) n i task m) posted
      (w.waitingAt n) := h.imp fun i task ⟨m, hm⟩ => ⟨m, hm.append [move]⟩
  unfold Traced
  rw [hafter]
  rcases waitingAt_next w move n with ⟨task, hwaiting, hposts⟩ | ⟨hle, hwaiting⟩
  · -- A post makes the queue longer, and that is how `origins` sees it.
    have hlonger : before < after := by
      have hlength : after = before + 1 := by
        show ((w.next move).waitingAt n).length = _
        rw [hwaiting, List.length_append]
        rfl
      omega
    have htake : (run ++ [move]).take run.length = run := List.take_left
    have hposted : PostedAt start (run ++ [move]) n run.length task move := by
      refine ⟨List.getElem?_concat_length, ?_, ?_⟩
      · rw [htake]
        exact hwaiting
      · rw [htake]
        exact hposts
    rw [if_pos hlonger, hwaiting]
    exact List.rel_append hold (.cons ⟨move, hposted⟩ .nil)
  · rw [if_neg (Nat.not_lt.2 hle), hwaiting]
    exact List.forall₂_drop (before - after) hold

/-- Over a whole run the origins are right for every task that waits. -/
theorem traced_origins (start : World) (n : Nat) (moves : List Move) {run : List Move}
    {posted : List Nat} (h : Traced start run n posted) :
    Traced start (run ++ moves) n (origins n (start.after run) run.length posted moves) := by
  induction moves generalizing run posted with
  | nil =>
    rw [List.append_nil]
    exact h
  | cons move rest ih =>
    have hnext := ih (h.next move)
    rw [List.append_assoc, List.length_append, after_append] at hnext
    exact hnext

/-- In a run from an initial world the oldest task of a site goes back to the move that `origins` tells. -/
theorem exists_origin (start : World) (moves : List Move) {task : Task} {rest : List Task}
    (hwaiting : (start.after moves).waitingAt n = task :: rest)
    (hstart : start.waitingAt n = []) :
    ∃ i posting, (origins n start 0 [] moves).head? = some i ∧
      PostedAt start moves n i task posting := by
  have hnone : Traced start [] n [] := by
    unfold Traced
    rw [after_nil, hstart]
    exact .nil
  have htraced : List.Forall₂ _ (origins n start 0 [] moves) _ := traced_origins start n moves hnone
  rw [List.nil_append, hwaiting] at htraced
  rcases List.forall₂_cons_right_iff.1 htraced with ⟨i, tail, ⟨posting, hposted⟩, -, horigins⟩
  exact ⟨i, posting, by rw [horigins]; rfl, hposted⟩

/-! ## Trust -/

/-- The account of ids at a time tells that a delivery was posted for the application and the domain to
which it was sent. -/
theorem domain_eq_of_routes (h : Sound minted w) (hfiled : w.Filed minted) {sending : Sending}
    {event : DeliveryEvent} {d : TrustDomain} {place : Place}
    (hroutes : w.service.Routes sending.sender sending.remote sending.domain move.reply? (.router n)
      event)
    (hplace : w.places[n]? = some place)
    (hdomain : place.registry.domainOf? event.target = some d) :
    place.app = sending.remote.app ∧ d = sending.domain := by
  -- The same id was minted for what the sender asked for and for what the receiver has.
  have hsender : keyOf? minted event.target =
      some ⟨sending.remote.app, sending.domain, sending.remote.port⟩ :=
    h.minted.key_of_boundId? hroutes.bound
  have hactive : (place.registry.lookup event.target d).isSome :=
    (h.registries n place hplace).domainOf?_eq_some_iff.1 hdomain
  rcases Option.isSome_iff_exists.1 hactive with ⟨entry, hentry⟩
  have hreceiver : keyOf? minted event.target = some ⟨place.app, d, entry.name⟩ :=
    hfiled n place hplace d event.target entry hentry
  have hkey : PortKey.mk place.app d entry.name =
      ⟨sending.remote.app, sending.domain, sending.remote.port⟩ :=
    Option.some.inj (hreceiver.symm.trans hsender)
  exact ⟨congrArg PortKey.app hkey, congrArg PortKey.domain hkey⟩

/-- In every run over honest transports in which fewer than 2³¹ ids are minted, each call of a listener
goes back to the move that posted its task.  Either that move handed the delivery straight to the
router; or it was a send of the application that the message names, to the application of the listener,
in the domain in which the listener is registered, and if that is the trusted domain, then the two
applications had one certificate at that moment. -/
theorem trust_isolation_over_runs (maxPayloadBytes : Nat) (moves : List Move)
    (hscripts : ∀ move ∈ moves, ∀ name, move.binder? ≠ some (name, .script))
    (hfew : (initial maxPayloadBytes).freshBindings moves < 2 ^ 31) (move : Move)
    (calling : Calling)
    (hcalling : ((initial maxPayloadBytes).after moves).calling? move = some calling) :
    ∃ n i posting, move = .runNext n ∧
      (origins n (initial maxPayloadBytes) 0 [] moves).head? = some i ∧ moves[i]? = some posting ∧
      let sent := (initial maxPayloadBytes).after (moves.take i)
      (sent.next posting).waitingAt n = sent.waitingAt n ++ [.delivery calling.delivery] ∧
      ((∃ event, posting.injected? = some event) ∨
        ∃ sending, sent.sending? posting = some sending ∧
          sending.sender = calling.delivery.event.inbound.remoteApp ∧
          sending.remote.app = calling.app ∧ sending.domain = calling.entry.domain ∧
          (calling.entry.domain = .trusted → ∃ certificate,
            sent.service.certificate? sending.sender = some certificate ∧
            sent.service.certificate? calling.app = some certificate)) := by
  let start := initial maxPayloadBytes
  rcases exists_of_calling? hcalling with ⟨n, site, rest, rfl, hsite, hwaiting, happ, hentry⟩
  -- The oldest task has its origin.
  have hnone : Traced start [] n [] := .nil
  have htraced : Traced start moves n (origins n start 0 [] moves) :=
    traced_origins start n moves hnone
  have hqueue : (start.after moves).waitingAt n = .delivery calling.delivery :: rest := by
    rw [waitingAt_eq, hsite]
    exact hwaiting
  unfold Traced at htraced
  rw [hqueue] at htraced
  rcases List.forall₂_cons_right_iff.1 htraced with ⟨i, tail, ⟨posting, hposted⟩, -, horigins⟩
  refine ⟨n, i, posting, rfl, ?_, hposted.position, hposted.queue, ?_⟩
  · rw [horigins]
    rfl
  -- The invariants at the moment of the send and at the moment of the call.
  have hsplit : start.freshBindings moves = start.freshBindings (moves.take i) +
      (start.after (moves.take i)).freshBindings (moves.drop i) := by
    rw [← freshBindings_append, List.take_append_drop]
  have hend : start.after moves = (start.after (moves.take i)).after (moves.drop i) := by
    rw [← after_append, List.take_append_drop]
  have hroom : ([] : List PortKey).length + start.freshBindings moves < 2 ^ 31 := by
    rw [List.length_nil, Nat.zero_add]
    exact hfew
  have hroom' : ([] : List PortKey).length + start.freshBindings (moves.take i) < 2 ^ 31 := by
    omega
  have hhonest : start.Honest := fun name handle h => nomatch h
  have hfiled : start.Filed [] := fun n place h => nomatch h
  rcases filed_after (moves.take i) (fun m hm => hscripts m (List.mem_of_mem_take hm))
    (sound_initial maxPayloadBytes) hhonest hfiled hroom' with ⟨minted, -, hsent, -, hsentFiled⟩
  rcases sound_after maxPayloadBytes moves hfew with ⟨account, -, hnow⟩
  -- The entry of the call is in order, so it carries the domain of its table.
  have hdomain : calling.entry.domain = calling.delivery.domain := by
    have hplace : (start.after moves).places[n]? = some site.place := places_of_site hsite
    exact ((hnow.registries n site.place hplace).own hentry).2.1
  -- The three reasons for a post: a mark is no delivery, the others are the two cases.
  generalize htask : Task.delivery calling.delivery = task at hposted
  cases hposted.posts with
  | mark tag => cases htask
  | @injected event d hinjected => exact .inl ⟨event, hinjected⟩
  | @sent sending event d place hsending hroutes hplace hactive =>
    have hdelivery : calling.delivery = ⟨d, event⟩ := Task.delivery.inj htask
    rcases domain_eq_of_routes hsent hsentFiled hroutes hplace hactive with ⟨hreceiver, hd⟩
    have hcallingApp : calling.app = sending.remote.app := by
      -- A site keeps its application from the send to the call.
      have hseat : (start.after (moves.take i)).appAt? n = some place.app := by
        unfold appAt?
        rw [hplace]
        rfl
      have hlater := appAt?_after (moves.drop i) hseat
      rw [← hend] at hlater
      unfold appAt? at hlater
      rw [places_getElem?, hsite] at hlater
      have hsame : site.app = place.app := Option.some.inj hlater
      rw [← happ, hsame, hreceiver]
    have hentryDomain : calling.entry.domain = sending.domain := by
      rw [hdomain, hdelivery]
      exact hd
    refine .inr ⟨sending, hsending, ?_, hcallingApp.symm, hentryDomain.symm, ?_⟩
    · rw [hdelivery]
      exact hroutes.sender.symm
    · intro htrusted
      rw [hcallingApp]
      exact hroutes.certificates (hentryDomain.symm.trans htrusted)

/-- A trusted message from one application to another of the same certificate, up to its call. -/
def trustedExchange : List Move :=
  [.connect "alice" "app.a" "certificate" .defaults .threaded true,
   .connect "bob" "app.b" "certificate" .defaults .threaded true,
   .act none (.onMessenger "bob" (.register "inbox" true false (.fresh "listener" none [] 0))),
   .act none (.onMessenger "alice" (.send ⟨"app.b", "inbox"⟩ true false .empty))]

theorem trust_isolation_of_trustedExchange :
    ∃ calling posting sending certificate,
      ((initial 100).after trustedExchange).calling? (.runNext 1) = some calling ∧
      trustedExchange[3]? = some posting ∧
      let sent := (initial 100).after (trustedExchange.take 3)
      sent.sending? posting = some sending ∧
        sending.sender = calling.delivery.event.inbound.remoteApp ∧
        sending.remote.app = calling.app ∧ sending.domain = calling.entry.domain ∧
        sent.service.certificate? sending.sender = some certificate ∧
        sent.service.certificate? calling.app = some certificate := by
  let calling : Calling :=
    ⟨"app.b", ⟨⟨1⟩, "inbox", .trusted, .oneWay 0, .active⟩, ⟨.trusted, .oneWay ⟨1⟩ "app.a" .empty⟩⟩
  have hcalling : ((initial 100).after trustedExchange).calling? (.runNext 1) = some calling := by
    decide
  have hscripts : ∀ move ∈ trustedExchange, ∀ name, move.binder? ≠ some (name, .script) := by
    intro move hmove name
    simp only [trustedExchange, List.mem_cons, List.not_mem_nil, or_false] at hmove
    rcases hmove with rfl | rfl | rfl | rfl
    · nofun
    · nofun
    · intro h
      cases h
    · nofun
  have hfew : (initial 100).freshBindings trustedExchange < 2 ^ 31 := by decide
  have horigins : origins 1 (initial 100) 0 [] trustedExchange = [3] := by decide
  rcases trust_isolation_over_runs 100 trustedExchange hscripts hfew (.runNext 1) calling hcalling
    with ⟨n, i, posting, hmove, horigin, hposting, -, hreason⟩
  cases hmove
  rw [horigins] at horigin
  cases horigin
  cases hposting
  rcases hreason with ⟨event, hinjected⟩ | ⟨sending, hsending, hsender, happ, hdomain, htrusted⟩
  · cases hinjected
  · rcases htrusted rfl with ⟨certificate, hown, htarget⟩
    exact ⟨calling, _, sending, certificate, hcalling, rfl, hsending, hsender, happ, hdomain, hown,
      htarget⟩

end World
end Scenario
end PortMessaging
