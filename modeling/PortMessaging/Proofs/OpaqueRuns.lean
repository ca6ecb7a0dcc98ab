import PortMessaging.Proofs.Moves
import PortMessaging.Proofs.OpaqueScenarios

/-!
# OpaqueRuns — payloads are opaque in all runs

A run is a sequence of operations on a world (`Operation`): steps of a scenario with all that follows from
them, or single moves, which leave it open what a listener does when it is called.  Each operation shows an
answer.  Whoever chooses the operations (`Session.conducted`) knows the answers so far; so an operator is
all applications and all listeners together, whatever they do.

Two runs are compared, with operators that do the same as far as the payloads are concerned: after answers
that differ in alike payloads only they choose operations that differ in alike payloads only.  To send back
a payload that was received is such a thing, to send something else because of what is in it is not.  What
can be seen of the two runs then differs in alike payloads only.

The proof exchanges all payloads of the two runs for representatives of those that are alike.  By
`World.answerTo_mapPayload` that makes one run of them.
-/

namespace PortMessaging
namespace Scenario

open Effect

variable {f : Payload → Payload} {keys : Bool}

/-! ## Operations -/

/-- The settings with which a move connects a messenger. -/
def Move.config? : Move → Option Config
  | .connect _ _ _ config _ _ => some config
  | _ => none

def Move.mapPayload (f : Payload → Payload) : Move → Move
  | .act message? action => .act (message?.map (InboundMessage.mapPayload f)) (action.mapPayload f)
  | move => move

/-- What is done in a run: a step, with all that its tasks and their listeners do, or a single move. -/
inductive Operation where
  | step (step : Step)
  | move (move : Move)

namespace Operation

def config? : Operation → Option Config
  | step s => s.config?
  | move m => m.config?

def mapPayload (f : Payload → Payload) : Operation → Operation
  | step s => step (s.mapPayload f)
  | move m => move (m.mapPayload f)

end Operation

namespace World

/-- Makes a move and tells what it came to. -/
def makeMove : Move → Effect World Reply
  | .beginStep => do
    Effect.modifyState ({ · with calls := [], receipts := [] })
    return .nothing
  | .connect name app certificate config kind attach =>
    connect name app certificate config kind attach
  | .connectEndpoint name app certificate => connectEndpoint name app certificate
  | .act message? action => perform message? action
  | .runNext n => do return .flag (← MainLoop.runNext ⟨queuePart n, startTask n⟩)
  | .closeLoop name => do
    Effect.modifyState (·.dropLoop name)
    return .nothing
  | .noteReplies position replies => do
    Effect.modifyState (·.setReplies position replies)
    return .nothing

theorem state_makeMove (w : World) (move : Move) : ((makeMove move).run w).state = w.next move := by
  cases move with
  | runNext n => exact state_bind_silent _ (fun _ => silent_pure _) w
  | _ => rfl

def operate : Operation → Effect World Reply
  | .step s => do
    Effect.modifyState ({ · with calls := [], receipts := [] })
    step s
  | .move move => makeMove move

/-- What an operation shows, and the world that it leaves. -/
def answerTo (w : World) (operation : Operation) : Answer × World :=
  let out := (operate operation).run w
  (⟨.ofFault out.result, out.state.calls, out.state.receipts, out.log⟩, out.state)

theorem answerTo_step (w : World) (s : Step) : w.answerTo (.step s) = playStep w s := rfl

end World

namespace World

theorem commutes_makeMove (hf : ∀ p, Payload.Alike keys (f p) p) (move : Move)
    (hconfig : ∀ config, move.config? = some config → config.logPayloadKeys = true → keys = true) :
    Commutes (masking keys f) id (makeMove move) (makeMove (move.mapPayload f)) := by
  cases move with
  | beginStep => exact (commutes_modifyState keeps_beginStep).bind_pure fun _ => rfl
  | connect name app certificate config kind attach =>
    exact blind_connectSite name app certificate config kind attach (hconfig config rfl)
  | connectEndpoint name app certificate => exact blind_connectEndpoint name app certificate
  | act message? action => exact commutes_perform hf message? action
  | runNext n => exact (blind_runNext n (commutes_startTask n)).bind_pure _
  | closeLoop name => exact (commutes_modifyState (keeps_dropLoop name)).bind_pure fun _ => rfl
  | noteReplies position replies =>
    exact (commutes_modifyState (keeps_setReplies position replies)).bind_pure fun _ => rfl

/-- An operation shows with alike payloads what it shows with the first ones. -/
theorem answerTo_mapPayload (hf : ∀ p, Payload.Alike keys (f p) p) {w : World}
    (hw : w.Discreet keys) (operation : Operation)
    (hconfig : ∀ config, operation.config? = some config → config.logPayloadKeys = true →
      keys = true) :
    (w.mapPayload f).answerTo (operation.mapPayload f) =
        ((w.answerTo operation).1.mapPayload f, (w.answerTo operation).2.mapPayload f) ∧
      (w.answerTo operation).2.Discreet keys := by
  have hoperate : Commutes (masking keys f) id (operate operation)
      (operate (operation.mapPayload f)) := by
    cases operation with
    | step s => exact (commutes_modifyState keeps_beginStep).bind fun _ => commutes_step hf s hconfig
    | move move => exact commutes_makeMove hf move hconfig
  obtain ⟨hrun, hdiscreet⟩ := hoperate w hw
  refine ⟨?_, hdiscreet⟩
  have hfirst : (operate (operation.mapPayload f)).run (w.mapPayload f) = _ := hrun
  have hresult : ((operate operation).run w).result.map id = ((operate operation).run w).result := by
    cases ((operate operation).run w).result <;> rfl
  simp only [answerTo, hfirst, hresult]
  rfl

theorem discreet_initial (maxPayloadBytes : Nat) : (initial maxPayloadBytes).Discreet keys := nofun

end World

/-! ## Sessions -/

/-- A run as far as it has come: the answers so far, the oldest first, and the world. -/
structure Session where
  answers : List Answer
  world : World

namespace Session

def fresh (maxPayloadBytes : Nat) : Session := ⟨[], .initial maxPayloadBytes⟩

def goOn (s : Session) (operation : Operation) : Session :=
  ⟨s.answers ++ [(s.world.answerTo operation).1], (s.world.answerTo operation).2⟩

/-- The session after a number of operations.  The operator chooses each of them by the answers that came
before, so it stands for the applications and for their listeners alike. -/
def conducted (operator : List Answer → Operation) (maxPayloadBytes : Nat) : Nat → Session
  | 0 => fresh maxPayloadBytes
  | n + 1 =>
    let s := conducted operator maxPayloadBytes n
    s.goOn (operator s.answers)

def mapPayload (f : Payload → Payload) (s : Session) : Session :=
  ⟨s.answers.map (Answer.mapPayload f), s.world.mapPayload f⟩

theorem goOn_mapPayload (hf : ∀ p, Payload.Alike keys (f p) p) {s : Session}
    (hs : s.world.Discreet keys) (operation : Operation)
    (hconfig : ∀ config, operation.config? = some config → config.logPayloadKeys = true →
      keys = true) :
    (s.mapPayload f).goOn (operation.mapPayload f) = (s.goOn operation).mapPayload f ∧
      (s.goOn operation).world.Discreet keys := by
  obtain ⟨hanswer, hdiscreet⟩ := World.answerTo_mapPayload hf hs operation hconfig
  refine ⟨?_, hdiscreet⟩
  unfold goOn mapPayload
  simp only [hanswer, List.map_append, List.map_cons, List.map_nil]

end Session

/-! ## Operators that cannot tell payloads apart -/

/-- Two operations that differ in alike payloads only: every view of payloads that shows no more than these
have in common shows the same operation. -/
def Operation.Alike (keys : Bool) (a b : Operation) : Prop :=
  ∀ view, Payload.Blurs keys view → a.mapPayload view = b.mapPayload view

/-- Two sequences of answers that differ in alike payloads only. -/
def AnswersAlike (keys : Bool) (answers answers' : List Answer) : Prop :=
  ∀ view, Payload.Blurs keys view →
    answers.map (Answer.mapPayload view) = answers'.map (Answer.mapPayload view)

theorem Answer.mapPayload_representative {view : Payload → Payload} (h : Payload.Blurs keys view)
    (answer : Answer) :
    (answer.mapPayload (Payload.representative keys)).mapPayload view = answer.mapPayload view := by
  have hcall : ∀ call : Call,
      (call.mapPayload (Payload.representative keys)).mapPayload view = call.mapPayload view := by
    intro call
    cases call <;> simp [Call.mapPayload, h.representative]
  have hreceipt : ∀ receipt : Receipt,
      (receipt.mapPayload (Payload.representative keys)).mapPayload view = receipt.mapPayload view := by
    intro receipt
    cases receipt <;>
      simp [Receipt.mapPayload, InboundMessage.mapPayload, DeliveryEvent.mapPayload, h.representative]
  unfold Answer.mapPayload
  simp [hcall, hreceipt]

/-- Answers are alike if they are equal with representatives in the place of their payloads. -/
theorem answersAlike_of_representative {answers answers' : List Answer}
    (h : answers.map (Answer.mapPayload (Payload.representative keys)) =
      answers'.map (Answer.mapPayload (Payload.representative keys))) :
    AnswersAlike keys answers answers' := by
  intro view hview
  have hmap := congrArg (List.map (Answer.mapPayload view)) h
  rw [List.map_map, List.map_map] at hmap
  have hcomp : Answer.mapPayload view ∘ Answer.mapPayload (Payload.representative keys) =
      Answer.mapPayload view := funext (Answer.mapPayload_representative hview)
  rwa [hcomp] at hmap

/-- Alike operations connect messengers with the same settings. -/
theorem Operation.Alike.config? {a b : Operation} (h : a.Alike keys b) : a.config? = b.config? := by
  have hview := h (Payload.representative keys) (Payload.representative_blurs keys)
  have hconfig : ∀ o : Operation,
      (o.mapPayload (Payload.representative keys)).config? = o.config? := by
    intro o
    cases o with
    | step s => cases s <;> rfl
    | move m => cases m <;> rfl
  rw [← hconfig a, hview, hconfig b]

/-! ## Scenarios that are played -/

/-- The operator that takes steps from a list, and does nothing when they are all taken. -/
def Operation.nextOf (steps : List Step) (answers : List Answer) : Operation :=
  match steps[answers.length]? with
  | some s => .step s
  | none => .move .beginStep

/-- Steps that differ in alike payloads only make operators that do. -/
theorem nextOf_alike {steps steps' : List Step} {answers answers' : List Answer}
    (hsteps : List.Forall₂ (fun s s' => Operation.Alike keys (.step s) (.step s')) steps steps')
    (hanswers : AnswersAlike keys answers answers') :
    (Operation.nextOf steps answers).Alike keys (Operation.nextOf steps' answers') := by
  have hlength : answers.length = answers'.length := by
    have hmap := congrArg List.length (hanswers (fun _ => .empty) fun _ _ _ => rfl)
    simpa only [List.length_map] using hmap
  unfold Operation.nextOf
  rw [hlength]
  generalize answers'.length = n
  induction hsteps generalizing n with
  | nil => exact fun _ _ => rfl
  | cons hstep _ ih =>
    cases n with
    | zero => exact hstep
    | succ n => exact ih n

theorem config?_nextOf {steps : List Step} {answers : List Answer} {config : Config}
    (h : (Operation.nextOf steps answers).config? = some config) :
    ∃ s ∈ steps, s.config? = some config := by
  unfold Operation.nextOf at h
  cases hstep : steps[answers.length]? with
  | none =>
    rw [hstep] at h
    cases h
  | some s =>
    rw [hstep] at h
    exact ⟨s, List.mem_of_getElem? hstep, h⟩

theorem length_answers_conducted (operator : List Answer → Operation) (maxPayloadBytes n : Nat) :
    (Session.conducted operator maxPayloadBytes n).answers.length = n := by
  induction n with
  | zero => rfl
  | succ n ih => exact (List.length_append ..).trans (congrArg (· + 1) ih)

/-- A scenario that is played goes on from any of its steps like the session that has come there. -/
theorem play_from_conducted (maxPayloadBytes : Nat) (steps : List Step) {n : Nat}
    (hn : n ≤ steps.length) :
    let s := Session.conducted (Operation.nextOf steps) maxPayloadBytes n
    play maxPayloadBytes steps = ⟨s.answers ++ (playFrom s.world (steps.drop n)).answers,
      (playFrom s.world (steps.drop n)).final⟩ := by
  induction n with
  | zero => rfl
  | succ n ih =>
    intro s
    have hlt : n < steps.length := hn
    let before := Session.conducted (Operation.nextOf steps) maxPayloadBytes n
    have hnext : Operation.nextOf steps before.answers = .step steps[n] := by
      have hlength : before.answers.length = n := length_answers_conducted _ _ n
      unfold Operation.nextOf
      rw [hlength, List.getElem?_eq_getElem hlt]
    have hs : s = before.goOn (.step steps[n]) := congrArg before.goOn hnext
    have hplay := ih (Nat.le_of_lt hlt)
    rw [List.drop_eq_getElem_cons hlt] at hplay
    rw [hs]
    refine hplay.trans ?_
    show Transcript.mk (before.answers ++ _ :: _) _ = Transcript.mk ((before.answers ++ [_]) ++ _) _
    rw [List.append_assoc]
    rfl

/-- To play a scenario is to conduct a session with its steps. -/
theorem play_eq_conducted (maxPayloadBytes : Nat) (steps : List Step) :
    let s := Session.conducted (Operation.nextOf steps) maxPayloadBytes steps.length
    play maxPayloadBytes steps = ⟨s.answers, s.world.snapshot⟩ := by
  intro s
  have hplay := play_from_conducted maxPayloadBytes steps (Nat.le_refl _)
  rw [List.drop_length] at hplay
  exact hplay.trans (congrArg (Transcript.mk · s.world.snapshot) (List.append_nil s.answers))

section Operators

variable {operator operator' : List Answer → Operation}

/-- Operators that do alike things after alike answers keep two sessions equal up to alike payloads. -/
theorem conducted_alike (maxPayloadBytes : Nat)
    (halike : ∀ answers answers', AnswersAlike keys answers answers' →
      (operator answers).Alike keys (operator' answers'))
    (hkeys : ∀ n config,
      (operator (Session.conducted operator maxPayloadBytes n).answers).config? = some config →
        config.logPayloadKeys = true → keys = true) (n : Nat) :
    let s := Session.conducted operator maxPayloadBytes n
    let s' := Session.conducted operator' maxPayloadBytes n
    s.mapPayload (Payload.representative keys) = s'.mapPayload (Payload.representative keys) ∧
      s.world.Discreet keys ∧ s'.world.Discreet keys := by
  induction n with
  | zero => exact ⟨rfl, World.discreet_initial _, World.discreet_initial _⟩
  | succ n ih =>
    obtain ⟨hsame, hs, hs'⟩ := ih
    let s := Session.conducted operator maxPayloadBytes n
    let s' := Session.conducted operator' maxPayloadBytes n
    have hoperations := halike s.answers s'.answers
      (answersAlike_of_representative (congrArg Session.answers hsame))
    have hf := Payload.representative_alike keys
    have hnext := Session.goOn_mapPayload hf hs (operator s.answers) (hkeys n)
    have hnext' := Session.goOn_mapPayload hf hs' (operator' s'.answers) fun config hconfig =>
      hkeys n config (hoperations.config?.trans hconfig)
    refine ⟨?_, hnext.2, hnext'.2⟩
    calc
      (s.goOn (operator s.answers)).mapPayload (Payload.representative keys)
        = (s.mapPayload (Payload.representative keys)).goOn
            ((operator s.answers).mapPayload (Payload.representative keys)) := hnext.1.symm
      _ = (s'.mapPayload (Payload.representative keys)).goOn
            ((operator' s'.answers).mapPayload (Payload.representative keys)) :=
        congrArg₂ Session.goOn hsame (hoperations _ (Payload.representative_blurs keys))
      _ = (s'.goOn (operator' s'.answers)).mapPayload (Payload.representative keys) := hnext'.1

/-- Payloads are opaque.  Two operators let applications and listeners act in two runs, and after answers
that differ in alike payloads only they do what differs in alike payloads only.  Then the two runs show the
same results and the same log, call the same listeners with the same messages up to alike payloads, and
leave the service and all registries the same.  Alike are payloads of one encoded length; with `keys` they
have the same keys as well, and only then a messenger may be connected that logs them. -/
theorem payloads_opaque_over_runs (keys : Bool) (maxPayloadBytes : Nat)
    (operator operator' : List Answer → Operation)
    (halike : ∀ answers answers', AnswersAlike keys answers answers' →
      (operator answers).Alike keys (operator' answers'))
    (hkeys : ∀ n config,
      (operator (Session.conducted operator maxPayloadBytes n).answers).config? = some config →
        config.logPayloadKeys = true → keys = true) (n : Nat) :
    let s := Session.conducted operator maxPayloadBytes n
    let s' := Session.conducted operator' maxPayloadBytes n
    s.answers.map (·.reply) = s'.answers.map (·.reply) ∧
      s.answers.map (·.log) = s'.answers.map (·.log) ∧
      AnswersAlike keys s.answers s'.answers ∧
      s.world.service = s'.world.service ∧
      ∀ site, (World.registryPart site).get s.world = (World.registryPart site).get s'.world := by
  intro s s'
  obtain ⟨hsame, -⟩ := conducted_alike maxPayloadBytes halike hkeys n
  have hanswers := congrArg Session.answers hsame
  have hworld : s.world.mapPayload (Payload.representative keys) =
      s'.world.mapPayload (Payload.representative keys) := congrArg Session.world hsame
  have hservice : (s.world.mapPayload (Payload.representative keys)).service =
      (s'.world.mapPayload (Payload.representative keys)).service := congrArg World.service hworld
  have hread : ∀ {α : Type} (read : Answer → α) (hblind : ∀ f a, read (Answer.mapPayload f a) = read a),
      s.answers.map read = s'.answers.map read := by
    intro α read hblind
    have hmap := congrArg (List.map read) hanswers
    simpa only [Session.mapPayload, List.map_map, Function.comp_def, hblind] using hmap
  refine ⟨hread (·.reply) fun _ _ => rfl, hread (·.log) fun _ _ => rfl,
    answersAlike_of_representative hanswers, hservice, fun site => ?_⟩
  have hregistry := congrArg (World.registryPart site).get hworld
  exact (World.mapPayload_registry_get _ site).symm.trans
    (hregistry.trans (World.mapPayload_registry_get _ site))

end Operators

/-- A request with a reply port, and a listener that echoes what it receives. -/
def echoedRequest (payload : Payload) : List Step :=
  [.connect "a" "app.a" "cert" .defaults .threaded true,
    .connect "b" "app.b" "cert" .defaults .threaded true,
    .act (.onMessenger "a" (.register "outbox" false false (.fresh "la" none [] 1))),
    .act (.onMessenger "b" (.register "inbox" false false
      (.fresh "lb" none [.onMessenger "b" (.answer none none)] 1))),
    .act (.onMessenger "a" (.sendWithReply ⟨"app.b", "inbox"⟩ false false payload ⟨1⟩)),
    .runPending "b", .runPending "a"]

def echoedSession (payload : Payload) : Session :=
  .conducted (.nextOf (echoedRequest payload)) 100 7

theorem echoedRequest_alike {p q : Payload} (h : Payload.Alike keys p q) :
    List.Forall₂ (fun s s' => Operation.Alike keys (.step s) (.step s')) (echoedRequest p)
      (echoedRequest q) := by
  have hsame : ∀ s, Operation.Alike keys (.step s) (.step s) := fun _ _ _ => rfl
  refine .cons (hsame _) (.cons (hsame _) (.cons (hsame _) (.cons (hsame _) (.cons ?_
    (.cons (hsame _) (.cons (hsame _) .nil))))))
  intro view hview
  simp only [Operation.mapPayload, Step.mapPayload, Action.mapPayload, MessengerAction.mapPayload,
    hview p q h]

theorem echoedRequest_quiet {payload : Payload} {s : Step} {config : Config}
    (hs : s ∈ echoedRequest payload) (h : s.config? = some config) : config = .defaults := by
  simp only [echoedRequest, List.mem_cons, List.not_mem_nil, or_false] at hs
  rcases hs with rfl | rfl | rfl | rfl | rfl | rfl | rfl <;> cases h <;> rfl

/-- Two payloads with other keys but of one encoded length are requested and echoed. -/
theorem payloads_opaque_in_echoedRequest :
    let p : Payload := .ofList [("hello", .text "x")]
    let q : Payload := .ofList [("x", .text "hello")]
    ((echoedSession p).answers.map (·.reply) = (echoedSession q).answers.map (·.reply) ∧
      (echoedSession p).answers.map (·.log) = (echoedSession q).answers.map (·.log) ∧
      AnswersAlike false (echoedSession p).answers (echoedSession q).answers ∧
      (echoedSession p).world.service = (echoedSession q).world.service ∧
      ∀ site, (World.registryPart site).get (echoedSession p).world =
        (World.registryPart site).get (echoedSession q).world) ∧
    ((echoedSession p).answers.getLast?.map (·.receipts) =
        some [.heard "la" ⟨⟨1⟩, "app.b", none, false, p⟩ none none] ∧
      (echoedSession q).answers.getLast?.map (·.receipts) =
        some [.heard "la" ⟨⟨1⟩, "app.b", none, false, q⟩ none none]) := by
  intro p q
  have halike : Payload.Alike false p q := ⟨by decide +kernel, nofun⟩
  refine ⟨payloads_opaque_over_runs false 100 (Operation.nextOf (echoedRequest p))
    (Operation.nextOf (echoedRequest q)) (fun _ _ => nextOf_alike (echoedRequest_alike halike))
    (fun n config hconfig hlogs => ?_) 7, by decide +kernel, by decide +kernel⟩
  obtain ⟨step, hstep, hsettings⟩ := config?_nextOf hconfig
  rw [echoedRequest_quiet hstep hsettings] at hlogs
  cases hlogs

end Scenario
end PortMessaging
