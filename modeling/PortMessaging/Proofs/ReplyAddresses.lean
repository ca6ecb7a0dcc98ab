import PortMessaging.Proofs.PortLifetimes
import PortMessaging.Proofs.TrustIsolation

/-!
# ReplyAddresses — what a listener is told of the reply port leads back to it

A message with a reply port carries the name of the port and the flag of its domain, not its id.  The
service finds both by the id, at the moment of the send, among the bindings of the sender; they are those
of the port in the sender's registry, as the registry mirrors the bindings.  From then on the name leads to
the id for as long as the port is registered, and after that nothing leads to the id any more.
-/

namespace PortMessaging
namespace Scenario
namespace World

open Loopback (PortKey)

variable {w : World} {move : Move} {minted : List PortKey} {app : String} {n k : Nat}

/-- The message that is posted by a send with a reply port names the port as the registry of the sender has
it. -/
theorem reply_of_posts (h : Sound minted w) (hmirrored : Mirrored w app n) {delivery : Delivery}
    {sending : Sending} {reply : PortId} (hposts : Posts w move k (.delivery delivery))
    (hsending : w.sending? move = some sending) (hsender : sending.sender = app)
    (hreply : move.reply? = some reply) :
    let message := delivery.event.inbound
    message.remoteApp = app ∧
    (message.trustedRemotePort = true ↔ ((w.portsOf app n).lookup reply .trusted).isSome) ∧
    ∃ entry, (w.portsOf app n).lookup reply (.ofTrusted message.trustedRemotePort) = some entry ∧
      message.remotePort = some entry.name := by
  intro message
  cases hposts with
  | injected hinjected =>
    rcases request?_of_sending? hsending with ⟨request, hrequest⟩
    rw [Move.injected?_of_request? hrequest] at hinjected
    cases hinjected
  | sent hsending' hroutes =>
    rw [hsending] at hsending'
    cases hsending'
    subst hsender
    rw [hreply] at hroutes
    rcases hroutes.reply with ⟨found, hreplies, hport, htrusted⟩
    cases hreplies with
    | @port _ binding hbinding =>
      have hname : message.remotePort = some binding.name := hport
      have hflag : message.trustedRemotePort = binding.domain.isTrusted := htrusted
      -- What the service has bound is active in the registry.
      rcases (hmirrored.ports binding.domain binding.name reply).1
        (h.minted.boundId?_of_replyBinding hbinding) with ⟨entry, hlookup, hentry⟩
      rw [hflag, TrustDomain.ofTrusted_isTrusted, hname]
      refine ⟨hroutes.sender, ?_, entry, hlookup, by rw [hentry]⟩
      have hother := (h.portsOf_wellFormed sending.sender n).disjoint hlookup
      cases hdomain : binding.domain with
      | trusted => simp [TrustDomain.isTrusted, ← hdomain, hlookup]
      | openToAll =>
        rw [hdomain] at hother
        simp only [TrustDomain.other] at hother
        simp [TrustDomain.isTrusted, hother]

/-- Let an application with an id leave its bindings to the registry of one site, in a run in which fewer
than 2³¹ ids are minted.  If a listener is called with a message that the application sent with a reply
port, then:

* the message names the application, the name of the port, which is not empty, and by its flag the domain
  of the port, whatever the domain of the send;
* in whatever way the run goes on after the send, as long as the application does not unregister the port,
  every message to that name in that domain, whoever sends it and how, is delivered to the port or refused
  for its size, for a different certificate or because nobody alive takes the deliveries;
* once the application has unregistered the port, no such message is delivered to it. -/
theorem reply_addresses_over_runs (limit : Nat) (moves : List Move) (app : String) (n : Nat)
    (happ : app ≠ "") (hsole : SoleRun app n (initial limit) moves)
    (hfew : (initial limit).freshBindings moves < 2 ^ 31) (move : Move) (calling : Calling)
    (hcalling : ((initial limit).after moves).calling? move = some calling) :
    ∃ k i posting, move = .runNext k ∧
      (origins k (initial limit) 0 [] moves).head? = some i ∧ moves[i]? = some posting ∧
      let sent := (initial limit).after (moves.take i)
      let message := calling.delivery.event.inbound
      let domain := TrustDomain.ofTrusted message.trustedRemotePort
      (sent.next posting).waitingAt k = sent.waitingAt k ++ [.delivery calling.delivery] ∧
      ∀ sending reply, sent.sending? posting = some sending → sending.sender = app →
        posting.reply? = some reply →
        message.remoteApp = app ∧
        (message.trustedRemotePort = true ↔ ((sent.portsOf app n).lookup reply .trusted).isSome) ∧
        ∃ entry, (sent.portsOf app n).lookup reply domain = some entry ∧ entry.name ≠ "" ∧
          message.remotePort = some entry.name ∧
          ∀ later, SoleRun app n (sent.next posting) later →
            (initial limit).freshBindings (moves.take i ++ posting :: later) < 2 ^ 31 →
            let now := (sent.next posting).after later
            let remote : RemoteAddress := ⟨app, entry.name⟩
            now.SendsFollow remote message.trustedRemotePort ∧
            (¬ UnregisteredIn app reply (sent.next posting) later →
              now.service.boundId? app domain entry.name = some reply ∧
                now.Reaches remote domain reply) ∧
            (UnregisteredIn app reply (sent.next posting) later → now.Misses remote domain reply) := by
  rcases exists_of_calling? hcalling with ⟨k, site, rest, rfl, hsite, hwaiting, -⟩
  have hqueue : ((initial limit).after moves).waitingAt k = .delivery calling.delivery :: rest := by
    rw [waitingAt_eq, hsite]
    exact hwaiting
  rcases exists_origin (initial limit) moves hqueue rfl with ⟨i, posting, horigin, hposted⟩
  refine ⟨k, i, posting, rfl, horigin, hposted.position, hposted.queue, ?_⟩
  intro sending reply hsending hsender hreply
  -- The run up to the send, the send, and the rest.
  have hsplit : moves = moves.take i ++ posting :: moves.drop (i + 1) := by
    rcases List.getElem?_eq_some_iff.1 hposted.position with ⟨hlt, hposting⟩
    rw [← hposting, ← List.drop_eq_getElem_cons hlt, List.take_append_drop]
  rw [hsplit, soleRun_append] at hsole
  rcases hsole with ⟨hpast, hmove, -⟩
  have hfew' : (initial limit).freshBindings (moves.take i) < 2 ^ 31 :=
    Nat.lt_of_le_of_lt ((initial limit).freshBindings_le_of_isPrefix (List.take_prefix i moves)) hfew
  rcases sound_after limit (moves.take i) hfew' with ⟨minted, hlength, hsent⟩
  have hmirrored : Mirrored ((initial limit).after (moves.take i)) app n := by
    refine (fresh_initial limit app n).mirrored.after (sound_initial limit) _ hpast ?_
    rw [List.length_nil, Nat.zero_add]
    exact hfew'
  have hposts := hposted.posts
  generalize hw : (initial limit).after (moves.take i) = sent at *
  rcases reply_of_posts hsent hmirrored hposts hsending hsender hreply with
    ⟨happName, htrusted, entry, hlookup, hport⟩
  have hname : entry.name ≠ "" := ((hsent.portsOf_wellFormed app n).own hlookup).2.2.1
  refine ⟨happName, htrusted, entry, hlookup, hname, hport, ?_⟩
  intro later hlater hroom now remote
  have hbound := hmirrored.ports.boundId?_of_lookup hlookup
  rcases sound_after limit (moves.take i ++ posting :: later) hroom with ⟨account, -, hnow⟩
  rw [after_append, hw] at hnow
  rw [freshBindings_append, hw, ← hlength] at hroom
  -- The send itself ends no port.
  have hcons : UnregisteredIn app reply sent (posting :: later) ↔
      UnregisteredIn app reply (sent.next posting) later := by
    refine or_iff_right ?_
    rintro ⟨-, hasked, -⟩
    rcases request?_of_sending? hsending with ⟨request, hrequest⟩
    rw [Move.unregistration?_of_request? hrequest] at hasked
    cases hasked
  rw [← hcons]
  have hremote : remote.validate = .ok () := remote.validate_eq_ok_iff.2 ⟨happ, hname⟩
  exact ⟨hnow.sendsFollow hremote _,
    sends_after hsent hmirrored (posting :: later) ⟨hmove, hlater⟩ hroom hbound hnow⟩

/-- A trusted message with a reply port that is open to all, up to its call. -/
def requestWithReply : List Move :=
  [.connect "alice" "app.a" "certificate" .defaults .threaded true,
   .connect "bob" "app.b" "certificate" .defaults .threaded true,
   .act none (.onMessenger "bob" (.register "inbox" true false (.fresh "listener" none [] 0))),
   .act none (.onMessenger "alice" (.register "outbox" false false (.tagged "listener"))),
   .act none (.onMessenger "alice" (.sendWithReply ⟨"app.b", "inbox"⟩ true false .empty ⟨2⟩))]

/-- The reply port of the request is given up. -/
def unregisterOutbox : Move := .act none (.onMessenger "alice" (.unregister ⟨2⟩ false false))

theorem reply_addresses_of_requestWithReply :
    ∃ calling posting sending entry,
      ((initial 100).after requestWithReply).calling? (.runNext 1) = some calling ∧
      requestWithReply[4]? = some posting ∧
      let sent := (initial 100).after (requestWithReply.take 4)
      let message := calling.delivery.event.inbound
      sent.sending? posting = some sending ∧ sending.sender = "app.a" ∧
        sending.domain = .trusted ∧ posting.reply? = some ⟨2⟩ ∧
        message.remoteApp = "app.a" ∧ message.trustedRemotePort = false ∧
        (sent.portsOf "app.a" 0).lookup ⟨2⟩ .openToAll = some entry ∧
        message.remotePort = some entry.name ∧
        (sent.next posting).Reaches ⟨"app.a", entry.name⟩ .openToAll ⟨2⟩ ∧
        ((sent.next posting).next unregisterOutbox).Misses ⟨"app.a", entry.name⟩ .openToAll ⟨2⟩ := by
  let calling : Calling :=
    ⟨"app.b", ⟨⟨1⟩, "inbox", .trusted, .oneWay 0, .active⟩,
      ⟨.trusted, .withReplyPort ⟨1⟩ "app.a" "outbox" false .empty⟩⟩
  have hcalling : ((initial 100).after requestWithReply).calling? (.runNext 1) = some calling := by
    decide +kernel
  let sites : String → Nat := fun app => if app = "app.a" then 0 else 1
  let alice : Handle := ⟨"app.a", some 0, none, []⟩
  let bob : Handle := ⟨"app.b", some 1, none, []⟩
  have hsites : alice.site = some (sites alice.app) ∧ bob.site = some (sites bob.app) := ⟨rfl, rfl⟩
  have hsole : SoleRun "app.a" (sites "app.a") (initial 100)
      (requestWithReply ++ [unregisterOutbox]) := by
    refine ⟨?_, ?_, ?_, ?_, ?_, ?_, trivial⟩
    · exact soleMove_of_binder?_eq_none rfl _ _ _
    · exact soleMove_of_binder?_eq_none rfl _ _ _
    · exact soleMove_of_registry rfl rfl hsites.2 "app.a"
    · exact soleMove_of_registry rfl rfl hsites.1 "app.a"
    · exact soleMove_of_binder?_eq_none rfl _ _ _
    · exact soleMove_of_registry rfl rfl hsites.1 "app.a"
  rcases (soleRun_append _ requestWithReply [unregisterOutbox]).1 hsole with ⟨hrequest, hlater⟩
  have hfew : (initial 100).freshBindings requestWithReply < 2 ^ 31 := by decide +kernel
  have horigins : origins 1 (initial 100) 0 [] requestWithReply = [4] := by decide +kernel
  rcases reply_addresses_over_runs 100 requestWithReply "app.a" (sites "app.a") (by decide) hrequest
    hfew (.runNext 1) calling hcalling with ⟨k, i, posting, hmove, horigin, hposting, -, hreply⟩
  cases hmove
  rw [horigins] at horigin
  cases horigin
  cases hposting
  let sending : Sending := ⟨"app.a", ⟨"app.b", "inbox"⟩, .trusted⟩
  rcases hreply sending ⟨2⟩ rfl rfl rfl with ⟨happ, -, entry, hentry, -, hport, hfuture⟩
  rcases hfuture [] trivial (by decide +kernel) with ⟨-, hreaches, -⟩
  rcases hfuture [unregisterOutbox] hlater (by decide +kernel) with ⟨-, -, hmisses⟩
  have hunregisters : Unregisters ((initial 100).after requestWithReply) "app.a" ⟨2⟩
      unregisterOutbox := by
    let desk : Desk := ⟨⟨.defaults⟩, 0, tapped "alice" "app.a"⟩
    have hgranted : ((desk.onRegistry (Registry.unregister desk.messenger.translator desk.transport
        ⟨2⟩ .openToAll)).run ((initial 100).after requestWithReply)).result =
          .ok (.ok ⟨⟨2⟩, "outbox", .openToAll, .oneWay 0, .retired⟩) := by decide +kernel
    have hasked : unregisterOutbox.unregistration? = some (⟨2⟩, .openToAll) := rfl
    have hhandle : ((initial 100).after requestWithReply).handles.get? "alice" = some alice := rfl
    have hdesk : ((initial 100).after requestWithReply).deskOf? "alice" alice = some desk := rfl
    exact .granted rfl hasked hhandle rfl hdesk hgranted
  exact ⟨calling, _, sending, entry, hcalling, rfl, rfl, rfl, rfl, rfl, happ, rfl, hentry, hport,
    (hreaches not_false).2, hmisses (.inl hunregisters)⟩

end World
end Scenario
end PortMessaging
