import Llfix.ResentMessages
import Llfix.Server.OtherSessions

/-!
# A retransmission closes the gap

The client has missed messages of the server and has asked for them, and the server's session is to
answer. Its turn sends the messages again or fills the gap, and goes on with new ones behind. The
client reads all of it, with whatever the two applications send meanwhile.

Results:
1. `FixServer.respondToResendRequest_replies`: the answer of a turn.
2. `FixServer.process_replies`: the answer of a `process`, and the new messages behind it.
3. `Pair.resendClosesGap`: over every run behind the answer the two sides stay linked, and when its
   channel is empty the client has nothing left to wait for.
-/

namespace Llfix

open FixSession GuardedRun

namespace FixSession

/-- The answer to a ResendRequest, with the number that its messages report as processed. -/
def answer (s : FixSession) : List (Transmission × UInt32) :=
  if s.willReplay then
    (replayRange s.incomingResendRequestBeginNo s.sequenceStore.outgoingSeqNo).map fun n =>
      (.replay n, s.sequenceStore.incomingSeqNo)
  else
    [(.control s.buildGapFillMessage s.incomingResendRequestBeginNo,
      s.sequenceStore.incomingSeqNo)]

/-- From `s` to `s'` the session sends `ts`, none of them under a number of its own. -/
structure Replies (ts : List (Transmission × UInt32)) (s s' : FixSession) : Prop where
  history : ∃ os, s'.trace = s.trace ++ os ∧ os.filterMap sentMessage = ts ∧
    os.filterMap deliveredMessage = []
  store : s'.sequenceStore = s.sequenceStore
  settings : s'.settings = s.settings
  asks : s'.needsToSendResendRequest = s.needsToSendResendRequest
  commands : s'.adminCommands = s.adminCommands

variable {s s' s'' : FixSession} {ts ts' : List (Transmission × UInt32)}

theorem Replies.refl (s : FixSession) : Replies [] s s :=
  ⟨⟨[], (List.append_nil _).symm, rfl, rfl⟩, rfl, rfl, rfl, rfl⟩

theorem Replies.trans (h : Replies ts s s') (h' : Replies ts' s' s'') :
    Replies (ts ++ ts') s s'' where
  history := by
    obtain ⟨os, htrace, hsent, hdelivered⟩ := h.history
    obtain ⟨os', htrace', hsent', hdelivered'⟩ := h'.history
    refine ⟨os ++ os', by rw [htrace', htrace, List.append_assoc], ?_, ?_⟩
    · rw [List.filterMap_append, hsent, hsent']
    · rw [List.filterMap_append, hdelivered, hdelivered', List.append_nil]
  store := h'.store.trans h.store
  settings := h'.settings.trans h.settings
  asks := h'.asks.trans h.asks
  commands := h'.commands.trans h.commands

/-- A message without a number of its own goes out. -/
theorem Replies.send (s : FixSession) {t : Transmission} (ht : t.incrementOutgoingSeqNo = false)
    (ts : UInt64) :
    Replies [(t, s.sequenceStore.incomingSeqNo)] s
      ((s.record (.sent t s.sequenceStore.incomingSeqNo true)).afterSend t.incrementOutgoingSeqNo
        true ts) := by
  rw [ht]
  have hcore : ((s.record (.sent t s.sequenceStore.incomingSeqNo true)).afterSend false true
      ts).core = s.core := (core_afterSend _ _ _ _).trans (core_record _ _)
  refine ⟨⟨[.sent t s.sequenceStore.incomingSeqNo true], ?_, rfl, rfl⟩, ?_, ?_, ?_, ?_⟩
  · simp
  · simp [afterSend_sequenceStore]
  · exact (congrArg FixSession.settings hcore : _)
  · exact (congrArg FixSession.needsToSendResendRequest hcore : _)
  · exact (congrArg FixSession.adminCommands hcore : _)

/-- Behind the answer the session owes nothing any more. -/
theorem Replies.answered (h : Replies ts s s') (hasks : s.needsToSendResendRequest = false)
    (hcommands : s.adminCommands = []) :
    Replies ts s s'.resendRequestAnswered ∧ s'.resendRequestAnswered.Calm := by
  obtain ⟨os, htrace, hsent, hdelivered⟩ := h.history
  refine ⟨⟨⟨os ++ [.state .loggedOn], ?_, ?_, ?_⟩, h.store, h.settings, h.asks, h.commands⟩,
    ⟨h.asks.trans hasks, rfl, h.commands.trans hcommands⟩, SessionState.noConfusion⟩
  · rw [← List.append_assoc, ← htrace]
    rfl
  · rw [List.filterMap_append, hsent, List.filterMap_cons_none rfl, List.filterMap_nil,
      List.append_nil]
  · rw [List.filterMap_append, hdelivered]
    rfl

end FixSession

/-! ## The answer of a turn -/

/-- What the answer needs of a turn: it neither sends a TestRequest before nor gives up on one, and
what it sends goes out. -/
structure ProcessEnv.Answers (env : ProcessEnv) (s : FixSession) : Prop where
  noTestRequest : s.expectingResponseForOutgoingTestRequest = false →
    s.outgoingTestRequestDue env.testRequestTimestamp = false
  notExpired : s.expectingResponseForOutgoingTestRequest = true →
    s.outgoingTestRequestExpired env.testRequestTimestamp = false
  replays : ∀ n, (env.replaySend n).result = .ok
  gapFill : env.gapFillSend.result = .ok

namespace FixServer

variable {i p : Nat} {srv srv' srv'' : FixServer}

/-- Session `i` sends `ts` over a connection that stays. -/
structure Replies (i : Nat) (ts : List (Transmission × UInt32)) (srv srv' : FixServer) :
    Prop where
  session : FixSession.Replies ts (srv.sessions i) (srv'.sessions i)
  state : (srv'.sessions i).state = (srv.sessions i).state
  connectors : srv'.connectors = srv.connectors
  connected : srv'.connected = srv.connected

theorem sendBytes_replies (hpeer : srv.connectors.getPeerIndex i = some p) {t : Transmission}
    (ht : t.incrementOutgoingSeqNo = false) {o : SendOutcome} (ho : o.result = .ok) :
    Replies i [(t, (srv.sessions i).sequenceStore.incomingSeqNo)] srv (srv.sendBytes i t o) := by
  have hheld : o.result ≠ .connectionLost := by
    rw [ho]
    exact SendResult.noConfusion
  rw [sendBytes_held srv i hpeer t hheld, ho]
  refine ⟨?_, ?_, rfl, rfl⟩
  · rw [modifySession_sessions_self]
    exact .send _ ht o.timestamp
  · rw [modifySession_sessions_self, afterSend_state, record_state]
    rfl

theorem resendMessagesToClient_replies (hpeer : srv.connectors.getPeerIndex i = some p)
    (beginSeqNo endSeqNo : UInt32) {o : UInt32 → SendOutcome} (ho : ∀ n, (o n).result = .ok) :
    Replies i ((replayRange beginSeqNo endSeqNo).map fun n =>
      (.replay n, (srv.sessions i).sequenceStore.incomingSeqNo)) srv
        (srv.resendMessagesToClient i beginSeqNo endSeqNo o) := by
  unfold FixServer.resendMessagesToClient
  induction replayRange beginSeqNo endSeqNo generalizing srv with
  | nil => exact ⟨.refl _, rfl, rfl, rfl⟩
  | cons n ns ih =>
    have hsend : Replies i [(.replay n, (srv.sessions i).sequenceStore.incomingSeqNo)] srv
        (srv.sendBytes i (.replay n) (o n)) := sendBytes_replies hpeer rfl (ho n)
    have hpeer' : (srv.sendBytes i (.replay n) (o n)).connectors.getPeerIndex i = some p :=
      hsend.connectors ▸ hpeer
    have hrest := ih hpeer'
    rw [hsend.session.store] at hrest
    exact ⟨hsend.session.trans hrest.session, hrest.state.trans hsend.state,
      hrest.connectors.trans hsend.connectors, hrest.connected.trans hsend.connected⟩

/-- Session `i` is to answer a ResendRequest, has nothing else to do, and has its connection. -/
structure Owes (i p : Nat) (srv : FixServer) : Prop where
  owes : (srv.sessions i).needsRespondingToIncomingResendRequest = true
  live : isStateLive (srv.sessions i).state = true
  waitsNot : (srv.sessions i).state ≠ .inRetransmissionInitiatedBySelf
  asksNothing : (srv.sessions i).needsToSendResendRequest = false
  commands : (srv.sessions i).adminCommands = []
  holding : srv.Holding i p
  connected : srv.connected p = true

theorem Owes.peer (h : srv.Owes i p) : srv.connectors.getPeerIndex i = some p :=
  (h.holding h.connected).peer

/-- From `srv` to `srv'` session `i` has answered. -/
structure Answered (i p : Nat) (srv srv' : FixServer) : Prop where
  replies : FixSession.Replies (srv.sessions i).answer (srv.sessions i) (srv'.sessions i)
  calm : (srv'.sessions i).Calm
  holding : srv'.Holding i p
  connected : srv'.connected p = true

theorem respondToResendRequest_replies {env : ProcessEnv} (h : srv.Owes i p)
    (henv : env.Answers (srv.sessions i)) :
    Answered i p srv (srv.respondToResendRequestIfNecessary i env) := by
  have hanswered : ∀ srv', Replies i (srv.sessions i).answer srv srv' →
      Answered i p srv (srv'.modifySession i (·.resendRequestAnswered)) := by
    intro srv' hreplies
    obtain ⟨hsession, hcalm⟩ := hreplies.session.answered h.asksNothing h.commands
    refine ⟨?_, ?_, fun _ => (h.holding h.connected).of_connectors ?_ ?_, ?_⟩
    · rw [modifySession_sessions_self]
      exact hsession
    · rw [modifySession_sessions_self]
      exact hcalm
    · rw [modifySession_connectors, hreplies.connectors]
    · rw [modifySession_sessions_self]
      exact SessionState.noConfusion
    · rw [modifySession_connected, hreplies.connected]
      exact h.connected
  unfold respondToResendRequestIfNecessary
  dsimp only
  rw [if_pos h.owes]
  split
  · next hreplay =>
    have hreplies := resendMessagesToClient_replies h.peer
      (srv.sessions i).incomingResendRequestBeginNo (srv.sessions i).sequenceStore.outgoingSeqNo
      henv.replays
    refine hanswered _ ?_
    rw [answer, if_pos hreplay]
    exact hreplies
  · next hreplay =>
    refine hanswered _ ?_
    rw [answer, if_neg hreplay]
    exact sendBytes_replies h.peer rfl henv.gapFill

/-- The turn of the session answers, and sends new messages behind. -/
theorem processTurn_replies {env : ProcessEnv} (h : srv.Owes i p)
    (henv : env.Answers (srv.sessions i)) :
    ∃ srv', Answered i p srv srv' ∧ Moves i p [] srv' (srv.processTurn i env) := by
  have hadmin : srv.processAdminCommands i env = srv := by
    rw [processAdminCommands, tryPopAdminCommand, h.commands]
  have hask : srv.processOutgoingResendRequestIfNecessary i env = srv := by
    rw [processOutgoingResendRequestIfNecessary]
    simp only [h.waitsNot, h.asksNothing, if_false, Bool.false_eq_true]
  have htest : srv.processOutgoingTestRequestIfNecessary i env = srv := by
    rw [processOutgoingTestRequestIfNecessary]
    dsimp only
    cases hexpecting : (srv.sessions i).expectingResponseForOutgoingTestRequest with
    | false => rw [if_pos rfl, henv.noTestRequest hexpecting, if_neg Bool.false_ne_true]
    | true =>
      rw [if_neg (Ne.symm Bool.false_ne_true), henv.notExpired hexpecting,
        if_neg Bool.false_ne_true]
  refine ⟨_, respondToResendRequest_replies h henv, ?_⟩
  unfold processTurn
  rw [hadmin]
  dsimp only
  rw [if_pos h.live]
  unfold processLive
  rw [hask]
  dsimp only
  rw [htest]
  exact ((respondToTestRequest_moves _ env).next (sendHeartbeat_moves _ env)).next
    (processScheduleValidator_moves _ env)

/-! ## A whole `process` -/

theorem Owes.spared (h : srv.Owes i p) (hspares : Spares i p srv srv') : srv'.Owes i p := by
  obtain ⟨hholding, hp, hsame⟩ := hspares h.holding h.connected
  exact ⟨hsame ▸ h.owes, hsame ▸ h.live, hsame ▸ h.waitsNot, hsame ▸ h.asksNothing,
    hsame ▸ h.commands, hholding, hp⟩

/-- A `process` answers once, and sends new messages behind. -/
theorem process_replies {env : Nat → ProcessEnv} (h : srv.Owes i p)
    (hrunning : srv.isStopping = false) (hin : i < srv.sessionCount)
    (henv : (env i).Answers (srv.sessions i)) :
    ∃ srv', Answered i p srv srv' ∧ Moves i p [] srv' (srv.process env) := by
  have hmem : i ∈ List.range srv.sessionCount := List.mem_range.mpr hin
  clear hin
  unfold process
  rw [if_pos hrunning]
  generalize List.range srv.sessionCount = js at hmem
  induction js generalizing srv with
  | nil => exact absurd hmem List.not_mem_nil
  | cons j js ih =>
    rw [List.foldl_cons]
    by_cases hj : j = i
    · subst hj
      obtain ⟨srv', hanswered, hmoves⟩ := processTurn_replies h henv
      refine ⟨srv', hanswered, hmoves.next ?_⟩
      exact turns_moves _ (hmoves.session.keeps.idle hanswered.calm.toIdle) js env
    · have hspares : Spares i p srv (srv.processTurn j (env j)) := processTurn_spares hj srv _
      obtain ⟨-, -, hsame⟩ := hspares h.holding h.connected
      have hmem' : i ∈ js := (List.mem_cons.mp hmem).resolve_left (Ne.symm hj)
      have hrunning' : (srv.processTurn j (env j)).isStopping = false :=
        (processTurn_effects srv j (env j)).isStopping.trans hrunning
      obtain ⟨srv', hanswered, hmoves⟩ := ih (h.spared hspares) hrunning' (hsame ▸ henv) hmem'
      refine ⟨srv', ⟨?_, hanswered.calm, hanswered.holding, hanswered.connected⟩, hmoves⟩
      rw [← hsame]
      exact hanswered.replies

/-- No turn changes the settings of a session. -/
theorem process_settings (hrunning : srv.isStopping = false) (env : Nat → ProcessEnv) (k : Nat) :
    ((srv.process env).sessions k).settings = (srv.sessions k).settings := by
  have hupdate : ∀ {s s' : FixSession}, TurnUpdate s s' → s'.settings = s.settings := by
    intro s s' hs
    cases hs with
    | admin hs =>
      cases hs with
      | reinitialised =>
        unfold reinitialiseOutgoingSerialiser
        split <;> rfl
      | popped => rfl
      | setOutgoingSeqNo => rfl
      | disabled => rfl
      | disconnected => rfl
    | timer hs => cases hs <;> rfl
    | resendRequestSent => rfl
  have hmodify : ∀ (srv : FixServer) (j : Nat) (f : FixSession → FixSession),
      (f (srv.sessions j)).settings = (srv.sessions j).settings →
        ((srv.modifySession j f).sessions k).settings = (srv.sessions k).settings := by
    intro srv j f hf
    by_cases hk : k = j
    · rw [hk, modifySession_sessions_self]
      exact hf
    · rw [modifySession_sessions_ne srv hk]
  have hrespects : ∀ j, Respects j TurnUpdate
      (fun srv srv' => (srv'.sessions k).settings = (srv.sessions k).settings) := fun j =>
    { refl := fun _ => rfl
      trans := fun h h' => h'.trans h
      sendBytes := fun srv j' t o => settings_of_core ((sendBytes_steps srv j' t o).core k)
      closeConnection := fun srv peer =>
        settings_of_core ((closeConnection_steps srv j SendUpdate peer).core k)
      modify := fun srv f hf => hmodify srv j f (hupdate hf) }
  unfold process
  rw [if_pos hrunning]
  generalize List.range srv.sessionCount = js
  clear hrunning
  induction js generalizing srv with
  | nil => rfl
  | cons j js ih =>
    rw [List.foldl_cons, ih]
    exact processTurn_related (hrespects j) (fun _ _ => rfl) srv (env j) fun _ _ _ srv' =>
      hmodify srv' j _ rfl

end FixServer

/-! ## What arrives -/

/-- The answer of a session, as the peer receives it. -/
def answerArrives (s : FixSession) (encoder : EncoderSettings) (wire : WireEnv) :
    List RxMessage :=
  s.answer.mapIdx fun position m => wire.received s.settings encoder position m.2 m.1

/-- What the wire makes of an answer: each resend is parsed from what the serialiser holds, and a
gap fill can be encoded. -/
structure ArrivesWhole (s : FixSession) (encoder : EncoderSettings) (includeT97 : Bool)
    (stored : UInt32 → StoredMessage) (wire : WireEnv) : Prop where
  resends : s.willReplay = true → ∀ n, s.incomingResendRequestBeginNo ≤ n →
    n ≤ s.sequenceStore.outgoingSeqNo → (stored n).Resendable s.settings encoder ∧
      ArrivesResent s.settings encoder includeT97 (stored n) n (wire.replayed n)
  gapFill : s.willReplay = false → EncodableSession s.settings encoder (wire.sendingTime 0)

section Arrives

variable {s s' s'' : FixSession} {encoder : EncoderSettings} {includeT97 : Bool}
  {stored : UInt32 → StoredMessage} {wire : WireEnv}

theorem answerArrives_replays (h : s.willReplay = true) :
    answerArrives s encoder wire =
      (replayRange s.incomingResendRequestBeginNo s.sequenceStore.outgoingSeqNo).map
        wire.replayed := by
  rw [answerArrives, answer, if_pos h]
  refine List.ext_getElem ?_ fun position _ _ => ?_
  · rw [List.length_mapIdx, List.length_map, List.length_map]
  · rw [List.getElem_mapIdx, List.getElem_map, List.getElem_map]
    rfl

/-- The answer takes the peer from the number in front of the one asked for to the last number
used, and new messages behind it further. -/
theorem feeds_answer (hallows : encoder.AllowsResends includeT97)
    (hwhole : ArrivesWhole s encoder includeT97 stored wire) {k : Nat}
    (hbegin : s.incomingResendRequestBeginNo.toNat = k + 1)
    (hmissed : k < s.sequenceStore.outgoingSeqNo.toNat)
    (hroom : s.sequenceStore.outgoingSeqNo.toNat + 1 < 2 ^ 32) {final : UInt32}
    {new : List RxMessage} (hnew : Feeds true s.sequenceStore.outgoingSeqNo final
      s.sequenceStore.outgoingSeqNo.toNat new) :
    Feeds true s.sequenceStore.outgoingSeqNo final k (answerArrives s encoder wire ++ new) := by
  cases hreplay : s.willReplay with
  | true =>
    rw [answerArrives_replays hreplay]
    exact feeds_replays hallows hroom (hwhole.resends hreplay) hbegin hmissed.le hnew
  | false =>
    have hsession := hwhole.gapFill hreplay
    have hanswer : answerArrives s encoder wire =
        [encodedMessage s.settings encoder (wire.sendingTime 0) s.sequenceStore.incomingSeqNo
          s.buildGapFillMessage s.incomingResendRequestBeginNo] := by
      rw [answerArrives, answer, if_neg (ne_of_eq_of_ne hreplay Bool.false_ne_true)]
      rfl
    rw [hanswer]
    refine .skip rfl hroom ?_ (encodedMessage_skipsTo hsession (gapFillMessage_encodable hallows s)
      rfl rfl hroom) hmissed hnew
    rw [encodedMessage_seqNum, hbegin]

/-- The answer is on its way, with what is sent behind it. -/
theorem sent_answer (hreplies : Replies s.answer s s') (hexchanges : Exchanges [] s' s'')
    (hsettings : s''.settings = s.settings) :
    ∃ new, wire.sent encoder s s'' = answerArrives s encoder wire ++ new ∧
      Consecutive s.sequenceStore.outgoingSeqNo new ∧
      s''.sequenceStore.outgoingSeqNo =
        s.sequenceStore.outgoingSeqNo + UInt32.ofNat new.length := by
  obtain ⟨os, htrace, hsent, -⟩ := hreplies.history
  obtain ⟨os', htrace', hnew, hout, -⟩ := hexchanges
  have hall : s''.trace = s.trace ++ (os ++ os') := by
    rw [htrace', htrace, List.append_assoc]
  rw [hreplies.store] at hnew hout
  refine ⟨(os'.filterMap sentMessage).mapIdx fun position m =>
    wire.received s.settings encoder (position + s.answer.length) m.2 m.1, ?_, ?_, ?_⟩
  · rw [WireEnv.sent, since_of_append hall, List.filterMap_append, hsent, List.mapIdx_append,
      hsettings]
    rfl
  · exact hnew.consecutive fun k m number incomingSeqNo =>
      ⟨encodedMessage_seqNum _ _ _ _ m number, rfl⟩
  · rw [hout, List.length_mapIdx]

end Arrives

/-! ## Two sides -/

namespace Pair

variable {i p k : Nat} {w : Pair}

/-- The client has counted up to `k` and asked for what follows, and session `i` is to answer.
Nothing else is on its way to the client. -/
structure GapAsked (i p k : Nat) (w : Pair) : Prop where
  client : w.client.session.Idle
  awaits : w.client.session.AwaitsAnswer k (w.server.sessions i).sequenceStore.outgoingSeqNo.toNat
  server : w.server.Owes i p
  running : w.server.isStopping = false
  session : i < w.server.sessionCount
  begins : (w.server.sessions i).incomingResendRequestBeginNo.toNat = k + 1
  missed : k < (w.server.sessions i).sequenceStore.outgoingSeqNo.toNat
  room : (w.server.sessions i).sequenceStore.outgoingSeqNo.toNat + 1 < 2 ^ 32
  toClient : w.toClient = []
  toServer : Tracks true w.client.session.sequenceStore.outgoingSeqNo (w.server.sessions i)
    w.toServer

/-- The server's `process` puts the answer on its way, and new messages behind it. -/
theorem GapAsked.serverProcess (h : GapAsked i p k w) {env : Nat → ProcessEnv} {wire : WireEnv}
    (henv : (env i).Answers (w.server.sessions i)) {includeT97 : Bool}
    {stored : UInt32 → StoredMessage} (hallows : w.serverEncoder.AllowsResends includeT97)
    (hwhole : ArrivesWhole (w.server.sessions i) w.serverEncoder includeT97 stored wire) :
    (∃ new, (w.step i p (.serverProcess env wire)).toClient =
        answerArrives (w.server.sessions i) w.serverEncoder wire ++ new ∧
      Consecutive (w.server.sessions i).sequenceStore.outgoingSeqNo new) ∧
    Linked i p true (w.step i p (.serverProcess env wire)) := by
  obtain ⟨srv, hanswered, hmoves⟩ := FixServer.process_replies h.server h.running h.session henv
  obtain ⟨new, hsent, hconsecutive, hnumbers⟩ :=
    (sent_answer hanswered.replies hmoves.session.exchanges
      (FixServer.process_settings h.running env i) :
    ∃ new, wire.sent w.serverEncoder _ _ = answerArrives _ w.serverEncoder wire ++ new ∧ _ ∧ _)
  have hchannel : (w.step i p (.serverProcess env wire)).toClient =
      answerArrives (w.server.sessions i) w.serverEncoder wire ++ new := by
    show w.toClient ++ wire.sent w.serverEncoder (w.server.sessions i)
      ((w.server.process env).sessions i) = _
    rw [h.toClient, hsent]
    rfl
  have hcalm := hmoves.session.keeps.calm hanswered.calm
  refine ⟨⟨new, hchannel, hconsecutive⟩, h.client, hcalm.toIdle,
    hmoves.holding hanswered.holding,
    (FixServer.process_effects w.server env).isStopping.trans h.running, ?_, fun _ => ?_⟩
  · rw [hchannel]
    exact ⟨_, k, h.awaits, feeds_answer hallows hwhole h.begins h.missed h.room
      (.new hconsecutive hnumbers)⟩
  · refine h.toServer.of_calm hcalm ?_
    show ((w.server.process env).sessions i).sequenceStore.incomingSeqNo = _
    rw [hmoves.session.incoming, hanswered.replies.store]
    exact UInt32.add_zero _

/-- The client has asked for what it has missed, and the server's `process` answers: the answer is
on its way in front of what is new, and the application messages in it have their own type and tags.
Over every run from there on in which what arrives is accepted, the two sides stay linked, so that
neither notices another gap; what has been sent again and what is sent behind it reach the
application of the client exactly once and in order; and as soon as nothing is on its way to the
client, it has counted all that the server has sent and waits no longer. -/
theorem resendClosesGap (i p k : Nat) (w : Pair) (h : GapAsked i p k w) (env : Nat → ProcessEnv)
    (wire : WireEnv) (henv : (env i).Answers (w.server.sessions i)) (includeT97 : Bool)
    (stored : UInt32 → StoredMessage) (hallows : w.serverEncoder.AllowsResends includeT97)
    (hwhole : ArrivesWhole (w.server.sessions i) w.serverEncoder includeT97 stored wire)
    (events : List Event)
    (hregular : Guarded (step i p) (Regular i p) (w.step i p (.serverProcess env wire)) events) :
    let answered := w.step i p (.serverProcess env wire)
    let w' := run (step i p) answered events
    (∃ new, answered.toClient =
        answerArrives (w.server.sessions i) w.serverEncoder wire ++ new ∧
      Consecutive (w.server.sessions i).sequenceStore.outgoingSeqNo new) ∧
      ((w.server.sessions i).willReplay = true →
        ∀ n, (w.server.sessions i).incomingResendRequestBeginNo ≤ n →
          n ≤ (w.server.sessions i).sequenceStore.outgoingSeqNo →
          isANonRetransmittableAdminMessageType (stored n).original.msgType = false →
            (wire.replayed n).msgType = (stored n).original.msgType ∧
              ∀ tag, tag ∉ sessionTags w.serverEncoder →
                tag ∉ [tagPossDupFlag, tagPossResend, tagOrigSendingTime] →
                  (wire.replayed n).message.tags.lookup tag =
                    (stored n).original.fields.lookup tag) ∧
      Linked i p true w' ∧
      Forwards i p answered w' (allSent i p (clientSends i p) answered events)
        (allSent i p (serverSends i p) answered events) ∧
      (w'.toClient = [] → w'.client.session.sequenceStore.incomingSeqNo =
          (w'.server.sessions i).sequenceStore.outgoingSeqNo ∧
        w'.client.session.state ≠ .inRetransmissionInitiatedBySelf) := by
  obtain ⟨hanswer, hlinked⟩ := h.serverProcess henv hallows hwhole
  obtain ⟨hlinked', hforwards⟩ := run_linked hlinked hregular
  refine ⟨hanswer, fun hreplay n hbegin hlast happlication => ?_, hlinked', hforwards,
    fun hall => ?_⟩
  · obtain ⟨hresendable, harrives⟩ := hwhole.resends hreplay n hbegin hlast
    exact resent_kept hresendable hallows harrives happlication
  · have hend := hlinked'.toClient
    rw [hall] at hend
    exact hend.end

/-! ## An answer -/

/-- The report that the client has missed, and a heartbeat behind it. -/
def exampleStored (n : UInt32) : StoredMessage where
  original :=
    if n = 6 then
      (OutgoingFixMessage.setMsgType msgTypeExecutionReport).setTag 37 (text "X-1")
    else
      OutgoingFixMessage.setMsgType msgTypeHeartbeat
  sendingTime := text "20260101-00:00:00"
  incomingSeqNo := 9

/-- The settings of a server that sends again what its peer has missed. -/
def exampleReplaySettings : FixSessionSettings :=
  { peerSettings exampleSettings with replayMessagesOnIncomingResendRequest := true }

/-- What is sent again arrives as it is parsed. -/
def exampleResendWire : WireEnv where
  sendingTime _ := text "20260101-00:00:05"
  replayed n := encodedMessage exampleReplaySettings {} (text "20260101-00:00:05") 9
    ((exampleStored n).resent {} true n) n

/-- The client has missed the server's 6 and 7 and has asked for them. -/
def exampleGapAsked : Pair where
  client :=
    { session :=
        { state := .inRetransmissionInitiatedBySelf
          sequenceStore := { outgoingSeqNo := 9, incomingSeqNo := 5 }
          settings := exampleSettings
          outgoingResendRequestEndNo := 7 }
      socketOpen := true }
  server :=
    { sessions := fun _ =>
        { state := .inRetransmissionInitiatedByPeer
          sequenceStore := { outgoingSeqNo := 7, incomingSeqNo := 9 }
          settings := exampleReplaySettings
          outgoingMessageRecords := [6, 7]
          needsRespondingToIncomingResendRequest := true
          incomingResendRequestBeginNo := 6 }
      sessionCount := 1
      connectors := FixServerConnectors.update {} 0 0
      connected := fun p => p = 0 }

theorem exampleGapAsked_asked : GapAsked 0 0 5 exampleGapAsked where
  client := ⟨rfl, rfl, rfl⟩
  awaits := ⟨rfl, rfl, fun _ => by decide⟩
  server :=
    { owes := rfl
      live := rfl
      waitsNot := SessionState.noConfusion
      asksNothing := rfl
      commands := rfl
      holding := fun _ => exampleAgreed_servedBy.of_connectors rfl SessionState.noConfusion
      connected := rfl }
  running := rfl
  session := Nat.zero_lt_one
  begins := rfl
  missed := by decide
  room := by decide
  toClient := rfl
  toServer := ⟨9, 9, ⟨rfl, rfl, fun h => nomatch h⟩, .new trivial rfl⟩

theorem exampleStored_resendable (n : UInt32) :
    (exampleStored n).Resendable exampleReplaySettings {} := by
  have hsession : EncodableSession exampleReplaySettings {} (text "20260101-00:00:00") :=
    ⟨by decide, by decide, by decide, by decide, by decide, forall_tag_of_all (by decide),
      by decide⟩
  by_cases hn : n = 6
  · subst hn
    exact ⟨hsession, ⟨by decide, by decide, forall_tag_of_all (by decide), by decide⟩, rfl,
      forall_tag_of_all (by decide)⟩
  · have hstored : exampleStored n =
        { original := OutgoingFixMessage.setMsgType msgTypeHeartbeat
          sendingTime := text "20260101-00:00:00"
          incomingSeqNo := 9 } := by
      rw [exampleStored, if_neg hn]
    rw [hstored]
    exact ⟨hsession, ⟨by decide, by decide, forall_tag_of_all (by decide), by decide⟩, rfl,
      forall_tag_of_all (by decide)⟩

/-- The client reads the answer, one message at a time. -/
def exampleReads : List Event :=
  [.clientProcess {} [{}] false exampleWire, .clientProcess {} [{}] false exampleWire]

theorem resendClosesGap_report :
    let answered := exampleGapAsked.step 0 0 (.serverProcess (fun _ => {}) exampleResendWire)
    let w' := run (step 0 0) answered exampleReads
    w'.toClient = [] ∧ w'.client.session.sequenceStore.incomingSeqNo =
        (w'.server.sessions 0).sequenceStore.outgoingSeqNo ∧
      w'.client.session.state ≠ .inRetransmissionInitiatedBySelf := by
  have hallows : ({} : EncoderSettings).AllowsResends true :=
    ⟨rfl, fun _ _ => List.not_mem_nil, List.not_mem_nil⟩
  have hsession : EncodableSession exampleReplaySettings {} (text "20260101-00:00:05") :=
    ⟨by decide, by decide, by decide, by decide, by decide, forall_tag_of_all (by decide),
      by decide⟩
  have hclear : ({} : OutgoingFixMessageInstance).IsClear := ⟨rfl, rfl, rfl⟩
  have harrives : ∀ n, ArrivesResent exampleReplaySettings {} true (exampleStored n) n
      (exampleResendWire.replayed n) := by
    intro n
    obtain ⟨p, hparsed⟩ := resent_parsed (exampleStored_resendable n) hsession hallows 0 hclear 9 n
    exact ⟨_, _, _, _, p, hsession, hclear, hparsed⟩
  have hwhole : ArrivesWhole (exampleGapAsked.server.sessions 0) {} true exampleStored
      exampleResendWire :=
    ⟨fun _ n _ _ => ⟨exampleStored_resendable n, harrives n⟩, fun _ => hsession⟩
  obtain ⟨-, -, -, -, hend⟩ := resendClosesGap 0 0 5 exampleGapAsked exampleGapAsked_asked
    (fun _ => {}) exampleResendWire
    ⟨fun _ => by decide, fun h => absurd h Bool.false_ne_true, fun _ => rfl, rfl⟩ true
    exampleStored hallows hwhole exampleReads
    ⟨regular_readOne exampleWire (by decide +kernel),
      regular_readOne exampleWire (by decide +kernel), trivial⟩
  have hnothing : (run (step 0 0) (exampleGapAsked.step 0 0
      (.serverProcess (fun _ => {}) exampleResendWire)) exampleReads).toClient = [] := by
    decide +kernel
  exact ⟨hnothing, hend hnothing⟩

end Pair

end Llfix
