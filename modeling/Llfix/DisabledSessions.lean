import Llfix.Client.Retransmission
import Llfix.Server.DisabledSessions
import Llfix.Server.LiveConnections

/-!
# Disabled sessions

`process` of the client goes by the state at its start, so that what it does behind the admin
commands may be meant for a session that has been disabled since. Later passes read nothing for a
disabled session, and `connect` refuses it.

Results:
1. `act_mapped`: the connector tables of a server in a run.
2. `FixClient.processAfterAdmin_remains_iff`: when the rest of the pass leaves a disabled session
   alone.
3. `disabledSessions_iff`: when a session stays disabled, on both sides.
-/

namespace Llfix

open FixSession GuardedRun

namespace FixServer

/-! ## The tables of the server -/

/-- The connector tables are in order, and the server has not been told to stop. -/
structure Mapped (srv : FixServer) : Prop where
  inverse : srv.TablesInverse
  connected : srv.MappedConnected
  running : srv.isStopping = false

theorem Effects.mapped {srv srv' : FixServer} (h : Effects srv srv') (hs : srv.Mapped) :
    srv'.Mapped :=
  ⟨h.inverse hs.inverse, h.mappedConnected hs.connected, h.isStopping.trans hs.running⟩

/-- While the loop reads on, a connection without a session is open. -/
structure RxLoop.Mapped (p : Nat) (l : RxLoop) : Prop where
  server : l.server.Mapped
  free : l.returned = false → l.session = none →
    l.server.connectors.getSession p = none ∧ l.server.connected p = true

theorem rxStep_mapped {p : Nat} {l : RxLoop} (h : l.Mapped p) (e : RxMessage × ServerRxEnv) :
    (rxStep p l e).Mapped p := by
  unfold rxStep
  cases hreturned : l.returned with
  | true =>
    rw [if_pos rfl]
    exact h
  | false =>
    rw [if_neg Bool.false_ne_true]
    rcases htarget : l.target p e with ⟨srv, _ | i⟩
    · obtain ⟨-, -, rfl⟩ := target_none htarget
      refine ⟨(closeConnection_effects l.server (some p)).mapped h.server, fun hgoes => ?_⟩
      cases hgoes
    · have hsrv : srv.Mapped := by
        rcases target_some htarget with ⟨-, rfl⟩ | ⟨hsession, -, rfl⟩
        · exact h.server
        · obtain ⟨hfree, hopen⟩ := h.free hreturned hsession
          have hinverse := h.server.inverse.update hfree i
          exact ⟨hinverse, h.server.connected.update hopen i, h.server.running⟩
      refine ⟨(handleMessage_effects srv i p e.1 e.2).mapped hsrv, fun _ hno => ?_⟩
      cases hno

theorem Mapped.onDataReady {srv : FixServer} (h : srv.Mapped) {p : Nat}
    (hp : srv.connected p = true) (messages : List (RxMessage × ServerRxEnv)) :
    (srv.onDataReady p messages).Mapped := by
  have hstart : RxLoop.Mapped p { server := srv, session := srv.connectors.getSession p } :=
    ⟨h, fun _ hno => ⟨hno, hp⟩⟩
  have hend := run_invariant (I := RxLoop.Mapped p) (fun _ e hl => rxStep_mapped hl e) messages
    hstart
  unfold FixServer.onDataReady
  dsimp only
  split
  · exact hend.server
  · exact (closeConnection_effects _ (some p)).mapped hend.server

theorem act_mapped {srv : FixServer} (h : srv.Mapped) (activity : Activity) :
    (srv.act activity).Mapped := by
  cases activity with
  | turn i env => exact (processTurn_effects srv i env).mapped h
  | event e =>
    cases e with
    | connect p =>
      refine ⟨h.inverse, fun q i hq => ?_, h.running⟩
      show Function.update srv.connected p true q = true
      by_cases hqp : q = p
      · rw [hqp, Function.update_self]
      · rw [Function.update_of_ne hqp]
        exact h.connected q i hq
    | receive p messages =>
      rw [act, step]
      split
      · next hp => exact h.onDataReady hp messages
      · exact h
    | disconnect p =>
      rw [act, step]
      split
      · exact (closeConnection_effects srv (some p)).mapped h
      · exact h
    | process env => exact (process_effects srv env).mapped h
    | pushAdminCommand i command => exact ⟨h.inverse, h.connected, h.running⟩

end FixServer

/-! ## What keeps a session disabled, and what does not -/

namespace FixSession

/-- The history has grown by an entry that a disabled session does not have. -/
def Breaks (s s' : FixSession) : Prop :=
  ∃ os, s'.trace = s.trace ++ os ∧ ∃ o ∈ os, o ≠ .state .disabled

variable {s s' s'' : FixSession}

theorem RemainsDisabled.not_breaks (h : RemainsDisabled s s') : ¬ Breaks s s' := by
  rintro ⟨os, hos, o, hmem, hne⟩
  obtain ⟨os', hos', hall⟩ := h.history
  obtain rfl := List.append_cancel_left (hos.symm.trans hos')
  exact hne (hall o hmem)

/-- Later entries do not mend it. -/
theorem Breaks.passive (h : Breaks s s') (h' : Passive s' s'') : Breaks s s'' := by
  obtain ⟨os, hos, o, hmem, hne⟩ := h
  obtain ⟨more, hmore⟩ := h'.trace
  refine ⟨os ++ more, ?_, o, List.mem_append_left _ hmem, hne⟩
  rw [← hmore, hos, List.append_assoc]

theorem Passive.breaks (h : Passive s s') (h' : Breaks s' s'') : Breaks s s'' := by
  obtain ⟨more, hmore⟩ := h.trace
  obtain ⟨os, hos, o, hmem, hne⟩ := h'
  refine ⟨more ++ os, ?_, o, List.mem_append_right _ hmem, hne⟩
  rw [hos, ← hmore, List.append_assoc]

theorem Breaks.of_trace (o : Output) (htrace : s'.trace = s.trace ++ [o])
    (ho : o ≠ .state .disabled) : Breaks s s' :=
  ⟨[o], htrace, o, List.mem_singleton_self o, ho⟩

end FixSession

namespace FixClient

variable {c c' c'' : FixClient} {env : ClientProcessEnv}

/-- An open socket takes what is sent, if only to lose the connection. -/
theorem sendBytes_breaks (hopen : c.socketOpen = true) (t : Transmission) (o : SendOutcome) :
    Breaks c.session (c.sendBytes t o).session := by
  have hsent : ∀ ok, Breaks c.session
      (c.session.record (.sent t c.session.sequenceStore.incomingSeqNo ok)) :=
    fun ok => .of_trace _ rfl (by simp)
  by_cases ho : o.result = .connectionLost
  · rw [sendBytes_lost c t hopen ho]
    have hlost := onConnectionLost_passive (c.modifySession fun s =>
      s.record (.sent t s.sequenceStore.incomingSeqNo false))
    exact ((hsent false).passive hlost).passive (SendUpdate.noted _ _ _).passive
  · rw [sendBytes_held c t hopen ho]
    exact (hsent (o.result = .ok)).passive (.silent (by simp) (by simp))

theorem doShutdown_breaks (graceful : Bool) (env : ShutdownEnv) :
    Breaks c.session (c.doShutdown graceful env).session := by
  have hlost : Breaks c.session (c.session.setState .disconnected) :=
    .of_trace (.state .disconnected) rfl (by simp)
  have hrest : Passive (c.session.setState .disconnected) c.onConnectionLost.session :=
    (Passive.record _ .connectionLost).trans (.record _ _)
  exact (hlost.passive hrest).passive (c.doShutdown_passive_lost graceful env)

/-! ## The rest of a pass -/

/-- The steps that send find nothing to send. -/
structure NothingToSend (c : FixClient) (env : ClientProcessEnv) : Prop where
  testRequest : c.session.expectingResponseForOutgoingTestRequest = false →
    c.session.outgoingTestRequestDue env.testRequestTimestamp = false
  testResponse : c.session.needsRespondingToIncomingTestRequest = false
  heartbeat : c.session.heartbeatDue env.heartbeatTimestamp = false

/-- None of the live steps changes the state, and none has anything to send that a socket takes. -/
structure NothingLive (c : FixClient) (env : ClientProcessEnv) : Prop where
  resendRequest : c.session.needsToSendResendRequest = false
  testRequest : c.session.expectingResponseForOutgoingTestRequest = true →
    c.session.outgoingTestRequestExpired env.testRequestTimestamp = false
  resendResponse : c.session.needsRespondingToIncomingResendRequest = false
  schedule : env.scheduleValid = true
  sends : c.socketOpen = true → c.NothingToSend env

/-- The time for the answer to the Logon is over. -/
def LogonExpired (c : FixClient) (env : ClientProcessEnv) : Prop :=
  c.session.settings.logonTimeoutSeconds * 1000000000 ≤
    env.logonTimestamp - c.lastLogonAttemptTimestamp

/-- The rest of a pass that began in this state has nothing to do. -/
structure NothingLeft (sessionState : SessionState) (c : FixClient) (env : ClientProcessEnv) :
    Prop where
  live : isStateLive sessionState = true → c.NothingLive env
  logon : sessionState = .pendingLogon → ¬ c.LogonExpired env

/-- A step that leaves the state and the history alone, and everything when the socket is open. -/
structure Still (c c' : FixClient) : Prop where
  state : c'.session.state = c.session.state
  trace : c'.session.trace = c.session.trace
  resendResponse : c'.session.needsRespondingToIncomingResendRequest =
    c.session.needsRespondingToIncomingResendRequest
  socket : c'.socketOpen = c.socketOpen
  same : c.socketOpen = true → c' = c

namespace Still

theorem refl (c : FixClient) : Still c c := ⟨rfl, rfl, rfl, rfl, fun _ => rfl⟩

theorem trans (h : Still c c') (h' : Still c' c'') : Still c c'' where
  state := h'.state.trans h.state
  trace := h'.trace.trans h.trace
  resendResponse := h'.resendResponse.trans h.resendResponse
  socket := h'.socket.trans h.socket
  same hopen := by
    rw [h'.same (h.socket.trans hopen), h.same hopen]

/-- What is asked of an open socket only is the same on both sides. -/
theorem open_iff (h : Still c c') (P : FixClient → Prop) :
    (c'.socketOpen = true → P c') ↔ (c.socketOpen = true → P c) := by
  rw [h.socket]
  refine forall_congr' fun hopen => ?_
  rw [h.same hopen]

/-- An update of the session over a closed socket. -/
theorem of_closed (hclosed : c.socketOpen = false) (hsocket : c'.socketOpen = c.socketOpen)
    (hstate : c'.session.state = c.session.state) (htrace : c'.session.trace = c.session.trace)
    (hresend : c'.session.needsRespondingToIncomingResendRequest =
      c.session.needsRespondingToIncomingResendRequest) : Still c c' where
  state := hstate
  trace := htrace
  resendResponse := hresend
  socket := hsocket
  same hopen := by
    rw [hclosed] at hopen
    cases hopen

theorem sendBytes (hclosed : c.socketOpen = false) (t : Transmission) (o : SendOutcome) :
    Still c (c.sendBytes t o) := by
  have hresend := congrArg FixSession.needsRespondingToIncomingResendRequest
    (sendBytes_core c t o)
  refine of_closed hclosed (sendBytes_socketOpen c t o) ?_ ?_ hresend
  · rw [sendBytes_closed c t hclosed]
    exact afterSend_state _ _ _ _
  · rw [sendBytes_closed c t hclosed]
    exact afterSend_trace _ _ _ _

end Still

/-- The step leaves the session alone if the condition holds, and breaks with `DISABLED` if it does
not. -/
def Settles (P : Prop) (c c' : FixClient) : Prop :=
  P ∧ Still c c' ∨ ¬ P ∧ Breaks c.session c'.session

namespace Settles

variable {P Q : Prop}

theorem of_not (h : ¬ P) (hbreaks : Breaks c.session c'.session) : Settles P c c' :=
  Or.inr ⟨h, hbreaks⟩

theorem of_pos (h : P) (hstill : Still c c') : Settles P c c' := Or.inl ⟨h, hstill⟩

theorem congr {P' : Prop} (hP : P ↔ P') (h : Settles P c c') : Settles P' c c' := by
  rwa [Settles, ← hP]

theorem trans (h : Settles P c c') (h' : Still c c' → Settles Q c' c'')
    (hlater : Passive c'.session c''.session) : Settles (P ∧ Q) c c'' := by
  rcases h with ⟨hP, hstill⟩ | ⟨hP, hbreaks⟩
  · rcases h' hstill with ⟨hQ, hstill'⟩ | ⟨hQ, os, hos, o, hmem, hne⟩
    · exact .of_pos ⟨hP, hQ⟩ (hstill.trans hstill')
    · refine .of_not (fun hboth => hQ hboth.2) ⟨os, ?_, o, hmem, hne⟩
      rw [hos, hstill.trace]
  · exact .of_not (fun hboth => hP hboth.1) (hbreaks.passive hlater)

theorem remains_iff (h : Settles P c c') (hstate : c.session.state = .disabled) :
    RemainsDisabled c.session c'.session ↔ P := by
  rcases h with ⟨hP, hstill⟩ | ⟨hP, hbreaks⟩
  · exact iff_of_true (.of_eq hstate hstill.state hstill.trace) hP
  · exact iff_of_false (fun hremains => hremains.not_breaks hbreaks) hP

end Settles

section Steps

variable (c) (env)

theorem processOutgoingResendRequest_settles (h : c.session.state = .disabled) :
    Settles (c.session.needsToSendResendRequest = false) c
      (c.processOutgoingResendRequestIfNecessary env) := by
  unfold processOutgoingResendRequestIfNecessary
  dsimp only
  rw [h, if_neg (by decide)]
  cases hneeds : c.session.needsToSendResendRequest with
  | false =>
    rw [if_neg Bool.false_ne_true]
    exact .of_pos rfl (.refl c)
  | true =>
    rw [if_pos rfl]
    have hsent := sendBytes_passive c (.original (c.session.buildResendRequestMessage (text "0"))
      (c.session.sequenceStore.outgoingSeqNo + 1)) env.resendRequestSend
    exact .of_not Bool.noConfusion
      (hsent.breaks (.of_trace (.state .inRetransmissionInitiatedBySelf) rfl (by simp)))

/-- What the test request step needs to leave the session alone. -/
def TestRequestQuiet : Prop :=
  if c.session.expectingResponseForOutgoingTestRequest then
    c.session.outgoingTestRequestExpired env.testRequestTimestamp = false
  else c.socketOpen = true → c.session.outgoingTestRequestDue env.testRequestTimestamp = false

theorem processOutgoingTestRequest_settles :
    Settles (c.TestRequestQuiet env) c (c.processOutgoingTestRequestIfNecessary env) := by
  unfold processOutgoingTestRequestIfNecessary TestRequestQuiet
  dsimp only
  cases hexpecting : c.session.expectingResponseForOutgoingTestRequest with
  | false =>
    rw [if_pos rfl, if_neg Bool.false_ne_true]
    cases hdue : c.session.outgoingTestRequestDue env.testRequestTimestamp with
    | false =>
      rw [if_neg Bool.false_ne_true]
      exact .of_pos (fun _ => rfl) (.refl c)
    | true =>
      rw [if_pos rfl]
      cases hopen : c.socketOpen with
      | true =>
        have hbuilt : Passive c.session c.session.buildTestRequestMessage.1 := .silent rfl rfl
        have hsent : Breaks c.session.buildTestRequestMessage.1
            (c.sendTestRequest env.testRequestSend).session :=
          sendBytes_breaks (c := c.modifySession fun _ => c.session.buildTestRequestMessage.1)
            hopen _ _
        exact .of_not (fun hquiet => Bool.noConfusion (hquiet rfl))
          ((hbuilt.breaks hsent).passive (.silent rfl rfl))
      | false =>
        have hbuilt : Still c (c.modifySession fun _ => c.session.buildTestRequestMessage.1) :=
          .of_closed hopen rfl rfl rfl rfl
        have hsent := Still.sendBytes
          (c := c.modifySession fun _ => c.session.buildTestRequestMessage.1) hopen
          (.original c.session.buildTestRequestMessage.2
            (c.session.sequenceStore.outgoingSeqNo + 1)) env.testRequestSend
        have hboth := hbuilt.trans hsent
        have hmarked : Still (c.sendTestRequest env.testRequestSend)
            ((c.sendTestRequest env.testRequestSend).modifySession
              (·.testRequestSent env.testRequestTimestamp)) :=
          .of_closed (hboth.socket.trans hopen) rfl rfl rfl rfl
        exact .of_pos (fun h => Bool.noConfusion h) (hboth.trans hmarked)
  | true =>
    rw [if_pos rfl, if_neg Bool.noConfusion]
    cases hexpired : c.session.outgoingTestRequestExpired env.testRequestTimestamp with
    | false =>
      rw [if_neg Bool.false_ne_true]
      exact .of_pos rfl (.refl c)
    | true =>
      rw [if_pos rfl]
      have hflag : Passive c.session
          (c.session.setExpectingResponseForOutgoingTestRequest false) := .silent rfl rfl
      exact .of_not Bool.noConfusion (hflag.breaks (doShutdown_breaks
        (c := c.modifySession (·.setExpectingResponseForOutgoingTestRequest false)) false {}))

theorem respondToResendRequest_settles :
    Settles (c.session.needsRespondingToIncomingResendRequest = false) c
      (c.respondToResendRequestIfNecessary env) := by
  unfold respondToResendRequestIfNecessary
  dsimp only
  cases hneeds : c.session.needsRespondingToIncomingResendRequest with
  | false =>
    rw [if_neg Bool.false_ne_true]
    exact .of_pos rfl (.refl c)
  | true =>
    rw [if_pos rfl]
    have hanswered : ∀ s : FixSession, Breaks s s.resendRequestAnswered :=
      fun s => .of_trace (.state .loggedOn) rfl (by simp)
    refine .of_not Bool.noConfusion ?_
    split
    · exact (c.resendMessagesToServer_passive _ _ env.replaySend).breaks (hanswered _)
    · exact (sendBytes_passive c _ env.gapFillSend).breaks (hanswered _)

theorem respondToTestRequest_settles :
    Settles (c.socketOpen = true → c.session.needsRespondingToIncomingTestRequest = false) c
      (c.respondToTestRequestIfNecessary env) := by
  unfold respondToTestRequestIfNecessary
  dsimp only
  cases hneeds : c.session.needsRespondingToIncomingTestRequest with
  | false =>
    rw [if_neg Bool.false_ne_true]
    exact .of_pos (fun _ => rfl) (.refl c)
  | true =>
    rw [if_pos rfl]
    cases hopen : c.socketOpen with
    | true =>
      have hsent : Breaks c.session
          (c.sendClientHeartbeat c.session.savedTestRequestId env.testResponseSend).session :=
        sendBytes_breaks hopen _ _
      exact .of_not (fun hquiet => Bool.noConfusion (hquiet rfl)) (hsent.passive (.silent rfl rfl))
    | false =>
      have hsent : Still c
          (c.sendClientHeartbeat c.session.savedTestRequestId env.testResponseSend) :=
        .sendBytes hopen _ _
      have hmarked : Still (c.sendClientHeartbeat c.session.savedTestRequestId env.testResponseSend)
          ((c.sendClientHeartbeat c.session.savedTestRequestId
            env.testResponseSend).modifySession (·.testRequestAnswered)) :=
        .of_closed (hsent.socket.trans hopen) rfl rfl rfl rfl
      exact .of_pos (fun h => Bool.noConfusion h) (hsent.trans hmarked)

theorem sendClientHeartbeat_settles :
    Settles (c.socketOpen = true → c.session.heartbeatDue env.heartbeatTimestamp = false) c
      (c.sendClientHeartbeatIfNecessary env) := by
  unfold sendClientHeartbeatIfNecessary
  cases hdue : c.session.heartbeatDue env.heartbeatTimestamp with
  | false =>
    rw [if_neg Bool.false_ne_true]
    exact .of_pos (fun _ => rfl) (.refl c)
  | true =>
    rw [if_pos rfl]
    cases hopen : c.socketOpen with
    | true =>
      exact .of_not (fun hquiet => Bool.noConfusion (hquiet rfl)) (sendBytes_breaks hopen _ _)
    | false => exact .of_pos (fun h => Bool.noConfusion h) (.sendBytes hopen _ _)

theorem processScheduleValidator_settles :
    Settles (env.scheduleValid = true) c (c.processScheduleValidator env) := by
  unfold processScheduleValidator
  cases hvalid : env.scheduleValid with
  | true =>
    rw [if_neg Bool.noConfusion]
    exact .of_pos rfl (.refl c)
  | false =>
    rw [if_pos rfl]
    exact .of_not Bool.noConfusion (doShutdown_breaks true env.scheduleShutdown)

/-- The conditions of the steps behind the first one. -/
theorem nothingLive_iff (hneeds : c.session.needsToSendResendRequest = false) :
    ((((c.TestRequestQuiet env ∧ c.session.needsRespondingToIncomingResendRequest = false) ∧
      (c.socketOpen = true → c.session.needsRespondingToIncomingTestRequest = false)) ∧
      (c.socketOpen = true → c.session.heartbeatDue env.heartbeatTimestamp = false)) ∧
      env.scheduleValid = true) ↔ c.NothingLive env := by
  rw [TestRequestQuiet]
  constructor
  · rintro ⟨⟨⟨⟨htest, hresend⟩, hresponse⟩, hheartbeat⟩, hschedule⟩
    refine ⟨hneeds, fun hexpecting => ?_, hresend, hschedule, fun hopen => ?_⟩
    · rwa [if_pos hexpecting] at htest
    · refine ⟨fun hexpecting => ?_, hresponse hopen, hheartbeat hopen⟩
      rw [if_neg (ne_true_of_eq_false hexpecting)] at htest
      exact htest hopen
  · intro h
    refine ⟨⟨⟨⟨?_, h.resendResponse⟩, fun hopen => (h.sends hopen).testResponse⟩,
      fun hopen => (h.sends hopen).heartbeat⟩, h.schedule⟩
    split
    next hexpecting => exact h.testRequest hexpecting
    next hexpecting =>
      exact fun hopen => (h.sends hopen).testRequest (eq_false_of_ne_true hexpecting)

/-- The live steps of a pass leave a disabled session alone exactly when they have nothing to do. -/
theorem processLive_settles (h : c.session.state = .disabled) :
    Settles (c.NothingLive env) c (c.processLive env) := by
  have hheartbeat : ∀ c' : FixClient, Passive c'.session
      ((c'.sendClientHeartbeatIfNecessary env).processScheduleValidator env).session := fun c' =>
    (c'.sendClientHeartbeatIfNecessary_passive env).trans (processScheduleValidator_passive _ env)
  have hfirst := processOutgoingResendRequest_settles c env h
  have hlater := (((processOutgoingTestRequestIfNecessary_passive
    (c.processOutgoingResendRequestIfNecessary env) env).trans
    (respondToResendRequestIfNecessary_passive _ env)).trans
    (respondToTestRequestIfNecessary_passive _ env)).trans (hheartbeat _)
  rcases hfirst with ⟨hneeds, -⟩ | ⟨hneeds, hbreaks⟩
  · have hsame : c.processOutgoingResendRequestIfNecessary env = c := by
      unfold processOutgoingResendRequestIfNecessary
      dsimp only
      rw [h, if_neg (by decide), hneeds, if_neg Bool.false_ne_true]
    unfold processLive
    rw [hsame]
    refine .congr (c.nothingLive_iff env hneeds) ?_
    have htest := c.processOutgoingTestRequest_settles env
    have hresend := htest.trans
      (fun hstill => .congr (by rw [hstill.resendResponse]) (respondToResendRequest_settles _ env))
      (respondToResendRequestIfNecessary_passive _ env)
    have hresponse := hresend.trans
      (fun hstill => .congr
        (hstill.open_iff (·.session.needsRespondingToIncomingTestRequest = false))
        (respondToTestRequest_settles _ env))
      (respondToTestRequestIfNecessary_passive _ env)
    have hbeat := hresponse.trans
      (fun hstill => .congr
        (hstill.open_iff (·.session.heartbeatDue env.heartbeatTimestamp = false))
        (sendClientHeartbeat_settles _ env))
      (sendClientHeartbeatIfNecessary_passive _ env)
    exact hbeat.trans (fun _ => processScheduleValidator_settles _ env)
      (processScheduleValidator_passive _ env)
  · exact .of_not (fun hlive => hneeds hlive.resendRequest) (hbreaks.passive hlater)

theorem processAfterAdmin_settles (h : c.session.state = .disabled) (sessionState : SessionState) :
    Settles (c.NothingLeft sessionState env) c (c.processAfterAdmin sessionState env) := by
  unfold processAfterAdmin
  split
  · next hlive =>
    refine .congr ⟨fun hnothing => ⟨fun _ => hnothing, fun hpending => ?_⟩,
      fun hleft => hleft.live hlive⟩ (c.processLive_settles env h)
    rw [hpending] at hlive
    cases hlive
  · next hnotLive =>
    split
    · next hpending =>
      have hleft : ¬ c.LogonExpired env ↔ c.NothingLeft sessionState env :=
        ⟨fun hlogon => ⟨fun hlive => absurd hlive hnotLive, fun _ => hlogon⟩,
          fun hleft => hleft.logon hpending⟩
      refine .congr hleft ?_
      unfold processOutgoingLogonRequest
      split
      · next hexpired =>
        exact .of_not (not_not.mpr hexpired) (.of_trace (.state .disconnected) rfl (by simp))
      · next hexpired => exact .of_pos hexpired (.refl c)
    · next hnotPending =>
      exact .of_pos ⟨fun hlive => absurd hlive hnotLive, fun hpending =>
        absurd hpending hnotPending⟩ (.refl c)

end Steps

/-! ## Later events -/

/-- The session is not enabled by the event, and the application does not call `shutdown`. -/
def EnablesNot (c : FixClient) : Event → Prop
  | .process _ => c.session.nextCommand (·.enables c.isHaPrimary) = false
  | .shutdown _ _ => False
  | _ => True

/-- Until the session is enabled it remains as it was left by the command. -/
def StaysDisabled (s : FixSession) (c : FixClient) : Prop :=
  ∀ events, Guarded step EnablesNot c events →
    RemainsDisabled s (run step c events).session

section Later

variable (h : c.session.state = .disabled)

include h

theorem disableSession_disabled (env : ShutdownEnv) :
    c.disableSession env = c.modifySession (·.setState .disabled) := by
  unfold disableSession
  rw [h, if_neg (by decide)]

/-- A command that does not enable the session. -/
theorem processAdminCommand_disabled {command : ModifyingAdminCommand}
    (hnot : command.enables c.isHaPrimary = false) :
    RemainsDisabled c.session (c.processAdminCommand command env).session := by
  unfold processAdminCommand
  cases htype : command.type with
  | setIncomingSequenceNumber => exact .of_eq h rfl rfl
  | setOutgoingSequenceNumber => exact .of_eq h rfl rfl
  | sendSequenceReset =>
    dsimp only
    rw [h, if_neg (by decide)]
    exact .refl h
  | disableSession =>
    dsimp only
    rw [disableSession_disabled h]
    exact .setState _
  | enableSession =>
    have hsecondary : c.isHaPrimary = false := by
      simpa [ModifyingAdminCommand.enables, htype] using hnot
    dsimp only
    rw [hsecondary, if_neg Bool.false_ne_true]
    exact .refl h
  | setIsHaPrimaryInstance =>
    have harg : command.arg ≠ 1 := by
      simpa [ModifyingAdminCommand.enables, htype] using hnot
    dsimp only
    rw [if_neg harg, disableSession_disabled (c := { c with isHaPrimary := command.arg = 1 }) h]
    exact .setState _

theorem processAdminCommands_disabled
    (hnot : c.session.nextCommand (·.enables c.isHaPrimary) = false) :
    RemainsDisabled c.session (c.processAdminCommands env).session := by
  unfold processAdminCommands
  cases hcommands : c.session.adminCommands with
  | nil =>
    rw [tryPopAdminCommand_none hcommands]
    exact .refl h
  | cons command rest =>
    rw [tryPopAdminCommand_cons hcommands]
    rw [nextCommand, hcommands] at hnot
    have hpopped : RemainsDisabled c.session { c.session with adminCommands := rest } :=
      .of_eq h rfl rfl
    exact hpopped.trans (processAdminCommand_disabled
      (c := c.modifySession fun _ => { c.session with adminCommands := rest }) h hnot)

/-- A later pass reads nothing, and `connect` refuses the session. -/
theorem step_disabled (event : Event) (hnot : c.EnablesNot event) :
    RemainsDisabled c.session (c.step event).session := by
  cases event with
  | connect env =>
    rw [step, connect, if_pos h]
    exact .refl h
  | process env =>
    have hreads : c.processReads env = c := by
      rw [processReads, h, if_neg (by decide)]
    rw [step, process, hreads, h, processAfterAdmin, if_neg (by decide), if_neg (by decide)]
    exact processAdminCommands_disabled h hnot
  | shutdown graceful env => exact False.elim hnot
  | pushAdminCommand command => exact .of_eq h rfl rfl

end Later

/-- The command that disables the session leaves it disabled. -/
theorem processAdminCommands_disables (hnext : c.session.nextCommand (·.disables) = true)
    (env : ClientProcessEnv) : (c.processAdminCommands env).session.state = .disabled := by
  unfold processAdminCommands
  rw [nextCommand] at hnext
  cases hcommands : c.session.adminCommands with
  | nil =>
    rw [hcommands] at hnext
    cases hnext
  | cons command rest =>
    rw [hcommands] at hnext
    rw [tryPopAdminCommand_cons hcommands]
    have hdisables : command.disables = true := hnext
    rw [ModifyingAdminCommand.disables, Bool.or_eq_true, Bool.and_eq_true] at hdisables
    dsimp only
    rcases hdisables with htype | ⟨htype, harg⟩
    · rw [processAdminCommand, of_decide_eq_true htype]
      rfl
    · rw [processAdminCommand, of_decide_eq_true htype]
      dsimp only
      rw [if_neg (of_decide_eq_true harg)]
      rfl

/-- Whatever comes behind the command, the session stays disabled until it is enabled, exactly when
the rest of the pass has nothing to do. -/
theorem staysDisabled_iff (c : FixClient) (env : ClientProcessEnv)
    (hnext : (c.processReads env).session.nextCommand (·.disables) = true) :
    StaysDisabled ((c.processReads env).processAdminCommands env).session (c.process env) ↔
      ((c.processReads env).processAdminCommands env).NothingLeft c.session.state env := by
  have hdisabled := processAdminCommands_disables hnext env
  have hrest := (processAfterAdmin_settles ((c.processReads env).processAdminCommands env) env
    hdisabled c.session.state).remains_iff hdisabled
  rw [← hrest]
  constructor
  · exact fun hstays => hstays [] trivial
  · intro hremains events hnot
    exact Guarded.invariant
      (I := fun c' => RemainsDisabled ((c.processReads env).processAdminCommands env).session
        c'.session)
      (fun c' event hc' hevent => hc'.trans (step_disabled hc'.state event hevent)) hremains hnot

end FixClient

/-! ## Both sides -/

/-- A session of a server stays disabled exactly when the command finds it live or without a
connection. A session of a client stays disabled exactly when the rest of the pass has nothing to
do. -/
theorem disabledSessions_iff {start : FixServer} (hstart : start.AtStart)
    (hrunning : start.isStopping = false) (history : List FixServer.Activity) {k : Nat}
    (hnext : ((run FixServer.act start history).sessions k).nextCommand (·.disables) = true)
    (env : ProcessEnv) (c : FixClient) (clientEnv : ClientProcessEnv)
    (hnextClient : (c.processReads clientEnv).session.nextCommand (·.disables) = true) :
    (FixServer.StaysDisabled k
        (((run FixServer.act start history).processAdminCommands k env).sessions k)
        ((run FixServer.act start history).processTurn k env) ↔
      isStateLive ((run FixServer.act start history).sessions k).state = true ∨
        FixServer.Unmapped k (run FixServer.act start history)) ∧
    (FixClient.StaysDisabled ((c.processReads clientEnv).processAdminCommands clientEnv).session
        (c.process clientEnv) ↔
      ((c.processReads clientEnv).processAdminCommands clientEnv).NothingLeft c.session.state
        clientEnv) := by
  have hmapped : start.Mapped :=
    ⟨hstart.connectionsHold.inverse, hstart.connectionsHold.mapped, hrunning⟩
  have hreached := run_invariant (I := FixServer.Mapped)
    (fun _ activity h => FixServer.act_mapped h activity) history hmapped
  exact ⟨FixServer.staysDisabled_iff hreached.inverse hreached.connected hreached.running hnext env,
    FixClient.staysDisabled_iff c clientEnv hnextClient⟩

/-- The command for a session that never had a connection. -/
def exampleDisabling : List FixServer.Activity :=
  [.event (.pushAdminCommand 0 { type := .disableSession })]

/-- A client that is told to disable its session before it connects. -/
def exampleIdle : FixClient := { session := { adminCommands := [{ type := .disableSession }] } }

theorem disabledSessions_iff_idle :
    FixServer.StaysDisabled 0
        (((run FixServer.act FixServer.exampleUnconnected
          exampleDisabling).processAdminCommands 0 {}).sessions 0)
        ((run FixServer.act FixServer.exampleUnconnected exampleDisabling).processTurn 0 {}) ∧
      FixClient.StaysDisabled ((exampleIdle.processReads {}).processAdminCommands {}).session
        (exampleIdle.process {}) := by
  have hstart : FixServer.exampleUnconnected.AtStart := ⟨rfl, fun _ => rfl, rfl⟩
  have hnext : ((run FixServer.act FixServer.exampleUnconnected
      exampleDisabling).sessions 0).nextCommand (·.disables) = true := by decide +kernel
  have hboth := disabledSessions_iff hstart rfl exampleDisabling hnext {} exampleIdle {}
    (by decide +kernel)
  refine ⟨hboth.1.mpr (Or.inr rfl), hboth.2.mpr ⟨fun hlive => ?_, fun hpending => ?_⟩⟩
  · cases hlive
  · cases hpending

/-- A connection that logs on and out, and the command behind it. -/
def exampleLoggedOut : List FixServer.Activity :=
  [.event (.connect 0),
    .event (.receive 0
      [(peerMessage exampleSettings msgTypeLogon 8
        [(tagEncryptMethod, text "0"), (tagHeartBtInt, text "30")], {}),
        (peerMessage exampleSettings msgTypeLogout 9 [], {})]),
    .event (.pushAdminCommand 0 { type := .disableSession })]

/-- A second Logon on that connection. -/
def exampleSecondLogon : FixServer.Activity :=
  .event (.receive 0 [(peerMessage exampleSettings msgTypeLogon 10
    [(tagEncryptMethod, text "0"), (tagHeartBtInt, text "30")], {})])

/-- A client that is told to disable its session in the pass in which it reads a ResendRequest. -/
def exampleAsked : FixClient :=
  { FixClient.exampleReceiver with
    session :=
      { FixClient.exampleReceiver.session with adminCommands := [{ type := .disableSession }] } }

def exampleAskedEnv : ClientProcessEnv :=
  { read := .data [(peerMessage exampleSettings msgTypeResendRequest 6
      [(tagBeginSeqNo, text "1"), (tagEndSeqNo, text "0")], {})] false }

/-- The second Logon logs on the disabled session, and the answer to the ResendRequest does so with
the disabled session of the client. -/
theorem disabledSessions_fails :
    FixServer.exampleUnconnected.AtStart ∧
      ((run FixServer.act FixServer.exampleUnconnected exampleLoggedOut).sessions 0).nextCommand
        (·.disables) = true ∧
      ¬ FixServer.StaysDisabled 0
        (((run FixServer.act FixServer.exampleUnconnected
          exampleLoggedOut).processAdminCommands 0 {}).sessions 0)
        ((run FixServer.act FixServer.exampleUnconnected exampleLoggedOut).processTurn 0 {}) ∧
      (exampleAsked.processReads exampleAskedEnv).session.nextCommand (·.disables) = true ∧
      ¬ FixClient.StaysDisabled
        ((exampleAsked.processReads exampleAskedEnv).processAdminCommands exampleAskedEnv).session
        (exampleAsked.process exampleAskedEnv) := by
  refine ⟨⟨rfl, fun _ => rfl, rfl⟩, by decide +kernel, fun h => ?_, by decide +kernel, fun h => ?_⟩
  · exact absurd (h [exampleSecondLogon] ⟨trivial, trivial⟩).state (by decide +kernel)
  · exact absurd (h [] trivial).state (by decide +kernel)

end Llfix
