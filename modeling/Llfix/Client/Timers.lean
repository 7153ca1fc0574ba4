import Llfix.Client.NewMessages
import Llfix.Client.Retransmission
import Llfix.Timers

/-!
# The timers of the client

Results:
1. `process_looks`: a `process` in which nothing arrives is one look at the clock.
2. `process_state`: a session that is not given up stays as it is, when its sends go out.
-/

namespace Llfix

open FixSession Watchdog

/-- A read that brings no message. -/
def ReadOutcome.IsSilent : ReadOutcome → Prop
  | .data messages _ => messages = []
  | _ => True

/-- A `process` in which no message arrives. -/
structure ClientProcessEnv.Silent (env : ClientProcessEnv) : Prop where
  read : env.read.IsSilent
  shutdown : env.scheduleValid = false → env.scheduleShutdown.reads = []

namespace FixClient

variable (c : FixClient)

theorem onConnectionLost_unheard : Unheard c.session c.onConnectionLost.session :=
  .ended rfl rfl rfl

theorem sendBytes_unheard (t : Transmission) (o : SendOutcome) :
    Unheard c.session (c.sendBytes t o).session := by
  refine .of_core (sendBytes_core c t o) ?_
  cases hopen : c.socketOpen with
  | false =>
    rw [sendBytes_closed c t hopen, modifySession_session, afterSend_state]
    exact id
  | true =>
    by_cases ho : o.result = .connectionLost
    · rw [sendBytes_lost c t hopen ho, modifySession_session, afterSend_state]
      exact fun hlive => nomatch hlive
    · rw [sendBytes_held c t hopen ho, modifySession_session, afterSend_state, record_state]
      exact id

/-- A send that goes out leaves the state as it is. -/
theorem sendBytes_state (t : Transmission) {o : SendOutcome} (ho : o.result = .ok) :
    (c.sendBytes t o).session.state = c.session.state := by
  cases hopen : c.socketOpen with
  | false => rw [sendBytes_closed c t hopen, modifySession_session, afterSend_state]
  | true =>
    have hheld : o.result ≠ .connectionLost := by
      rw [ho]
      exact SendResult.noConfusion
    rw [sendBytes_held c t hopen hheld, modifySession_session, afterSend_state, record_state]

theorem doShutdown_unheard (graceful : Bool) {senv : ShutdownEnv}
    (hreads : graceful = true → senv.reads = []) :
    Unheard c.session (c.doShutdown graceful senv).session := by
  have hend : ∀ c' : FixClient, Unheard c.session c'.session →
      Unheard c.session (c'.close.modifySession (·.setState .disconnected)).session :=
    fun c' h => .ended h.vigil h.settings rfl
  rw [doShutdown_eq]
  refine hend _ ?_
  split
  · next hgraceful =>
    rw [Bool.and_eq_true] at hgraceful
    rw [hreads hgraceful.1]
    let flagged := c.onConnectionLost.modifySession (·.setReceivedLogoutResponse false)
    have hflag : Unheard c.session flagged.session := .ended rfl rfl rfl
    have hsent : Unheard flagged.session (flagged.sendLogoutRequest senv.logoutSend).session :=
      flagged.sendBytes_unheard _ _
    have hboth := hflag.trans hsent
    exact .ended hboth.vigil hboth.settings rfl
  · exact c.onConnectionLost_unheard

section Process

variable {c} {env : ClientProcessEnv}

theorem processReads_unheard (hread : env.read.IsSilent) :
    Unheard c.session (c.processReads env).session := by
  unfold processReads processIncomingMessages
  split
  · split
    · split
      · exact .refl _
      · exact c.onConnectionLost_unheard
      · next messages lostAfter heq =>
        rw [heq] at hread
        obtain rfl : messages = [] := hread
        dsimp only
        split
        · exact c.onConnectionLost_unheard
        · exact .refl _
    · exact .refl _
  · exact .refl _

theorem sendTestRequest_unheard (o : SendOutcome) :
    Unheard c.session (c.sendTestRequest o).session := by
  have hbuilt : Unheard c.session c.session.buildTestRequestMessage.1 := ⟨rfl, rfl, id⟩
  exact hbuilt.trans
    (sendBytes_unheard (c.modifySession fun _ => c.session.buildTestRequestMessage.1) _ o)

/-- The step for the TestRequest is one look at the clock. -/
theorem processOutgoingTestRequest_looks
    (hclock : c.session.Clocked env.testRequestTimestamp.toNat) :
    Looks env.testRequestTimestamp.toNat c.session
      (c.processOutgoingTestRequestIfNecessary env).session := by
  unfold processOutgoingTestRequestIfNecessary
  dsimp only
  split_ifs with hexpecting hdue hexpired
  · exact .asks hexpecting hclock hdue (sendTestRequest_unheard _)
  · exact .idle (by rw [look_of_heard hexpecting hclock, if_neg hdue])
  · exact .ended rfl rfl
  · exact .idle (by rw [look_of_asked (eq_true_of_ne_false hexpecting) hclock, if_neg hexpired])

theorem processOutgoingResendRequest_unheard (hasks : c.session.needsToSendResendRequest = false) :
    Unheard c.session (c.processOutgoingResendRequestIfNecessary env).session := by
  unfold processOutgoingResendRequestIfNecessary
  dsimp only
  rw [hasks, if_neg Bool.false_ne_true]
  split_ifs
  · exact c.doShutdown_unheard false (absurd · Bool.false_ne_true)
  · exact .refl _
  · exact .refl _

theorem respondToTestRequest_unheard :
    Unheard c.session (c.respondToTestRequestIfNecessary env).session := by
  unfold respondToTestRequestIfNecessary
  dsimp only
  split
  · have hsent := c.sendBytes_unheard (.original
      (buildHeartbeatMessage c.session.savedTestRequestId)
        (c.session.sequenceStore.outgoingSeqNo + 1)) env.testResponseSend
    exact ⟨hsent.vigil, hsent.settings, hsent.live⟩
  · exact .refl _

theorem sendClientHeartbeat_unheard :
    Unheard c.session (c.sendClientHeartbeatIfNecessary env).session := by
  unfold sendClientHeartbeatIfNecessary
  split
  · exact c.sendBytes_unheard _ env.heartbeatSend
  · exact .refl _

theorem processScheduleValidator_unheard
    (hreads : env.scheduleValid = false → env.scheduleShutdown.reads = []) :
    Unheard c.session (c.processScheduleValidator env).session := by
  unfold processScheduleValidator
  split
  · next hinvalid => exact c.doShutdown_unheard true fun _ => hreads hinvalid
  · exact .refl _

theorem processReads_keeps (hread : env.read.IsSilent) :
    Keeps c.session (c.processReads env).session := by
  unfold processReads processIncomingMessages
  split
  · split
    · split
      · exact .refl _
      · exact c.onConnectionLost_moves.keeps
      · next messages lostAfter heq =>
        rw [heq] at hread
        obtain rfl : messages = [] := hread
        dsimp only
        split
        · exact c.onConnectionLost_moves.keeps
        · exact .refl _
    · exact .refl _
  · exact .refl _

theorem process_keeps (hidle : c.session.Idle) (hsilent : env.Silent) :
    Keeps c.session (c.process env).session := by
  have hreads := processReads_keeps (c := c) hsilent.read
  exact hreads.trans (processAfterReads_moves _ env (hreads.idle hidle) _ hsilent.shutdown).keeps

/-- With nothing owed, nothing is answered behind the TestRequest. -/
theorem processLive_eq_of_idle (hidle : c.session.Idle) :
    c.processLive env = ((((c.processOutgoingResendRequestIfNecessary
      env).processOutgoingTestRequestIfNecessary env).respondToTestRequestIfNecessary
        env).sendClientHeartbeatIfNecessary env).processScheduleValidator env := by
  have hask := c.processOutgoingResendRequest_moves env hidle.asksNothing
  have htest := hask.next (processOutgoingTestRequest_moves _ env)
  have howes := (htest.keeps.idle hidle).owesNothing
  unfold processLive
  dsimp only
  rw [respondToResendRequestIfNecessary]
  simp only [howes, if_false, Bool.false_eq_true]

/-- The steps of an idle client are one look at the clock. -/
theorem processLive_looks (hidle : c.session.Idle)
    (hreads : env.scheduleValid = false → env.scheduleShutdown.reads = [])
    (hclock : c.session.Clocked env.testRequestTimestamp.toNat) :
    Looks env.testRequestTimestamp.toNat c.session (c.processLive env).session := by
  have hask : Unheard c.session (c.processOutgoingResendRequestIfNecessary env).session :=
    processOutgoingResendRequest_unheard hidle.asksNothing
  have hclock' : (c.processOutgoingResendRequestIfNecessary env).session.Clocked
      env.testRequestTimestamp.toNat := by
    rw [Clocked, hask.vigil]
    exact hclock
  rw [processLive_eq_of_idle hidle]
  exact ((((processOutgoingTestRequest_looks hclock').after hask).next
    respondToTestRequest_unheard).next sendClientHeartbeat_unheard).next
      (processScheduleValidator_unheard hreads)

/-- What a `process` without admin commands does behind its reads. -/
theorem process_eq_of_idle (hidle : c.session.Idle) (hread : env.read.IsSilent) :
    (c.processReads env).session.Idle ∧
      c.process env = (c.processReads env).processAfterAdmin c.session.state env := by
  have hidle' := (processReads_keeps hread).idle hidle
  refine ⟨hidle', ?_⟩
  unfold process
  dsimp only
  rw [processAdminCommands, tryPopAdminCommand, hidle'.commands]

/-- A `process` in which nothing arrives is one look at the clock. -/
theorem process_looks (hidle : c.session.Idle) (hsilent : env.Silent)
    (hlive : isStateLive c.session.state = true)
    (hclock : c.session.Clocked env.testRequestTimestamp.toNat) :
    Looks env.testRequestTimestamp.toNat c.session (c.process env).session := by
  have hreads : Unheard c.session (c.processReads env).session :=
    processReads_unheard hsilent.read
  have hclock' : (c.processReads env).session.Clocked env.testRequestTimestamp.toNat := by
    rw [Clocked, hreads.vigil]
    exact hclock
  obtain ⟨hidle', hprocess⟩ := process_eq_of_idle hidle hsilent.read
  rw [hprocess, processAfterAdmin, if_pos hlive]
  exact (processLive_looks hidle' hsilent.shutdown hclock').after hreads

/-- A look that does not give up leaves the state as it is, when all sends go out. -/
theorem processOutgoingTestRequest_state (hsend : env.testRequestSend.result = .ok)
    (hclock : c.session.Clocked env.testRequestTimestamp.toNat)
    (hlook : c.session.vigil.look c.session.limits env.testRequestTimestamp.toNat ≠ none) :
    (c.processOutgoingTestRequestIfNecessary env).session.state = c.session.state := by
  unfold processOutgoingTestRequestIfNecessary
  dsimp only
  split_ifs with hexpecting hdue hexpired
  · exact sendBytes_state (c.modifySession fun _ => c.session.buildTestRequestMessage.1) _ hsend
  · rfl
  · refine absurd ?_ hlook
    rw [look_of_asked (eq_true_of_ne_false hexpecting) hclock, if_pos hexpired]
  · rfl

/-- A `process` in which nothing arrives leaves the state as it is, when its sends go out, the
connection stays and nothing but the vigil could end the session. -/
theorem process_state (hcalm : c.session.Calm) (hsilent : env.Silent)
    (hundisturbed : env.Undisturbed) (hread : env.read ≠ .lost)
    (hlive : isStateLive c.session.state = true)
    (hclock : c.session.Clocked env.testRequestTimestamp.toNat)
    (hlook : c.session.vigil.look c.session.limits env.testRequestTimestamp.toNat ≠ none) :
    (c.process env).session.state = c.session.state := by
  have hreads : c.processReads env = c := by
    unfold processReads processIncomingMessages
    split
    · split
      · next hopen =>
        split
        · rfl
        · next hlost => exact absurd hlost hread
        · next messages lostAfter heq =>
          have hmessages := hsilent.read
          rw [heq] at hmessages
          obtain rfl : messages = [] := hmessages
          have hstays : (c.processRxBuffer []).socketOpen = true := hopen
          dsimp only
          rw [hstays]
          rfl
      · rfl
    · rfl
  have hask : c.processOutgoingResendRequestIfNecessary env = c := by
    unfold processOutgoingResendRequestIfNecessary
    dsimp only
    rw [if_neg hcalm.waitsNot, hcalm.asksNothing, if_neg Bool.false_ne_true]
  obtain ⟨-, hprocess⟩ := process_eq_of_idle hcalm.toIdle hsilent.read
  rw [hprocess, hreads, processAfterAdmin, if_pos hlive, processLive_eq_of_idle hcalm.toIdle, hask,
    processScheduleValidator, hundisturbed.schedule, if_neg Bool.true_eq_false.mp]
  have htest := processOutgoingTestRequest_state hundisturbed.testRequest hclock hlook
  generalize c.processOutgoingTestRequestIfNecessary env = c' at htest
  rw [← htest]
  have hanswer : (c'.respondToTestRequestIfNecessary env).session.state = c'.session.state := by
    unfold respondToTestRequestIfNecessary
    dsimp only
    split
    · exact sendBytes_state c' _ hundisturbed.testResponse
    · rfl
  rw [← hanswer]
  unfold sendClientHeartbeatIfNecessary
  split
  · exact sendBytes_state _ _ hundisturbed.heartbeat
  · rfl

end Process

end FixClient

end Llfix
