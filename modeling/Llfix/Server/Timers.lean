import Llfix.Server.NewMessages
import Llfix.Timers

/-!
# The timers of a session of the server

Session `i` is served by connection `p`. The turns of the other sessions and what is sent to their
peers do not count as heard.

Results:
1. `processTurn_looks`: a turn of the session is one look at the clock.
2. `processTurn_state`: a session that is not given up stays as it is, when its sends go out.
-/

namespace Llfix

namespace FixServer

open FixSession Watchdog

variable {i p : Nat} {srv srv' srv'' : FixServer}

/-- While session `i` is live, connection `p` is up and serves it. -/
def Serves (i p : Nat) (srv : FixServer) : Prop :=
  isStateLive (srv.sessions i).state = true → srv.connected p = true ∧ srv.ServedBy i p

/-- Session `i` hears nothing and asks nothing. -/
structure Unheard (i p : Nat) (srv srv' : FixServer) : Prop where
  session : FixSession.Unheard (srv.sessions i) (srv'.sessions i)
  serves : srv.Serves i p → srv'.Serves i p

namespace Unheard

theorem refl (srv : FixServer) : Unheard i p srv srv := ⟨.refl _, id⟩

theorem trans (h : Unheard i p srv srv') (h' : Unheard i p srv' srv'') : Unheard i p srv srv'' :=
  ⟨h.session.trans h'.session, h'.serves ∘ h.serves⟩

/-- What leaves session and tables alone. -/
theorem aside (hsession : srv'.sessions i = srv.sessions i)
    (hconnectors : srv'.connectors = srv.connectors) (hconnected : srv'.connected = srv.connected) :
    Unheard i p srv srv' := by
  refine ⟨hsession ▸ .refl _, fun h hlive => ?_⟩
  rw [hsession] at hlive
  obtain ⟨hp, hserved⟩ := h hlive
  exact ⟨hconnected ▸ hp, hserved.of_connectors hconnectors (hsession ▸ hserved.known)⟩

theorem onSlot (srv : FixServer) (operation : SlotOperation) :
    Unheard i p srv (srv.onSlot operation) :=
  aside rfl rfl rfl

/-- An update that leaves the state of its session as it is. -/
theorem modify (srv : FixServer) (j : Nat) {f : FixSession → FixSession}
    (hf : ∀ s, FixSession.Unheard s (f s) ∧ (f s).state = s.state) :
    Unheard i p srv (srv.modifySession j f) := by
  have hstate : ((srv.modifySession j f).sessions i).state = (srv.sessions i).state := by
    by_cases hj : i = j
    · rw [hj, modifySession_sessions_self]
      exact (hf _).2
    · rw [modifySession_sessions_ne srv hj]
  refine ⟨?_, fun h hlive => ?_⟩
  · by_cases hj : i = j
    · rw [hj, modifySession_sessions_self]
      exact (hf _).1
    · rw [modifySession_sessions_ne srv hj]
      exact .refl _
  · rw [hstate] at hlive
    obtain ⟨hp, hserved⟩ := h hlive
    exact ⟨hp, hserved.of_connectors rfl (by rw [hstate]; exact hserved.known)⟩

theorem modify_other {j : Nat} (hj : j ≠ i) (srv : FixServer) (f : FixSession → FixSession) :
    Unheard i p srv (srv.modifySession j f) :=
  aside (modifySession_sessions_ne srv (Ne.symm hj) f) rfl rfl

theorem disconnect (srv : FixServer) (q : Nat) :
    Unheard i p srv (srv.onClientDisconnected q) where
  session := by
    rw [onClientDisconnected_sessions]
    split
    · exact .ended rfl rfl rfl
    · exact .refl _
  serves h hlive := by
    rw [onClientDisconnected_sessions] at hlive
    split at hlive
    · cases hlive
    · next hother =>
      -- The connection of a live session is another one.
      obtain ⟨hp, hserved⟩ := h hlive
      have hq : q ≠ p := by
        rintro rfl
        exact hother hserved.session
      rw [onClientDisconnected_connected, Function.update_of_ne (Ne.symm hq)]
      exact ⟨hp, (hserved.disconnect hq).1⟩

theorem closeConnection (srv : FixServer) (peer : Option Nat) :
    Unheard i p srv (srv.closeConnection peer) := by
  cases peer with
  | none => exact aside rfl rfl rfl
  | some q => exact disconnect srv q

theorem sendBytes (srv : FixServer) (j : Nat) (t : Transmission) (o : SendOutcome) :
    Unheard i p srv (srv.sendBytes j t o) := by
  have hrecord : ∀ (o : Output) (s : FixSession),
      FixSession.Unheard s (s.record o) ∧ (s.record o).state = s.state :=
    fun _ _ => ⟨⟨rfl, rfl, id⟩, rfl⟩
  have hsent : ∀ (b ret : Bool) (ts : UInt64) (s : FixSession),
      FixSession.Unheard s (s.afterSend b ret ts) ∧ (s.afterSend b ret ts).state = s.state :=
    fun b ret ts s => ⟨.of_core (core_afterSend s b ret ts) (by rw [afterSend_state]; exact id),
      afterSend_state s b ret ts⟩
  cases hpeer : srv.connectors.getPeerIndex j with
  | none =>
    rw [sendBytes_unmapped srv j hpeer]
    exact .refl srv
  | some q =>
    have hslot : Unheard i p srv (srv.onSlot (.sent q)) := .onSlot srv _
    by_cases ho : o.result = .connectionLost
    · rw [sendBytes_lost srv j hpeer t ho]
      exact ((hslot.trans (.modify _ j fun s => hrecord _ s)).trans (.disconnect _ q)).trans
        (.modify _ j fun s => hsent _ _ _ s)
    · rw [sendBytes_held srv j hpeer t ho]
      refine hslot.trans (.modify _ j fun s => ?_)
      have h := hsent t.incrementOutgoingSeqNo (o.result = .ok) o.timestamp
        (s.record (.sent t s.sequenceStore.incomingSeqNo (o.result = .ok)))
      exact ⟨(hrecord _ s).1.trans h.1, h.2⟩

theorem closure (srv : FixServer) (peer : Option Nat) (sendLogout : Bool) (reason : Bytes)
    (o : SendOutcome) :
    Unheard i p srv (srv.processConnectionClosure peer sendLogout reason o) := by
  unfold processConnectionClosure
  cases sendLogout with
  | false => exact closeConnection srv peer
  | true =>
    cases peer.bind srv.connectors.getSession with
    | none => exact closeConnection srv peer
    | some j => exact (sendBytes srv j _ o).trans (closeConnection _ peer)

end Unheard

/-- A live session ends with its connection. -/
theorem Serves.closed (h : srv.Serves i p) (hlive : isStateLive (srv.sessions i).state = true) :
    srv.processConnectionClosure (srv.connectors.getPeerIndex i) false [] {} =
        srv.onClientDisconnected p ∧
      (srv.onClientDisconnected p).sessions i = (srv.sessions i).setState .disconnected := by
  obtain ⟨-, hserved⟩ := h hlive
  constructor
  · rw [hserved.peer]
    rfl
  · rw [onClientDisconnected_sessions, if_pos hserved.session]

/-- A send that goes out leaves the state as it is. -/
theorem sendBytes_state (srv : FixServer) (j : Nat) (t : Transmission) {o : SendOutcome}
    (ho : o.result = .ok) :
    ((srv.sendBytes j t o).sessions i).state = (srv.sessions i).state := by
  cases hpeer : srv.connectors.getPeerIndex j with
  | none => rw [sendBytes_unmapped srv j hpeer]
  | some q =>
    have hheld : o.result ≠ .connectionLost := by
      rw [ho]
      exact SendResult.noConfusion
    rw [sendBytes_held srv j hpeer t hheld]
    by_cases hj : i = j
    · rw [hj, modifySession_sessions_self, afterSend_state, record_state]
      rfl
    · rw [modifySession_sessions_ne _ hj]
      rfl

theorem sendTestRequest_state (srv : FixServer) {o : SendOutcome} (ho : o.result = .ok) :
    ((srv.sendTestRequest i o).sessions i).state = (srv.sessions i).state := by
  refine (sendBytes_state _ i _ ho).trans ?_
  rw [modifySession_sessions_self]

section Turn

variable {env : ProcessEnv}

/-- An update of the session that leaves its state as it is. -/
theorem Serves.modify (h : srv.Serves i p) {f : FixSession → FixSession}
    (hf : (f (srv.sessions i)).state = (srv.sessions i).state) :
    (srv.modifySession i f).Serves i p := by
  have hstate : ((srv.modifySession i f).sessions i).state = (srv.sessions i).state := by
    rw [modifySession_sessions_self]
    exact hf
  intro hlive
  rw [hstate] at hlive
  obtain ⟨hp, hserved⟩ := h hlive
  exact ⟨hp, hserved.of_connectors rfl (by rw [hstate]; exact hserved.known)⟩

theorem sendTestRequest_unheard (srv : FixServer) (o : SendOutcome) :
    Unheard i p srv (srv.sendTestRequest i o) := by
  have hbuilt : Unheard i p srv
      (srv.modifySession i fun _ => (srv.sessions i).buildTestRequestMessage.1) := by
    refine ⟨?_, fun h => h.modify rfl⟩
    rw [modifySession_sessions_self]
    exact ⟨rfl, rfl, id⟩
  exact hbuilt.trans (.sendBytes _ i _ _)

theorem processOutgoingTestRequest_serves (h : srv.Serves i p) :
    (srv.processOutgoingTestRequestIfNecessary i env).Serves i p := by
  unfold processOutgoingTestRequestIfNecessary
  dsimp only
  split_ifs
  · exact ((srv.sendTestRequest_unheard _).serves h).modify rfl
  · exact h
  · exact (Unheard.closure _ _ false [] {}).serves (h.modify rfl)
  · exact h

/-- The step for the TestRequest is one look at the clock. -/
theorem processOutgoingTestRequest_looks (hserves : srv.Serves i p)
    (hclock : (srv.sessions i).Clocked env.testRequestTimestamp.toNat) :
    Looks env.testRequestTimestamp.toNat (srv.sessions i)
      ((srv.processOutgoingTestRequestIfNecessary i env).sessions i) := by
  unfold processOutgoingTestRequestIfNecessary
  dsimp only
  split_ifs with hexpecting hdue hexpired
  · have hsent : Unheard i p srv (srv.sendTestRequest i env.testRequestSend) :=
      srv.sendTestRequest_unheard _
    rw [modifySession_sessions_self]
    exact .asks hexpecting hclock hdue hsent.session
  · exact .idle (by rw [look_of_heard hexpecting hclock, if_neg hdue])
  · let flagged := srv.modifySession i (·.setExpectingResponseForOutgoingTestRequest false)
    have hflagged : flagged.sessions i =
        (srv.sessions i).setExpectingResponseForOutgoingTestRequest false :=
      modifySession_sessions_self srv i _
    have hserves' : flagged.Serves i p := hserves.modify rfl
    have hclosed : Unheard i p flagged (flagged.processConnectionClosure
        (flagged.connectors.getPeerIndex i) false [] {}) := .closure flagged _ false [] {}
    refine .ended ?_ ?_
    · rw [hclosed.session.settings, hflagged]
      rfl
    · cases hlive : isStateLive (flagged.sessions i).state with
      | true =>
        obtain ⟨hpeer, hended⟩ := hserves'.closed hlive
        show isStateLive ((flagged.processConnectionClosure (flagged.connectors.getPeerIndex i)
          false [] {}).sessions i).state = false
        rw [hpeer, hended]
        rfl
      | false =>
        rw [← Bool.not_eq_true]
        exact fun hlive' => absurd (hclosed.session.live hlive') (ne_true_of_eq_false hlive)
  · exact .idle (by rw [look_of_asked (eq_true_of_ne_false hexpecting) hclock, if_neg hexpired])

theorem processOutgoingResendRequest_unheard
    (hasks : (srv.sessions i).needsToSendResendRequest = false) (env : ProcessEnv) :
    Unheard i p srv (srv.processOutgoingResendRequestIfNecessary i env) := by
  unfold processOutgoingResendRequestIfNecessary
  dsimp only
  rw [hasks, if_neg Bool.false_ne_true]
  split_ifs
  · exact .closure srv _ false [] {}
  · exact .refl srv
  · exact .refl srv

theorem respondToTestRequest_unheard :
    Unheard i p srv (srv.respondToTestRequestIfNecessary i env) := by
  unfold respondToTestRequestIfNecessary
  dsimp only
  split
  · have hsent : Unheard i p srv (srv.sendHeartbeat i (srv.sessions i).savedTestRequestId
        env.testResponseSend) := .sendBytes srv i _ _
    exact hsent.trans (.modify _ i fun _ => ⟨⟨rfl, rfl, id⟩, rfl⟩)
  · exact .refl srv

theorem sendHeartbeat_unheard : Unheard i p srv (srv.sendHeartbeatIfNecessary i env) := by
  unfold sendHeartbeatIfNecessary
  split
  · exact .sendBytes srv i _ _
  · exact .refl srv

theorem processScheduleValidator_unheard :
    Unheard i p srv (srv.processScheduleValidator i env) := by
  unfold processScheduleValidator
  split
  · exact .closure srv _ true [] _
  · exact .refl srv

/-- With nothing owed, nothing is answered behind the TestRequest. -/
theorem processTurn_eq_of_idle (hidle : (srv.sessions i).Idle) :
    srv.processTurn i env =
      if isStateLive (srv.sessions i).state then
        ((((srv.processOutgoingResendRequestIfNecessary i env).processOutgoingTestRequestIfNecessary
          i env).respondToTestRequestIfNecessary i env).sendHeartbeatIfNecessary i
            env).processScheduleValidator i env
      else srv := by
  have hadmin : srv.processAdminCommands i env = srv := by
    rw [processAdminCommands, tryPopAdminCommand, hidle.commands]
  have hask : Moves i 0 [] srv (srv.processOutgoingResendRequestIfNecessary i env) :=
    processOutgoingResendRequest_moves srv hidle.asksNothing env
  have htest := hask.next (processOutgoingTestRequest_moves _ env)
  have howes := (htest.session.keeps.idle hidle).owesNothing
  unfold processTurn
  rw [hadmin]
  dsimp only
  split
  · unfold processLive
    dsimp only
    rw [respondToResendRequestIfNecessary]
    simp only [howes, if_false, Bool.false_eq_true]
  · rfl

/-- What a turn does behind the TestRequest. -/
theorem answers_unheard (srv : FixServer) (env : ProcessEnv) :
    Unheard i p srv (((srv.respondToTestRequestIfNecessary i env).sendHeartbeatIfNecessary i
      env).processScheduleValidator i env) :=
  (respondToTestRequest_unheard.trans sendHeartbeat_unheard).trans processScheduleValidator_unheard

theorem processTurn_serves (hserves : srv.Serves i p) (hidle : (srv.sessions i).Idle) :
    (srv.processTurn i env).Serves i p := by
  have hask := (processOutgoingResendRequest_unheard hidle.asksNothing env).serves hserves
  rw [processTurn_eq_of_idle hidle]
  split
  · exact (answers_unheard _ env).serves (processOutgoingTestRequest_serves hask)
  · exact hserves

/-- A turn of the session is one look at the clock. -/
theorem processTurn_looks (hserves : srv.Serves i p) (hidle : (srv.sessions i).Idle)
    (hlive : isStateLive (srv.sessions i).state = true)
    (hclock : (srv.sessions i).Clocked env.testRequestTimestamp.toNat) :
    Looks env.testRequestTimestamp.toNat (srv.sessions i)
      ((srv.processTurn i env).sessions i) := by
  have hask : Unheard i p srv (srv.processOutgoingResendRequestIfNecessary i env) :=
    processOutgoingResendRequest_unheard hidle.asksNothing env
  have hclock' : ((srv.processOutgoingResendRequestIfNecessary i env).sessions i).Clocked
      env.testRequestTimestamp.toNat := by
    rw [Clocked, hask.session.vigil]
    exact hclock
  have htest := processOutgoingTestRequest_looks (hask.serves hserves) hclock'
  have hrest : Unheard i p _ _ := answers_unheard ((srv.processOutgoingResendRequestIfNecessary i
    env).processOutgoingTestRequestIfNecessary i env) env
  rw [processTurn_eq_of_idle hidle, if_pos hlive]
  exact (htest.after hask.session).next hrest.session

/-- The turn of another session. -/
theorem processTurn_unheard {j : Nat} (hj : j ≠ i) : Unheard i p srv (srv.processTurn j env) := by
  have hrespects : RespectsTurn j TurnUpdate (Unheard i p) :=
    ⟨.refl, .trans, fun srv => .sendBytes srv j, fun srv => .closure srv _,
      fun srv f _ => .modify_other hj srv f⟩
  exact hrespects.processTurn srv env (fun _ _ => .aside rfl rfl rfl)
    fun _ _ _ srv' => .modify_other hj srv' _

/-- A turn leaves the state of its session as it is, when its sends go out and nothing but the
vigil could end the session. -/
theorem processTurn_state (hcalm : (srv.sessions i).Calm) (hundisturbed : env.Undisturbed)
    (hlive : isStateLive (srv.sessions i).state = true)
    (hclock : (srv.sessions i).Clocked env.testRequestTimestamp.toNat)
    (hlook : (srv.sessions i).vigil.look (srv.sessions i).limits
      env.testRequestTimestamp.toNat ≠ none) :
    ((srv.processTurn i env).sessions i).state = (srv.sessions i).state := by
  have hask : srv.processOutgoingResendRequestIfNecessary i env = srv := by
    unfold processOutgoingResendRequestIfNecessary
    dsimp only
    rw [if_neg hcalm.waitsNot, hcalm.asksNothing, if_neg Bool.false_ne_true]
  have htest : ((srv.processOutgoingTestRequestIfNecessary i env).sessions i).state =
      (srv.sessions i).state := by
    unfold processOutgoingTestRequestIfNecessary
    dsimp only
    split_ifs with hexpecting hdue hexpired
    · rw [modifySession_sessions_self]
      exact sendTestRequest_state srv hundisturbed.testRequest
    · rfl
    · refine absurd ?_ hlook
      rw [look_of_asked (eq_true_of_ne_false hexpecting) hclock, if_pos hexpired]
    · rfl
  rw [processTurn_eq_of_idle hcalm.toIdle, if_pos hlive, hask, processScheduleValidator,
    hundisturbed.schedule, if_neg Bool.true_eq_false.mp]
  generalize srv.processOutgoingTestRequestIfNecessary i env = srv' at htest
  have hanswer : ((srv'.respondToTestRequestIfNecessary i env).sessions i).state =
      (srv'.sessions i).state := by
    unfold respondToTestRequestIfNecessary
    dsimp only
    split
    · rw [modifySession_sessions_self]
      exact sendBytes_state srv' i _ hundisturbed.testResponse
    · rfl
  rw [← htest, ← hanswer]
  unfold sendHeartbeatIfNecessary
  split
  · exact sendBytes_state _ i _ hundisturbed.heartbeat
  · rfl

end Turn

end FixServer

end Llfix
