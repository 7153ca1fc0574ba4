import Llfix.NewMessages
import Llfix.Server.DisabledSessions
import Llfix.Server.Retransmission

/-!
# A session of the server without a gap

What the client's session does holds of session `i` of the server, as long as it keeps its
connection `p`. The turns of the other sessions leave it alone, or close its connection.

Results:
1. `dispatch_handles`: what the `switch` on MsgType does with a counted message.
2. `process_moves`: a `process` sends new messages only.
-/

namespace Llfix

namespace FixServer

open FixSession

/-- Connection `p` and session `i` are mapped to each other and to nothing else, and the session
knows. -/
structure ServedBy (i p : Nat) (srv : FixServer) : Prop where
  session : srv.connectors.getSession p = some i
  peer : srv.connectors.getPeerIndex i = some p
  sole : ∀ q, srv.connectors.getSession q = some i → q = p
  own : ∀ j, srv.connectors.getPeerIndex j = some p → j = i
  known : (srv.sessions i).state ≠ .disconnected

namespace ServedBy

variable {i p q : Nat} {srv srv' : FixServer}

/-- What leaves the tables alone. -/
theorem of_connectors (h : srv.ServedBy i p) (hconnectors : srv'.connectors = srv.connectors)
    (hknown : (srv'.sessions i).state ≠ .disconnected) : srv'.ServedBy i p where
  session := hconnectors ▸ h.session
  peer := hconnectors ▸ h.peer
  sole := hconnectors ▸ h.sole
  own := hconnectors ▸ h.own
  known := hknown

/-- Another connection goes, and takes another session along. -/
theorem disconnect (h : srv.ServedBy i p) (hq : q ≠ p) :
    (srv.onClientDisconnected q).ServedBy i p ∧
      (srv.onClientDisconnected q).sessions i = srv.sessions i := by
  have hother : srv.connectors.getSession q ≠ some i := fun hmapped => hq (h.sole q hmapped)
  have hsession : (srv.onClientDisconnected q).sessions i = srv.sessions i := by
    rw [onClientDisconnected_sessions, if_neg hother]
  refine ⟨⟨?_, ?_, ?_, ?_, ?_⟩, hsession⟩
  · rw [onClientDisconnected_getSession_ne srv (Ne.symm hq)]
    exact h.session
  · cases hmapped : srv.connectors.getSession q with
    | none =>
      rw [onClientDisconnected_unmapped srv q hmapped]
      exact h.peer
    | some j =>
      have hj : i ≠ j := by
        rintro rfl
        exact hother hmapped
      rw [onClientDisconnected_mapped srv q hmapped]
      exact (Function.update_of_ne hj _ _).trans h.peer
  · exact fun q' hq' => h.sole q' (onClientDisconnected_getSession srv q hq').2
  · exact fun j hj => h.own j (onClientDisconnected_getPeerIndex srv q hj)
  · rw [hsession]
    exact h.known

end ServedBy

/-- Connection `p`, while it is up, serves session `i`. -/
def Holding (i p : Nat) (srv : FixServer) : Prop := srv.connected p = true → srv.ServedBy i p

/-- What leaves session and tables alone. -/
theorem Holding.aside {i p : Nat} {srv srv' : FixServer} (h : srv.Holding i p)
    (hsession : srv'.sessions i = srv.sessions i) (hconnectors : srv'.connectors = srv.connectors)
    (hconnected : srv'.connected = srv.connected) : srv'.Holding i p := by
  intro hp
  rw [hconnected] at hp
  exact (h hp).of_connectors hconnectors (by rw [hsession]; exact (h hp).known)

/-- Session `i` moves, and goes on holding its connection while that is up. -/
structure Moves (i p : Nat) (taken : List RxMessage) (srv srv' : FixServer) : Prop where
  session : FixSession.Moves taken (srv.sessions i) (srv'.sessions i)
  holding : srv.Holding i p → srv'.Holding i p
  connected : srv'.connected p = true → srv.connected p = true

namespace Moves

variable {i p : Nat} {srv srv' srv'' : FixServer} {taken taken' : List RxMessage}

theorem refl (srv : FixServer) : Moves i p [] srv srv := ⟨.refl _, id, id⟩

theorem trans (h : Moves i p taken srv srv') (h' : Moves i p taken' srv' srv'') :
    Moves i p (taken ++ taken') srv srv'' :=
  ⟨h.session.trans h'.session, h'.holding ∘ h.holding, h.connected ∘ h'.connected⟩

/-- A step that only goes on from another one. -/
theorem next (h : Moves i p taken srv srv') (h' : Moves i p [] srv' srv'') :
    Moves i p taken srv srv'' :=
  List.append_nil taken ▸ h.trans h'

theorem modify (srv : FixServer) {f : FixSession → FixSession}
    (h : FixSession.Moves taken (srv.sessions i) (f (srv.sessions i)))
    (hstate : (srv.sessions i).state ≠ .disconnected →
      (f (srv.sessions i)).state ≠ .disconnected) :
    Moves i p taken srv (srv.modifySession i f) where
  session := by
    rw [modifySession_sessions_self]
    exact h
  holding hholding hp := (hholding hp).of_connectors rfl (by
    rw [modifySession_sessions_self]
    exact hstate (hholding hp).known)
  connected := id

theorem modify_other {j : Nat} (hj : j ≠ i) (srv : FixServer) (f : FixSession → FixSession) :
    Moves i p [] srv (srv.modifySession j f) where
  session := by
    rw [modifySession_sessions_ne srv (Ne.symm hj)]
    exact .refl _
  holding hholding hp := (hholding hp).of_connectors rfl (by
    rw [modifySession_sessions_ne srv (Ne.symm hj)]
    exact (hholding hp).known)
  connected := id

theorem disconnect (srv : FixServer) (q : Nat) :
    Moves i p [] srv (srv.onClientDisconnected q) where
  session := by
    rw [onClientDisconnected_sessions]
    split
    · exact .setState _ (by decide)
    · exact .refl _
  holding hholding hp := by
    have hq : q ≠ p := by
      rintro rfl
      rw [onClientDisconnected_connected_self] at hp
      cases hp
    rw [onClientDisconnected_connected, Function.update_of_ne (Ne.symm hq)] at hp
    exact ((hholding hp).disconnect hq).1
  connected hp := ((Proceeds.disconnect (k := i) srv q).peers p hp).1

theorem closeConnection (srv : FixServer) (peer : Option Nat) :
    Moves i p [] srv (srv.closeConnection peer) := by
  cases peer with
  | none => exact ⟨.refl _, fun h => h.aside rfl rfl rfl, id⟩
  | some q => exact disconnect srv q

/-- Whatever is done for another session. -/
theorem of_steps {j : Nat} {R : FixSession → FixSession → Prop} (hj : j ≠ i)
    (h : Steps j R srv srv') : Moves i p [] srv srv' := by
  induction h with
  | refl => exact .refl _
  | modify f _ _ ih => exact ih.next (modify_other hj _ f)
  | send q _ _ ih => exact ih.next ⟨.refl _, fun h => h.aside rfl rfl rfl, id⟩
  | disconnect q _ ih => exact ih.next (disconnect _ q)
  | closeInvalid _ ih => exact ih.next ⟨.refl _, fun h => h.aside rfl rfl rfl, id⟩

/-- A new message, to this session or to another one. -/
theorem sendOutgoingMessage (srv : FixServer) (j : Nat) {m : OutgoingFixMessage}
    (hm : isOrdinaryType m.msgType = true) (o : SendOutcome) :
    Moves i p [] srv (srv.sendOutgoingMessage j m o) := by
  by_cases hj : j = i
  · subst hj
    unfold FixServer.sendOutgoingMessage
    cases hpeer : srv.connectors.getPeerIndex j with
    | none =>
      rw [sendBytes_unmapped srv j hpeer]
      exact .refl _
    | some q =>
      have hslot : Moves j p [] srv (srv.onSlot (.sent q)) :=
        ⟨.refl _, fun h => h.aside rfl rfl rfl, id⟩
      by_cases ho : o.result = .connectionLost
      · rw [sendBytes_lost srv j hpeer _ ho]
        have hhanded : Moves j p [] srv ((srv.onSlot (.sent q)).modifySession j fun s =>
            s.record (.sent (.original m ((srv.sessions j).sequenceStore.outgoingSeqNo + 1))
              s.sequenceStore.incomingSeqNo false)) :=
          hslot.next (modify _ (.record _ rfl rfl) id)
        exact (hhanded.next (disconnect _ q)).next
          (modify _ (.notSent _ _ _) fun h => by rwa [afterSend_state])
      · rw [sendBytes_held srv j hpeer _ ho]
        exact hslot.next (modify _ (.send _ hm _ _) fun h => by
          rwa [afterSend_state, record_state])
  · exact of_steps hj (sendBytes_steps srv j _ o)

theorem closure (srv : FixServer) (peer : Option Nat) (sendLogout : Bool) (reason : Bytes)
    (o : SendOutcome) :
    Moves i p [] srv (srv.processConnectionClosure peer sendLogout reason o) := by
  unfold processConnectionClosure
  cases sendLogout with
  | false => exact closeConnection srv peer
  | true =>
    cases peer.bind srv.connectors.getSession with
    | none => exact closeConnection srv peer
    | some j =>
      have hordinary : isOrdinaryType (buildLogoutMessage reason).msgType = true := by
        unfold buildLogoutMessage
        dsimp only
        split <;> rfl
      exact (sendOutgoingMessage srv j hordinary o).next (closeConnection _ peer)

end Moves

/-- Session `i` handles a message that has been counted. -/
structure Handles (i p : Nat) (rx : RxMessage) (srv srv' : FixServer) : Prop where
  session : FixSession.Handles rx (srv.sessions i) (srv'.sessions i)
  holding : srv.Holding i p → srv'.Holding i p
  connected : srv'.connected p = true → srv.connected p = true

namespace Handles

variable {i p : Nat} {srv srv' : FixServer} {rx : RxMessage}

/-- A message of the session level. -/
theorem takes (happlication : rx.isApplication = false) (h : Moves i p [] srv srv') :
    Handles i p rx srv srv' :=
  ⟨.takes happlication h.session, h.holding, h.connected⟩

/-- A message that goes to a callback. -/
theorem handsOn (srv : FixServer) {cb : Callback} {m : Option IncomingFixMessage}
    (hcb : deliveredMessage (.callback cb m) = rx.handedOn) :
    Handles i p rx srv (srv.callback i cb m) where
  session := by
    rw [callback, modifySession_sessions_self]
    exact .handsOn (.refl _) hcb
  holding hholding hp := (hholding hp).of_connectors rfl (by
    rw [callback, modifySession_sessions_self]
    exact (hholding hp).known)
  connected := id

end Handles

/-! ## Received messages -/

section Message

variable {i p : Nat} {srv : FixServer} {rx : RxMessage} {env : ServerRxEnv}

theorem callback_moves (srv : FixServer) {cb : Callback} {m : Option IncomingFixMessage}
    (hcb : deliveredMessage (.callback cb m) = none) : Moves i p [] srv (srv.callback i cb m) :=
  .modify srv (.record _ rfl hcb) id

theorem loggedOn_eq {s : FixSession}
    (h : s.incomingFixMessage.getTagValueAsUInt32 tagMsgSeqNum = s.sequenceStore.incomingSeqNo) :
    loggedOn s = s.setState .loggedOn := by
  unfold loggedOn doPostLogonSequenceNumberCheck
  split
  · dsimp only
    split
    · next hlt =>
      have hlt' : s.sequenceStore.incomingSeqNo <
          s.incomingFixMessage.getTagValueAsUInt32 tagMsgSeqNum := hlt
      rw [h] at hlt'
      exact absurd hlt' (UInt32.lt_irrefl _)
    · rfl
  · rfl

/-- The answer to a Logon with the number that has been counted, behind an update `f` of the
session. -/
theorem sendLogonResponse_moves (srv : FixServer) {f : FixSession → FixSession}
    (hf : FixSession.Moves [] (srv.sessions i) (f (srv.sessions i)))
    (hstate : (srv.sessions i).state ≠ .disconnected →
      (f (srv.sessions i)).state ≠ .disconnected)
    (hseq : (f (srv.sessions i)).incomingFixMessage.getTagValueAsUInt32 tagMsgSeqNum =
      (f (srv.sessions i)).sequenceStore.incomingSeqNo) (m : Option IncomingFixMessage)
    (o : SendOutcome) :
    Moves i p [] srv ((((srv.modifySession i f).sendLogonResponse i o).modifySession i
      loggedOn).callback i .onLogonRequest m) := by
  have hupdated : Moves i p [] srv (srv.modifySession i f) := .modify srv hf hstate
  have hself := modifySession_sessions_self srv i f
  generalize srv.modifySession i f = srv' at hupdated hself
  have hordinary : isOrdinaryType (logonResponse (srv'.sessions i)).msgType = true := by
    unfold logonResponse
    dsimp only
    split <;> rfl
  have hresponse : Moves i p [] srv' (srv'.sendLogonResponse i o) :=
    .sendOutgoingMessage srv' i hordinary o
  have hcore : ((srv'.sendLogonResponse i o).sessions i).core = (srv'.sessions i).core :=
    (sendOutgoingMessage_steps srv' i _ o).core i
  have hlogged : loggedOn ((srv'.sendLogonResponse i o).sessions i) =
      ((srv'.sendLogonResponse i o).sessions i).setState .loggedOn := by
    refine loggedOn_eq ?_
    rw [incomingFixMessage_of_core hcore, incomingSeqNo_of_core hcore, hself]
    exact hseq
  have hset : Moves i p [] (srv'.sendLogonResponse i o)
      ((srv'.sendLogonResponse i o).modifySession i loggedOn) := by
    refine .modify _ ?_ ?_
    · rw [hlogged]
      exact .setState _ (by decide)
    · rw [hlogged]
      exact fun _ => SessionState.noConfusion
  exact ((hupdated.next hresponse).next hset).next (callback_moves _ rfl)

/-- A Logon on a connection that is logged on already. -/
theorem processLogonRequest_moves (srv : FixServer) (m : IncomingFixMessage) (env : ServerRxEnv)
    (hseq : (srv.sessions i).incomingFixMessage.getTagValueAsUInt32 tagMsgSeqNum =
      (srv.sessions i).sequenceStore.incomingSeqNo) :
    Moves i p [] srv (srv.processLogonRequest i p m env) := by
  cases h : validateLogonRequest m && env.authenticated with
  | false =>
    rw [processLogonRequest_refused srv i p m env h]
    exact .disconnect srv p
  | true =>
    rw [processLogonRequest_authenticated srv i p m env h]
    obtain ⟨settings, hsettings⟩ := authenticated_eq m (srv.sessions i)
    have hset : FixSession.Moves [] (srv.sessions i) ((srv.sessions i).setSettings settings) :=
      .silent rfl rfl ⟨rfl, rfl, rfl, rfl, id⟩
    have hmoves : FixSession.Moves [] (srv.sessions i) (authenticated (srv.sessions i) m) := by
      rw [hsettings]
      exact hset.next (.record _ rfl rfl)
    refine sendLogonResponse_moves srv hmoves ?_ ?_ _ _
    · rw [authenticated_state]
      exact id
    · rw [authenticated_sequenceStore, hsettings]
      exact hseq

theorem processLogoutRequest_moves (srv : FixServer) (m : IncomingFixMessage)
    (env : ServerRxEnv) : Moves i p [] srv (srv.processLogoutRequest i m env) := by
  unfold processLogoutRequest
  have hsent : Moves i p [] srv (srv.sendLogoutMessage i [] env.send) :=
    .sendOutgoingMessage srv i (m := buildLogoutMessage []) rfl env.send
  exact (hsent.next (.modify _ (.setState _ (by decide)) fun _ => SessionState.noConfusion)).next
    (callback_moves _ rfl)

/-- A message of a type without a handler goes to a callback. -/
theorem dispatch_other (htype : rx.msgType ∉ sessionMsgTypes) :
    ∃ cb, deliveredMessage (.callback cb (some rx.message)) = rx.handedOn ∧
      srv.dispatch i p rx.message env = srv.callback i cb (some rx.message) := by
  have hreset : rx.msgType ≠ [msgTypeSequenceReset] := by
    rintro h
    exact htype (h ▸ by decide)
  simp only [sessionMsgTypes, List.mem_cons, List.not_mem_nil, or_false, not_or] at htype
  obtain ⟨hlogon, hlogout, -, hresend, htest, hheartbeat⟩ := htype
  unfold dispatch
  split
  · next t ht =>
    have hhanded := handedOn_of_type (show rx.msgType = _ from ht)
    rw [RxMessage.msgType, ht] at hlogon hlogout hreset hresend htest hheartbeat
    simp only [ne_eq, List.cons.injEq, and_true] at hlogon hlogout hreset
    simp only [List.cons.injEq, and_true] at hresend htest hheartbeat
    simp only [if_neg hlogon, if_neg hlogout, if_neg htest, if_neg hheartbeat, if_neg hresend,
      if_neg hreset]
    split_ifs with horder hcancel hreplace hsession hbusiness
    · exact ⟨_, by rw [hhanded, horder]; rfl, rfl⟩
    · exact ⟨_, by rw [hhanded, hcancel]; rfl, rfl⟩
    · exact ⟨_, by rw [hhanded, hreplace]; rfl, rfl⟩
    · exact ⟨_, by rw [hhanded, hsession]; rfl, rfl⟩
    · exact ⟨_, by rw [hhanded, hbusiness]; rfl, rfl⟩
    · refine ⟨_, ?_, rfl⟩
      rw [hhanded, isSessionLevelType, decide_eq_false hheartbeat, decide_eq_false htest,
        decide_eq_false hresend, decide_eq_false hsession, decide_eq_false hbusiness,
        decide_eq_false hlogon, decide_eq_false hlogout, decide_eq_false hreset]
      rfl
  · next hseveral => exact ⟨.onCustomMessage, (handedOn_of_several hseveral).symm, rfl⟩

/-- The `switch` on MsgType, for a message that is no request for a retransmission. -/
theorem dispatch_handles (hordinary : isOrdinaryType rx.msgType = true)
    (hseq : (srv.sessions i).incomingFixMessage.getTagValueAsUInt32 tagMsgSeqNum =
      (srv.sessions i).sequenceStore.incomingSeqNo) :
    Handles i p rx srv (srv.dispatch i p rx.message env) := by
  obtain ⟨hresend, hreset⟩ := isOrdinary_ne hordinary
  have hkept : ∀ {t : UInt8}, rx.msgType = [t] → isSessionLevelType t = true →
      rx.isApplication = false := fun ht h => by rw [isApplication_of_type ht, h]; rfl
  rcases dispatch_cases srv i p rx.message env with
    ⟨ht, h⟩ | ⟨ht, h⟩ | ⟨ht, _⟩ | ⟨ht, _⟩ | ⟨ht, h⟩ | ⟨ht, h⟩ | ⟨ht, _⟩
  · rw [h]
    exact .takes (hkept ht rfl) (processLogonRequest_moves srv _ env hseq)
  · rw [h]
    exact .takes (hkept ht rfl) (processLogoutRequest_moves srv _ env)
  · exact absurd ht hreset
  · exact absurd ht hresend
  · rw [h]
    have htested : Moves i p [] srv (srv.modifySession i
        (·.processTestRequestMessage rx.message)) :=
      .modify srv (processTestRequestMessage_moves _ _) fun h => by
        rwa [processTestRequestMessage_state]
    exact .takes (hkept ht rfl) (htested.next (callback_moves _ rfl))
  · rw [h]
    exact .takes (hkept ht rfl) (callback_moves _ rfl)
  · obtain ⟨cb, hcb, h⟩ := (dispatch_other ht : ∃ cb, _ ∧ srv.dispatch i p rx.message env = _)
    rw [h]
    exact .handsOn srv hcb

/-- A valid message with the expected number, which the throttler lets through, passes the
checks. -/
theorem handleMessage_expected
    (hseq : rx.seqNum = (srv.sessions i).sequenceStore.incomingSeqNo + 1)
    (hvalid : (srv.sessions i).verdict rx env.utcNow = .valid)
    (hthrottles : (srv.sessions i).throttles env.throttlerReachedLimit = false) :
    srv.handleMessage i p rx env = ((srv.modifySession i
      (·.counted rx env.nowNanoseconds)).modifySession i
        (·.passed rx env.throttlerReachedLimit)).dispatch i p rx.message env := by
  rcases handleMessage_cases srv i p rx env with
    ⟨code, errorTag, hv, _⟩ | ⟨hv, _⟩ | ⟨_, habove, _⟩ | ⟨_, hbelow, _⟩ | ⟨_, h⟩
  · rw [hvalid] at hv
    cases hv
  · rw [hvalid] at hv
    cases hv
  · rw [aboveExpected_next hseq] at habove
    cases habove
  · rw [belowExpected_next hseq] at hbelow
    cases hbelow
  · let counted := srv.modifySession i (·.counted rx env.nowNanoseconds)
    have hself : counted.sessions i = (srv.sessions i).counted rx env.nowNanoseconds :=
      modifySession_sessions_self srv i _
    rcases processInSequence_cases counted i p rx env with ⟨hthrottled, _⟩ | ⟨_, hdispatch⟩
    · rw [hself] at hthrottled
      have hthrottled' : (srv.sessions i).throttles env.throttlerReachedLimit = true := hthrottled
      rw [hthrottles] at hthrottled'
      cases hthrottled'
    · rw [h, hdispatch]

end Message

/-! ## `process` -/

section Process

variable {i p : Nat} (srv : FixServer)

theorem processOutgoingTestRequest_moves (env : ProcessEnv) :
    Moves i p [] srv (srv.processOutgoingTestRequestIfNecessary i env) := by
  unfold processOutgoingTestRequestIfNecessary
  dsimp only
  split_ifs
  · have hbuilt : Moves i p [] srv
        (srv.modifySession i fun _ => (srv.sessions i).buildTestRequestMessage.1) :=
      .modify srv (.silent rfl rfl ⟨rfl, rfl, rfl, rfl, id⟩)
        id
    have hsent : Moves i p [] srv (srv.sendTestRequest i env.testRequestSend) :=
      hbuilt.next (.sendOutgoingMessage _ i (m := (srv.sessions i).buildTestRequestMessage.2) rfl
        env.testRequestSend)
    exact hsent.next (.modify _ (.silent rfl rfl ⟨rfl, rfl, rfl, rfl, id⟩) id)
  · exact .refl srv
  · have hflag : Moves i p [] srv
        (srv.modifySession i (·.setExpectingResponseForOutgoingTestRequest false)) :=
      .modify srv (.silent rfl rfl ⟨rfl, rfl, rfl, rfl, id⟩)
        id
    exact hflag.next (.closure _ _ _ _ _)
  · exact .refl srv

theorem respondToTestRequest_moves (env : ProcessEnv) :
    Moves i p [] srv (srv.respondToTestRequestIfNecessary i env) := by
  unfold respondToTestRequestIfNecessary
  dsimp only
  split
  · have hordinary : isOrdinaryType
        (buildHeartbeatMessage (srv.sessions i).savedTestRequestId).msgType = true := by
      unfold buildHeartbeatMessage
      split <;> rfl
    have hsent : Moves i p [] srv (srv.sendHeartbeat i (srv.sessions i).savedTestRequestId
        env.testResponseSend) := .sendOutgoingMessage srv i hordinary env.testResponseSend
    exact hsent.next (.modify _ (.silent rfl rfl ⟨rfl, rfl, rfl, rfl, id⟩) id)
  · exact .refl srv

theorem sendHeartbeat_moves (env : ProcessEnv) :
    Moves i p [] srv (srv.sendHeartbeatIfNecessary i env) := by
  unfold sendHeartbeatIfNecessary
  split
  · exact .sendOutgoingMessage srv i (m := buildHeartbeatMessage none) rfl env.heartbeatSend
  · exact .refl srv

theorem processScheduleValidator_moves (env : ProcessEnv) :
    Moves i p [] srv (srv.processScheduleValidator i env) := by
  unfold processScheduleValidator
  split
  · exact .closure srv _ _ _ _
  · exact .refl srv

/-- With nothing to ask for, a session that waits too long is disconnected. -/
theorem processOutgoingResendRequest_moves
    (hasks : (srv.sessions i).needsToSendResendRequest = false) (env : ProcessEnv) :
    Moves i p [] srv (srv.processOutgoingResendRequestIfNecessary i env) := by
  unfold processOutgoingResendRequestIfNecessary
  dsimp only
  rw [hasks, if_neg Bool.false_ne_true]
  split_ifs
  · exact .closure srv _ _ _ _
  · exact .refl srv
  · exact .refl srv

/-- The turn of an idle session. -/
theorem processTurn_moves (hidle : (srv.sessions i).Idle) (env : ProcessEnv) :
    Moves i p [] srv (srv.processTurn i env) := by
  have hadmin : srv.processAdminCommands i env = srv := by
    rw [processAdminCommands, tryPopAdminCommand, hidle.commands]
  have hask := processOutgoingResendRequest_moves (p := p) srv hidle.asksNothing env
  have htest := hask.next (processOutgoingTestRequest_moves _ env)
  have hanswer : ((srv.processOutgoingResendRequestIfNecessary i
      env).processOutgoingTestRequestIfNecessary i env).respondToResendRequestIfNecessary i env =
        (srv.processOutgoingResendRequestIfNecessary i env).processOutgoingTestRequestIfNecessary
          i env := by
    rw [respondToResendRequestIfNecessary]
    simp only [(htest.session.keeps.idle hidle).owesNothing, if_false, Bool.false_eq_true]
  unfold processTurn
  rw [hadmin]
  dsimp only
  split
  · unfold processLive
    dsimp only
    rw [hanswer]
    exact ((htest.next (respondToTestRequest_moves _ env)).next (sendHeartbeat_moves _ env)).next
      (processScheduleValidator_moves _ env)
  · exact .refl srv

/-- The turn of another session sends this one at most a Logout, with its connection. -/
theorem processTurn_moves_other {j : Nat} (hj : j ≠ i) (env : ProcessEnv) :
    Moves i p [] srv (srv.processTurn j env) := by
  have hrespects : RespectsTurn j TurnUpdate (Moves i p []) :=
    ⟨.refl, .next, fun srv t o => .of_steps hj (sendBytes_steps srv j t o),
      fun srv => .closure srv _, fun srv f _ => .modify_other hj srv f⟩
  exact hrespects.processTurn srv env (fun _ _ => ⟨.refl _, fun h => h.aside rfl rfl rfl, id⟩)
    fun _ _ _ srv' => .modify_other hj srv' _

/-- The turns of any sessions, while session `i` is idle. -/
theorem turns_moves (hidle : (srv.sessions i).Idle) (js : List Nat) (env : Nat → ProcessEnv) :
    Moves i p [] srv (js.foldl (fun srv j => srv.processTurn j (env j)) srv) := by
  induction js generalizing srv with
  | nil => exact .refl srv
  | cons j js ih =>
    rw [List.foldl_cons]
    have hturn : Moves i p [] srv (srv.processTurn j (env j)) := by
      by_cases hj : j = i
      · subst hj
        exact processTurn_moves srv hidle (env j)
      · exact processTurn_moves_other srv hj (env j)
    exact hturn.next (ih _ (hturn.session.keeps.idle hidle))

theorem process_moves (hidle : (srv.sessions i).Idle) (hrunning : srv.isStopping = false)
    (env : Nat → ProcessEnv) : Moves i p [] srv (srv.process env) := by
  unfold process
  rw [if_pos hrunning]
  exact turns_moves srv hidle _ env

end Process

end FixServer

end Llfix
