import Llfix.Server.SlotIsolation

/-!
# Live sessions and their connections

A send can tear the connection of a session down: the session is `DISCONNECTED` then and has lost
its entry in the connectors. Several functions assign a live state behind a send without looking
at its result, and the steps of `process` go on behind a step that has closed the connection.

Results:
1. `ConnectionsHold.handleMessage`, `ConnectionsHold.processTurn`: what a message and a turn keep,
   and under which conditions.
2. `liveConnections`: in a run that meets the conditions every live session has a connection, and
   every call of `close_connection` an index.
3. `liveConnections_fails`: a lost logon response leaves a live session without one.
-/

namespace Llfix

namespace FixServer

open FixSession GuardedRun

/-- Every live session has a connection that is open, and `close_connection` was called with an
index only. -/
structure LiveConnected (srv : FixServer) : Prop where
  live : ∀ i, isStateLive (srv.sessions i).state = true →
    ∃ p, srv.connectors.getPeerIndex i = some p ∧ srv.connected p = true
  valid : srv.closedInvalidPeer = false

/-! ## The invariant -/

/-- The connector tables are in order, every live session is mapped, and `close_connection` was
called with an index only. -/
structure ConnectionsHold (srv : FixServer) : Prop where
  inverse : srv.TablesInverse
  mapped : srv.MappedConnected
  live : ∀ i, isStateLive (srv.sessions i).state = true → ¬ Unmapped i srv
  valid : srv.closedInvalidPeer = false

/-- A server that no connection was ever given to. -/
structure AtStart (srv : FixServer) : Prop where
  connectors : srv.connectors = {}
  notLive : ∀ i, isStateLive (srv.sessions i).state = false
  valid : srv.closedInvalidPeer = false

theorem AtStart.connectionsHold {srv : FixServer} (h : srv.AtStart) : srv.ConnectionsHold where
  inverse p i := by
    rw [h.connectors]
    exact iff_of_false nofun nofun
  mapped p i hp := by
    rw [h.connectors] at hp
    cases hp
  live i hlive := by
    rw [h.notLive i] at hlive
    cases hlive
  valid := h.valid

theorem getPeerIndex_of_mapped {srv : FixServer} {i : Nat} (h : ¬ Unmapped i srv) :
    ∃ p, srv.connectors.getPeerIndex i = some p :=
  Option.ne_none_iff_exists'.mp h

/-- A disconnection leaves the other sessions mapped. -/
theorem onClientDisconnected_getPeerIndex_ne (srv : FixServer) {p j : Nat}
    (h : srv.connectors.getSession p ≠ some j) :
    (srv.onClientDisconnected p).connectors.getPeerIndex j = srv.connectors.getPeerIndex j := by
  cases hp : srv.connectors.getSession p with
  | none => rw [onClientDisconnected_unmapped srv p hp, onSlot_connectors]
  | some i =>
    have hj : j ≠ i := by
      rintro rfl
      exact h hp
    rw [onClientDisconnected_mapped srv p hp]
    simp [FixServerConnectors.remove, FixServerConnectors.getPeerIndex, hj]

namespace ConnectionsHold

variable {srv : FixServer} (h : srv.ConnectionsHold)

include h

theorem liveConnected : srv.LiveConnected where
  live i hlive := by
    obtain ⟨p, hp⟩ := getPeerIndex_of_mapped (h.live i hlive)
    exact ⟨p, hp, h.mapped p i ((h.inverse p i).mpr hp)⟩
  valid := h.valid

theorem onSlot (operation : SlotOperation) : (srv.onSlot operation).ConnectionsHold :=
  ⟨h.inverse, h.mapped, h.live, h.valid⟩

/-- An update of a session that is mapped, or that does not become live. -/
theorem modify (i : Nat) (f : FixSession → FixSession)
    (hf : isStateLive (f (srv.sessions i)).state = true →
      isStateLive (srv.sessions i).state = true ∨ ¬ Unmapped i srv) :
    (srv.modifySession i f).ConnectionsHold where
  inverse := h.inverse
  mapped := h.mapped
  live j hlive := by
    by_cases hj : j = i
    · subst hj
      rw [modifySession_sessions_self] at hlive
      rcases hf hlive with hbefore | hmapped
      · exact h.live j hbefore
      · exact hmapped
    · rw [modifySession_sessions_ne _ hj] at hlive
      exact h.live j hlive
  valid := h.valid

theorem modify_sameState (i : Nat) (f : FixSession → FixSession)
    (hf : (f (srv.sessions i)).state = (srv.sessions i).state) :
    (srv.modifySession i f).ConnectionsHold := by
  refine h.modify i f fun hlive => ?_
  rw [hf] at hlive
  exact .inl hlive

theorem modify_notLive (i : Nat) (f : FixSession → FixSession)
    (hf : isStateLive (f (srv.sessions i)).state = false) :
    (srv.modifySession i f).ConnectionsHold := by
  refine h.modify i f fun hlive => ?_
  rw [hf] at hlive
  cases hlive

theorem onClientDisconnected (p : Nat) : (srv.onClientDisconnected p).ConnectionsHold where
  inverse := h.inverse.onClientDisconnected p
  mapped := h.mapped.onClientDisconnected p
  live j hlive := by
    rw [onClientDisconnected_sessions] at hlive
    split at hlive
    · cases hlive
    · next hp =>
      have hmapped := h.live j hlive
      rw [Unmapped, ← onClientDisconnected_getPeerIndex_ne srv hp] at hmapped
      exact hmapped
  valid := by
    rw [onClientDisconnected_closedInvalidPeer]
    exact h.valid

theorem closeConnection {peer : Option Nat} (hpeer : peer ≠ none) :
    (srv.closeConnection peer).ConnectionsHold := by
  obtain ⟨p, rfl⟩ := Option.ne_none_iff_exists'.mp hpeer
  exact h.onClientDisconnected p

theorem sendBytes (i : Nat) (t : Transmission) (o : SendOutcome) :
    (srv.sendBytes i t o).ConnectionsHold := by
  cases hpeer : srv.connectors.getPeerIndex i with
  | none =>
    rw [sendBytes_unmapped srv i hpeer]
    exact h
  | some p =>
    by_cases ho : o.result = .connectionLost
    · rw [sendBytes_lost srv i hpeer t ho]
      have hsent := (h.onSlot (.sent p)).modify_sameState i
        (fun s => s.record (.sent t s.sequenceStore.incomingSeqNo false)) rfl
      exact (hsent.onClientDisconnected p).modify_sameState i _ (afterSend_state _ _ _ _)
    · rw [sendBytes_held srv i hpeer t ho]
      exact (h.onSlot (.sent p)).modify_sameState i _ (afterSend_state _ _ _ _)

theorem sendOutgoingMessage (i : Nat) (m : OutgoingFixMessage) (o : SendOutcome) :
    (srv.sendOutgoingMessage i m o).ConnectionsHold :=
  h.sendBytes i _ o

theorem processConnectionClosure {peer : Option Nat} (hpeer : peer ≠ none) (sendLogout : Bool)
    (reason : Bytes) (o : SendOutcome) :
    (srv.processConnectionClosure peer sendLogout reason o).ConnectionsHold := by
  unfold FixServer.processConnectionClosure
  cases sendLogout with
  | false => exact h.closeConnection hpeer
  | true =>
    cases peer.bind srv.connectors.getSession with
    | none => exact h.closeConnection hpeer
    | some j => exact (h.sendOutgoingMessage j _ o).closeConnection hpeer

theorem callback (i : Nat) (cb : Callback) (m : Option IncomingFixMessage) :
    (srv.callback i cb m).ConnectionsHold :=
  h.modify_sameState i _ rfl

/-- A session stays mapped unless the connection is lost. -/
theorem sendBytes_mapped {i : Nat} (hi : ¬ Unmapped i srv) (t : Transmission) {o : SendOutcome}
    (ho : o.result ≠ .connectionLost) : ¬ Unmapped i (srv.sendBytes i t o) := by
  rw [Unmapped, sendBytes_getPeerIndex srv i h.inverse, if_neg ho]
  exact hi

end ConnectionsHold

/-! ## One message -/

/-- A message with a handler that sets a live state without a Logon. -/
def setsLiveState (s : FixSession) (rx : RxMessage) : Bool :=
  rx.msgType = [msgTypeResendRequest] && takesResendRequest rx.message ||
    rx.msgType = [msgTypeSequenceReset] &&
      acceptsSequenceReset (s.sequenceStore.incomingSeqNo + 1) rx.message

/-- The message makes its session live, or the throttler closes the connection of the session. -/
def needsConnection (s : FixSession) (rx : RxMessage) (env : ServerRxEnv) : Bool :=
  passesChecks s rx env &&
    if s.throttles env.throttlerReachedLimit then s.settings.throttleAction = .disconnect
    else authenticates rx env || setsLiveState s rx

/-- A message that needs a connection finds one, and the connection is not lost when a Logon is
answered. -/
structure KeepsConnection (srv : FixServer) (i : Nat) (rx : RxMessage) (env : ServerRxEnv) :
    Prop where
  mapped : needsConnection (srv.sessions i) rx env = true → ¬ Unmapped i srv
  answered : (reachesDispatch (srv.sessions i) rx env && authenticates rx env) = true →
    env.send.result ≠ .connectionLost

namespace ConnectionsHold

variable {srv : FixServer} {i : Nat}

theorem processLogonRequest (h : srv.ConnectionsHold) (p : Nat) {m : IncomingFixMessage}
    {env : ServerRxEnv}
    (hkeeps : (validateLogonRequest m && env.authenticated) = true →
      ¬ Unmapped i srv ∧ env.send.result ≠ .connectionLost) :
    (srv.processLogonRequest i p m env).ConnectionsHold := by
  cases hrequest : validateLogonRequest m && env.authenticated with
  | false =>
    rw [processLogonRequest_refused srv i p m env hrequest]
    exact h.onClientDisconnected p
  | true =>
    obtain ⟨hmapped, ho⟩ := hkeeps hrequest
    rw [processLogonRequest_authenticated srv i p m env hrequest]
    have hchecked : (srv.modifySession i (authenticated · m)).ConnectionsHold :=
      h.modify_sameState i _ (authenticated_state m _)
    have hstill := hchecked.sendBytes_mapped hmapped
      (.original (logonResponse ((srv.modifySession i (authenticated · m)).sessions i))
        (((srv.modifySession i (authenticated · m)).sessions i).sequenceStore.outgoingSeqNo + 1)) ho
    exact ((hchecked.sendOutgoingMessage i _ env.send).modify i loggedOn
      fun _ => .inr hstill).callback i _ _

theorem processSequenceReset (h : srv.ConnectionsHold) {m : IncomingFixMessage}
    (hmapped : acceptsSequenceReset (srv.sessions i).sequenceStore.incomingSeqNo m = true →
      ¬ Unmapped i srv) (env : ServerRxEnv) :
    (srv.processSequenceReset i m env).ConnectionsHold := by
  unfold FixServer.processSequenceReset
  cases haccepts : acceptsSequenceReset (srv.sessions i).sequenceStore.incomingSeqNo m with
  | true =>
    rw [processIncomingSequenceResetMessage_accepted haccepts]
    dsimp only
    rw [if_neg (by decide)]
    exact h.modify i _ fun _ => .inr (hmapped haccepts)
  | false =>
    rw [processIncomingSequenceResetMessage_refused haccepts]
    have hsame : (srv.modifySession i fun _ => srv.sessions i).ConnectionsHold :=
      h.modify_sameState i _ rfl
    dsimp only
    split
    · exact hsame.sendOutgoingMessage i _ env.send
    · exact hsame

theorem dispatch (h : srv.ConnectionsHold) (p : Nat) {rx : RxMessage} {env : ServerRxEnv}
    (hlogon : authenticates rx env = true →
      ¬ Unmapped i srv ∧ env.send.result ≠ .connectionLost)
    (hresend : rx.msgType = [msgTypeResendRequest] → takesResendRequest rx.message = true →
      ¬ Unmapped i srv)
    (hreset : rx.msgType = [msgTypeSequenceReset] →
      acceptsSequenceReset (srv.sessions i).sequenceStore.incomingSeqNo rx.message = true →
        ¬ Unmapped i srv) :
    (srv.dispatch i p rx.message env).ConnectionsHold := by
  rcases dispatch_cases srv i p rx.message env with
    ⟨htype, hd⟩ | ⟨_, hd⟩ | ⟨htype, hd⟩ | ⟨htype, hd⟩ | ⟨_, hd⟩ | ⟨_, hd⟩ | ⟨_, cb, _, hd⟩
  · rw [hd]
    refine h.processLogonRequest p fun hrequest => hlogon ?_
    rw [authenticates, RxMessage.msgType, htype, decide_eq_true rfl, Bool.true_and]
    exact hrequest
  · rw [hd]
    have hsent := h.sendOutgoingMessage i (buildLogoutMessage []) env.send
    exact (hsent.modify_notLive i (·.setState .loggedOut) rfl).callback i _ _
  · rw [hd]
    exact h.processSequenceReset (hreset htype) env
  · rw [hd]
    refine callback (h.modify i _ fun hlive => ?_) i _ _
    cases htakes : takesResendRequest rx.message with
    | true => exact .inr (hresend htype htakes)
    | false =>
      rw [processResendRequest_ignored htakes] at hlive
      exact .inl hlive
  · rw [hd]
    exact callback (h.modify_sameState i _ (processTestRequestMessage_state _ _)) i _ _
  · rw [hd]
    exact h.callback i _ _
  · rw [hd]
    exact h.callback i cb _

theorem handleMessage (h : srv.ConnectionsHold) (p : Nat) {rx : RxMessage} {env : ServerRxEnv}
    (hkeeps : srv.KeepsConnection i rx env) : (srv.handleMessage i p rx env).ConnectionsHold := by
  rcases handleMessage_cases srv i p rx env with
    ⟨code, errorTag, _, hm⟩ | ⟨_, hm⟩ | ⟨_, _, _, hm⟩ | ⟨_, _, sendLogout, reason, hm⟩ | ⟨hpass, hm⟩
  · rw [hm]
    exact sendOutgoingMessage (h.modify_sameState i _ rfl) i _ _
  · rw [hm]
    exact h.modify_sameState i _ rfl
  · rw [hm]
    exact h.modify_sameState i _ rfl
  · rw [hm]
    exact processConnectionClosure (h.modify_sameState i _ rfl) (Option.some_ne_none p) _ _ _
  · rw [hm]
    have hcounted : (srv.modifySession i (·.counted rx env.nowNanoseconds)).ConnectionsHold :=
      h.modify_sameState i _ rfl
    -- a satisfied resend request keeps a session live that is live
    have hpassed : ((srv.modifySession i (·.counted rx env.nowNanoseconds)).modifySession i
        (·.passed rx env.throttlerReachedLimit)).ConnectionsHold := by
      refine hcounted.modify i _ fun hlive => .inl ?_
      rw [modifySession_sessions_self, passed_state, counted_resendRequestSatisfied] at hlive
      rw [modifySession_sessions_self, counted_state]
      split at hlive
      · next hsatisfied =>
        rw [resendRequestSatisfied, Bool.and_eq_true, decide_eq_true_eq] at hsatisfied
        rw [hsatisfied.1]
        rfl
      · exact hlive
    have hthrottles : ((srv.modifySession i (·.counted rx env.nowNanoseconds)).sessions
        i).throttles env.throttlerReachedLimit =
        (srv.sessions i).throttles env.throttlerReachedLimit := by
      rw [modifySession_sessions_self]
      rfl
    have hneeds := hkeeps.mapped
    rw [needsConnection, hpass, Bool.true_and] at hneeds
    rcases processInSequence_cases (srv.modifySession i (·.counted rx env.nowNanoseconds)) i p rx
        env with ⟨hthrottled, ⟨haction, hs⟩ | hs⟩ | ⟨hpasses, hs⟩
    · rw [hthrottles] at hthrottled
      rw [modifySession_sessions_self] at haction
      rw [hthrottled, if_pos rfl, decide_eq_true_eq] at hneeds
      rw [hs]
      exact hpassed.processConnectionClosure (hneeds haction) _ _ _
    · rw [hs]
      exact hpassed.sendOutgoingMessage i _ _
    · rw [hthrottles] at hpasses
      rw [hpasses, if_neg Bool.false_ne_true, Bool.or_eq_true] at hneeds
      have hreaches : reachesDispatch (srv.sessions i) rx env = true := by
        rw [reachesDispatch, hpass, hpasses, Bool.not_false, Bool.and_self]
      rw [hs]
      refine hpassed.dispatch p (fun hlogon => ⟨hneeds (.inl hlogon), hkeeps.answered ?_⟩)
        (fun htype htakes => hneeds (.inr ?_)) fun htype haccepts => hneeds (.inr ?_)
      · rw [hreaches, hlogon, Bool.and_self]
      · rw [setsLiveState, htype, htakes]
        rfl
      · rw [modifySession_sessions_self, modifySession_sessions_self, passed_sequenceStore,
          counted_incomingSeqNo] at haccepts
        rw [setsLiveState, htype, haccepts, decide_eq_true rfl, Bool.true_and, Bool.or_true]

end ConnectionsHold

/-! ## A read -/

/-- While the loop reads on, a connection without a session is open. -/
structure RxLoop.Holds (p : Nat) (l : RxLoop) : Prop where
  server : l.server.ConnectionsHold
  free : l.returned = false → l.session = none →
    l.server.connectors.getSession p = none ∧ l.server.connected p = true

/-- The session that the message is for, if any, keeps its connection. -/
def RxLoop.KeepsConnection (p : Nat) (l : RxLoop) (e : RxMessage × ServerRxEnv) : Prop :=
  l.returned = false → ∀ i, (l.target p e).2 = some i →
    (l.target p e).1.KeepsConnection i e.1 e.2

theorem RxLoop.Holds.target {p i : Nat} {l : RxLoop} (h : l.Holds p)
    (hreturned : l.returned = false) {e : RxMessage × ServerRxEnv} {srv : FixServer}
    (htarget : l.target p e = (srv, some i)) : srv.ConnectionsHold := by
  rcases target_some htarget with ⟨_, rfl⟩ | ⟨hsession, _, rfl⟩
  · exact h.server
  · obtain ⟨hfree, hconnected⟩ := h.free hreturned hsession
    have hupdated : { l.server with
        connectors := l.server.connectors.update p i }.ConnectionsHold := by
      refine ⟨h.server.inverse.update hfree i, h.server.mapped.update hconnected i,
        fun j hlive => ?_, h.server.valid⟩
      have hmapped := h.server.live j hlive
      rw [Unmapped, update_getPeerIndex]
      split
      · exact Option.some_ne_none p
      · exact hmapped
    exact hupdated.modify_notLive i _ rfl

theorem rxStep_holds {p : Nat} {l : RxLoop} (h : l.Holds p) {e : RxMessage × ServerRxEnv}
    (hkeeps : l.KeepsConnection p e) : (rxStep p l e).Holds p := by
  unfold rxStep
  cases hreturned : l.returned with
  | true =>
    rw [if_pos rfl]
    exact h
  | false =>
    rw [if_neg Bool.false_ne_true]
    rcases htarget : l.target p e with ⟨srv, _ | i⟩
    · obtain ⟨-, -, rfl⟩ := target_none htarget
      refine ⟨h.server.onClientDisconnected p, fun hgoes => ?_⟩
      cases hgoes
    · have hmessage := hkeeps hreturned i
      rw [htarget] at hmessage
      refine ⟨(h.target hreturned htarget).handleMessage p (hmessage rfl), fun _ hno => ?_⟩
      cases hno

theorem ConnectionsHold.onDataReady {srv : FixServer} (h : srv.ConnectionsHold) {p : Nat}
    (hp : srv.connected p = true) {messages : List (RxMessage × ServerRxEnv)}
    (hkeeps : Guarded (rxStep p) (RxLoop.KeepsConnection p)
      { server := srv, session := srv.connectors.getSession p } messages) :
    (srv.onDataReady p messages).ConnectionsHold := by
  have hstart : RxLoop.Holds p { server := srv, session := srv.connectors.getSession p } :=
    ⟨h, fun _ hno => ⟨hno, hp⟩⟩
  have hend := Guarded.invariant (I := RxLoop.Holds p)
    (fun _ _ hl hkeep => rxStep_holds hl hkeep) hstart hkeeps
  unfold FixServer.onDataReady
  dsimp only
  split
  · exact hend.server
  · exact hend.server.onClientDisconnected p

/-! ## A turn of `process` -/

/-- The answer to a ResendRequest reaches its end with the connection up. -/
def answerSucceeds (s : FixSession) (env : ProcessEnv) : Prop :=
  if s.willReplay then
    ∀ n ∈ replayRange s.incomingResendRequestBeginNo s.sequenceStore.outgoingSeqNo,
      (env.replaySend n).result ≠ .connectionLost
  else env.gapFillSend.result ≠ .connectionLost

/-- One of the functions that `process` calls for a live session, with the condition under which
the connection of the session is kept or known to be gone. -/
structure TurnStep where
  run : FixServer → FixServer
  Keeps : FixServer → Prop

/-- The steps of `processLive`. -/
def turnSteps (i : Nat) (env : ProcessEnv) : List TurnStep :=
  [ { run := fun srv => srv.processOutgoingResendRequestIfNecessary i env
      Keeps := fun srv => (srv.sessions i).state ≠ .inRetransmissionInitiatedBySelf →
        (srv.sessions i).needsToSendResendRequest = true →
          env.resendRequestSend.result ≠ .connectionLost },
    { run := fun srv => srv.processOutgoingTestRequestIfNecessary i env
      Keeps := fun srv => (srv.sessions i).expectingResponseForOutgoingTestRequest = true →
        (srv.sessions i).outgoingTestRequestExpired env.testRequestTimestamp = true →
          ¬ Unmapped i srv },
    { run := fun srv => srv.respondToResendRequestIfNecessary i env
      Keeps := fun srv => (srv.sessions i).needsRespondingToIncomingResendRequest = true →
        ¬ Unmapped i srv ∧ answerSucceeds (srv.sessions i) env },
    { run := fun srv => srv.respondToTestRequestIfNecessary i env, Keeps := fun _ => True },
    { run := fun srv => srv.sendHeartbeatIfNecessary i env, Keeps := fun _ => True },
    { run := fun srv => srv.processScheduleValidator i env
      Keeps := fun srv => env.scheduleValid = false → ¬ Unmapped i srv } ]

theorem processLive_eq_run (srv : FixServer) (i : Nat) (env : ProcessEnv) :
    srv.processLive i env = run (fun srv (s : TurnStep) => s.run srv) srv (turnSteps i env) := rfl

/-- Every step of the turn keeps the connection, or knows that it is gone. -/
def TurnKeepsConnection (srv : FixServer) (i : Nat) (env : ProcessEnv) : Prop :=
  isStateLive ((srv.processAdminCommands i env).sessions i).state = true →
    Guarded (fun srv (s : TurnStep) => s.run srv) (fun srv s => s.Keeps srv)
      (srv.processAdminCommands i env) (turnSteps i env)

namespace ConnectionsHold

variable {srv : FixServer} (h : srv.ConnectionsHold) (i : Nat) (env : ProcessEnv)

include h

theorem disableSession (o : SendOutcome) : (srv.disableSession i o).ConnectionsHold := by
  unfold FixServer.disableSession
  refine modify_notLive ?_ i _ rfl
  split
  · next hlive => exact h.processConnectionClosure (h.live i hlive) _ _ _
  · exact h

theorem enableSession (records : List UInt32) : (srv.enableSession i records).ConnectionsHold := by
  unfold FixServer.enableSession
  split
  · have hset : (srv.modifySession i (·.setState .disconnected)).ConnectionsHold :=
      h.modify_notLive i _ rfl
    dsimp only
    split
    · refine hset.modify_sameState i _ ?_
      unfold reinitialiseOutgoingSerialiser
      split <;> rfl
    · exact hset
  · exact h

theorem setIsHaPrimary (b : Bool) : { srv with isHaPrimary := b }.ConnectionsHold :=
  ⟨h.inverse, h.mapped, h.live, h.valid⟩

theorem processAdminCommand (command : ModifyingAdminCommand) :
    (srv.processAdminCommand i command env).ConnectionsHold := by
  unfold FixServer.processAdminCommand
  cases command.type with
  | setIncomingSequenceNumber => exact h.modify_sameState i _ rfl
  | setOutgoingSequenceNumber => exact h.modify_sameState i _ rfl
  | sendSequenceReset =>
    dsimp only
    split
    · have hset : (srv.modifySession i fun _ =>
          (srv.sessions i).setOutgoingSeqNo command.arg).ConnectionsHold :=
        h.modify_sameState i _ rfl
      exact hset.sendBytes i _ _
    · exact h
  | disableSession => exact h.disableSession i _
  | enableSession =>
    dsimp only
    split
    · exact h.enableSession i _
    · exact h
  | setIsHaPrimaryInstance =>
    dsimp only
    split
    · exact (h.setIsHaPrimary _).enableSession i _
    · exact (h.setIsHaPrimary _).disableSession i _

theorem processAdminCommands : (srv.processAdminCommands i env).ConnectionsHold := by
  unfold FixServer.processAdminCommands
  cases hpop : (srv.sessions i).tryPopAdminCommand with
  | none => exact h
  | some popped =>
    have hstate : popped.2.state = (srv.sessions i).state := by
      unfold tryPopAdminCommand at hpop
      split at hpop
      · cases hpop
      · obtain rfl := Option.some.inj hpop
        rfl
    exact (h.modify_sameState i (fun _ => popped.2) hstate).processAdminCommand i env popped.1

/-- The replay: the session stays mapped while no send loses the connection. -/
theorem resendMessagesToClient (beginSeqNo endSeqNo : UInt32) (o : UInt32 → SendOutcome) :
    (srv.resendMessagesToClient i beginSeqNo endSeqNo o).ConnectionsHold ∧
      (¬ Unmapped i srv →
        (∀ n ∈ replayRange beginSeqNo endSeqNo, (o n).result ≠ .connectionLost) →
          ¬ Unmapped i (srv.resendMessagesToClient i beginSeqNo endSeqNo o)) := by
  unfold FixServer.resendMessagesToClient
  induction replayRange beginSeqNo endSeqNo generalizing srv with
  | nil => exact ⟨h, fun hi _ => hi⟩
  | cons n ns ih =>
    obtain ⟨hhold, hstill⟩ := ih (h.sendBytes i (.replay n) (o n))
    refine ⟨hhold, fun hi ho => hstill (h.sendBytes_mapped hi _ (ho n List.mem_cons_self)) ?_⟩
    exact fun n' hn' => ho n' (List.mem_cons_of_mem n hn')

theorem processOutgoingResendRequestIfNecessary
    (hlive : isStateLive (srv.sessions i).state = true)
    (hkeeps : (srv.sessions i).state ≠ .inRetransmissionInitiatedBySelf →
      (srv.sessions i).needsToSendResendRequest = true →
        env.resendRequestSend.result ≠ .connectionLost) :
    (srv.processOutgoingResendRequestIfNecessary i env).ConnectionsHold := by
  unfold FixServer.processOutgoingResendRequestIfNecessary
  dsimp only
  split_ifs with hwaits hexpired hneeds
  · exact h.processConnectionClosure (h.live i hlive) _ _ _
  · exact h
  · have hstill := h.sendBytes_mapped (h.live i hlive)
      (.original ((srv.sessions i).buildResendRequestMessage (text "0"))
        ((srv.sessions i).sequenceStore.outgoingSeqNo + 1)) (hkeeps hwaits hneeds)
    exact modify (h.sendOutgoingMessage i _ _) i _ fun _ => .inr hstill
  · exact h

theorem processOutgoingTestRequestIfNecessary
    (hkeeps : (srv.sessions i).expectingResponseForOutgoingTestRequest = true →
      (srv.sessions i).outgoingTestRequestExpired env.testRequestTimestamp = true →
        ¬ Unmapped i srv) :
    (srv.processOutgoingTestRequestIfNecessary i env).ConnectionsHold := by
  unfold FixServer.processOutgoingTestRequestIfNecessary
  dsimp only
  split_ifs with hfree hdue hexpired
  · have hbuilt : (srv.modifySession i fun _ =>
        (srv.sessions i).buildTestRequestMessage.1).ConnectionsHold :=
      h.modify_sameState i _ rfl
    exact modify_sameState (hbuilt.sendOutgoingMessage i _ _) i _ rfl
  · exact h
  · have hmapped := hkeeps (by simpa using hfree) hexpired
    exact processConnectionClosure (h.modify_sameState i _ rfl) hmapped _ _ _
  · exact h

theorem respondToResendRequestIfNecessary
    (hkeeps : (srv.sessions i).needsRespondingToIncomingResendRequest = true →
      ¬ Unmapped i srv ∧ answerSucceeds (srv.sessions i) env) :
    (srv.respondToResendRequestIfNecessary i env).ConnectionsHold := by
  unfold FixServer.respondToResendRequestIfNecessary
  dsimp only
  split_ifs with hneeds hreplays
  · obtain ⟨hmapped, hanswer⟩ := hkeeps hneeds
    rw [answerSucceeds, if_pos hreplays] at hanswer
    obtain ⟨hhold, hstill⟩ := h.resendMessagesToClient i
      (srv.sessions i).incomingResendRequestBeginNo (srv.sessions i).sequenceStore.outgoingSeqNo
      env.replaySend
    exact hhold.modify i _ fun _ => .inr (hstill hmapped hanswer)
  · obtain ⟨hmapped, hanswer⟩ := hkeeps hneeds
    rw [answerSucceeds, if_neg hreplays] at hanswer
    have hstill := h.sendBytes_mapped hmapped
      (.control (srv.sessions i).buildGapFillMessage
        (srv.sessions i).incomingResendRequestBeginNo) hanswer
    exact modify (h.sendBytes i _ _) i _ fun _ => .inr hstill
  · exact h

theorem respondToTestRequestIfNecessary :
    (srv.respondToTestRequestIfNecessary i env).ConnectionsHold := by
  unfold FixServer.respondToTestRequestIfNecessary
  dsimp only
  split_ifs
  · exact modify_sameState (h.sendOutgoingMessage i _ _) i _ rfl
  · exact h

theorem sendHeartbeatIfNecessary : (srv.sendHeartbeatIfNecessary i env).ConnectionsHold := by
  unfold FixServer.sendHeartbeatIfNecessary
  split
  · exact h.sendOutgoingMessage i _ _
  · exact h

theorem processScheduleValidator (hkeeps : env.scheduleValid = false → ¬ Unmapped i srv) :
    (srv.processScheduleValidator i env).ConnectionsHold := by
  unfold FixServer.processScheduleValidator
  split
  · next hinvalid => exact h.processConnectionClosure (hkeeps hinvalid) _ _ _
  · exact h

theorem processTurn (hkeeps : srv.TurnKeepsConnection i env) :
    (srv.processTurn i env).ConnectionsHold := by
  have hadmin := h.processAdminCommands i env
  unfold FixServer.processTurn
  dsimp only
  split
  · next hlive =>
    obtain ⟨hresend, htest, hanswer, -, -, hschedule, -⟩ := hkeeps hlive
    exact (((((hadmin.processOutgoingResendRequestIfNecessary i env hlive
      hresend).processOutgoingTestRequestIfNecessary i env
      htest).respondToResendRequestIfNecessary i env hanswer).respondToTestRequestIfNecessary i
      env).sendHeartbeatIfNecessary i env).processScheduleValidator i env hschedule
  · exact hadmin

theorem sendLogoutMessagesToAllSessions (env : Nat → ProcessEnv) :
    (srv.sendLogoutMessagesToAllSessions env).ConnectionsHold := by
  unfold FixServer.sendLogoutMessagesToAllSessions
  induction List.range srv.sessionCount generalizing srv with
  | nil => exact h
  | cons j js ih =>
    rw [List.foldl_cons]
    split
    · exact ih (modify_notLive (h.sendOutgoingMessage j _ _) j _ rfl)
    · exact ih h

end ConnectionsHold

/-! ## Runs -/

/-- What the event does keeps the connections of live sessions: each of its messages, each of its
turns. -/
def StepKeepsConnections (srv : FixServer) : Event → Prop
  | .receive p messages => srv.connected p = true →
      Guarded (rxStep p) (RxLoop.KeepsConnection p)
        { server := srv, session := srv.connectors.getSession p } messages
  | .process env => srv.isStopping = false →
      Guarded (fun srv i => srv.processTurn i (env i)) (fun srv i =>
        srv.TurnKeepsConnection i (env i)) srv (List.range srv.sessionCount)
  | _ => True

theorem step_connectionsHold {srv : FixServer} (h : srv.ConnectionsHold) (event : Event)
    (hkeeps : srv.StepKeepsConnections event) : (srv.step event).ConnectionsHold := by
  cases event with
  | connect p =>
    refine ⟨h.inverse, fun q i hq => ?_, h.live, h.valid⟩
    show Function.update srv.connected p true q = true
    by_cases hqp : q = p
    · rw [hqp, Function.update_self]
    · rw [Function.update_of_ne hqp]
      exact h.mapped q i hq
  | receive p messages =>
    simp only [step]
    split
    · next hp => exact h.onDataReady hp (hkeeps hp)
    · exact h
  | disconnect p =>
    simp only [step]
    split
    · exact h.onClientDisconnected p
    · exact h
  | process env =>
    simp only [step, process]
    split
    · next hstopping =>
      exact Guarded.invariant (I := ConnectionsHold)
        (fun _ i hturn hkeep => hturn.processTurn i (env i) hkeep) h (hkeeps hstopping)
    · exact h.sendLogoutMessagesToAllSessions env
  | pushAdminCommand i command => exact h.modify_sameState i (·.pushAdminCommand command) rfl

/-- While no answer, request or replay loses the connection ahead of an assignment of a live state,
and no closing step finds the session without a connection, every live session has one. -/
theorem liveConnections {srv : FixServer} {events : List Event} (hstart : srv.AtStart)
    (hkeeps : Guarded step StepKeepsConnections srv events) (done : List Event)
    (hdone : done <+: events) : (run step srv done).LiveConnected :=
  (Guarded.invariant (I := ConnectionsHold) (fun _ event h hkeep =>
    step_connectionsHold h event hkeep) hstart.connectionsHold
    (hkeeps.initial hdone)).liveConnected

/-- A connection that logs on, which succeeds or fails with the answer. -/
def exampleLogon (result : SendResult) : List Event :=
  [.connect 0,
    .receive 0 [(peerMessage exampleSettings msgTypeLogon 8
      [(tagEncryptMethod, text "0"), (tagHeartBtInt, text "30")], { send := { result := result } })]]

/-- The server of the examples before any connection. -/
def exampleUnconnected : FixServer := { exampleServer with connected := fun _ => false }

theorem liveConnections_logon :
    exampleUnconnected.AtStart ∧
      Guarded step StepKeepsConnections exampleUnconnected (exampleLogon .ok) ∧
      (run step exampleUnconnected (exampleLogon .ok)).LiveConnected := by
  have hstart : exampleUnconnected.AtStart := ⟨rfl, fun _ => rfl, rfl⟩
  have hkeeps : Guarded step StepKeepsConnections exampleUnconnected (exampleLogon .ok) := by
    refine ⟨trivial, fun _ => ⟨fun _ i hi => ⟨fun _ => ?_, fun _ => by decide⟩, trivial⟩, trivial⟩
    have hzero : some 0 = some i := Eq.trans (by decide +kernel) hi
    obtain rfl := Option.some.inj hzero
    decide +kernel
  exact ⟨hstart, hkeeps, liveConnections hstart hkeeps _ (List.prefix_refl _)⟩

/-- The answer to the Logon loses the connection, and the session is logged on. A later turn
outside of the schedule closes the connection it does not have. -/
theorem liveConnections_fails :
    exampleUnconnected.AtStart ∧
      ¬ (run step exampleUnconnected (exampleLogon .connectionLost)).LiveConnected ∧
      (run step exampleUnconnected (exampleLogon .connectionLost ++
        [.process fun _ => { scheduleValid := false }])).closedInvalidPeer = true := by
  refine ⟨⟨rfl, fun _ => rfl, rfl⟩, fun h => ?_, by decide +kernel⟩
  obtain ⟨p, hp, -⟩ := h.live 0 (by decide +kernel)
  have hnone : (run step exampleUnconnected
      (exampleLogon .connectionLost)).connectors.getPeerIndex 0 = none := by decide +kernel
  rw [hnone] at hp
  cases hp

end FixServer

end Llfix
