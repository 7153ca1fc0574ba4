import Llfix.Client.DeliveryOrder
import Llfix.Retransmission

/-!
# Retransmission on the client

Results:
1. `handleMessage_passive`: no message makes the client wait for a retransmission.
2. `handleMessage_takesUp`: a ResendRequest with the expected number is taken up.
3. `process_proceeds`: a `process` that makes the client wait has sent a ResendRequest.
-/

namespace Llfix

open FixSession

namespace FixClient

section Passive

variable (c : FixClient)

theorem sendBytes_passive (t : Transmission) (o : SendOutcome) :
    Passive c.session (c.sendBytes t o).session := by
  cases hopen : c.socketOpen with
  | false =>
    rw [sendBytes_closed c t hopen]
    exact (SendUpdate.noted _ _ _).passive
  | true =>
    by_cases ho : o.result = .connectionLost
    · rw [sendBytes_lost c t hopen ho]
      have hlost : ∀ s : FixSession, Passive s
          (((s.setState .disconnected).record .connectionLost).record
            (.callback .onDisconnection none)) := fun s =>
        ((Passive.setState s (by decide)).trans (.record _ _)).trans (.record _ _)
      exact ((SendUpdate.handedOver _ t).passive.trans (hlost _)).trans
        (SendUpdate.noted _ _ _).passive
    · rw [sendBytes_held c t hopen ho]
      exact (SendUpdate.whole _ t _ _).passive

/-- A message that an open connection takes whole is in the history. -/
theorem sendBytes_sent (t : Transmission) {o : SendOutcome} (hopen : c.socketOpen = true)
    (ho : o.result = .ok) :
    (c.sendBytes t o).session.trace =
      c.session.trace ++ [.sent t c.session.sequenceStore.incomingSeqNo true] := by
  rw [sendBytes_held c t hopen (by rw [ho]; decide)]
  simp [ho]

theorem callback_passive (cb : Callback) (m : Option IncomingFixMessage) :
    Passive c.session (c.callback cb m).session := .record _ _

theorem onConnectionLost_passive : Passive c.session c.onConnectionLost.session :=
  ((Passive.setState _ (by decide)).trans (.record _ _)).trans (.record _ _)

theorem close_passive : Passive c.session c.close.session := .record _ _

theorem closed_passive :
    Passive c.session (c.close.modifySession (·.setState .disconnected)).session :=
  c.close_passive.trans (.setState _ (by decide))

theorem sendRejectMessage_passive (code errorTag : UInt32) (o : SendOutcome) :
    Passive c.session (c.sendRejectMessage code errorTag o).session :=
  sendBytes_passive c _ o

theorem processLogonReject_passive (m : IncomingFixMessage) :
    Passive c.session (c.processLogonReject m).session :=
  (Passive.setState c.session (by decide)).trans (.record _ _)

theorem processSequenceReset_passive (m : IncomingFixMessage) (env : ClientRxEnv) :
    Passive c.session (c.processSequenceReset m env).session := by
  unfold processSequenceReset
  dsimp only
  have hreset := c.session.processIncomingSequenceResetMessage_passive m
  split
  · exact hreset.trans (sendRejectMessage_passive (c.modifySession fun _ =>
      (c.session.processIncomingSequenceResetMessage m).1) _ _ _)
  · exact hreset

theorem dispatch_passive (m : IncomingFixMessage) (env : ClientRxEnv) :
    Passive c.session (c.dispatch m env).session := by
  rcases dispatch_cases c m env with
    ⟨_, h⟩ | ⟨_, h⟩ | ⟨_, h⟩ | ⟨_, h⟩ | ⟨_, h⟩ | ⟨cb, _, h, _⟩ | ⟨_, cb, m', _, h⟩
  · rw [h]
    have hresponse : Passive c.session (c.session.record .logonResponse) := .record _ _
    exact (hresponse.trans (.setState _ (by decide))).trans (.record _ _)
  · rw [h, processLogoutResponse]
    split
    · exact c.processLogonReject_passive m
    · have hflag : Passive c.session (c.session.setReceivedLogoutResponse true) := .silent rfl rfl
      exact (hflag.trans (.setState _ (by decide))).trans (.record _ _)
  · rw [h]
    exact c.processSequenceReset_passive m env
  · rw [h]
    exact (c.session.processResendRequest_passive m).trans (.record _ _)
  · rw [h]
    exact (c.session.processTestRequestMessage_passive m).trans (.record _ _)
  · rw [h, processReject]
    split
    · exact c.processLogonReject_passive m
    · exact c.callback_passive cb _
  · rw [h]
    exact c.callback_passive cb m'

theorem handleMessage_passive (rx : RxMessage) (env : ClientRxEnv) :
    Passive c.session (c.handleMessage rx env).session := by
  rcases handleMessage_cases c rx env with
    ⟨code, errorTag, _, h⟩ | ⟨_, h⟩ | ⟨_, _, h⟩ | ⟨_, _, h⟩ | ⟨_, h⟩
  · rw [h]
    have hparsed : Passive c.session
        ((c.session.received rx env.nowNanoseconds).setLastErrorTag errorTag) := .silent rfl rfl
    exact hparsed.trans (sendRejectMessage_passive (c.modifySession fun s =>
      (s.received rx env.nowNanoseconds).setLastErrorTag errorTag) _ _ _)
  · rw [h]
    exact .silent rfl rfl
  · rw [h]
    exact .silent rfl rfl
  · rw [h]
    have hundone : Passive c.session ((c.session.counted rx
        env.nowNanoseconds).setIncomingSeqNo c.session.sequenceStore.incomingSeqNo) :=
      .silent rfl rfl
    exact (hundone.trans (onConnectionLost_passive (c.modifySession fun s =>
      (s.counted rx env.nowNanoseconds).setIncomingSeqNo s.sequenceStore.incomingSeqNo))).trans
      (closed_passive _)
  · rw [h]
    have hcounted : Passive c.session (c.session.counted rx env.nowNanoseconds) :=
      .silent rfl rfl
    exact (hcounted.trans (satisfied_passive _ rx)).trans (dispatch_passive (c.modifySession
      fun s => (s.counted rx env.nowNanoseconds).satisfied rx) _ env)

/-- A ResendRequest that is well formed and passes the validation. -/
def ResendRequestArrives (e : RxMessage × ClientRxEnv) : Prop :=
  e.1.isResendRequest = true ∧ takesResendRequest e.1.message = true ∧
    c.session.verdict e.1 e.2.utcNow = .valid

variable {c}

/-- Only the sequence check can keep a ResendRequest from being taken up. -/
theorem handleMessage_takesUp {rx : RxMessage} {env : ClientRxEnv}
    (h : c.ResendRequestArrives (rx, env)) (habove : c.session.aboveExpected rx = false) :
    (c.handleMessage rx env).session.state ≠ .inRetransmissionInitiatedBySelf ∧
      (c.session.belowExpected rx = false →
        (c.handleMessage rx env).session.needsRespondingToIncomingResendRequest = true) := by
  obtain ⟨htype, htakes, hvalid⟩ := h
  dsimp only at htype htakes hvalid
  rcases handleMessage_cases c rx env with
    ⟨code, errorTag, hv, _⟩ | ⟨hv, _⟩ | ⟨_, habove', _⟩ | ⟨_, hbelow, h⟩ | ⟨_, h⟩
  · rw [hvalid] at hv
    cases hv
  · rw [hvalid] at hv
    cases hv
  · rw [habove] at habove'
    cases habove'
  · rw [h, hbelow]
    constructor
    · intro hwaits
      cases hwaits
    · intro hfalse
      cases hfalse
  · rw [h]
    have hresend : rx.message.getTagValue tagMsgType = [msgTypeResendRequest] :=
      of_decide_eq_true htype
    have hneeds : ((((c.session.counted rx env.nowNanoseconds).satisfied
        rx).processResendRequest rx.message)).needsRespondingToIncomingResendRequest = true ∧
        ((((c.session.counted rx env.nowNanoseconds).satisfied
          rx).processResendRequest rx.message)).state ≠ .inRetransmissionInitiatedBySelf :=
      processResendRequest_needs htakes
    simp only [dispatch, hresend]
    exact ⟨hneeds.2, fun _ => hneeds.1⟩

variable (c)

theorem rxStep_passive (l : RxLoop) (e : RxMessage × ClientRxEnv) :
    Passive l.client.session (rxStep l e).client.session := by
  unfold rxStep
  split
  · exact .refl _
  · exact l.client.handleMessage_passive e.1 e.2

theorem foldl_rxStep_passive (messages : List (RxMessage × ClientRxEnv)) (l : RxLoop) :
    Passive l.client.session (messages.foldl rxStep l).client.session := by
  induction messages generalizing l with
  | nil => exact .refl _
  | cons e messages ih => exact (rxStep_passive l e).trans (ih _)

theorem processIncomingMessages_passive (read : ReadOutcome) :
    Passive c.session (c.processIncomingMessages read).session := by
  unfold processIncomingMessages
  split
  · cases read with
    | nothing => exact .refl _
    | lost => exact c.onConnectionLost_passive
    | data messages lostAfter =>
      have hbuffer : Passive c.session (c.processRxBuffer messages).session :=
        foldl_rxStep_passive messages { client := c }
      dsimp only
      split
      · exact hbuffer.trans (onConnectionLost_passive _)
      · exact hbuffer
  · exact .refl _

theorem shutdownLoop_passive (reads : List ReadOutcome) :
    Passive c.session (c.shutdownLoop reads).session := by
  induction reads generalizing c with
  | nil => exact .refl _
  | cons read reads ih =>
    have hread := c.processIncomingMessages_passive read
    unfold shutdownLoop
    dsimp only
    split
    · exact hread
    · split
      · exact hread
      · exact hread.trans (ih _)

/-- What a shutdown does behind the loss of the connection that it begins with. -/
theorem doShutdown_passive_lost (graceful : Bool) (env : ShutdownEnv) :
    Passive c.onConnectionLost.session (c.doShutdown graceful env).session := by
  rw [doShutdown_eq]
  refine Passive.trans ?_ (closed_passive _)
  split
  · have hflag : Passive c.onConnectionLost.session
        (c.onConnectionLost.modifySession (·.setReceivedLogoutResponse false)).session :=
      .silent rfl rfl
    have hlogout : Passive (c.onConnectionLost.modifySession
        (·.setReceivedLogoutResponse false)).session (c.awaitLogout env.logoutSend).session :=
      (sendBytes_passive _ _ env.logoutSend).trans (.setState _ (by decide))
    exact (hflag.trans hlogout).trans (shutdownLoop_passive _ env.reads)
  · exact .refl _

theorem doShutdown_passive (graceful : Bool) (env : ShutdownEnv) :
    Passive c.session (c.doShutdown graceful env).session :=
  c.onConnectionLost_passive.trans (c.doShutdown_passive_lost graceful env)

theorem disableSession_passive (env : ShutdownEnv) :
    Passive c.session (c.disableSession env).session := by
  unfold disableSession
  refine Passive.trans ?_ (.setState _ (by decide))
  split
  · exact c.doShutdown_passive true env
  · exact .refl _

theorem enableSession_passive (records : List UInt32) :
    Passive c.session (c.enableSession records).session := by
  unfold enableSession
  have hstate : Passive c.session (c.session.setState .disconnected) := .setState _ (by decide)
  split
  · dsimp only
    split
    · exact hstate.trans (reinitialiseOutgoingSerialiser_passive _ records)
    · exact hstate
  · exact .refl _

theorem sendSequenceResetMessage_passive (n : UInt32) (o : SendOutcome) :
    Passive c.session (c.sendSequenceResetMessage n o).session := by
  have hset : Passive c.session (c.session.setOutgoingSeqNo n) := .silent rfl rfl
  exact hset.trans (sendBytes_passive (c.modifySession fun _ => c.session.setOutgoingSeqNo n) _ o)

theorem processAdminCommand_passive (command : ModifyingAdminCommand) (env : ClientProcessEnv) :
    Passive c.session (c.processAdminCommand command env).session := by
  unfold processAdminCommand
  cases command.type with
  | setIncomingSequenceNumber => exact .silent rfl rfl
  | setOutgoingSequenceNumber => exact .silent rfl rfl
  | sendSequenceReset =>
    dsimp only
    split
    · exact c.sendSequenceResetMessage_passive _ _
    · exact .refl _
  | disableSession => exact c.disableSession_passive _
  | enableSession =>
    dsimp only
    split
    · exact c.enableSession_passive _
    · exact .refl _
  | setIsHaPrimaryInstance =>
    dsimp only
    split
    · exact enableSession_passive { c with isHaPrimary := command.arg = 1 } _
    · exact disableSession_passive { c with isHaPrimary := command.arg = 1 } _

theorem processAdminCommands_passive (env : ClientProcessEnv) :
    Passive c.session (c.processAdminCommands env).session := by
  unfold processAdminCommands
  cases hpop : c.session.tryPopAdminCommand with
  | none => exact .refl _
  | some popped =>
    obtain ⟨command, s⟩ := popped
    exact (tryPopAdminCommand_passive hpop).trans
      (processAdminCommand_passive (c.modifySession fun _ => s) command env)

theorem processReads_passive (env : ClientProcessEnv) :
    Passive c.session (c.processReads env).session := by
  unfold processReads
  split
  · exact c.processIncomingMessages_passive env.read
  · exact .refl _

theorem processOutgoingTestRequestIfNecessary_passive (env : ClientProcessEnv) :
    Passive c.session (c.processOutgoingTestRequestIfNecessary env).session := by
  unfold processOutgoingTestRequestIfNecessary
  dsimp only
  split_ifs
  · have hbuilt : Passive c.session c.session.buildTestRequestMessage.1 := .silent rfl rfl
    have hsent := hbuilt.trans (sendBytes_passive (c.modifySession fun _ =>
      c.session.buildTestRequestMessage.1) (.original c.session.buildTestRequestMessage.2
        (c.session.sequenceStore.outgoingSeqNo + 1)) env.testRequestSend)
    exact hsent.trans (.silent rfl rfl)
  · exact .refl _
  · have hflag : Passive c.session (c.session.setExpectingResponseForOutgoingTestRequest false) :=
      .silent rfl rfl
    exact hflag.trans (doShutdown_passive
      (c.modifySession (·.setExpectingResponseForOutgoingTestRequest false)) false {})
  · exact .refl _

theorem resendMessagesToServer_passive (beginSeqNo endSeqNo : UInt32)
    (o : UInt32 → SendOutcome) :
    Passive c.session (c.resendMessagesToServer beginSeqNo endSeqNo o).session := by
  unfold resendMessagesToServer
  induction replayRange beginSeqNo endSeqNo generalizing c with
  | nil => exact .refl _
  | cons n ns ih => exact (sendBytes_passive c _ (o n)).trans (ih _)

theorem respondToResendRequestIfNecessary_passive (env : ClientProcessEnv) :
    Passive c.session (c.respondToResendRequestIfNecessary env).session := by
  unfold respondToResendRequestIfNecessary
  dsimp only
  split_ifs
  · exact (c.resendMessagesToServer_passive _ _ env.replaySend).trans
      (resendRequestAnswered_passive _)
  · exact (sendBytes_passive c _ env.gapFillSend).trans (resendRequestAnswered_passive _)
  · exact .refl _

theorem respondToTestRequestIfNecessary_passive (env : ClientProcessEnv) :
    Passive c.session (c.respondToTestRequestIfNecessary env).session := by
  unfold respondToTestRequestIfNecessary
  dsimp only
  split_ifs
  · exact (sendBytes_passive c _ env.testResponseSend).trans (.silent rfl rfl)
  · exact .refl _

theorem sendClientHeartbeatIfNecessary_passive (env : ClientProcessEnv) :
    Passive c.session (c.sendClientHeartbeatIfNecessary env).session := by
  unfold sendClientHeartbeatIfNecessary
  split_ifs
  · exact sendBytes_passive c _ env.heartbeatSend
  · exact .refl _

theorem processScheduleValidator_passive (env : ClientProcessEnv) :
    Passive c.session (c.processScheduleValidator env).session := by
  unfold processScheduleValidator
  split_ifs
  · exact c.doShutdown_passive true env.scheduleShutdown
  · exact .refl _

theorem processOutgoingLogonRequest_passive (env : ClientProcessEnv) :
    Passive c.session (c.processOutgoingLogonRequest env).session := by
  unfold processOutgoingLogonRequest
  split_ifs
  · exact .setState _ (by decide)
  · exact .refl _

end Passive

/-! ### Asking -/

section Asks

variable {c : FixClient} {env : ClientProcessEnv}

/-- The ResendRequest that the step would send is taken whole by an open connection. -/
def ResendRequestGoesOut (c : FixClient) (env : ClientProcessEnv) : Prop :=
  c.session.state ≠ .inRetransmissionInitiatedBySelf → c.session.needsToSendResendRequest = true →
    c.socketOpen = true ∧ env.resendRequestSend.result = .ok

theorem processOutgoingResendRequestIfNecessary_proceeds (h : c.ResendRequestGoesOut env) :
    Proceeds c.session (c.processOutgoingResendRequestIfNecessary env).session := by
  unfold processOutgoingResendRequestIfNecessary
  dsimp only
  split_ifs with hwaits hexpired hneeds
  · exact .inl (c.doShutdown_passive false {})
  · exact .refl _
  · obtain ⟨hopen, ho⟩ := h hwaits hneeds
    refine .inr ⟨[], [.state .inRetransmissionInitiatedBySelf], .original
      (c.session.buildResendRequestMessage (text "0"))
      (c.session.sequenceStore.outgoingSeqNo + 1), c.session.sequenceStore.incomingSeqNo, ?_, rfl⟩
    have hsent := c.sendBytes_sent (.original (c.session.buildResendRequestMessage (text "0"))
      (c.session.sequenceStore.outgoingSeqNo + 1)) hopen ho
    show (c.sendResendRequest env.resendRequestSend).session.trace ++ [_] = _
    rw [sendResendRequest, sendOutgoingMessage, hsent]
    simp
  · exact .refl _

theorem processLive_proceeds (h : c.ResendRequestGoesOut env) :
    Proceeds c.session (c.processLive env).session := by
  have hrest : ∀ c' : FixClient, Passive c'.session
      (((((c'.processOutgoingTestRequestIfNecessary env).respondToResendRequestIfNecessary
        env).respondToTestRequestIfNecessary env).sendClientHeartbeatIfNecessary
          env).processScheduleValidator env).session := fun c' =>
    ((((c'.processOutgoingTestRequestIfNecessary_passive env).trans
      (respondToResendRequestIfNecessary_passive _ env)).trans
      (respondToTestRequestIfNecessary_passive _ env)).trans
      (sendClientHeartbeatIfNecessary_passive _ env)).trans
      (processScheduleValidator_passive _ env)
  exact (processOutgoingResendRequestIfNecessary_proceeds h).trans (.inl (hrest _))

/-- What a pass does after its read. -/
theorem process_proceeds
    (h : isStateLive c.session.state = true →
      ((c.processReads env).processAdminCommands env).ResendRequestGoesOut env) :
    Proceeds (c.processReads env).session (c.process env).session := by
  have hadmin : Proceeds (c.processReads env).session
      ((c.processReads env).processAdminCommands env).session :=
    .inl ((c.processReads env).processAdminCommands_passive env)
  unfold process processAfterAdmin
  dsimp only
  split
  · next hlive => exact hadmin.trans (processLive_proceeds (h hlive))
  · split
    · exact hadmin.trans (.inl (processOutgoingLogonRequest_passive _ env))
    · exact hadmin

end Asks

end FixClient

end Llfix
