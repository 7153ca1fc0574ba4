import Llfix.CounterLaw
import Llfix.Lib.GuardedRun

/-!
# The order of delivery of the client

The messages that reach `on_execution_report`, `on_order_cancel_replace_reject` and
`on_custom_message_type` are those with the expected number. A run of the client takes messages in
several places: in the read of `process`, and in the reads of a shutdown that waits for its
logout. `EachOfEvent` says of a condition that every message an event processes meets it, in the
state in which it is processed.

Results:
1. `handleMessage_delivers`: a message that is delivered is the expected one.
2. `Kept.step`: what quiet steps and single messages keep is kept by every event.
3. `delivered_increasing`: along any run the delivered numbers increase, each the stored number
   after it.
-/

namespace Llfix

namespace FixClient

open FixSession GuardedRun

/-! ## The messages of an event -/

section Each

variable (P : FixClient → RxMessage × ClientRxEnv → Prop)

/-- The messages of a buffer, up to the one that disconnects. -/
def EachOfBuffer (c : FixClient) (messages : List (RxMessage × ClientRxEnv)) : Prop :=
  Guarded rxStep (fun l e => l.returned = false → P l.client e) { client := c } messages

def EachOfRead (c : FixClient) : ReadOutcome → Prop
  | .nothing => True
  | .data messages _ => c.socketOpen = true → EachOfBuffer P c messages
  | .lost => True

def EachOfShutdownLoop : FixClient → List ReadOutcome → Prop
  | _, [] => True
  | c, read :: reads =>
    EachOfRead P c read ∧
      ((c.processIncomingMessages read).session.receivedLogoutResponse = false →
        (c.processIncomingMessages read).session.state ≠ .disconnected →
        EachOfShutdownLoop (c.processIncomingMessages read) reads)

/-- The client when `do_shutdown` starts to wait for the logout. -/
def awaitLogout (c : FixClient) (o : SendOutcome) : FixClient :=
  ((c.onConnectionLost.modifySession (·.setReceivedLogoutResponse false)).sendLogoutRequest
    o).modifySession (·.setState .pendingLogout)

def EachOfShutdown (c : FixClient) (graceful : Bool) (env : ShutdownEnv) : Prop :=
  graceful = true → c.session.state = .loggedOn →
    EachOfShutdownLoop P (c.awaitLogout env.logoutSend) env.reads

def EachOfDisabling (c : FixClient) (env : ShutdownEnv) : Prop :=
  isStateLive c.session.state = true → EachOfShutdown P c true env

def EachOfAdminCommand (c : FixClient) (command : ModifyingAdminCommand)
    (env : ClientProcessEnv) : Prop :=
  match command.type with
  | .disableSession => EachOfDisabling P c env.adminShutdown
  | .setIsHaPrimaryInstance =>
    command.arg ≠ 1 →
      EachOfDisabling P { c with isHaPrimary := command.arg = 1 } env.adminShutdown
  | _ => True

def EachOfAdminCommands (c : FixClient) (env : ClientProcessEnv) : Prop :=
  match c.session.tryPopAdminCommand with
  | none => True
  | some (command, s) => EachOfAdminCommand P (c.modifySession fun _ => s) command env

/-- The steps of `process` in a live state, up to the schedule. -/
def processTimers (c : FixClient) (env : ClientProcessEnv) : FixClient :=
  ((((c.processOutgoingResendRequestIfNecessary env).processOutgoingTestRequestIfNecessary
    env).respondToResendRequestIfNecessary env).respondToTestRequestIfNecessary
      env).sendClientHeartbeatIfNecessary env

theorem processLive_eq (c : FixClient) (env : ClientProcessEnv) :
    c.processLive env = (c.processTimers env).processScheduleValidator env := rfl

def EachOfProcess (c : FixClient) (env : ClientProcessEnv) : Prop :=
  (SessionState.disconnected.rank < c.session.state.rank → EachOfRead P c env.read) ∧
    EachOfAdminCommands P (c.processReads env) env ∧
    (isStateLive c.session.state = true → env.scheduleValid = false →
      EachOfShutdown P (((c.processReads env).processAdminCommands env).processTimers env) true
        env.scheduleShutdown)

/-- The messages of an event. -/
def EachOfEvent (c : FixClient) : Event → Prop
  | .connect _ => True
  | .process env => EachOfProcess P c env
  | .shutdown graceful env => EachOfShutdown P c graceful env
  | .pushAdminCommand _ => True

end Each

/-! ## Quiet steps -/

/-- The number of a message that goes to one of the three callbacks. -/
def deliveredSeqNum : Output → Option UInt32
  | .callback .onExecutionReport (some m) => some (m.getTagValueAsUInt32 tagMsgSeqNum)
  | .callback .onOrderCancelReplaceReject (some m) => some (m.getTagValueAsUInt32 tagMsgSeqNum)
  | .callback .onCustomMessageType (some m) => some (m.getTagValueAsUInt32 tagMsgSeqNum)
  | _ => none

/-- The numbers of the delivered messages, in order. -/
def delivered (s : FixSession) : List UInt32 := s.trace.filterMap deliveredSeqNum

theorem delivered_of_trace_eq {s s' : FixSession} (h : s'.trace = s.trace) :
    delivered s' = delivered s := by
  rw [delivered, h, delivered]

theorem delivered_record (s : FixSession) {o : Output} (h : deliveredSeqNum o = none) :
    delivered (s.record o) = delivered s := by
  simp [delivered, h]

/-- A step that delivers nothing and leaves alone what the order of delivery rests on. -/
structure Quiet (s s' : FixSession) : Prop where
  incoming : s'.sequenceStore.incomingSeqNo = s.sequenceStore.incomingSeqNo
  settings : s'.settings = s.settings
  commands : s'.adminCommands ⊆ s.adminCommands
  delivered : delivered s' = delivered s

namespace Quiet

variable {s s' s'' : FixSession}

theorem refl (s : FixSession) : Quiet s s := ⟨rfl, rfl, List.Subset.refl _, rfl⟩

theorem trans (h : Quiet s s') (h' : Quiet s' s'') : Quiet s s'' where
  incoming := h'.incoming.trans h.incoming
  settings := h'.settings.trans h.settings
  commands := List.Subset.trans h'.commands h.commands
  delivered := h'.delivered.trans h.delivered

theorem of_core (hcore : s'.core = s.core) (hdelivered : FixClient.delivered s' =
    FixClient.delivered s) : Quiet s s' where
  incoming := incomingSeqNo_of_core hcore
  settings := settings_of_core hcore
  commands := by
    have hcommands : s'.core.adminCommands = s.core.adminCommands := by rw [hcore]
    exact hcommands ▸ List.Subset.refl _
  delivered := hdelivered

theorem record (s : FixSession) {o : Output} (h : deliveredSeqNum o = none) :
    Quiet s (s.record o) :=
  of_core rfl (delivered_record s h)

theorem setState (s : FixSession) (st : SessionState) : Quiet s (s.setState st) :=
  of_core rfl (delivered_record s rfl)

end Quiet

theorem sendBytes_quiet (c : FixClient) (t : Transmission) (o : SendOutcome) :
    Quiet c.session (c.sendBytes t o).session := by
  refine .of_core (sendBytes_core c t o) ?_
  cases hopen : c.socketOpen with
  | false => exact delivered_of_trace_eq (by simp [sendBytes_closed c t hopen])
  | true =>
    by_cases ho : o.result = .connectionLost
    · simp [delivered, sendBytes_lost c t hopen ho, onConnectionLost_session, deliveredSeqNum]
    · simp [delivered, sendBytes_held c t hopen ho, deliveredSeqNum]

section Steps

variable (c : FixClient) (env : ClientProcessEnv)

theorem onConnectionLost_quiet : Quiet c.session c.onConnectionLost.session :=
  ((Quiet.setState c.session .disconnected).trans (.record _ rfl)).trans (.record _ rfl)

theorem close_quiet : Quiet c.session c.close.session := .record c.session rfl

theorem doShutdownNow_quiet : Quiet c.session c.doShutdownNow.session :=
  (c.onConnectionLost_quiet.trans (close_quiet _)).trans (.setState _ _)

theorem sendRejectMessage_quiet (code errorTag : UInt32) (o : SendOutcome) :
    Quiet c.session (c.sendRejectMessage code errorTag o).session :=
  sendBytes_quiet c _ o

theorem sendLogonRequest_quiet (h : c.session.settings.logonResetSequenceNumbers = false)
    (o : SendOutcome) : Quiet c.session (c.sendLogonRequest o).session := by
  have hsession : (logonRequest c.session).1 = c.session := by
    unfold logonRequest
    simp only [h, Bool.false_eq_true, if_false]
  have hquiet : Quiet (logonRequest c.session).1 (c.sendLogonRequest o).session :=
    sendBytes_quiet (c.modifySession fun _ => (logonRequest c.session).1) _ o
  rw [hsession] at hquiet
  exact hquiet

theorem sendTestRequest_quiet (o : SendOutcome) :
    Quiet c.session (c.sendTestRequest o).session := by
  have hbuilt : Quiet c.session c.session.buildTestRequestMessage.1 :=
    ⟨rfl, rfl, List.Subset.refl _, rfl⟩
  exact hbuilt.trans (sendBytes_quiet (c.modifySession fun _ =>
    c.session.buildTestRequestMessage.1) _ o)

theorem sendSequenceResetMessage_quiet (n : UInt32) (o : SendOutcome) :
    Quiet c.session (c.sendSequenceResetMessage n o).session := by
  have hbuilt : Quiet c.session (c.session.setOutgoingSeqNo n) :=
    ⟨rfl, rfl, List.Subset.refl _, rfl⟩
  exact hbuilt.trans (sendBytes_quiet (c.modifySession fun _ => c.session.setOutgoingSeqNo n) _ o)

theorem resendMessagesToServer_quiet (beginSeqNo endSeqNo : UInt32) (o : UInt32 → SendOutcome) :
    Quiet c.session (c.resendMessagesToServer beginSeqNo endSeqNo o).session := by
  unfold resendMessagesToServer
  induction replayRange beginSeqNo endSeqNo generalizing c with
  | nil => exact .refl _
  | cons n ns ih => exact (sendBytes_quiet c _ (o n)).trans (ih _)

theorem doShutdown_eq (graceful : Bool) (senv : ShutdownEnv) :
    c.doShutdown graceful senv =
      (if graceful && c.session.state = .loggedOn then
        (c.awaitLogout senv.logoutSend).shutdownLoop senv.reads
      else c.onConnectionLost).close.modifySession (·.setState .disconnected) := rfl

theorem awaitLogout_quiet (o : SendOutcome) : Quiet c.session (c.awaitLogout o).session := by
  have hflag : Quiet c.onConnectionLost.session
      (c.onConnectionLost.modifySession (·.setReceivedLogoutResponse false)).session :=
    ⟨rfl, rfl, List.Subset.refl _, rfl⟩
  exact ((c.onConnectionLost_quiet.trans hflag).trans (sendBytes_quiet _ _ o)).trans
    (.setState _ _)

/-- A shutdown that does not wait. -/
theorem doShutdown_false_quiet (senv : ShutdownEnv) :
    Quiet c.session (c.doShutdown false senv).session :=
  (c.onConnectionLost_quiet.trans (close_quiet _)).trans (.setState _ _)

theorem connect_quiet (h : c.session.settings.logonResetSequenceNumbers = false)
    (cenv : ConnectEnv) : Quiet c.session (c.connect cenv).session := by
  have hpending : Quiet c.session (c.session.setState .pendingConnection).resetFlags :=
    (Quiet.setState c.session _).trans ⟨rfl, rfl, List.Subset.refl _, rfl⟩
  have hclosed := hpending.trans (.record _ (o := .connectionClosed) rfl)
  unfold connect
  split_ifs
  · exact .refl _
  · exact .refl _
  · have hconnected := hclosed.trans (.record _ (o := .connected) rfl)
    have htime : ∀ s : FixSession,
        Quiet s (s.setLastReceivedMessageTimestampNanoseconds cenv.nowNanoseconds) :=
      fun _ => ⟨rfl, rfl, List.Subset.refl _, rfl⟩
    have hlogon := ((hconnected.trans (htime _)).trans (.setState _ .pendingLogon)).trans
      (.record _ (o := .callback .onConnection none) rfl)
    dsimp only
    refine Quiet.trans ?_ (sendLogonRequest_quiet _ ?_ cenv.logonSend)
    · exact hlogon
    · exact h
  · exact hclosed.trans (.setState _ _)

theorem resendRequestSent_quiet (s : FixSession) (timestamp : UInt64) :
    Quiet s (s.resendRequestSent timestamp) := by
  have htime : Quiet s { s with outgoingResendRequestTimestampNanoseconds := timestamp } :=
    ⟨rfl, rfl, List.Subset.refl _, rfl⟩
  exact (htime.trans (.setState _ .inRetransmissionInitiatedBySelf)).trans
    ⟨rfl, rfl, List.Subset.refl _, rfl⟩

theorem resendRequestAnswered_quiet (s : FixSession) : Quiet s s.resendRequestAnswered := by
  have hflag : Quiet s { s with needsRespondingToIncomingResendRequest := false } :=
    ⟨rfl, rfl, List.Subset.refl _, rfl⟩
  exact hflag.trans (.setState _ _)

theorem processOutgoingResendRequestIfNecessary_quiet :
    Quiet c.session (c.processOutgoingResendRequestIfNecessary env).session := by
  unfold processOutgoingResendRequestIfNecessary
  dsimp only
  split_ifs
  · exact c.doShutdown_false_quiet {}
  · exact .refl _
  · have hsend : Quiet c.session (c.sendResendRequest env.resendRequestSend).session :=
      sendBytes_quiet c _ env.resendRequestSend
    exact hsend.trans (resendRequestSent_quiet _ _)
  · exact .refl _

theorem processOutgoingTestRequestIfNecessary_quiet :
    Quiet c.session (c.processOutgoingTestRequestIfNecessary env).session := by
  unfold processOutgoingTestRequestIfNecessary
  dsimp only
  split_ifs
  · exact (c.sendTestRequest_quiet env.testRequestSend).trans ⟨rfl, rfl, List.Subset.refl _, rfl⟩
  · exact .refl _
  · have hflag : Quiet c.session (c.session.setExpectingResponseForOutgoingTestRequest false) :=
      ⟨rfl, rfl, List.Subset.refl _, rfl⟩
    exact hflag.trans (doShutdown_false_quiet
      (c.modifySession (·.setExpectingResponseForOutgoingTestRequest false)) {})
  · exact .refl _

theorem respondToResendRequestIfNecessary_quiet :
    Quiet c.session (c.respondToResendRequestIfNecessary env).session := by
  unfold respondToResendRequestIfNecessary
  dsimp only
  split_ifs
  · exact (c.resendMessagesToServer_quiet _ _ env.replaySend).trans (resendRequestAnswered_quiet _)
  · exact (sendBytes_quiet c _ env.gapFillSend).trans (resendRequestAnswered_quiet _)
  · exact .refl _

theorem respondToTestRequestIfNecessary_quiet :
    Quiet c.session (c.respondToTestRequestIfNecessary env).session := by
  unfold respondToTestRequestIfNecessary
  dsimp only
  split_ifs
  · exact (sendBytes_quiet c _ env.testResponseSend).trans ⟨rfl, rfl, List.Subset.refl _, rfl⟩
  · exact .refl _

theorem sendClientHeartbeatIfNecessary_quiet :
    Quiet c.session (c.sendClientHeartbeatIfNecessary env).session := by
  unfold sendClientHeartbeatIfNecessary
  split_ifs
  · exact sendBytes_quiet c _ env.heartbeatSend
  · exact .refl _

theorem processTimers_quiet : Quiet c.session (c.processTimers env).session :=
  ((((c.processOutgoingResendRequestIfNecessary_quiet env).trans
    (processOutgoingTestRequestIfNecessary_quiet _ env)).trans
    (respondToResendRequestIfNecessary_quiet _ env)).trans
    (respondToTestRequestIfNecessary_quiet _ env)).trans
    (sendClientHeartbeatIfNecessary_quiet _ env)

theorem processOutgoingLogonRequest_quiet :
    Quiet c.session (c.processOutgoingLogonRequest env).session := by
  unfold processOutgoingLogonRequest
  split_ifs
  · exact .setState _ _
  · exact .refl _

end Steps

/-! ## One message -/

/-- A type that the check for a hard sequence reset takes for `4`, while the `switch` does not. -/
def LooksLikeReset (rx : RxMessage) : Prop :=
  rx.message.getTagValueAsChar tagMsgType = msgTypeSequenceReset ∧
    rx.msgType ≠ [msgTypeSequenceReset]

/-- What is assumed of a message and of the number it meets. -/
def Regular (c : FixClient) (e : RxMessage × ClientRxEnv) : Prop :=
  c.session.sequenceStore.incomingSeqNo < 4294967295 ∧ ¬ LooksLikeReset e.1

/-- A message is delivered at most once, as the expected one, and its number is the stored number
after it. -/
def DeliversCounted (c : FixClient) (e : RxMessage × ClientRxEnv) : Prop :=
  delivered (c.handleMessage e.1 e.2).session = delivered c.session ∨
    (delivered (c.handleMessage e.1 e.2).session = delivered c.session ++ [e.1.seqNum] ∧
      e.1.seqNum = c.session.sequenceStore.incomingSeqNo + 1 ∧
      (c.handleMessage e.1 e.2).session.sequenceStore.incomingSeqNo = e.1.seqNum)

section Message

variable (c : FixClient) (rx : RxMessage) (env : ClientRxEnv)

theorem satisfied_delivered (s : FixSession) : delivered (s.satisfied rx) = delivered s := by
  rw [delivered, satisfied_trace]
  split <;> simp [delivered, deliveredSeqNum]

theorem sessionMsgTypes_reset {m : IncomingFixMessage}
    (h : m.getTagValue tagMsgType ∉ sessionMsgTypes) :
    m.getTagValue tagMsgType ≠ [msgTypeSequenceReset] := by
  intro htype
  exact h (by rw [htype]; decide)

theorem processSequenceReset_delivered (m : IncomingFixMessage) :
    delivered (c.processSequenceReset m env).session = delivered c.session := by
  unfold processSequenceReset
  cases h : acceptsSequenceReset c.session.sequenceStore.incomingSeqNo m with
  | true =>
    rw [processIncomingSequenceResetMessage_accepted h]
    exact delivered_record _ rfl
  | false =>
    rw [processIncomingSequenceResetMessage_refused h]
    dsimp only
    split
    · exact (sendRejectMessage_quiet _ _ _ _).delivered
    · rfl

theorem processResendRequest_delivered (s : FixSession) (m : IncomingFixMessage) :
    delivered (s.processResendRequest m) = delivered s := by
  cases h : takesResendRequest m with
  | true =>
    rw [processResendRequest_taken h]
    exact delivered_record s rfl
  | false => rw [processResendRequest_ignored h]

/-- The `switch` delivers at most the message it is given, and only one of a type of its own. -/
theorem dispatch_delivered (m : IncomingFixMessage) :
    delivered (c.dispatch m env).session = delivered c.session ∨
      (delivered (c.dispatch m env).session =
          delivered c.session ++ [m.getTagValueAsUInt32 tagMsgSeqNum] ∧
        m.getTagValue tagMsgType ≠ [msgTypeSequenceReset]) := by
  rcases dispatch_cases c m env with
    ⟨_, h⟩ | ⟨_, h⟩ | ⟨_, h⟩ | ⟨_, h⟩ | ⟨_, h⟩ | ⟨cb, hcb, h, _⟩ | ⟨htype, cb, m', hm', h⟩
  · left
    rw [h]
    simp [processLogonResponse, callback, delivered, deliveredSeqNum]
  · left
    rw [h, processLogoutResponse]
    split
    · simp [processLogonReject, callback, delivered, deliveredSeqNum]
    · simp [callback, delivered, deliveredSeqNum, setReceivedLogoutResponse]
  · left
    rw [h, processSequenceReset_delivered]
  · left
    rw [h]
    exact (delivered_record _ rfl).trans (processResendRequest_delivered c.session m)
  · left
    rw [h]
    simp [callback, delivered, deliveredSeqNum, processTestRequestMessage_trace]
  · left
    rw [h, processReject]
    split
    · simp [processLogonReject, callback, delivered, deliveredSeqNum]
    · rcases hcb with rfl | rfl <;> simp [callback, delivered, deliveredSeqNum]
  · rw [h]
    rcases hm' with rfl | rfl
    · cases hcb : deliveredSeqNum (.callback cb (some m)) with
      | none => exact .inl (delivered_record _ hcb)
      | some n =>
        have hn : n = m.getTagValueAsUInt32 tagMsgSeqNum := by
          unfold deliveredSeqNum at hcb
          split at hcb <;> simp_all
        refine .inr ⟨?_, sessionMsgTypes_reset htype⟩
        simp [callback, delivered, hcb, hn]
    · exact .inl (delivered_record _ (by unfold deliveredSeqNum; split <;> simp_all))

/-- Behind the sequence checks a message that is not taken for a hard sequence reset is the
expected one. -/
theorem expected_of_passesChecks {s : FixSession} {rx : RxMessage} {env : ClientRxEnv}
    (h : passesChecks s rx env = true) (hhard : isAHardSequenceResetMessage rx.message = false) :
    rx.seqNum = s.sequenceStore.incomingSeqNo + 1 := by
  simp only [passesChecks, Bool.and_eq_true, Bool.not_eq_true'] at h
  exact seqNum_of_expected h.1.2 h.2 hhard

/-- A message of a type of its own is no hard sequence reset, unless it looks like one. -/
theorem notHard_of_regular {rx : RxMessage} (hregular : ¬ LooksLikeReset rx)
    (htype : rx.msgType ≠ [msgTypeSequenceReset]) :
    isAHardSequenceResetMessage rx.message = false := by
  have hchar : rx.message.getTagValueAsChar tagMsgType ≠ msgTypeSequenceReset := fun hchar =>
    hregular ⟨hchar, htype⟩
  simp [isAHardSequenceResetMessage, hchar]

theorem handleMessage_delivers (hregular : ¬ LooksLikeReset rx) : DeliversCounted c (rx, env) := by
  unfold DeliversCounted
  dsimp only
  have hnumber := handleMessage_incomingSeqNo c rx env
  rcases handleMessage_cases c rx env with
    ⟨code, errorTag, _, h⟩ | ⟨_, h⟩ | ⟨_, _, h⟩ | ⟨_, _, h⟩ | ⟨hpass, h⟩
  · left
    rw [h]
    exact (sendRejectMessage_quiet _ _ _ _).delivered
  · left
    rw [h]
    rfl
  · left
    rw [h]
    rfl
  · left
    rw [h]
    exact (doShutdownNow_quiet _).delivered
  · have hbefore : delivered (c.modifySession fun s =>
        (s.counted rx env.nowNanoseconds).satisfied rx).session = delivered c.session :=
      satisfied_delivered rx _
    rcases dispatch_delivered (c.modifySession fun s =>
        (s.counted rx env.nowNanoseconds).satisfied rx) env rx.message with hquiet | ⟨hnew, htype⟩
    · left
      rw [h, hquiet, hbefore]
    · right
      have hseq := expected_of_passesChecks hpass (notHard_of_regular hregular htype)
      have hreset : acceptedReset c.session rx env = false := by
        have hne : decide (rx.msgType = [msgTypeSequenceReset]) = false := decide_eq_false htype
        rw [acceptedReset, hne, Bool.and_false, Bool.false_and]
      refine ⟨by rw [h, hnew, hbefore]; rfl, hseq, ?_⟩
      rw [hnumber, numberAfter, if_neg (by rw [hpass]; exact Bool.true_eq_false.mp), hreset,
        if_neg Bool.false_ne_true, hseq]

end Message

/-! ## The invariant -/

/-- No delivered number is above the stored one, and nothing will set it back. -/
structure InOrder (s : FixSession) : Prop where
  noLogonReset : s.settings.logonResetSequenceNumbers = false
  noSetting : ∀ command ∈ s.adminCommands, command.type ≠ .setIncomingSequenceNumber
  increasing : (delivered s).Pairwise (· < ·)
  bounded : ∀ n ∈ delivered s, n ≤ s.sequenceStore.incomingSeqNo

theorem InOrder.quiet {s s' : FixSession} (h : InOrder s) (hquiet : Quiet s s') : InOrder s' where
  noLogonReset := by rw [hquiet.settings]; exact h.noLogonReset
  noSetting command hmem := h.noSetting command (hquiet.commands hmem)
  increasing := by rw [hquiet.delivered]; exact h.increasing
  bounded := by rw [hquiet.delivered, hquiet.incoming]; exact h.bounded

section Message

variable (c : FixClient) (rx : RxMessage) (env : ClientRxEnv)

theorem sendRejectMessage_frame (code errorTag : UInt32) (o : SendOutcome) :
    (c.sendRejectMessage code errorTag o).session.settings = c.session.settings ∧
      (c.sendRejectMessage code errorTag o).session.adminCommands ⊆ c.session.adminCommands :=
  ⟨(c.sendRejectMessage_quiet code errorTag o).settings,
    (c.sendRejectMessage_quiet code errorTag o).commands⟩

theorem processTestRequestMessage_frame (s : FixSession) (m : IncomingFixMessage) :
    (s.processTestRequestMessage m).settings = s.settings ∧
      (s.processTestRequestMessage m).adminCommands = s.adminCommands := by
  unfold processTestRequestMessage
  split
  · dsimp only
    split
    · exact ⟨rfl, rfl⟩
    · exact ⟨rfl, rfl⟩
  · exact ⟨rfl, rfl⟩

theorem dispatch_frame (m : IncomingFixMessage) :
    (c.dispatch m env).session.settings = c.session.settings ∧
      (c.dispatch m env).session.adminCommands ⊆ c.session.adminCommands := by
  have same : ∀ s : FixSession, s.settings = s.settings ∧ s.adminCommands ⊆ s.adminCommands :=
    fun s => ⟨rfl, List.Subset.refl _⟩
  rcases dispatch_cases c m env with
    ⟨_, h⟩ | ⟨_, h⟩ | ⟨_, h⟩ | ⟨_, h⟩ | ⟨_, h⟩ | ⟨cb, _, h, _⟩ | ⟨_, cb, m', _, h⟩
  · rw [h]
    exact same c.session
  · rw [h, processLogoutResponse]
    split
    · exact same c.session
    · exact same c.session
  · rw [h, processSequenceReset]
    cases haccepts : acceptsSequenceReset c.session.sequenceStore.incomingSeqNo m with
    | true =>
      rw [processIncomingSequenceResetMessage_accepted haccepts]
      exact same c.session
    | false =>
      rw [processIncomingSequenceResetMessage_refused haccepts]
      dsimp only
      split
      · exact sendRejectMessage_frame (c.modifySession fun _ => c.session) _ _ _
      · exact same c.session
  · rw [h]
    show (c.session.processResendRequest m).settings = _ ∧
      (c.session.processResendRequest m).adminCommands ⊆ _
    cases htakes : takesResendRequest m with
    | true =>
      rw [processResendRequest_taken htakes]
      exact same c.session
    | false =>
      rw [processResendRequest_ignored htakes]
      exact same c.session
  · rw [h]
    obtain ⟨hsettings, hcommands⟩ := processTestRequestMessage_frame c.session m
    exact ⟨hsettings, fun _ hmem => hcommands ▸ hmem⟩
  · rw [h, processReject]
    split
    · exact same c.session
    · exact same c.session
  · rw [h]
    exact same c.session

theorem satisfied_frame (s : FixSession) :
    (s.satisfied rx).settings = s.settings ∧ (s.satisfied rx).adminCommands = s.adminCommands := by
  unfold satisfied
  split
  · exact ⟨rfl, rfl⟩
  · exact ⟨rfl, rfl⟩

theorem handleMessage_frame :
    (c.handleMessage rx env).session.settings = c.session.settings ∧
      (c.handleMessage rx env).session.adminCommands ⊆ c.session.adminCommands := by
  rcases handleMessage_cases c rx env with
    ⟨code, errorTag, _, h⟩ | ⟨_, h⟩ | ⟨_, _, h⟩ | ⟨_, _, h⟩ | ⟨_, h⟩
  · rw [h]
    exact sendRejectMessage_frame (c.modifySession fun s =>
      (s.received rx env.nowNanoseconds).setLastErrorTag errorTag) code errorTag env.send
  · rw [h]
    exact ⟨rfl, List.Subset.refl _⟩
  · rw [h]
    exact ⟨rfl, List.Subset.refl _⟩
  · rw [h]
    exact ⟨rfl, List.Subset.refl _⟩
  · rw [h]
    obtain ⟨hsettings, hcommands⟩ := satisfied_frame rx (c.session.counted rx env.nowNanoseconds)
    obtain ⟨hsettings', hcommands'⟩ := dispatch_frame (c.modifySession fun s =>
      (s.counted rx env.nowNanoseconds).satisfied rx) env rx.message
    refine ⟨hsettings'.trans hsettings, fun _ hmem => ?_⟩
    have hmem' := hcommands' hmem
    rw [modifySession_session, hcommands] at hmem'
    exact hmem'

/-- A message does not set the stored number back. -/
theorem le_handleMessage (h : c.session.sequenceStore.incomingSeqNo < 4294967295) :
    c.session.sequenceStore.incomingSeqNo ≤
      (c.handleMessage rx env).session.sequenceStore.incomingSeqNo := by
  rw [handleMessage_incomingSeqNo, numberAfter]
  split
  · exact UInt32.le_refl _
  · split
    · next haccepted =>
      simp only [acceptedReset, acceptsSequenceReset, Bool.and_eq_true, decide_eq_true_eq]
        at haccepted
      obtain ⟨-, -, hlt⟩ := haccepted
      simp only [RxMessage.newSeqNo]
      grind
    · grind

theorem handleMessage_inOrder (h : InOrder c.session) (hregular : Regular c (rx, env)) :
    InOrder (c.handleMessage rx env).session := by
  obtain ⟨hlt, hlooks⟩ := hregular
  obtain ⟨hsettings, hcommands⟩ := handleMessage_frame c rx env
  have hle := le_handleMessage c rx env hlt
  refine ⟨by rw [hsettings]; exact h.noLogonReset,
    fun command hmem => h.noSetting command (hcommands hmem), ?_, ?_⟩
  · rcases handleMessage_delivers c rx env hlooks with hsame | ⟨hnew, hseq, -⟩
    · rw [hsame]
      exact h.increasing
    · rw [hnew, List.pairwise_append]
      refine ⟨h.increasing, List.pairwise_singleton _ _, fun n hn m hm => ?_⟩
      obtain rfl := List.mem_singleton.mp hm
      have hbound := h.bounded n hn
      simp only at hseq hlt
      rw [hseq]
      grind
  · rcases handleMessage_delivers c rx env hlooks with hsame | ⟨hnew, -, hnumber⟩
    · rw [hsame]
      exact fun n hn => UInt32.le_trans (h.bounded n hn) hle
    · rw [hnew]
      intro n hn
      rcases List.mem_append.mp hn with hn | hn
      · exact UInt32.le_trans (h.bounded n hn) hle
      · obtain rfl := List.mem_singleton.mp hn
        exact hnumber ▸ UInt32.le_refl _

end Message

/-! ## Events -/

theorem enableSession_quiet (c : FixClient) (records : List UInt32) :
    Quiet c.session (c.enableSession records).session := by
  unfold enableSession
  split
  · have hstate : Quiet c.session (c.session.setState .disconnected) := .setState _ _
    dsimp only
    split
    · have hread : ∀ s : FixSession, Quiet s (s.reinitialiseOutgoingSerialiser records) := by
        intro s
        unfold reinitialiseOutgoingSerialiser
        split
        · exact ⟨rfl, rfl, List.Subset.refl _, rfl⟩
        · exact .refl _
      exact hstate.trans (hread _)
    · exact hstate
  · exact .refl _

theorem tryPopAdminCommand_spec {s s' : FixSession} {command : ModifyingAdminCommand}
    (h : s.tryPopAdminCommand = some (command, s')) : command ∈ s.adminCommands ∧ Quiet s s' := by
  unfold tryPopAdminCommand at h
  split at h
  · cases h
  · next command' rest hcommands =>
    obtain ⟨rfl, rfl⟩ := Prod.mk.inj (Option.some.inj h)
    refine ⟨by rw [hcommands]; exact List.mem_cons_self, rfl, rfl, ?_, rfl⟩
    rw [hcommands]
    exact List.subset_cons_self _ _

/-- What quiet steps keep, and every message that meets the condition; and nothing sets the incoming
number. -/
structure Kept (P : FixClient → RxMessage × ClientRxEnv → Prop) (I : FixSession → Prop) : Prop where
  quiet : ∀ {s s'}, I s → Quiet s s' → I s'
  message : ∀ {c : FixClient} {e}, I c.session → P c e → I (c.handleMessage e.1 e.2).session
  noLogonReset : ∀ {s}, I s → s.settings.logonResetSequenceNumbers = false
  noSetting : ∀ {s}, I s → ∀ command ∈ s.adminCommands, command.type ≠ .setIncomingSequenceNumber

namespace Kept

variable {P : FixClient → RxMessage × ClientRxEnv → Prop} {I : FixSession → Prop}
  (hkept : Kept P I) {c : FixClient}

include hkept

theorem rxStep {l : RxLoop} {e : RxMessage × ClientRxEnv} (h : I l.client.session)
    (heach : l.returned = false → P l.client e) : I (rxStep l e).client.session := by
  unfold FixClient.rxStep
  cases hreturned : l.returned with
  | true => exact h
  | false => exact hkept.message h (heach hreturned)

theorem processRxBuffer {messages : List (RxMessage × ClientRxEnv)} (h : I c.session)
    (heach : EachOfBuffer P c messages) : I (c.processRxBuffer messages).session := by
  have hstep : ∀ (l : RxLoop) (e : RxMessage × ClientRxEnv), I l.client.session →
      (l.returned = false → P l.client e) → I (FixClient.rxStep l e).client.session :=
    fun _ _ hl hok => hkept.rxStep hl hok
  exact Guarded.invariant hstep h heach

theorem processIncomingMessages {read : ReadOutcome} (h : I c.session)
    (heach : EachOfRead P c read) : I (c.processIncomingMessages read).session := by
  unfold FixClient.processIncomingMessages
  split
  · next hopen =>
    cases read with
    | nothing => exact h
    | lost => exact hkept.quiet h c.onConnectionLost_quiet
    | data messages lostAfter =>
      have hbuffer := hkept.processRxBuffer h (heach hopen)
      dsimp only
      split
      · exact hkept.quiet hbuffer (onConnectionLost_quiet _)
      · exact hbuffer
  · exact h

theorem shutdownLoop {reads : List ReadOutcome} (h : I c.session)
    (heach : EachOfShutdownLoop P c reads) : I (c.shutdownLoop reads).session := by
  induction reads generalizing c with
  | nil => exact h
  | cons read reads ih =>
    obtain ⟨hread, hrest⟩ := heach
    have hnext := hkept.processIncomingMessages h hread
    unfold FixClient.shutdownLoop
    dsimp only
    split
    · exact hnext
    · next hlogout =>
      split
      · exact hnext
      · next hstate => exact ih hnext (hrest (Bool.eq_false_iff.mpr hlogout) hstate)

theorem doShutdown {graceful : Bool} {senv : ShutdownEnv} (h : I c.session)
    (heach : EachOfShutdown P c graceful senv) : I (c.doShutdown graceful senv).session := by
  have hclosed : ∀ c' : FixClient, I c'.session →
      I (c'.close.modifySession (·.setState .disconnected)).session := fun c' h' =>
    hkept.quiet h' ((close_quiet c').trans (.setState _ _))
  rw [doShutdown_eq]
  split
  · next hlive =>
    simp only [Bool.and_eq_true, decide_eq_true_eq] at hlive
    exact hclosed _ (hkept.shutdownLoop (hkept.quiet h (c.awaitLogout_quiet senv.logoutSend))
      (heach hlive.1 hlive.2))
  · exact hclosed _ (hkept.quiet h c.onConnectionLost_quiet)

theorem disableSession {senv : ShutdownEnv} (h : I c.session)
    (heach : EachOfDisabling P c senv) : I (c.disableSession senv).session := by
  unfold FixClient.disableSession
  refine hkept.quiet ?_ (.setState _ _)
  split
  · next hlive => exact hkept.doShutdown h (heach hlive)
  · exact h

theorem processAdminCommand {command : ModifyingAdminCommand} {env : ClientProcessEnv}
    (h : I c.session) (hcommand : command.type ≠ .setIncomingSequenceNumber)
    (heach : EachOfAdminCommand P c command env) :
    I (c.processAdminCommand command env).session := by
  unfold EachOfAdminCommand at heach
  unfold FixClient.processAdminCommand
  cases htype : command.type with
  | setIncomingSequenceNumber => exact absurd htype hcommand
  | setOutgoingSequenceNumber => exact hkept.quiet h ⟨rfl, rfl, List.Subset.refl _, rfl⟩
  | sendSequenceReset =>
    dsimp only
    split
    · exact hkept.quiet h (c.sendSequenceResetMessage_quiet _ _)
    · exact h
  | enableSession =>
    dsimp only
    split
    · exact hkept.quiet h (c.enableSession_quiet _)
    · exact h
  | disableSession =>
    rw [htype] at heach
    exact hkept.disableSession h heach
  | setIsHaPrimaryInstance =>
    rw [htype] at heach
    dsimp only at heach ⊢
    split
    · exact hkept.quiet h (enableSession_quiet { c with isHaPrimary := command.arg = 1 } _)
    · next hne =>
      exact hkept.disableSession (c := { c with isHaPrimary := command.arg = 1 }) h (heach hne)

theorem processAdminCommands {env : ClientProcessEnv} (h : I c.session)
    (heach : EachOfAdminCommands P c env) : I (c.processAdminCommands env).session := by
  unfold EachOfAdminCommands at heach
  unfold FixClient.processAdminCommands
  cases hpop : c.session.tryPopAdminCommand with
  | none => exact h
  | some popped =>
    obtain ⟨command, s⟩ := popped
    rw [hpop] at heach
    obtain ⟨hmem, hquiet⟩ := tryPopAdminCommand_spec hpop
    exact hkept.processAdminCommand (c := c.modifySession fun _ => s) (hkept.quiet h hquiet)
      (hkept.noSetting h command hmem) heach

theorem process {env : ClientProcessEnv} (h : I c.session) (heach : EachOfProcess P c env) :
    I (c.process env).session := by
  obtain ⟨hread, hadmin, hschedule⟩ := heach
  have hreads : I (c.processReads env).session := by
    unfold FixClient.processReads
    split
    · next hrank => exact hkept.processIncomingMessages h (hread hrank)
    · exact h
  have hcommands := hkept.processAdminCommands hreads hadmin
  unfold FixClient.process processAfterAdmin
  dsimp only
  split
  · next hlive =>
    rw [processLive_eq, processScheduleValidator]
    have htimers := hkept.quiet hcommands (processTimers_quiet _ env)
    split
    · next hvalid => exact hkept.doShutdown htimers (hschedule hlive hvalid)
    · exact htimers
  · split
    · exact hkept.quiet hcommands (processOutgoingLogonRequest_quiet _ env)
    · exact hcommands

/-- What is kept by quiet steps and by each message of an event is kept by the event. -/
theorem step {event : Event} (h : I c.session) (heach : EachOfEvent P c event)
    (hpush : ∀ command, event = .pushAdminCommand command →
      I (c.session.pushAdminCommand command)) : I (c.step event).session := by
  cases event with
  | connect env => exact hkept.quiet h (c.connect_quiet (hkept.noLogonReset h) env)
  | process env => exact hkept.process h heach
  | shutdown graceful env => exact hkept.doShutdown h heach
  | pushAdminCommand command => exact hpush command rfl

end Kept

theorem inOrder_kept : Kept Regular InOrder where
  quiet := InOrder.quiet
  message := handleMessage_inOrder _ _ _
  noLogonReset := InOrder.noLogonReset
  noSetting := InOrder.noSetting

section Events

variable {c : FixClient}

/-- What is assumed of an event: its messages are regular, and no command sets the incoming
number. -/
def RegularEvent (c : FixClient) (event : Event) : Prop :=
  EachOfEvent Regular c event ∧
    ∀ command, event = .pushAdminCommand command → command.type ≠ .setIncomingSequenceNumber

theorem step_inOrder {event : Event} (h : InOrder c.session) (hregular : RegularEvent c event) :
    InOrder (c.step event).session := by
  refine inOrder_kept.step h hregular.1 fun command hpush => ?_
  refine ⟨h.noLogonReset, fun command' hmem => ?_, h.increasing, h.bounded⟩
  rcases List.mem_append.mp hmem with hmem | hmem
  · exact h.noSetting command' hmem
  · obtain rfl := List.mem_singleton.mp hmem
    exact hregular.2 _ hpush

end Events

/-! ## A condition that holds of each message -/

section Mono

variable {P Q : FixClient → RxMessage × ClientRxEnv → Prop} (hPQ : ∀ c e, P c e → Q c e)
include hPQ

theorem EachOfRead.mono {c : FixClient} {read : ReadOutcome} (h : EachOfRead P c read) :
    EachOfRead Q c read := by
  cases read with
  | nothing => trivial
  | lost => trivial
  | data messages lostAfter =>
    exact fun hopen => (h hopen).mono fun l e hP hreturned => hPQ _ _ (hP hreturned)

theorem EachOfShutdownLoop.mono {c : FixClient} {reads : List ReadOutcome}
    (h : EachOfShutdownLoop P c reads) : EachOfShutdownLoop Q c reads := by
  induction reads generalizing c with
  | nil => trivial
  | cons read reads ih =>
    exact ⟨EachOfRead.mono hPQ h.1, fun hlogout hstate => ih (h.2 hlogout hstate)⟩

theorem EachOfShutdown.mono {c : FixClient} {graceful : Bool} {env : ShutdownEnv}
    (h : EachOfShutdown P c graceful env) : EachOfShutdown Q c graceful env :=
  fun hgraceful hstate => EachOfShutdownLoop.mono hPQ (h hgraceful hstate)

theorem EachOfAdminCommand.mono {c : FixClient} {command : ModifyingAdminCommand}
    {env : ClientProcessEnv} (h : EachOfAdminCommand P c command env) :
    EachOfAdminCommand Q c command env := by
  unfold EachOfAdminCommand at h ⊢
  cases htype : command.type with
  | disableSession =>
    rw [htype] at h
    exact fun hlive => EachOfShutdown.mono hPQ (h hlive)
  | setIsHaPrimaryInstance =>
    rw [htype] at h
    exact fun harg hlive => EachOfShutdown.mono hPQ (h harg hlive)
  | setIncomingSequenceNumber => trivial
  | setOutgoingSequenceNumber => trivial
  | sendSequenceReset => trivial
  | enableSession => trivial

theorem EachOfEvent.mono {c : FixClient} {event : Event} (h : EachOfEvent P c event) :
    EachOfEvent Q c event := by
  cases event with
  | connect env => trivial
  | pushAdminCommand command => trivial
  | shutdown graceful env => exact EachOfShutdown.mono hPQ h
  | process env =>
    obtain ⟨hread, hadmin, hschedule⟩ := h
    refine ⟨fun hrank => EachOfRead.mono hPQ (hread hrank), ?_,
      fun hlive hvalid => EachOfShutdown.mono hPQ (hschedule hlive hvalid)⟩
    unfold EachOfAdminCommands at hadmin ⊢
    split
    · trivial
    · next hpop =>
      rw [hpop] at hadmin
      exact EachOfAdminCommand.mono hPQ hadmin

end Mono

/-! ## Runs -/

/-- Along any run without a reset of the incoming number, over any number of connections, the
numbers of the delivered messages increase, and each is the stored number once it is counted. -/
theorem delivered_increasing (c : FixClient) (events : List Event)
    (hnew : c.session.trace = [])
    (hreset : c.session.settings.logonResetSequenceNumbers = false)
    (hcommands : ∀ command ∈ c.session.adminCommands,
      command.type ≠ .setIncomingSequenceNumber)
    (hregular : Guarded step RegularEvent c events) :
    (delivered (run step c events).session).Pairwise (· < ·) ∧
      Guarded step (EachOfEvent DeliversCounted) c events := by
  have hdelivered : delivered c.session = [] := by rw [delivered, hnew, List.filterMap_nil]
  have hstart : InOrder c.session :=
    ⟨hreset, hcommands, hdelivered ▸ List.Pairwise.nil,
      fun n hn => absurd (hdelivered ▸ hn) List.not_mem_nil⟩
  constructor
  · have hend : InOrder (run step c events).session :=
      hregular.invariant (I := fun c => InOrder c.session) (fun _ _ h => step_inOrder h) hstart
    exact hend.increasing
  · exact hregular.mono fun c event h => EachOfEvent.mono
      (fun c e hP => handleMessage_delivers c e.1 e.2 hP.2) h.1

/-- A logged-on client that expects number 6. -/
def exampleReceiver : FixClient :=
  { session :=
      { state := .loggedOn, sequenceStore := { incomingSeqNo := 5 }, settings := exampleSettings }
    socketOpen := true }

/-- The environment of a `process` that reads the execution reports of the numbers. -/
def exampleReportsEnv (numbers : List UInt32) : ClientProcessEnv :=
  { read := .data (numbers.map fun n =>
      (peerMessage exampleSettings msgTypeExecutionReport n [], {})) false }

/-- The reports 6 and 8, then 7 and 8 again behind the gap. -/
def exampleGap : List Event :=
  [.process (exampleReportsEnv [6, 8]), .process (exampleReportsEnv [7, 8])]

/-- A read of regular reports, when no admin command waits. -/
theorem exampleReports_regular {c : FixClient} {numbers : List UInt32}
    (hbuffer : EachOfBuffer Regular c (numbers.map fun n =>
      (peerMessage exampleSettings msgTypeExecutionReport n [], {})))
    (hcommands : (c.processReads (exampleReportsEnv numbers)).session.adminCommands = []) :
    RegularEvent c (.process (exampleReportsEnv numbers)) := by
  refine ⟨⟨fun _ _ => hbuffer, ?_, fun _ hvalid => absurd hvalid Bool.true_eq_false.mp⟩,
    fun command h => nomatch h⟩
  unfold EachOfAdminCommands tryPopAdminCommand
  rw [hcommands]
  trivial

theorem delivered_increasing_gap :
    (delivered (run step exampleReceiver exampleGap).session).Pairwise (· < ·) ∧
      Guarded step (EachOfEvent DeliversCounted) exampleReceiver exampleGap := by
  refine delivered_increasing exampleReceiver exampleGap rfl rfl
    (fun command hmem => absurd hmem List.not_mem_nil) ?_
  rw [exampleGap, guarded_cons, guarded_cons]
  refine ⟨exampleReports_regular ⟨?_, ?_, trivial⟩ (by decide +kernel),
    exampleReports_regular ⟨?_, ?_, trivial⟩ (by decide +kernel), trivial⟩
  all_goals exact fun _ => ⟨by decide +kernel, fun h => absurd h.1 (by decide +kernel)⟩

example : delivered (run step exampleReceiver exampleGap).session = [6, 7, 8] := by
  decide +kernel

end FixClient

end Llfix
