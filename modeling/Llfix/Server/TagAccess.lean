import Llfix.TagAccess
import Llfix.Server.Messages
import Llfix.Server.ReceivedBytes

/-!
# Access to the tags in the server

The functions that are reached from `process_rx_buffer` of `FixServer`, with the partial accessors.
`accept_session` reads a message that has not been validated, but only without a reject code.

Results:
1. `findLogonSession?_eq`, `acceptSession?_eq`: the accesses on a new connection.
2. `handleMessage?_eq`: those of a message for a session.
3. `processRxBytes?_eq`: no access of `process_rx_buffer` fails, whatever is received.
-/

namespace Llfix

open IncomingFixMessage

namespace FixServer

/-! ## The functions -/

/-- An update of a session that may fail. -/
def modifySession? (srv : FixServer) (i : Nat) (f : FixSession → Option FixSession) :
    Option FixServer :=
  (f (srv.sessions i)).map fun s => srv.modifySession i fun _ => s

/-- The session `accept_session` would give the connection to. -/
def findLogonSession? (srv : FixServer) (rx : RxMessage) (scheduleValid : Bool) :
    Option (Option Nat) :=
  let m := rx.message
  if rx.parserRejectCode.isSome then some none
  else if !(m.hasTag tagBeginString && m.hasTag tagMsgSeqNum && m.hasTag tagSenderCompId &&
      m.hasTag tagTargetCompId && m.hasTag tagMsgType) then some none
  else do
    let messageType ← m.getTagValueAsChar? tagMsgType
    if messageType ≠ msgTypeLogon then some none
    else do
      let incomingBeginString ← m.getTagValue? tagBeginString
      let incomingCompId ← m.getTagValue? tagSenderCompId
      let incomingTargetCompId ← m.getTagValue? tagTargetCompId
      match srv.findSession incomingBeginString incomingTargetCompId incomingCompId with
      | none => some none
      | some i =>
        some (
          if isStateLive (srv.sessions i).state then none
          else if (srv.sessions i).state = .disabled then none
          else if scheduleValid = false then none
          else some i)

def resetsSequenceNumbers? (m : IncomingFixMessage) : Option Bool :=
  if m.hasTag tagResetSeqNumFlag then
    (m.getTagValueAsChar? tagResetSeqNumFlag).map fun flag => flag = fixBooleanTrue
  else some false

/-- What `accept_session` does to the session it accepts. -/
def acceptedSession? (m : IncomingFixMessage) (s : FixSession) : Option FixSession :=
  (resetsSequenceNumbers? m).map fun resets =>
    let s := s.resetFlags.setIncomingFixMessage m
    let s := if resets then s.resetNumbers else s
    s.setState .pendingLogon

/-- `accept_session`. -/
def acceptSession? (srv : FixServer) (p : Nat) (rx : RxMessage) (scheduleValid : Bool) :
    Option (FixServer × Option Nat) := do
  match ← srv.findLogonSession? rx scheduleValid with
  | none => some (srv.processInvalidLogon p, none)
  | some i =>
    let srv := { srv with connectors := srv.connectors.update p i }
    (srv.modifySession? i (acceptedSession? rx.message)).map fun srv => (srv, some i)

def sendRejectMessage? (srv : FixServer) (i : Nat) (rejectReasonCode errorTag : UInt32)
    (o : SendOutcome) : Option FixServer :=
  ((srv.sessions i).buildSessionLevelRejectMessage? rejectReasonCode errorTag).map fun message =>
    srv.sendOutgoingMessage i message o

/-- `send_throttle_reject_message`. -/
def sendThrottleRejectMessage? (srv : FixServer) (i : Nat) (m : IncomingFixMessage)
    (o : SendOutcome) : Option FixServer := do
  let reject := (OutgoingFixMessage.setMsgType msgTypeBusinessReject).setTag tagText
    (srv.sessions i).settings.throttlerRejectMessage
  let reject ← reject.setRefSeqNum? m
  let reject ← reject.setRefMsgType? m
  some (srv.sendOutgoingMessage i reject o)

/-- `process_incoming_throttling`. -/
def processIncomingThrottling? (srv : FixServer) (i : Nat) (m : IncomingFixMessage)
    (env : ServerRxEnv) : Option (FixServer × Bool) :=
  let s := srv.sessions i
  if s.settings.throttleLimit = 0 then some (srv, true)
  else if env.throttlerReachedLimit then
    let srv := srv.modifySession i (·.incrementIncomingThrottlerExceedCount)
    match s.settings.throttleAction with
    | .disconnect =>
      some (srv.processConnectionClosure (srv.connectors.getPeerIndex i) false [] {}, false)
    | .reject => (srv.sendThrottleRejectMessage? i m env.send).map fun srv => (srv, false)
    | _ => some (srv, true)
  else some (srv, true)

/-- The log of a Logon that is refused has tag 49. -/
def logonRefused? (m : IncomingFixMessage) : Option Bool :=
  (m.getTagValue? tagSenderCompId).map fun _ => false

/-- `validate_logon_request`. -/
def validateLogonRequest? (m : IncomingFixMessage) : Option Bool :=
  if m.hasTag tagEncryptMethod = false then logonRefused? m
  else if m.hasTag tagHeartBtInt = false then logonRefused? m
  else do
    let t108String ← m.getTagValue? tagHeartBtInt
    if t108String.contains '-'.toUInt8 then logonRefused? m
    else if t108String.contains '.'.toUInt8 then logonRefused? m
    else do
      let heartBtInt ← m.getTagValueAsUInt32? tagHeartBtInt
      if heartBtInt = 0 then logonRefused? m else some true

/-- The intervals a session takes from tag 108. -/
def setHeartbeatInterval? (s : FixSession) (m : IncomingFixMessage) : Option FixSession :=
  (m.getTagValueAsUInt32? tagHeartBtInt).map fun requested =>
    let nanoseconds := requested.toUInt64 * 1000000000
    s.setSettings { s.settings with
      heartbeatIntervalInNanoseconds := nanoseconds
      outgoingTestRequestIntervalInNanoseconds :=
        nanoseconds * s.settings.outgoingTestRequestIntervalMultiplier }

/-- `do_post_logon_sequence_number_check`. -/
def doPostLogonSequenceNumberCheck? (s : FixSession) : Option FixSession :=
  if s.state = .loggedOn then do
    let stored := s.sequenceStore.incomingSeqNo
    let incomingSeqNo ← s.incomingFixMessage.getTagValueAsUInt32? tagMsgSeqNum
    if stored < incomingSeqNo then do
      let isHardReset ← isAHardSequenceResetMessage? s.incomingFixMessage
      if isHardReset = false then some (s.queueOutgoingResendRequest stored incomingSeqNo)
      else some s
    else some s
  else some s

/-- `process_logon_request`. -/
def processLogonRequest? (srv : FixServer) (i p : Nat) (m : IncomingFixMessage)
    (env : ServerRxEnv) : Option FixServer := do
  let isValid ← validateLogonRequest? m
  if isValid = false then some (srv.processInvalidLogon p)
  else if env.authenticated = false then some (srv.processInvalidLogon p)
  else do
    let srv ← srv.modifySession? i fun s =>
      (setHeartbeatInterval? s m).map (·.record .authenticated)
    let srv := srv.sendLogonResponse i env.send
    let srv ← srv.modifySession? i fun s => doPostLogonSequenceNumberCheck? (s.setState .loggedOn)
    some (srv.callback i .onLogonRequest (some m))

/-- The case `MSG_TYPE_SEQUENCE_RESET`. -/
def processSequenceReset? (srv : FixServer) (i : Nat) (m : IncomingFixMessage)
    (env : ServerRxEnv) : Option FixServer := do
  let (s, accepted) ← (srv.sessions i).processIncomingSequenceResetMessage? m
  let srv := srv.modifySession i fun _ => s
  if accepted = false then
    srv.sendRejectMessage? i fixErrorCodeValueIncorrectForTag tagNewSeqNo env.send
  else some srv

/-- The `switch` on MsgType at the end of `process_incoming_fix_message`. -/
def dispatch? (srv : FixServer) (i p : Nat) (m : IncomingFixMessage) (env : ServerRxEnv) :
    Option FixServer := do
  match ← m.getTagValue? tagMsgType with
  | [c] =>
    if c = msgTypeNewOrder then some (srv.callback i .onNewOrder (some m))
    else if c = msgTypeOrderCancel then some (srv.callback i .onCancelOrder (some m))
    else if c = msgTypeOrderCancelReplace then some (srv.callback i .onReplaceOrder (some m))
    else if c = msgTypeHeartbeat then some (srv.callback i .onClientHeartbeat none)
    else if c = msgTypeTestRequest then
      (srv.modifySession? i (·.processTestRequestMessage? m)).map fun srv =>
        srv.callback i .onClientTestRequest (some m)
    else if c = msgTypeResendRequest then
      (srv.modifySession? i (·.processResendRequest? m)).map fun srv =>
        srv.callback i .onClientResendRequest (some m)
    else if c = msgTypeReject then some (srv.callback i .onSessionLevelReject (some m))
    else if c = msgTypeBusinessReject then
      some (srv.callback i .onApplicationLevelReject (some m))
    else if c = msgTypeLogon then srv.processLogonRequest? i p m env
    else if c = msgTypeLogout then some (srv.processLogoutRequest i m env)
    else if c = msgTypeSequenceReset then srv.processSequenceReset? i m env
    else some (srv.callback i .onCustomMessage (some m))
  | _ => some (srv.callback i .onCustomMessage (some m))

/-- `process_incoming_fix_message` from the end of the sequence checks on. The number of the
message has been read by then. -/
def processInSequence? (srv : FixServer) (i p : Nat) (rx : RxMessage) (env : ServerRxEnv) :
    Option FixServer := do
  let srv :=
    if (srv.sessions i).resendRequestSatisfied rx then srv.modifySession i (·.setState .loggedOn)
    else srv
  let (srv, proceed) ← srv.processIncomingThrottling? i rx.message env
  if proceed = false then some srv else srv.dispatch? i p rx.message env

/-- The sequence number checks of `process_incoming_fix_message`. -/
def processSequenceNumber? (srv : FixServer) (i p : Nat) (rx : RxMessage) (env : ServerRxEnv) :
    Option FixServer := do
  let s := srv.sessions i
  let stored := s.sequenceStore.incomingSeqNo
  let incomingSeqNo ← rx.message.getTagValueAsUInt32? tagMsgSeqNum
  if stored < incomingSeqNo then do
    let isHardReset ← isAHardSequenceResetMessage? rx.message
    if isHardReset = false ∧ s.state ≠ .pendingLogon then
      some (srv.modifySession i (·.queueOutgoingResendRequest stored incomingSeqNo))
    else srv.processInSequence? i p rx env
  else if incomingSeqNo < stored then do
    let isHardReset ← isAHardSequenceResetMessage? rx.message
    if isHardReset = false then
      let sendLogout : Bool := s.state = .pendingLogon
      let reason := if sendLogout then seqNumTooLowText stored incomingSeqNo else []
      some ((srv.modifySession i (·.setIncomingSeqNo (stored - 1))).processConnectionClosure
        (some p) sendLogout reason env.send)
    else srv.processInSequence? i p rx env
  else srv.processInSequence? i p rx env

/-- `process_incoming_fix_message`. -/
def processIncomingFixMessage? (srv : FixServer) (i p : Nat) (rx : RxMessage)
    (env : ServerRxEnv) : Option FixServer := do
  let srv := srv.modifySession i (·.messageReceived env.nowNanoseconds)
  match ← (srv.sessions i).verdict? rx env.utcNow with
  | .rejected code errorTag =>
    (srv.modifySession i (·.setLastErrorTag errorTag)).sendRejectMessage? i code errorTag env.send
  | .dropped => some (srv.modifySession i (·.setLastErrorTag 0))
  | .valid => (srv.modifySession i (·.incrementIncomingSeqNo)).processSequenceNumber? i p rx env

/-- A message is parsed into the message of the session, then processed. -/
def handleMessage? (srv : FixServer) (i p : Nat) (rx : RxMessage) (env : ServerRxEnv) :
    Option FixServer :=
  (srv.modifySession i (·.setIncomingFixMessage rx.message)).processIncomingFixMessage? i p rx env

/-- The session that a message is for. -/
def RxLoop.target? (p : Nat) (l : RxLoop) (e : RxMessage × ServerRxEnv) :
    Option (FixServer × Option Nat) :=
  match l.session with
  | some i => some (l.server, some i)
  | none => l.server.acceptSession? p e.1 e.2.scheduleValid

/-- One message of `process_rx_buffer`. -/
def rxStep? (p : Nat) (l : RxLoop) (e : RxMessage × ServerRxEnv) : Option RxLoop :=
  if l.returned then some l
  else do
    match ← l.target? p e with
    | (srv, none) => some { server := srv, session := none, returned := true }
    | (srv, some i) =>
      (srv.handleMessage? i p e.1 e.2).map fun srv =>
        { server := srv, session := some i, returned := (srv.sessions i).state = .disconnected }

/-- One message of the loop over the bytes. -/
def rxTurn? (specs : RepeatingGroupSpecs) (p : Nat) (buffer : Bytes)
    (finalTag10DelimiterIndex : Nat) (t : RxTurn) (env : ServerRxEnv) : Option RxTurn :=
  if t.loop.returned then some t
  else
    match findBeginStringPosition (buffer.drop t.bufferReadIndex) with
    | none => some { t with loop := { t.loop with returned := true } }
    | some offset => do
      let readIndex := t.bufferReadIndex + offset
      match ← parseMessage? specs (buffer.drop readIndex) with
      | none => some { t with loop := t.loop.leave (.retained p (buffer.drop readIndex)) }
      | some (_, rx) =>
        (rxStep? p t.loop (rx, env)).map fun l =>
          behindMessage p buffer finalTag10DelimiterIndex l (readIndex + rx.buffer.length)

/-- `process_rx_buffer`. -/
def processRxBytes? (specs : RepeatingGroupSpecs) (srv : FixServer) (p : Nat) (buffer : Bytes)
    (env : Nat → ServerRxEnv) : Option FixServer :=
  let srv := srv.onSlot (.read p buffer)
  match finalTag10DelimiterIndex buffer with
  | none => some (srv.onSlot (.retained p buffer))
  | some final =>
    ((environments buffer env).foldlM (rxTurn? specs p buffer final) (srv.firstTurn p)).map
      (·.loop.server)

/-! ## A new connection -/

theorem modifySession?_eq {srv : FixServer} {i : Nat} {f : FixSession → Option FixSession}
    {g : FixSession → FixSession} (h : f (srv.sessions i) = some (g (srv.sessions i))) :
    srv.modifySession? i f = some (srv.modifySession i g) := by
  rw [modifySession?, h]
  rfl

/-- Without a reject code, a message has no empty values. -/
theorem findLogonSession?_eq {rx : RxMessage} (h : rx.Recorded) (srv : FixServer)
    (scheduleValid : Bool) :
    srv.findLogonSession? rx scheduleValid = some (srv.findLogonSession rx scheduleValid) := by
  unfold findLogonSession? findLogonSession
  dsimp only
  cases hcode : rx.parserRejectCode with
  | some code => rfl
  | none =>
    simp only [Option.isSome_none, Bool.false_eq_true, reduceIte]
    split
    next => rfl
    next hhas =>
      simp only [Bool.not_eq_true', Bool.not_eq_false, Bool.and_eq_true] at hhas
      obtain ⟨⟨⟨⟨hbegin, -⟩, hsender⟩, htarget⟩, htype⟩ := hhas
      rw [(h.valued hcode).getTagValueAsChar?_eq htype, getTagValue?_eq hbegin,
        getTagValue?_eq hsender, getTagValue?_eq htarget]
      show (if rx.message.getTagValueAsChar tagMsgType ≠ msgTypeLogon then _ else _) = _
      split
      · rfl
      · show (match srv.findSession _ _ _ with | none => _ | some i => _) = _
        cases srv.findSession (rx.message.getTagValue tagBeginString)
          (rx.message.getTagValue tagTargetCompId) (rx.message.getTagValue tagSenderCompId) with
        | none => rfl
        | some i => rfl

/-- A session is only given to a message without a reject code. -/
theorem parserRejectCode_of_findLogonSession {srv : FixServer} {rx : RxMessage}
    {scheduleValid : Bool} {i : Nat} (h : srv.findLogonSession rx scheduleValid = some i) :
    rx.parserRejectCode = none := by
  unfold findLogonSession at h
  cases hcode : rx.parserRejectCode with
  | some code =>
    rw [hcode] at h
    cases h
  | none => rfl

theorem acceptedSession?_eq {m : IncomingFixMessage} (h : m.Valued) (s : FixSession) :
    acceptedSession? m s = some (acceptedSession m s) := by
  have hresets : resetsSequenceNumbers? m = some (resetsSequenceNumbers m) := by
    unfold resetsSequenceNumbers? resetsSequenceNumbers
    cases hflag : m.hasTag tagResetSeqNumFlag with
    | false => rfl
    | true =>
      rw [if_pos rfl, h.getTagValueAsChar?_eq hflag, Bool.true_and]
      rfl
  rw [acceptedSession?, hresets]
  rfl

theorem acceptSession?_eq {rx : RxMessage} (h : rx.Recorded) (srv : FixServer) (p : Nat)
    (scheduleValid : Bool) :
    srv.acceptSession? p rx scheduleValid = some (srv.acceptSession p rx scheduleValid) := by
  unfold acceptSession? acceptSession
  rw [findLogonSession?_eq h]
  cases hfind : srv.findLogonSession rx scheduleValid with
  | none => rfl
  | some i =>
    have hvalued := h.valued (parserRejectCode_of_findLogonSession hfind)
    show ((FixServer.modifySession? _ i (acceptedSession? rx.message)).map _) = _
    rw [modifySession?_eq (g := acceptedSession rx.message) (acceptedSession?_eq hvalued _)]
    rfl

/-! ## A message of a session -/

theorem sendRejectMessage?_eq (srv : FixServer) (i : Nat) (code errorTag : UInt32)
    (o : SendOutcome) :
    srv.sendRejectMessage? i code errorTag o = some (srv.sendRejectMessage i code errorTag o) := by
  rw [sendRejectMessage?, FixSession.buildSessionLevelRejectMessage?_eq]
  rfl

theorem processIncomingThrottling?_eq (srv : FixServer) (i : Nat) (m : IncomingFixMessage)
    (env : ServerRxEnv) :
    srv.processIncomingThrottling? i m env = some (srv.processIncomingThrottling i m env) := by
  have hreject : ∀ srv : FixServer, srv.sendThrottleRejectMessage? i m env.send =
      some (srv.sendThrottleRejectMessage i m env.send) := by
    intro srv
    unfold sendThrottleRejectMessage?
    dsimp only
    rw [OutgoingFixMessage.setRefSeqNum?_eq, Option.bind_eq_bind, Option.bind_some,
      OutgoingFixMessage.setRefMsgType?_eq]
    rfl
  unfold processIncomingThrottling? processIncomingThrottling
  dsimp only
  split
  · rfl
  · split
    · rw [hreject]
      cases (srv.sessions i).settings.throttleAction <;> rfl
    · rfl

/-- What the throttler lets pass is still the message of the session. -/
theorem processIncomingThrottling_message {srv : FixServer} {i : Nat} {m : IncomingFixMessage}
    {env : ServerRxEnv} (h : (srv.processIncomingThrottling i m env).2 = true) :
    ((srv.processIncomingThrottling i m env).1.sessions i).incomingFixMessage =
      (srv.sessions i).incomingFixMessage := by
  unfold processIncomingThrottling at h ⊢
  dsimp only at h ⊢
  split at h
  next hlimit => rw [if_pos hlimit]
  next hlimit =>
    rw [if_neg hlimit]
    split at h
    next hreached =>
      rw [if_pos hreached]
      cases haction : (srv.sessions i).settings.throttleAction with
      | disconnect =>
        rw [haction] at h
        cases h
      | reject =>
        rw [haction] at h
        cases h
      | none =>
        dsimp only
        rw [modifySession_sessions_self]
        rfl
      | wait =>
        dsimp only
        rw [modifySession_sessions_self]
        rfl
    next hreached => rw [if_neg hreached]

theorem validateLogonRequest?_eq {m : IncomingFixMessage} (h : m.Accepted) :
    validateLogonRequest? m = some (validateLogonRequest m) := by
  have hrefused : logonRefused? m = some false := by
    rw [logonRefused?, getTagValue?_eq h.senderCompId]
    rfl
  unfold validateLogonRequest? validateLogonRequest
  rw [hrefused]
  cases hencrypt : m.hasTag tagEncryptMethod with
  | false => rfl
  | true =>
    cases hheart : m.hasTag tagHeartBtInt with
    | false => rfl
    | true =>
      rw [if_neg Bool.noConfusion, if_neg Bool.noConfusion, getTagValue?_eq hheart,
        getTagValueAsUInt32?_eq hheart]
      show (if (m.getTagValue tagHeartBtInt).contains '-'.toUInt8 then _ else _) = _
      cases (m.getTagValue tagHeartBtInt).contains '-'.toUInt8 with
      | true => rfl
      | false =>
        cases (m.getTagValue tagHeartBtInt).contains '.'.toUInt8 with
        | true => rfl
        | false =>
          show (if m.getTagValueAsUInt32 tagHeartBtInt = 0 then _ else _) = _
          by_cases hzero : m.getTagValueAsUInt32 tagHeartBtInt = 0
          · simp [hzero]
          · simp [hzero]

/-- A Logon that is valid has tag 108. -/
theorem hasTag_of_validateLogonRequest {m : IncomingFixMessage}
    (h : validateLogonRequest m = true) : m.hasTag tagHeartBtInt = true := by
  simp only [validateLogonRequest, Bool.and_eq_true] at h
  exact h.1.1.1.2

theorem doPostLogonSequenceNumberCheck?_eq {s : FixSession} (h : s.incomingFixMessage.Accepted) :
    doPostLogonSequenceNumberCheck? s = some (doPostLogonSequenceNumberCheck s) := by
  unfold doPostLogonSequenceNumberCheck? doPostLogonSequenceNumberCheck
  rw [getTagValueAsUInt32?_eq h.seqNum, h.valued.isAHardSequenceResetMessage?_eq]
  split
  · show (if s.sequenceStore.incomingSeqNo < s.incomingFixMessage.getTagValueAsUInt32 tagMsgSeqNum
      then _ else _) = _
    dsimp only
    split
    · show (if isAHardSequenceResetMessage s.incomingFixMessage = false then _ else _) = _
      split <;> rfl
    · rfl
  · rfl

theorem sendLogonResponse_incomingFixMessage (srv : FixServer) (i : Nat) (o : SendOutcome) :
    ((srv.sendLogonResponse i o).sessions i).incomingFixMessage =
      (srv.sessions i).incomingFixMessage :=
  FixSession.incomingFixMessage_of_core ((sendOutgoingMessage_steps srv i _ o).core i)

/-- The response leaves the message of the session as it is. -/
theorem processLogonRequest?_eq {srv : FixServer} {i p : Nat} {m : IncomingFixMessage}
    (h : m.Accepted) (hm : (srv.sessions i).incomingFixMessage = m) (env : ServerRxEnv) :
    srv.processLogonRequest? i p m env = some (srv.processLogonRequest i p m env) := by
  unfold processLogonRequest? processLogonRequest
  rw [validateLogonRequest?_eq h]
  show (if validateLogonRequest m = false then _ else _) = _
  split
  next => rfl
  next hvalid =>
    have hheart := hasTag_of_validateLogonRequest (Bool.eq_true_of_not_eq_false hvalid)
    split
    · rfl
    · have hset : ∀ s, (setHeartbeatInterval? s m).map (·.record .authenticated) =
          some ((setHeartbeatInterval s m).record .authenticated) := by
        intro s
        rw [setHeartbeatInterval?, getTagValueAsUInt32?_eq hheart]
        rfl
      rw [modifySession?_eq (g := fun s => (setHeartbeatInterval s m).record .authenticated)
        (hset _)]
      have hmessage := (sendLogonResponse_incomingFixMessage (srv.modifySession i fun s =>
        (setHeartbeatInterval s m).record .authenticated) i env.send).trans
          ((congrArg FixSession.incomingFixMessage (modifySession_sessions_self srv i _)).trans
            ((authenticated_incomingFixMessage m _).trans hm))
      show (Option.bind (FixServer.modifySession? _ i _) _) = _
      dsimp only
      generalize FixServer.sendLogonResponse _ i env.send = sent at hmessage ⊢
      have hafter : ((sent.sessions i).setState .loggedOn).incomingFixMessage.Accepted := by
        show (sent.sessions i).incomingFixMessage.Accepted
        rw [hmessage]
        exact h
      rw [modifySession?_eq (g := fun s => doPostLogonSequenceNumberCheck (s.setState .loggedOn))
        (doPostLogonSequenceNumberCheck?_eq hafter)]
      rfl

theorem processSequenceReset?_eq (srv : FixServer) (i : Nat) (m : IncomingFixMessage)
    (env : ServerRxEnv) :
    srv.processSequenceReset? i m env = some (srv.processSequenceReset i m env) := by
  unfold processSequenceReset? processSequenceReset
  rw [FixSession.processIncomingSequenceResetMessage?_eq]
  show (if (FixSession.processIncomingSequenceResetMessage _ m).2 = false then _ else _) = _
  dsimp only
  split
  · exact sendRejectMessage?_eq _ _ _ _ _
  · rfl

/-- MsgType is there, and the handlers access what they have asked for. -/
theorem dispatch?_eq {srv : FixServer} {i p : Nat} {m : IncomingFixMessage} (h : m.Accepted)
    (hm : (srv.sessions i).incomingFixMessage = m) (env : ServerRxEnv) :
    srv.dispatch? i p m env = some (srv.dispatch i p m env) := by
  unfold dispatch? dispatch
  rw [getTagValue?_eq h.msgType]
  rw [Option.bind_eq_bind, Option.bind_some]
  generalize m.getTagValue tagMsgType = messageType
  rcases messageType with _ | ⟨c, _ | ⟨d, rest⟩⟩
  · rfl
  · dsimp only
    rw [modifySession?_eq (g := (·.processTestRequestMessage m))
        (FixSession.processTestRequestMessage?_eq _ m),
      modifySession?_eq (g := (·.processResendRequest m)) (FixSession.processResendRequest?_eq _ m),
      processLogonRequest?_eq h hm, processSequenceReset?_eq]
    simp only [apply_ite some, Option.map_some]
  · rfl

theorem processInSequence?_eq {srv : FixServer} {i p : Nat} {rx : RxMessage}
    (h : rx.message.Accepted) (hm : (srv.sessions i).incomingFixMessage = rx.message)
    (env : ServerRxEnv) :
    srv.processInSequence? i p rx env = some (srv.processInSequence i p rx env) := by
  unfold processInSequence? processInSequence
  dsimp only
  have hsatisfied : ((if (srv.sessions i).resendRequestSatisfied rx then
      srv.modifySession i (·.setState .loggedOn) else srv).sessions i).incomingFixMessage =
        rx.message := by
    split
    · rw [modifySession_sessions_self]
      exact hm
    · exact hm
  generalize (if (srv.sessions i).resendRequestSatisfied rx then
    srv.modifySession i (·.setState .loggedOn) else srv) = satisfied at hsatisfied ⊢
  rw [processIncomingThrottling?_eq]
  show (if (satisfied.processIncomingThrottling i rx.message env).2 = false then _ else _) = _
  split
  · rfl
  next hproceeds =>
    refine dispatch?_eq h ?_ env
    rw [processIncomingThrottling_message (Bool.eq_true_of_not_eq_false hproceeds)]
    exact hsatisfied

theorem processSequenceNumber?_eq {srv : FixServer} {i p : Nat} {rx : RxMessage}
    (h : rx.message.Accepted) (hm : (srv.sessions i).incomingFixMessage = rx.message)
    (env : ServerRxEnv) :
    srv.processSequenceNumber? i p rx env = some (srv.processSequenceNumber i p rx env) := by
  have hseqNum : rx.message.getTagValueAsUInt32? tagMsgSeqNum = some rx.seqNum :=
    getTagValueAsUInt32?_eq h.seqNum
  unfold processSequenceNumber? processSequenceNumber
  dsimp only
  rw [hseqNum, h.valued.isAHardSequenceResetMessage?_eq, processInSequence?_eq h hm]
  simp only [Bool.and_eq_true, decide_eq_true_eq, and_assoc]
  exact sequenceChecks_eq (fun habove hbelow => UInt32.lt_irrefl _ (UInt32.lt_trans habove hbelow))
    _ _ _

/-- With validations, the sequence checks have a message that was found valid. -/
theorem handleMessage?_eq {srv : FixServer} {i : Nat} {rx : RxMessage} (h : rx.Recorded)
    (hvalidations : (srv.sessions i).settings.validationsEnabled = true) (p : Nat)
    (env : ServerRxEnv) :
    srv.handleMessage? i p rx env = some (srv.handleMessage i p rx env) := by
  unfold handleMessage? handleMessage processIncomingFixMessage? processIncomingFixMessage
  dsimp only
  rw [modifySession_modifySession]
  have hsession : (srv.modifySession i fun s => (s.setIncomingFixMessage rx.message).messageReceived
      env.nowNanoseconds).sessions i = (srv.sessions i).received rx env.nowNanoseconds :=
    modifySession_sessions_self srv i _
  generalize (srv.modifySession i fun s => (s.setIncomingFixMessage rx.message).messageReceived
    env.nowNanoseconds) = received at hsession ⊢
  rw [FixSession.verdict?_eq h, Option.bind_eq_bind, Option.bind_some]
  cases hverdict : (received.sessions i).verdict rx env.utcNow with
  | rejected code errorTag => exact sendRejectMessage?_eq _ _ _ _ _
  | dropped => rfl
  | valid =>
    refine processSequenceNumber?_eq (FixSession.accepted_of_verdict h ?_ hverdict) ?_ env
    · rw [hsession]
      exact hvalidations
    · rw [modifySession_sessions_self, hsession]
      rfl

/-! ## The loop -/

/-- The validations of every session are enabled. -/
def ValidationsEnabled (srv : FixServer) : Prop :=
  ∀ i, (srv.sessions i).settings.validationsEnabled = true

/-- What the server does leaves the setting of every session as it is. -/
def KeepsValidations (srv srv' : FixServer) : Prop :=
  ∀ i, (srv'.sessions i).settings.validationsEnabled = (srv.sessions i).settings.validationsEnabled

namespace KeepsValidations

variable {srv srv' srv'' : FixServer} {i : Nat}

theorem refl (srv : FixServer) : KeepsValidations srv srv := fun _ => rfl

theorem trans (h : KeepsValidations srv srv') (h' : KeepsValidations srv' srv'') :
    KeepsValidations srv srv'' :=
  fun i => (h' i).trans (h i)

theorem modify (srv : FixServer) (i : Nat) {f : FixSession → FixSession}
    (h : ∀ s, (f s).settings.validationsEnabled = s.settings.validationsEnabled) :
    KeepsValidations srv (srv.modifySession i f) := by
  intro j
  by_cases hj : j = i
  · subst hj
    rw [modifySession_sessions_self, h]
  · rw [modifySession_sessions_ne srv hj]

theorem of_steps (h : Steps i FixSession.SendUpdate srv srv') : KeepsValidations srv srv' :=
  fun j => congrArg FixSessionSettings.validationsEnabled (FixSession.settings_of_core (h.core j))

theorem close (srv : FixServer) (peer : Option Nat) :
    KeepsValidations srv (srv.closeConnection peer) :=
  of_steps (closeConnection_steps srv 0 _ peer)

theorem called (h : KeepsValidations srv srv') (i : Nat) (c : Callback)
    (m : Option IncomingFixMessage) : KeepsValidations srv (srv'.callback i c m) :=
  h.trans (modify srv' i fun _ => rfl)

theorem closure (srv : FixServer) (peer : Option Nat) (sendLogout : Bool) (reason : Bytes)
    (o : SendOutcome) :
    KeepsValidations srv (srv.processConnectionClosure peer sendLogout reason o) := by
  unfold FixServer.processConnectionClosure
  refine trans ?_ (close _ peer)
  split
  · split
    · exact of_steps (sendOutgoingMessage_steps srv _ _ o)
    · exact refl srv
  · exact refl srv

theorem validationsEnabled (h : KeepsValidations srv srv') (hsrv : srv.ValidationsEnabled) :
    srv'.ValidationsEnabled :=
  fun i => (h i).trans (hsrv i)

end KeepsValidations

section

variable (srv : FixServer) (i p : Nat) (m : IncomingFixMessage) (env : ServerRxEnv)

theorem authenticated_intervals (s : FixSession) :
    ∃ a b, authenticated s m = (s.setSettings { s.settings with
      heartbeatIntervalInNanoseconds := a
      outgoingTestRequestIntervalInNanoseconds := b }).record .authenticated :=
  ⟨_, _, rfl⟩

theorem authenticated_validationsEnabled (s : FixSession) :
    (authenticated s m).settings.validationsEnabled = s.settings.validationsEnabled := by
  obtain ⟨a, b, h⟩ := authenticated_intervals m s
  rw [h]
  rfl

/-- A Logon changes no settings but the intervals. -/
theorem processLogonRequest_keepsValidations :
    KeepsValidations srv (srv.processLogonRequest i p m env) := by
  cases h : validateLogonRequest m && env.authenticated with
  | false =>
    rw [processLogonRequest_refused srv i p m env h]
    exact .close srv (some p)
  | true =>
    rw [processLogonRequest_authenticated srv i p m env h]
    have hauthenticated := KeepsValidations.modify srv i (f := (authenticated · m))
      (authenticated_validationsEnabled m)
    refine KeepsValidations.called (hauthenticated.trans (.trans
      (.of_steps (sendOutgoingMessage_steps _ i _ _)) (.modify _ i fun s => ?_))) i _ _
    exact congrArg FixSessionSettings.validationsEnabled (loggedOn_settings s)

theorem processSequenceReset_keepsValidations :
    KeepsValidations srv (srv.processSequenceReset i m env) := by
  have hreset : KeepsValidations srv (srv.modifySession i fun _ =>
      ((srv.sessions i).processIncomingSequenceResetMessage m).1) := by
    intro j
    by_cases hj : j = i
    · subst hj
      rw [modifySession_sessions_self]
      unfold FixSession.processIncomingSequenceResetMessage
      dsimp only
      split_ifs <;> rfl
    · rw [modifySession_sessions_ne srv hj]
  unfold processSequenceReset
  dsimp only
  split
  · exact hreset.trans (.of_steps (sendOutgoingMessage_steps _ i _ _))
  · exact hreset

theorem dispatch_keepsValidations : KeepsValidations srv (srv.dispatch i p m env) := by
  rcases dispatch_cases srv i p m env with
    ⟨_, h⟩ | ⟨_, h⟩ | ⟨_, h⟩ | ⟨_, h⟩ | ⟨_, h⟩ | ⟨_, h⟩ | ⟨_, cb, _, h⟩
  · rw [h]
    exact processLogonRequest_keepsValidations srv i p m env
  · rw [h]
    have hsent := KeepsValidations.of_steps (sendOutgoingMessage_steps srv i
      (FixSession.buildLogoutMessage []) env.send)
    exact (hsent.trans (.modify _ i (f := (·.setState .loggedOut)) fun _ => rfl)).called i _ _
  · rw [h]
    exact processSequenceReset_keepsValidations srv i m env
  · rw [h]
    refine (KeepsValidations.modify srv i fun s => ?_).called i _ _
    unfold FixSession.processResendRequest
    split_ifs <;> rfl
  · rw [h]
    refine (KeepsValidations.modify srv i fun s => ?_).called i _ _
    unfold FixSession.processTestRequestMessage
    dsimp only
    split_ifs <;> rfl
  · rw [h]
    exact (KeepsValidations.refl srv).called i _ _
  · rw [h]
    exact (KeepsValidations.refl srv).called i _ _

theorem handleMessage_keepsValidations (rx : RxMessage) :
    KeepsValidations srv (srv.handleMessage i p rx env) := by
  rcases handleMessage_cases srv i p rx env with
    ⟨code, errorTag, _, h⟩ | ⟨_, h⟩ | ⟨_, _, _, h⟩ | ⟨_, _, sendLogout, reason, h⟩ | ⟨_, h⟩
  · rw [h]
    refine KeepsValidations.trans (.modify srv i ?_) (.of_steps (sendOutgoingMessage_steps _ i _ _))
    exact fun _ => rfl
  · rw [h]
    refine .modify srv i ?_
    exact fun _ => rfl
  · rw [h]
    refine .modify srv i ?_
    exact fun _ => rfl
  · rw [h]
    refine KeepsValidations.trans (.modify srv i ?_) (.closure _ _ _ _ _)
    exact fun _ => rfl
  · rw [h]
    have hpassed : ∀ s : FixSession, (s.passed rx env.throttlerReachedLimit).settings =
        s.settings := by
      intro s
      unfold FixSession.passed FixSession.satisfied
      split_ifs <;> rfl
    have hcounted : KeepsValidations srv
        ((srv.modifySession i (·.counted rx env.nowNanoseconds)).modifySession i
          (·.passed rx env.throttlerReachedLimit)) :=
      (KeepsValidations.modify srv i (f := (·.counted rx env.nowNanoseconds)) fun _ => rfl).trans
        (.modify _ i fun s => congrArg FixSessionSettings.validationsEnabled (hpassed s))
    rcases processInSequence_cases (srv.modifySession i (·.counted rx env.nowNanoseconds)) i p rx
      env with ⟨_, ⟨_, h⟩ | h⟩ | ⟨_, h⟩
    · rw [h]
      exact hcounted.trans (.closure _ _ _ _ _)
    · rw [h]
      exact hcounted.trans (.of_steps (sendOutgoingMessage_steps _ i _ _))
    · rw [h]
      exact hcounted.trans (dispatch_keepsValidations _ i p _ env)

theorem acceptSession_keepsValidations (rx : RxMessage) (scheduleValid : Bool) :
    KeepsValidations srv (srv.acceptSession p rx scheduleValid).1 := by
  unfold acceptSession
  cases srv.findLogonSession rx scheduleValid with
  | none => exact .closure srv _ _ _ _
  | some i =>
    have haccepted : ∀ s : FixSession, (acceptedSession rx.message s).settings = s.settings := by
      intro s
      unfold acceptedSession
      dsimp only
      split_ifs <;> rfl
    have hmapped : KeepsValidations srv { srv with connectors := srv.connectors.update p i } :=
      fun _ => rfl
    exact hmapped.trans (.modify _ i fun s =>
      congrArg FixSessionSettings.validationsEnabled (haccepted s))

end

theorem RxLoop.target?_eq (l : RxLoop) (p : Nat) {rx : RxMessage} (h : rx.Recorded)
    (env : ServerRxEnv) : l.target? p (rx, env) = some (l.target p (rx, env)) := by
  unfold RxLoop.target? RxLoop.target
  cases l.session with
  | some i => rfl
  | none => exact acceptSession?_eq h l.server p env.scheduleValid

theorem RxLoop.target_keepsValidations (l : RxLoop) (p : Nat) (e : RxMessage × ServerRxEnv) :
    KeepsValidations l.server (l.target p e).1 := by
  unfold RxLoop.target
  cases l.session with
  | some i => exact .refl l.server
  | none => exact acceptSession_keepsValidations l.server p e.1 e.2.scheduleValid

/-- A session has its validations enabled when it is given a message. -/
theorem rxStep?_eq {l : RxLoop} (hl : l.server.ValidationsEnabled) (p : Nat) {rx : RxMessage}
    (h : rx.Recorded) (env : ServerRxEnv) :
    rxStep? p l (rx, env) = some (rxStep p l (rx, env)) := by
  unfold rxStep? rxStep
  split
  · rfl
  · rw [l.target?_eq p h env]
    have htarget := (l.target_keepsValidations p (rx, env)).validationsEnabled hl
    generalize l.target p (rx, env) = target at htarget ⊢
    obtain ⟨srv, _ | i⟩ := target
    · rfl
    · show (srv.handleMessage? i p rx env).map _ = _
      rw [handleMessage?_eq h (htarget i)]
      rfl

theorem rxStep_keepsValidations (l : RxLoop) (p : Nat) (e : RxMessage × ServerRxEnv) :
    KeepsValidations l.server (rxStep p l e).server := by
  unfold rxStep
  split
  · exact .refl l.server
  · have htarget := l.target_keepsValidations p e
    generalize l.target p e = target at htarget ⊢
    obtain ⟨srv, _ | i⟩ := target
    · exact htarget
    · exact htarget.trans (handleMessage_keepsValidations srv i p e.2 e.1)

theorem behindMessage_keepsValidations (p : Nat) (buffer : Bytes) (final : Nat) (l : RxLoop)
    (bufferReadIndex : Nat) :
    KeepsValidations l.server (behindMessage p buffer final l bufferReadIndex).loop.server := by
  unfold behindMessage
  dsimp only
  split
  · exact .refl l.server
  · split
    · exact fun _ => rfl
    · split <;> exact fun _ => rfl

section

variable {specs : RepeatingGroupSpecs} (p : Nat) (buffer : Bytes)

theorem rxTurn?_eq (htype : specs.NamesNot tagMsgType) (hchecksum : specs.NamesNot tagChecksum)
    (final : Nat) {t : RxTurn} (ht : t.loop.server.ValidationsEnabled) (env : ServerRxEnv) :
    rxTurn? specs p buffer final t env = some (rxTurn specs p buffer final t env) := by
  unfold rxTurn? rxTurn
  split
  · rfl
  · cases findBeginStringPosition (buffer.drop t.bufferReadIndex) with
    | none => rfl
    | some offset =>
      dsimp only
      rw [parseMessage?_eq, Option.bind_eq_bind, Option.bind_some]
      cases hparse : parseMessage specs (buffer.drop (t.bufferReadIndex + offset)) with
      | none => rfl
      | some parsed =>
        show (rxStep? p t.loop (parsed.2, env)).map _ = _
        rw [rxStep?_eq ht p (parseMessage_recorded htype hchecksum hparse)]
        rfl

theorem rxTurn_keepsValidations (final : Nat) (t : RxTurn) (env : ServerRxEnv) :
    KeepsValidations t.loop.server (rxTurn specs p buffer final t env).loop.server := by
  unfold rxTurn
  split
  · exact .refl t.loop.server
  · cases findBeginStringPosition (buffer.drop t.bufferReadIndex) with
    | none => exact .refl t.loop.server
    | some offset =>
      dsimp only
      cases parseMessage specs (buffer.drop (t.bufferReadIndex + offset)) with
      | none => exact fun _ => rfl
      | some parsed =>
        exact (rxStep_keepsValidations t.loop p (parsed.2, env)).trans
          (behindMessage_keepsValidations p buffer final _ _)

/-- Every access of `process_rx_buffer` is to a tag that is there, and has a value where one is
compared. -/
theorem processRxBytes?_eq (htype : specs.NamesNot tagMsgType)
    (hchecksum : specs.NamesNot tagChecksum) {srv : FixServer} (hsrv : srv.ValidationsEnabled)
    (env : Nat → ServerRxEnv) :
    srv.processRxBytes? specs p buffer env = some (srv.processRxBytes specs p buffer env) := by
  unfold processRxBytes? processRxBytes
  dsimp only
  cases finalTag10DelimiterIndex buffer with
  | none => rfl
  | some final =>
    dsimp only
    rw [GuardedRun.foldlM_eq_run (I := fun t : RxTurn => t.loop.server.ValidationsEnabled)
      (fun t env ht => rxTurn?_eq p buffer htype hchecksum final ht env)
      (fun t env ht => (rxTurn_keepsValidations p buffer final t env).validationsEnabled ht) hsrv]
    rfl

end

end FixServer

end Llfix
