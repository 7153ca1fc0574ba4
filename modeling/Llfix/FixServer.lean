import Mathlib.Logic.Function.Basic
import Llfix.AdminUtility
import Llfix.Connectors

/-!
# The server

`FixServer` of `fix_server.h` on the single-threaded `TcpReactor`. Sessions and connector slots
are numbered; the order of the sessions is the iteration order of `m_sessions`. The result of
every send, every clock reading, the schedule, the throttler and `authenticate_logon_request`
are inputs of a step.

The layers follow the source from the bottom: the connector tables, the transport, the senders,
the handlers of a received message, one turn of `process`, and the events of the reactor.
-/

namespace Llfix

/-! ## Connector tables -/

/-- `FixServerConnectors`. -/
structure FixServerConnectors where
  peerIndexSessionTable : Nat → Option Nat := fun _ => none
  sessionPeerIndexTable : Nat → Option Nat := fun _ => none

namespace FixServerConnectors

def hasPeer (c : FixServerConnectors) (peerIndex : Nat) : Bool :=
  (c.peerIndexSessionTable peerIndex).isSome

def getSession (c : FixServerConnectors) (peerIndex : Nat) : Option Nat :=
  c.peerIndexSessionTable peerIndex

/-- `get_peer_index`; `none` is `size_t(-1)`. -/
def getPeerIndex (c : FixServerConnectors) (session : Nat) : Option Nat :=
  c.sessionPeerIndexTable session

def update (c : FixServerConnectors) (peerIndex session : Nat) : FixServerConnectors :=
  let peers :=
    match c.sessionPeerIndexTable session with
    | some existing =>
      if existing ≠ peerIndex then Function.update c.peerIndexSessionTable existing none
      else c.peerIndexSessionTable
    | none => c.peerIndexSessionTable
  { peerIndexSessionTable := Function.update peers peerIndex (some session)
    sessionPeerIndexTable := Function.update c.sessionPeerIndexTable session (some peerIndex) }

def remove (c : FixServerConnectors) (peerIndex session : Nat) : FixServerConnectors :=
  { peerIndexSessionTable := Function.update c.peerIndexSessionTable peerIndex none
    sessionPeerIndexTable := Function.update c.sessionPeerIndexTable session none }

end FixServerConnectors

/-! ## State -/

structure FixServer where
  sessions : Nat → FixSession
  sessionCount : Nat
  connectors : FixServerConnectors := {}
  /-- `m_connectors[i]->connected()` of the transport. -/
  connected : Nat → Bool := fun _ => false
  isHaPrimary : Bool := true
  refreshResendCacheDuringPromotion : Bool := false
  isStopping : Bool := false
  /-- History: `close_connection` was called with `size_t(-1)`. -/
  closedInvalidPeer : Bool := false
  /-- What was done with the connector slots. -/
  slotOperations : List SlotOperation := []

/-- The environment of one received message. At most one message is sent for it. -/
structure ServerRxEnv where
  nowNanoseconds : UInt64 := 0
  /-- `time(nullptr)`. -/
  utcNow : Int := 0
  /-- `is_now_valid_session_datetime`. -/
  scheduleValid : Bool := true
  /-- The result of `authenticate_logon_request`. -/
  authenticated : Bool := true
  /-- `reached_limit` of the throttler. -/
  throttlerReachedLimit : Bool := false
  send : SendOutcome := {}
deriving DecidableEq, Repr

namespace FixServer

def modifySession (srv : FixServer) (i : Nat) (f : FixSession → FixSession) : FixServer :=
  { srv with sessions := Function.update srv.sessions i (f (srv.sessions i)) }

/-! ## Transport -/

def onSlot (srv : FixServer) (operation : SlotOperation) : FixServer :=
  { srv with slotOperations := srv.slotOperations ++ [operation] }

/-- `on_client_disconnected(peer_index)`: the transport recycles the slot, then the session
mapped to it is disconnected and both entries go. -/
def onClientDisconnected (srv : FixServer) (p : Nat) : FixServer :=
  let srv := { srv with connected := Function.update srv.connected p false }.onSlot (.recycled p)
  match srv.connectors.getSession p with
  | none => srv
  | some i =>
    let srv := srv.modifySession i (·.setState .disconnected)
    { srv with connectors := srv.connectors.remove p i }

/-- `close_connection`. The index `size_t(-1)` is outside of `m_connectors`; the model notes the
call and goes on. -/
def closeConnection (srv : FixServer) : Option Nat → FixServer
  | none => { srv with closedInvalidPeer := true }
  | some p => srv.onClientDisconnected p

/-- `TcpReactor::send`, as far as the engine sees it: a lost connection is torn down inside. -/
def transportSend (srv : FixServer) (p : Nat) (result : SendResult) : FixServer :=
  let srv := srv.onSlot (.sent p)
  if result = .connectionLost then srv.onClientDisconnected p else srv

/-- `send_bytes`. -/
def sendBytes (srv : FixServer) (i : Nat) (t : Transmission) (o : SendOutcome) : FixServer :=
  match srv.connectors.getPeerIndex i with
  | none => srv
  | some p =>
    let ret : Bool := o.result = .ok
    let srv := srv.modifySession i fun s => s.record (.sent t s.sequenceStore.incomingSeqNo ret)
    let srv := srv.transportSend p o.result
    srv.modifySession i (·.afterSend t.incrementOutgoingSeqNo ret o.timestamp)

/-- `send_outgoing_message`. -/
def sendOutgoingMessage (srv : FixServer) (i : Nat) (m : OutgoingFixMessage) (o : SendOutcome) :
    FixServer :=
  srv.sendBytes i (.original m ((srv.sessions i).sequenceStore.outgoingSeqNo + 1)) o

/-! ## Senders -/

def sendHeartbeat (srv : FixServer) (i : Nat) (testRequestId : Option Bytes) (o : SendOutcome) :
    FixServer :=
  srv.sendOutgoingMessage i (FixSession.buildHeartbeatMessage testRequestId) o

/-- The message of `send_logon_response`. -/
def logonResponse (s : FixSession) : OutgoingFixMessage :=
  let response := (OutgoingFixMessage.setMsgType msgTypeLogon).setTagUInt32 tagEncryptMethod 0
  let response := response.setTagUInt32 tagHeartBtInt
    (s.settings.heartbeatIntervalInNanoseconds / 1000000000).toUInt32
  if 0 < s.settings.defaultAppVerId.length then
    response.setTag tagDefaultApplVerId s.settings.defaultAppVerId
  else response

def sendLogonResponse (srv : FixServer) (i : Nat) (o : SendOutcome) : FixServer :=
  srv.sendOutgoingMessage i (logonResponse (srv.sessions i)) o

def sendLogoutMessage (srv : FixServer) (i : Nat) (reasonText : Bytes) (o : SendOutcome) :
    FixServer :=
  srv.sendOutgoingMessage i (FixSession.buildLogoutMessage reasonText) o

def sendTestRequest (srv : FixServer) (i : Nat) (o : SendOutcome) : FixServer :=
  let (s, message) := (srv.sessions i).buildTestRequestMessage
  (srv.modifySession i fun _ => s).sendOutgoingMessage i message o

def sendResendRequest (srv : FixServer) (i : Nat) (o : SendOutcome) : FixServer :=
  srv.sendOutgoingMessage i ((srv.sessions i).buildResendRequestMessage (text "0")) o

def sendSequenceResetMessage (srv : FixServer) (i : Nat) (desiredSequenceNo : UInt32)
    (o : SendOutcome) : FixServer :=
  let (s, message) := (srv.sessions i).buildSequenceResetMessage desiredSequenceNo
  (srv.modifySession i fun _ => s).sendBytes i (.control message desiredSequenceNo) o

/-- The gap fill is sent under the number the peer asked for. -/
def sendGapFillMessage (srv : FixServer) (i : Nat) (o : SendOutcome) : FixServer :=
  let s := srv.sessions i
  srv.sendBytes i (.control s.buildGapFillMessage s.incomingResendRequestBeginNo) o

def resendMessagesToClient (srv : FixServer) (i : Nat) (beginSeqNo endSeqNo : UInt32)
    (o : UInt32 → SendOutcome) : FixServer :=
  (FixSession.replayRange beginSeqNo endSeqNo).foldl
    (fun srv n => srv.sendBytes i (.replay n) (o n)) srv

def sendRejectMessage (srv : FixServer) (i : Nat) (rejectReasonCode errorTag : UInt32)
    (o : SendOutcome) : FixServer :=
  srv.sendOutgoingMessage i
    ((srv.sessions i).buildSessionLevelRejectMessage rejectReasonCode errorTag) o

/-- The message of `send_throttle_reject_message`. -/
def throttleReject (s : FixSession) (m : IncomingFixMessage) : OutgoingFixMessage :=
  let reject := (OutgoingFixMessage.setMsgType msgTypeBusinessReject).setTag tagText
    s.settings.throttlerRejectMessage
  let reject :=
    if m.hasTag tagMsgSeqNum then
      reject.setTagUInt32 tagRefSeqNum (m.getTagValueAsUInt32 tagMsgSeqNum)
    else reject
  if m.hasTag tagMsgType then reject.setTag tagRefMsgType (m.getTagValue tagMsgType) else reject

def sendThrottleRejectMessage (srv : FixServer) (i : Nat) (m : IncomingFixMessage)
    (o : SendOutcome) : FixServer :=
  srv.sendOutgoingMessage i (throttleReject (srv.sessions i) m) o

/-- `process_connection_closure`. -/
def processConnectionClosure (srv : FixServer) (peer : Option Nat) (sendLogout : Bool)
    (logoutReasonText : Bytes) (o : SendOutcome) : FixServer :=
  let srv :=
    if sendLogout then
      match peer.bind srv.connectors.getSession with
      | some i => srv.sendLogoutMessage i logoutReasonText o
      | none => srv
    else srv
  srv.closeConnection peer

/-- `process_invalid_logon`, which every caller uses without a logout. -/
def processInvalidLogon (srv : FixServer) (p : Nat) : FixServer :=
  srv.processConnectionClosure (some p) false [] {}

/-! ## Received messages -/

/-- `find_session`. -/
def findSession (srv : FixServer) (beginString senderCompId targetCompId : Bytes) : Option Nat :=
  (List.range srv.sessionCount).find? fun i =>
    let settings := (srv.sessions i).settings
    settings.senderCompId = senderCompId && settings.targetCompId = targetCompId &&
      settings.beginString = beginString

/-- The session `accept_session` would give the connection to, before it changes anything. -/
def findLogonSession (srv : FixServer) (rx : RxMessage) (scheduleValid : Bool) : Option Nat :=
  let m := rx.message
  if rx.parserRejectCode.isSome then none
  else if !(m.hasTag tagBeginString && m.hasTag tagMsgSeqNum && m.hasTag tagSenderCompId &&
      m.hasTag tagTargetCompId && m.hasTag tagMsgType) then none
  else if m.getTagValueAsChar tagMsgType ≠ msgTypeLogon then none
  else
    match srv.findSession (m.getTagValue tagBeginString) (m.getTagValue tagTargetCompId)
        (m.getTagValue tagSenderCompId) with
    | none => none
    | some i =>
      if isStateLive (srv.sessions i).state then none
      else if (srv.sessions i).state = .disabled then none
      else if scheduleValid = false then none
      else some i

/-- A Logon that asks for new sequence numbers. -/
def resetsSequenceNumbers (m : IncomingFixMessage) : Bool :=
  m.hasTag tagResetSeqNumFlag && m.getTagValueAsChar tagResetSeqNumFlag = fixBooleanTrue

/-- What `accept_session` does to the session it accepts. -/
def acceptedSession (m : IncomingFixMessage) (s : FixSession) : FixSession :=
  let s := s.resetFlags.setIncomingFixMessage m
  let s := if resetsSequenceNumbers m then s.resetNumbers else s
  s.setState .pendingLogon

/-- `accept_session`; `none` when the attempt is refused and the connection closed. -/
def acceptSession (srv : FixServer) (p : Nat) (rx : RxMessage) (scheduleValid : Bool) :
    FixServer × Option Nat :=
  match srv.findLogonSession rx scheduleValid with
  | none => (srv.processInvalidLogon p, none)
  | some i =>
    let srv := { srv with connectors := srv.connectors.update p i }
    (srv.modifySession i (acceptedSession rx.message), some i)

/-- `process_incoming_throttling`. -/
def processIncomingThrottling (srv : FixServer) (i : Nat) (m : IncomingFixMessage)
    (env : ServerRxEnv) : FixServer × Bool :=
  let s := srv.sessions i
  if s.settings.throttleLimit = 0 then (srv, true)
  else if env.throttlerReachedLimit then
    let srv := srv.modifySession i (·.incrementIncomingThrottlerExceedCount)
    match s.settings.throttleAction with
    | .disconnect => (srv.processConnectionClosure (srv.connectors.getPeerIndex i) false [] {}, false)
    | .reject => (srv.sendThrottleRejectMessage i m env.send, false)
    | _ => (srv, true)
  else (srv, true)

/-- `validate_logon_request`. -/
def validateLogonRequest (m : IncomingFixMessage) : Bool :=
  m.hasTag tagEncryptMethod && m.hasTag tagHeartBtInt &&
    !(m.getTagValue tagHeartBtInt).contains '-'.toUInt8 &&
    !(m.getTagValue tagHeartBtInt).contains '.'.toUInt8 &&
    m.getTagValueAsUInt32 tagHeartBtInt ≠ 0

/-- The intervals a session takes from tag 108. -/
def setHeartbeatInterval (s : FixSession) (m : IncomingFixMessage) : FixSession :=
  let nanoseconds := (m.getTagValueAsUInt32 tagHeartBtInt).toUInt64 * 1000000000
  s.setSettings { s.settings with
    heartbeatIntervalInNanoseconds := nanoseconds
    outgoingTestRequestIntervalInNanoseconds :=
      nanoseconds * s.settings.outgoingTestRequestIntervalMultiplier }

/-- `do_post_logon_sequence_number_check`. -/
def doPostLogonSequenceNumberCheck (s : FixSession) : FixSession :=
  if s.state = .loggedOn then
    let stored := s.sequenceStore.incomingSeqNo
    let incomingSeqNo := s.incomingFixMessage.getTagValueAsUInt32 tagMsgSeqNum
    if stored < incomingSeqNo then
      if isAHardSequenceResetMessage s.incomingFixMessage = false then
        s.queueOutgoingResendRequest stored incomingSeqNo
      else s
    else s
  else s

/-- The virtual functions of the application. -/
def callback (srv : FixServer) (i : Nat) (c : Callback) (m : Option IncomingFixMessage) :
    FixServer :=
  srv.modifySession i (·.record (.callback c m))

/-- `process_logon_request`. -/
def processLogonRequest (srv : FixServer) (i p : Nat) (m : IncomingFixMessage)
    (env : ServerRxEnv) : FixServer :=
  if validateLogonRequest m = false then srv.processInvalidLogon p
  else if env.authenticated = false then srv.processInvalidLogon p
  else
    let srv := srv.modifySession i fun s => (setHeartbeatInterval s m).record .authenticated
    let srv := srv.sendLogonResponse i env.send
    let srv := srv.modifySession i fun s => doPostLogonSequenceNumberCheck (s.setState .loggedOn)
    srv.callback i .onLogonRequest (some m)

/-- `process_logout_request`. -/
def processLogoutRequest (srv : FixServer) (i : Nat) (m : IncomingFixMessage)
    (env : ServerRxEnv) : FixServer :=
  let srv := srv.sendLogoutMessage i [] env.send
  let srv := srv.modifySession i (·.setState .loggedOut)
  srv.callback i .onLogoutRequest (some m)

/-- The case `MSG_TYPE_SEQUENCE_RESET`. -/
def processSequenceReset (srv : FixServer) (i : Nat) (m : IncomingFixMessage)
    (env : ServerRxEnv) : FixServer :=
  let (s, accepted) := (srv.sessions i).processIncomingSequenceResetMessage m
  let srv := srv.modifySession i fun _ => s
  if accepted = false then
    srv.sendRejectMessage i fixErrorCodeValueIncorrectForTag tagNewSeqNo env.send
  else srv

/-- The `switch` on MsgType at the end of `process_incoming_fix_message`. -/
def dispatch (srv : FixServer) (i p : Nat) (m : IncomingFixMessage) (env : ServerRxEnv) :
    FixServer :=
  match m.getTagValue tagMsgType with
  | [c] =>
    if c = msgTypeNewOrder then srv.callback i .onNewOrder (some m)
    else if c = msgTypeOrderCancel then srv.callback i .onCancelOrder (some m)
    else if c = msgTypeOrderCancelReplace then srv.callback i .onReplaceOrder (some m)
    else if c = msgTypeHeartbeat then srv.callback i .onClientHeartbeat none
    else if c = msgTypeTestRequest then
      (srv.modifySession i (·.processTestRequestMessage m)).callback i .onClientTestRequest (some m)
    else if c = msgTypeResendRequest then
      (srv.modifySession i (·.processResendRequest m)).callback i .onClientResendRequest (some m)
    else if c = msgTypeReject then srv.callback i .onSessionLevelReject (some m)
    else if c = msgTypeBusinessReject then srv.callback i .onApplicationLevelReject (some m)
    else if c = msgTypeLogon then srv.processLogonRequest i p m env
    else if c = msgTypeLogout then srv.processLogoutRequest i m env
    else if c = msgTypeSequenceReset then srv.processSequenceReset i m env
    else srv.callback i .onCustomMessage (some m)
  | _ => srv.callback i .onCustomMessage (some m)

/-- `process_incoming_fix_message` from the end of the sequence checks on. -/
def processInSequence (srv : FixServer) (i p : Nat) (rx : RxMessage) (env : ServerRxEnv) :
    FixServer :=
  let srv :=
    if (srv.sessions i).resendRequestSatisfied rx then srv.modifySession i (·.setState .loggedOn)
    else srv
  let (srv, proceed) := srv.processIncomingThrottling i rx.message env
  if proceed = false then srv else srv.dispatch i p rx.message env

/-- The text of the logout for a Logon whose number is too low. -/
def seqNumTooLowText (expected received : UInt32) : Bytes :=
  text "MsgSeqNum too low, expecting " ++ unsignedIntToChars expected ++ text " but received " ++
    unsignedIntToChars received

/-- The sequence number checks of `process_incoming_fix_message`, on a session whose incoming
number has been incremented already. -/
def processSequenceNumber (srv : FixServer) (i p : Nat) (rx : RxMessage) (env : ServerRxEnv) :
    FixServer :=
  let s := srv.sessions i
  let stored := s.sequenceStore.incomingSeqNo
  if stored < rx.seqNum && isAHardSequenceResetMessage rx.message = false &&
      s.state ≠ .pendingLogon then
    srv.modifySession i (·.queueOutgoingResendRequest stored rx.seqNum)
  else if rx.seqNum < stored && isAHardSequenceResetMessage rx.message = false then
    let sendLogout : Bool := s.state = .pendingLogon
    let reason := if sendLogout then seqNumTooLowText stored rx.seqNum else []
    (srv.modifySession i (·.setIncomingSeqNo (stored - 1))).processConnectionClosure (some p)
      sendLogout reason env.send
  else srv.processInSequence i p rx env

/-- `process_incoming_fix_message`. -/
def processIncomingFixMessage (srv : FixServer) (i p : Nat) (rx : RxMessage)
    (env : ServerRxEnv) : FixServer :=
  let srv := srv.modifySession i (·.messageReceived env.nowNanoseconds)
  match (srv.sessions i).verdict rx env.utcNow with
  | .rejected code errorTag =>
    (srv.modifySession i (·.setLastErrorTag errorTag)).sendRejectMessage i code errorTag env.send
  | .dropped => srv.modifySession i (·.setLastErrorTag 0)
  | .valid => (srv.modifySession i (·.incrementIncomingSeqNo)).processSequenceNumber i p rx env

/-- The loop of `process_rx_buffer` between two messages: `session` is the pointer it looked up
once, `returned` says that it has left the function. -/
structure RxLoop where
  server : FixServer
  session : Option Nat
  returned : Bool := false

/-- A message is parsed into the message of the session, then processed. -/
def handleMessage (srv : FixServer) (i p : Nat) (rx : RxMessage) (env : ServerRxEnv) : FixServer :=
  (srv.modifySession i (·.setIncomingFixMessage rx.message)).processIncomingFixMessage i p rx env

/-- The session that a message is for: the one looked up or the one that accepts the logon. -/
def RxLoop.target (p : Nat) (l : RxLoop) (e : RxMessage × ServerRxEnv) : FixServer × Option Nat :=
  match l.session with
  | some i => (l.server, some i)
  | none => l.server.acceptSession p e.1 e.2.scheduleValid

/-- One message of `process_rx_buffer`. -/
def rxStep (p : Nat) (l : RxLoop) (e : RxMessage × ServerRxEnv) : RxLoop :=
  if l.returned then l
  else
    match l.target p e with
    | (srv, none) => { server := srv, session := none, returned := true }
    | (srv, some i) =>
      let srv := srv.handleMessage i p e.1 e.2
      { server := srv, session := some i, returned := (srv.sessions i).state = .disconnected }

/-- `process_rx_buffer` on the messages of the buffer. -/
def processRxBuffer (srv : FixServer) (p : Nat) (messages : List (RxMessage × ServerRxEnv)) :
    RxLoop :=
  messages.foldl (rxStep p) { server := srv, session := srv.connectors.getSession p }

/-- `on_data_ready` after a successful read. The slot may have been recycled meanwhile, which
`receive_done` takes for a closed connection. -/
def onDataReady (srv : FixServer) (p : Nat) (messages : List (RxMessage × ServerRxEnv)) :
    FixServer :=
  let srv := (srv.processRxBuffer p messages).server
  if srv.connected p then srv else srv.onClientDisconnected p

/-! ## One turn of `process` -/

/-- `disable_session`. -/
def disableSession (srv : FixServer) (i : Nat) (o : SendOutcome) : FixServer :=
  let srv :=
    if isStateLive (srv.sessions i).state then
      srv.processConnectionClosure (srv.connectors.getPeerIndex i) true [] o
    else srv
  srv.modifySession i (·.setState .disabled)

/-- `enable_session`. -/
def enableSession (srv : FixServer) (i : Nat) (recordsOnDisc : List UInt32) : FixServer :=
  if (srv.sessions i).state = .disabled then
    let srv := srv.modifySession i (·.setState .disconnected)
    if srv.refreshResendCacheDuringPromotion then
      srv.modifySession i (·.reinitialiseOutgoingSerialiser recordsOnDisc)
    else srv
  else srv

/-- The `switch` of `process_admin_commands`. -/
def processAdminCommand (srv : FixServer) (i : Nat) (command : ModifyingAdminCommand)
    (env : ProcessEnv) : FixServer :=
  match command.type with
  | .setIncomingSequenceNumber =>
    srv.modifySession i (·.setIncomingSeqNo command.arg)
  | .setOutgoingSequenceNumber =>
    srv.modifySession i (·.setOutgoingSeqNo command.arg)
  | .sendSequenceReset =>
    if (srv.sessions i).state = .loggedOn then
      srv.sendSequenceResetMessage i command.arg env.adminSend
    else srv
  | .disableSession => srv.disableSession i env.adminSend
  | .enableSession => if srv.isHaPrimary then srv.enableSession i env.recordsOnDisc else srv
  | .setIsHaPrimaryInstance =>
    let srv := { srv with isHaPrimary := command.arg = 1 }
    if command.arg = 1 then srv.enableSession i env.recordsOnDisc
    else srv.disableSession i env.adminSend

/-- `process_admin_commands`: one command a turn. -/
def processAdminCommands (srv : FixServer) (i : Nat) (env : ProcessEnv) : FixServer :=
  match (srv.sessions i).tryPopAdminCommand with
  | none => srv
  | some (command, s) => (srv.modifySession i fun _ => s).processAdminCommand i command env

def processOutgoingResendRequestIfNecessary (srv : FixServer) (i : Nat) (env : ProcessEnv) :
    FixServer :=
  let s := srv.sessions i
  if s.state = .inRetransmissionInitiatedBySelf then
    if s.outgoingResendRequestExpired env.resendRequestTimestamp then
      srv.processConnectionClosure (srv.connectors.getPeerIndex i) false [] {}
    else srv
  else if s.needsToSendResendRequest then
    (srv.sendResendRequest i env.resendRequestSend).modifySession i
      (·.resendRequestSent env.resendRequestTimestamp)
  else srv

def processOutgoingTestRequestIfNecessary (srv : FixServer) (i : Nat) (env : ProcessEnv) :
    FixServer :=
  let s := srv.sessions i
  if s.expectingResponseForOutgoingTestRequest = false then
    if s.outgoingTestRequestDue env.testRequestTimestamp then
      (srv.sendTestRequest i env.testRequestSend).modifySession i
        (·.testRequestSent env.testRequestTimestamp)
    else srv
  else if s.outgoingTestRequestExpired env.testRequestTimestamp then
    let srv := srv.modifySession i (·.setExpectingResponseForOutgoingTestRequest false)
    srv.processConnectionClosure (srv.connectors.getPeerIndex i) false [] {}
  else srv

def respondToResendRequestIfNecessary (srv : FixServer) (i : Nat) (env : ProcessEnv) :
    FixServer :=
  let s := srv.sessions i
  if s.needsRespondingToIncomingResendRequest then
    let srv :=
      if s.willReplay then
        srv.resendMessagesToClient i s.incomingResendRequestBeginNo s.sequenceStore.outgoingSeqNo
          env.replaySend
      else srv.sendGapFillMessage i env.gapFillSend
    srv.modifySession i (·.resendRequestAnswered)
  else srv

def respondToTestRequestIfNecessary (srv : FixServer) (i : Nat) (env : ProcessEnv) : FixServer :=
  let s := srv.sessions i
  if s.needsRespondingToIncomingTestRequest then
    (srv.sendHeartbeat i s.savedTestRequestId env.testResponseSend).modifySession i
      (·.testRequestAnswered)
  else srv

def sendHeartbeatIfNecessary (srv : FixServer) (i : Nat) (env : ProcessEnv) : FixServer :=
  if (srv.sessions i).heartbeatDue env.heartbeatTimestamp then
    srv.sendHeartbeat i none env.heartbeatSend
  else srv

def processScheduleValidator (srv : FixServer) (i : Nat) (env : ProcessEnv) : FixServer :=
  if env.scheduleValid = false then
    srv.processConnectionClosure (srv.connectors.getPeerIndex i) true [] env.scheduleSend
  else srv

/-- The steps of a turn in a live state. -/
def processLive (srv : FixServer) (i : Nat) (env : ProcessEnv) : FixServer :=
  let srv := srv.processOutgoingResendRequestIfNecessary i env
  let srv := srv.processOutgoingTestRequestIfNecessary i env
  let srv := srv.respondToResendRequestIfNecessary i env
  let srv := srv.respondToTestRequestIfNecessary i env
  let srv := srv.sendHeartbeatIfNecessary i env
  srv.processScheduleValidator i env

/-- The body of the loop of `process`. -/
def processTurn (srv : FixServer) (i : Nat) (env : ProcessEnv) : FixServer :=
  let srv := srv.processAdminCommands i env
  if isStateLive (srv.sessions i).state then srv.processLive i env else srv

/-- `send_logout_messages_to_all_sessions`, the last pass of a server that stops. -/
def sendLogoutMessagesToAllSessions (srv : FixServer) (env : Nat → ProcessEnv) : FixServer :=
  (List.range srv.sessionCount).foldl
    (fun srv i =>
      if (srv.sessions i).state ≠ .disconnected then
        (srv.sendLogoutMessage i [] (env i).adminSend).modifySession i (·.setState .disconnected)
      else srv)
    srv

/-- `process`. -/
def process (srv : FixServer) (env : Nat → ProcessEnv) : FixServer :=
  if srv.isStopping = false then
    (List.range srv.sessionCount).foldl (fun srv i => srv.processTurn i (env i)) srv
  else srv.sendLogoutMessagesToAllSessions env

/-! ## Events -/

/-- What the reactor thread does next. `connect` is `add_connector`, which takes a slot that is
not connected; `disconnect` is a read that finds the connection closed. -/
inductive Event
  | connect (p : Nat)
  | receive (p : Nat) (messages : List (RxMessage × ServerRxEnv))
  | disconnect (p : Nat)
  | process (env : Nat → ProcessEnv)
  | pushAdminCommand (i : Nat) (command : ModifyingAdminCommand)

/-- One event of the reactor. -/
def step (srv : FixServer) : Event → FixServer
  | .connect p => { srv with connected := Function.update srv.connected p true }.onSlot (.given p)
  | .receive p messages => if srv.connected p then srv.onDataReady p messages else srv
  | .disconnect p => if srv.connected p then srv.onClientDisconnected p else srv
  | .process env => srv.process env
  | .pushAdminCommand i command =>
    srv.modifySession i (·.pushAdminCommand command)

end FixServer

end Llfix
