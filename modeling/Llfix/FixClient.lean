import Llfix.AdminUtility

/-!
# The client

`FixClient` of `fix_client.h` on `TCPConnector`: the same session as the server's, with its own
order of the checks, its own snapshot of the state in `process` and a shutdown that reads on
until the logout is answered. What a read delivers, the result of every send and every clock
reading are inputs of a step.
-/

namespace Llfix

structure FixClient where
  session : FixSession := {}
  isHaPrimary : Bool := true
  refreshResendCacheDuringPromotion : Bool := false
  lastLogonAttemptTimestamp : UInt64 := 0
  /-- The socket of the transport is open; a lost connection does not close it. -/
  socketOpen : Bool := false
deriving DecidableEq, Repr

/-- The environment of one received message. At most one message is sent for it. -/
structure ClientRxEnv where
  nowNanoseconds : UInt64 := 0
  /-- `time(nullptr)`. -/
  utcNow : Int := 0
  send : SendOutcome := {}
deriving DecidableEq, Repr

/-- What one call of `process_incoming_messages` finds. `data` is a successful read with its
messages; `lostAfter` says that `receive_done` then takes the connection for lost, which it
can only do when a message has closed it. `lost` is a read that fails. -/
inductive ReadOutcome
  | nothing
  | data (messages : List (RxMessage × ClientRxEnv)) (lostAfter : Bool)
  | lost
deriving DecidableEq, Repr

/-- The environment of `do_shutdown`: the send of the logout and the reads of its loop. The loop
ends with the list when neither a logout nor a disconnection ends it before; this is its
timeout. -/
structure ShutdownEnv where
  logoutSend : SendOutcome := {}
  reads : List ReadOutcome := []
deriving DecidableEq, Repr

/-- The environment of one `process` of the client. -/
structure ClientProcessEnv extends ProcessEnv where
  read : ReadOutcome := .nothing
  /-- The shutdown of a disabling command. -/
  adminShutdown : ShutdownEnv := {}
  /-- The shutdown outside of the schedule. -/
  scheduleShutdown : ShutdownEnv := {}
  /-- The clock for the logon timeout. -/
  logonTimestamp : UInt64 := 0

namespace FixClient

def modifySession (c : FixClient) (f : FixSession → FixSession) : FixClient :=
  { c with session := f c.session }

/-! ## Transport -/

/-- The virtual functions of the application. -/
def callback (c : FixClient) (cb : Callback) (m : Option IncomingFixMessage) : FixClient :=
  c.modifySession (·.record (.callback cb m))

/-- `on_connection_lost`. -/
def onConnectionLost (c : FixClient) : FixClient :=
  (c.modifySession fun s => (s.setState .disconnected).record .connectionLost).callback
    .onDisconnection none

/-- `close` of `TCPConnector`. -/
def close (c : FixClient) : FixClient :=
  { c.modifySession (·.record .connectionClosed) with socketOpen := false }

/-- `send_bytes`. A closed socket makes every try fail. -/
def sendBytes (c : FixClient) (t : Transmission) (o : SendOutcome) : FixClient :=
  if c.socketOpen then
    let ret : Bool := o.result = .ok
    let c := c.modifySession fun s => s.record (.sent t s.sequenceStore.incomingSeqNo ret)
    let c := if o.result = .connectionLost then c.onConnectionLost else c
    c.modifySession (·.afterSend t.incrementOutgoingSeqNo ret o.timestamp)
  else c.modifySession (·.afterSend t.incrementOutgoingSeqNo false o.timestamp)

/-- `send_outgoing_message`. -/
def sendOutgoingMessage (c : FixClient) (m : OutgoingFixMessage) (o : SendOutcome) : FixClient :=
  c.sendBytes (.original m (c.session.sequenceStore.outgoingSeqNo + 1)) o

/-! ## Senders -/

/-- The message of `send_logon_request`, which may reset the numbers first. -/
def logonRequest (s : FixSession) : FixSession × OutgoingFixMessage :=
  let settings := s.settings
  let request := (OutgoingFixMessage.setMsgType msgTypeLogon).setTagUInt32 tagEncryptMethod 0
  let request := request.setTagUInt32 tagHeartBtInt
    (settings.heartbeatIntervalInNanoseconds / 1000000000).toUInt32
  let request :=
    if 0 < settings.defaultAppVerId.length then
      request.setTag tagDefaultApplVerId settings.defaultAppVerId
    else request
  let (s, request) :=
    if settings.logonResetSequenceNumbers then
      (s.resetNumbers, request.setTag tagResetSeqNumFlag [fixBooleanTrue])
    else (s, request)
  let request :=
    if settings.logonIncludeNextExpectedSeqNo then
      request.setTagUInt32 tagNextExpectedSeqNum (s.sequenceStore.incomingSeqNo + 1)
    else request
  let request :=
    if 0 < settings.logonUsername.length then request.setTag tagUsername settings.logonUsername
    else request
  let request :=
    if 0 < settings.logonPassword.length then request.setTag tagPassword settings.logonPassword
    else request
  let request :=
    if 0 < settings.logonMessageNewPassword.length then
      request.setTag tagNewPassword settings.logonMessageNewPassword
    else request
  (s, request)

def sendLogonRequest (c : FixClient) (o : SendOutcome) : FixClient :=
  let (s, request) := logonRequest c.session
  (c.modifySession fun _ => s).sendOutgoingMessage request o

def sendLogoutRequest (c : FixClient) (o : SendOutcome) : FixClient :=
  c.sendOutgoingMessage (FixSession.buildLogoutMessage []) o

def sendClientHeartbeat (c : FixClient) (testRequestId : Option Bytes) (o : SendOutcome) :
    FixClient :=
  c.sendOutgoingMessage (FixSession.buildHeartbeatMessage testRequestId) o

def sendTestRequest (c : FixClient) (o : SendOutcome) : FixClient :=
  let (s, message) := c.session.buildTestRequestMessage
  (c.modifySession fun _ => s).sendOutgoingMessage message o

def sendResendRequest (c : FixClient) (o : SendOutcome) : FixClient :=
  c.sendOutgoingMessage (c.session.buildResendRequestMessage (text "0")) o

def sendSequenceResetMessage (c : FixClient) (desiredSequenceNo : UInt32) (o : SendOutcome) :
    FixClient :=
  let (s, message) := c.session.buildSequenceResetMessage desiredSequenceNo
  (c.modifySession fun _ => s).sendBytes (.control message desiredSequenceNo) o

/-- The gap fill is sent under the number the peer asked for. -/
def sendGapFillMessage (c : FixClient) (o : SendOutcome) : FixClient :=
  c.sendBytes
    (.control c.session.buildGapFillMessage c.session.incomingResendRequestBeginNo) o

def resendMessagesToServer (c : FixClient) (beginSeqNo endSeqNo : UInt32)
    (o : UInt32 → SendOutcome) : FixClient :=
  (FixSession.replayRange beginSeqNo endSeqNo).foldl
    (fun c n => c.sendBytes (.replay n) (o n)) c

def sendRejectMessage (c : FixClient) (rejectReasonCode errorTag : UInt32) (o : SendOutcome) :
    FixClient :=
  c.sendOutgoingMessage (c.session.buildSessionLevelRejectMessage rejectReasonCode errorTag) o

/-! ## Received messages -/

/-- `process_logon_reject`. -/
def processLogonReject (c : FixClient) (m : IncomingFixMessage) : FixClient :=
  (c.modifySession (·.setState .logonRejected)).callback .onLogonReject (some m)

/-- `process_session_level_reject` and `process_application_level_reject`. -/
def processReject (c : FixClient) (cb : Callback) (m : IncomingFixMessage) : FixClient :=
  if c.session.state = .pendingLogon then c.processLogonReject m else c.callback cb (some m)

def processSessionLevelReject (c : FixClient) (m : IncomingFixMessage) : FixClient :=
  c.processReject .onSessionLevelReject m

def processApplicationLevelReject (c : FixClient) (m : IncomingFixMessage) : FixClient :=
  c.processReject .onApplicationLevelReject m

/-- `process_logon_response`. -/
def processLogonResponse (c : FixClient) (m : IncomingFixMessage) : FixClient :=
  (c.modifySession fun s => (s.record .logonResponse).setState .loggedOn).callback
    .onLogonResponse (some m)

/-- `process_logout_response`. -/
def processLogoutResponse (c : FixClient) (m : IncomingFixMessage) : FixClient :=
  if c.session.state = .pendingLogon then c.processLogonReject m
  else
    (c.modifySession fun s => (s.setReceivedLogoutResponse true).setState .loggedOut).callback
      .onLogoutResponse (some m)

/-- The case `MSG_TYPE_SEQUENCE_RESET`. -/
def processSequenceReset (c : FixClient) (m : IncomingFixMessage) (env : ClientRxEnv) :
    FixClient :=
  let (s, accepted) := c.session.processIncomingSequenceResetMessage m
  let c := c.modifySession fun _ => s
  if accepted = false then
    c.sendRejectMessage fixErrorCodeValueIncorrectForTag tagNewSeqNo env.send
  else c

/-- The `switch` on MsgType at the end of `process_incoming_fix_message`. -/
def dispatch (c : FixClient) (m : IncomingFixMessage) (env : ClientRxEnv) : FixClient :=
  match m.getTagValue tagMsgType with
  | [t] =>
    if t = msgTypeExecutionReport then c.callback .onExecutionReport (some m)
    else if t = msgTypeHeartbeat then c.callback .onServerHeartbeat none
    else if t = msgTypeTestRequest then
      (c.modifySession (·.processTestRequestMessage m)).callback .onServerTestRequest (some m)
    else if t = msgTypeResendRequest then
      (c.modifySession (·.processResendRequest m)).callback .onServerResendRequest (some m)
    else if t = msgTypeOrderCancelReject then c.callback .onOrderCancelReplaceReject (some m)
    else if t = msgTypeReject then c.processSessionLevelReject m
    else if t = msgTypeBusinessReject then c.processApplicationLevelReject m
    else if t = msgTypeLogon then c.processLogonResponse m
    else if t = msgTypeLogout then c.processLogoutResponse m
    else if t = msgTypeSequenceReset then c.processSequenceReset m env
    else c.callback .onCustomMessageType (some m)
  | _ => c.callback .onCustomMessageType (some m)

/-- `do_shutdown(false)`, which the receive path calls. -/
def doShutdownNow (c : FixClient) : FixClient :=
  c.onConnectionLost.close.modifySession (·.setState .disconnected)

/-- `process_incoming_fix_message` from the end of the sequence checks on. -/
def processInSequence (c : FixClient) (rx : RxMessage) (env : ClientRxEnv) : FixClient :=
  let c :=
    if c.session.resendRequestSatisfied rx then c.modifySession (·.setState .loggedOn) else c
  c.dispatch rx.message env

/-- The sequence number checks of `process_incoming_fix_message`, on a session whose incoming
number has been incremented already. Unlike the server's they make no exception for
`PENDING_LOGON`. -/
def processSequenceNumber (c : FixClient) (rx : RxMessage) (env : ClientRxEnv) : FixClient :=
  let stored := c.session.sequenceStore.incomingSeqNo
  if stored < rx.seqNum && isAHardSequenceResetMessage rx.message = false then
    c.modifySession (·.queueOutgoingResendRequest stored rx.seqNum)
  else if rx.seqNum < stored && isAHardSequenceResetMessage rx.message = false then
    (c.modifySession (·.setIncomingSeqNo (stored - 1))).doShutdownNow
  else c.processInSequence rx env

/-- `process_incoming_fix_message`. -/
def processIncomingFixMessage (c : FixClient) (rx : RxMessage) (env : ClientRxEnv) : FixClient :=
  let c := c.modifySession (·.messageReceived env.nowNanoseconds)
  match c.session.verdict rx env.utcNow with
  | .rejected code errorTag =>
    (c.modifySession (·.setLastErrorTag errorTag)).sendRejectMessage code errorTag env.send
  | .dropped => c.modifySession (·.setLastErrorTag 0)
  | .valid => (c.modifySession (·.incrementIncomingSeqNo)).processSequenceNumber rx env

/-- The loop of `process_rx_buffer` between two messages. -/
structure RxLoop where
  client : FixClient
  returned : Bool := false
deriving DecidableEq, Repr

/-- A message is parsed into the message of the session, then processed. -/
def handleMessage (c : FixClient) (rx : RxMessage) (env : ClientRxEnv) : FixClient :=
  (c.modifySession (·.setIncomingFixMessage rx.message)).processIncomingFixMessage rx env

/-- One message of `process_rx_buffer`. -/
def rxStep (l : RxLoop) (e : RxMessage × ClientRxEnv) : RxLoop :=
  if l.returned then l
  else
    let c := l.client.handleMessage e.1 e.2
    { client := c, returned := c.session.state = .disconnected }

/-- `process_rx_buffer` on the messages of the buffer. -/
def processRxBuffer (c : FixClient) (messages : List (RxMessage × ClientRxEnv)) : FixClient :=
  (messages.foldl rxStep { client := c }).client

/-- `process_incoming_messages`. A closed socket is never ready. `close` leaves a last receive
result of 0, which `receive_done` takes for an error. -/
def processIncomingMessages (c : FixClient) (read : ReadOutcome) : FixClient :=
  if c.socketOpen then
    match read with
    | .nothing => c
    | .lost => c.onConnectionLost
    | .data messages lostAfter =>
      let c := c.processRxBuffer messages
      if c.socketOpen = false && lostAfter then c.onConnectionLost else c
  else c

/-! ## Shutdown and connect -/

/-- The loop of `do_shutdown`: reads until the logout is answered, the state is `DISCONNECTED`
or the time is over. -/
def shutdownLoop (c : FixClient) : List ReadOutcome → FixClient
  | [] => c
  | read :: reads =>
    let c := c.processIncomingMessages read
    if c.session.receivedLogoutResponse then c
    else if c.session.state = .disconnected then c
    else c.shutdownLoop reads

/-- `do_shutdown`. -/
def doShutdown (c : FixClient) (graceful : Bool) (env : ShutdownEnv) : FixClient :=
  let callTimeState := c.session.state
  let c := c.onConnectionLost
  let c :=
    if graceful && callTimeState = .loggedOn then
      let c := c.modifySession (·.setReceivedLogoutResponse false)
      let c := c.sendLogoutRequest env.logoutSend
      let c := c.modifySession (·.setState .pendingLogout)
      c.shutdownLoop env.reads
    else c
  c.close.modifySession (·.setState .disconnected)

/-- The environment of `connect`: the schedule, whether `Transport::connect` succeeds at the
primary or the secondary address, the clock and the send of the Logon. -/
structure ConnectEnv where
  scheduleValid : Bool := true
  success : Bool := true
  nowNanoseconds : UInt64 := 0
  logonSend : SendOutcome := {}
deriving DecidableEq, Repr

/-- `connect`. -/
def connect (c : FixClient) (env : ConnectEnv) : FixClient :=
  if c.session.state = .disabled then c
  else if env.scheduleValid = false then c
  else
    let c := c.modifySession fun s => (s.setState .pendingConnection).resetFlags
    let c := c.close
    if env.success then
      let c := { c with socketOpen := true }
      let c := c.modifySession fun s =>
        ((s.record .connected).setLastReceivedMessageTimestampNanoseconds
          env.nowNanoseconds).setState .pendingLogon
      let c := { c with lastLogonAttemptTimestamp := env.nowNanoseconds }
      (c.callback .onConnection none).sendLogonRequest env.logonSend
    else c.modifySession (·.setState .disconnected)

/-! ## `process` -/

/-- `disable_session`. -/
def disableSession (c : FixClient) (env : ShutdownEnv) : FixClient :=
  let c := if isStateLive c.session.state then c.doShutdown true env else c
  c.modifySession (·.setState .disabled)

/-- `enable_session`. -/
def enableSession (c : FixClient) (recordsOnDisc : List UInt32) : FixClient :=
  if c.session.state = .disabled then
    let c := c.modifySession (·.setState .disconnected)
    if c.refreshResendCacheDuringPromotion then
      c.modifySession (·.reinitialiseOutgoingSerialiser recordsOnDisc)
    else c
  else c

/-- The `switch` of `process_admin_commands`. -/
def processAdminCommand (c : FixClient) (command : ModifyingAdminCommand)
    (env : ClientProcessEnv) : FixClient :=
  match command.type with
  | .setIncomingSequenceNumber =>
    c.modifySession (·.setIncomingSeqNo command.arg)
  | .setOutgoingSequenceNumber =>
    c.modifySession (·.setOutgoingSeqNo command.arg)
  | .sendSequenceReset =>
    if c.session.state = .loggedOn then c.sendSequenceResetMessage command.arg env.adminSend
    else c
  | .disableSession => c.disableSession env.adminShutdown
  | .enableSession => if c.isHaPrimary then c.enableSession env.recordsOnDisc else c
  | .setIsHaPrimaryInstance =>
    let c := { c with isHaPrimary := command.arg = 1 }
    if command.arg = 1 then c.enableSession env.recordsOnDisc
    else c.disableSession env.adminShutdown

/-- `process_admin_commands`: one command a pass. -/
def processAdminCommands (c : FixClient) (env : ClientProcessEnv) : FixClient :=
  match c.session.tryPopAdminCommand with
  | none => c
  | some (command, s) => (c.modifySession fun _ => s).processAdminCommand command env

def processOutgoingResendRequestIfNecessary (c : FixClient) (env : ClientProcessEnv) :
    FixClient :=
  let s := c.session
  if s.state = .inRetransmissionInitiatedBySelf then
    if s.outgoingResendRequestExpired env.resendRequestTimestamp then c.doShutdown false {} else c
  else if s.needsToSendResendRequest then
    (c.sendResendRequest env.resendRequestSend).modifySession
      (·.resendRequestSent env.resendRequestTimestamp)
  else c

def processOutgoingTestRequestIfNecessary (c : FixClient) (env : ClientProcessEnv) : FixClient :=
  let s := c.session
  if s.expectingResponseForOutgoingTestRequest = false then
    if s.outgoingTestRequestDue env.testRequestTimestamp then
      (c.sendTestRequest env.testRequestSend).modifySession
        (·.testRequestSent env.testRequestTimestamp)
    else c
  else if s.outgoingTestRequestExpired env.testRequestTimestamp then
    (c.modifySession (·.setExpectingResponseForOutgoingTestRequest false)).doShutdown false {}
  else c

def respondToResendRequestIfNecessary (c : FixClient) (env : ClientProcessEnv) : FixClient :=
  let s := c.session
  if s.needsRespondingToIncomingResendRequest then
    let c :=
      if s.willReplay then
        c.resendMessagesToServer s.incomingResendRequestBeginNo s.sequenceStore.outgoingSeqNo
          env.replaySend
      else c.sendGapFillMessage env.gapFillSend
    c.modifySession (·.resendRequestAnswered)
  else c

def respondToTestRequestIfNecessary (c : FixClient) (env : ClientProcessEnv) : FixClient :=
  let s := c.session
  if s.needsRespondingToIncomingTestRequest then
    (c.sendClientHeartbeat s.savedTestRequestId env.testResponseSend).modifySession
      (·.testRequestAnswered)
  else c

def sendClientHeartbeatIfNecessary (c : FixClient) (env : ClientProcessEnv) : FixClient :=
  if c.session.heartbeatDue env.heartbeatTimestamp then
    c.sendClientHeartbeat none env.heartbeatSend
  else c

def processScheduleValidator (c : FixClient) (env : ClientProcessEnv) : FixClient :=
  if env.scheduleValid = false then c.doShutdown true env.scheduleShutdown else c

/-- `process_outgoing_logon_request`: the timeout of a Logon. -/
def processOutgoingLogonRequest (c : FixClient) (env : ClientProcessEnv) : FixClient :=
  if c.session.settings.logonTimeoutSeconds * 1000000000 ≤
      env.logonTimestamp - c.lastLogonAttemptTimestamp then
    c.modifySession (·.setState .disconnected)
  else c

/-- The steps of `process` for a snapshot that is live. -/
def processLive (c : FixClient) (env : ClientProcessEnv) : FixClient :=
  let c := c.processOutgoingResendRequestIfNecessary env
  let c := c.processOutgoingTestRequestIfNecessary env
  let c := c.respondToResendRequestIfNecessary env
  let c := c.respondToTestRequestIfNecessary env
  let c := c.sendClientHeartbeatIfNecessary env
  c.processScheduleValidator env

/-- `process` after the admin commands: it goes by the state at its start. -/
def processAfterAdmin (c : FixClient) (sessionState : SessionState) (env : ClientProcessEnv) :
    FixClient :=
  if isStateLive sessionState then c.processLive env
  else if sessionState = .pendingLogon then c.processOutgoingLogonRequest env
  else c

/-- The read at the start of `process`. -/
def processReads (c : FixClient) (env : ClientProcessEnv) : FixClient :=
  if SessionState.disconnected.rank < c.session.state.rank then
    c.processIncomingMessages env.read
  else c

/-- `process`. -/
def process (c : FixClient) (env : ClientProcessEnv) : FixClient :=
  let sessionState := c.session.state
  ((c.processReads env).processAdminCommands env).processAfterAdmin sessionState env

/-! ## Events -/

/-- What the thread of the client does next. -/
inductive Event
  | connect (env : ConnectEnv)
  | process (env : ClientProcessEnv)
  | shutdown (graceful : Bool) (env : ShutdownEnv)
  | pushAdminCommand (command : ModifyingAdminCommand)

/-- One event. -/
def step (c : FixClient) : Event → FixClient
  | .connect env => c.connect env
  | .process env => c.process env
  | .shutdown graceful env => c.doShutdown graceful env
  | .pushAdminCommand command =>
    c.modifySession (·.pushAdminCommand command)

end FixClient

end Llfix
