import Llfix.Messages

/-!
# The session

`FixSession` of `fix_session.h` with its sequence store and its settings: the state both
`FixServer` and `FixClient` work on, the message builders, the handlers of the session-level
messages and the validation of a received message.

A session carries a history field, `trace`. It records the states the session enters, the
messages handed to the transport, the callbacks and the events on the connection, in order. No
function reads it; the properties are stated on it.
-/

namespace Llfix

/-- `SessionState`, in the order of the source. -/
inductive SessionState
  | none
  | disabled
  | disconnected
  | loggedOut
  | logonRejected
  | pendingConnection
  | pendingLogon
  | pendingLogout
  | loggedOn
  | inRetransmissionInitiatedBySelf
  | inRetransmissionInitiatedByPeer
deriving DecidableEq, Repr

/-- The value of the enumerator. -/
def SessionState.rank (s : SessionState) : Nat := s.ctorIdx

/-- `is_state_live`. -/
def isStateLive (s : SessionState) : Bool := SessionState.loggedOn.rank ≤ s.rank

inductive IncomingThrottlerAction
  | none
  | wait
  | reject
  | disconnect
deriving DecidableEq, Repr

inductive ModifyingAdminCommandType
  | setIncomingSequenceNumber
  | setOutgoingSequenceNumber
  | sendSequenceReset
  | enableSession
  | disableSession
  | setIsHaPrimaryInstance
deriving DecidableEq, Repr

structure ModifyingAdminCommand where
  type : ModifyingAdminCommandType
  arg : UInt32 := 0
deriving DecidableEq, Repr

/-- The virtual functions an application overrides, of both engines. -/
inductive Callback
  -- FixServer
  | onNewOrder
  | onCancelOrder
  | onReplaceOrder
  | onCustomMessage
  | onClientHeartbeat
  | onClientTestRequest
  | onClientResendRequest
  | onLogonRequest
  | onLogoutRequest
  -- FixClient
  | onExecutionReport
  | onOrderCancelReplaceReject
  | onCustomMessageType
  | onServerHeartbeat
  | onServerTestRequest
  | onServerResendRequest
  | onLogonResponse
  | onLogoutResponse
  | onLogonReject
  | onConnection
  | onDisconnection
  -- both
  | onSessionLevelReject
  | onApplicationLevelReject
deriving DecidableEq, Repr

/-- One entry of the history of a session. -/
inductive Output
  /-- `set_state`. -/
  | state (s : SessionState)
  /-- `send_bytes` handed a message to an open connection, which returned `ok`; `incomingSeqNo`
  is the stored incoming number at that moment. -/
  | sent (t : Transmission) (incomingSeqNo : UInt32) (ok : Bool)
  /-- A callback, with the message it is given. -/
  | callback (c : Callback) (m : Option IncomingFixMessage)
  /-- A Logon passed `validate_logon_request` and `authenticate_logon_request`. -/
  | authenticated
  /-- `close` of the transport of a client. -/
  | connectionClosed
  /-- `Transport::connect` of a client succeeded. -/
  | connected
  /-- `on_connection_lost` of a client. -/
  | connectionLost
  /-- `process_logon_response` of a client. -/
  | logonResponse
deriving DecidableEq, Repr

/-- The two numbers of `SequenceStore`. -/
structure SequenceStore where
  outgoingSeqNo : UInt32 := 0
  incomingSeqNo : UInt32 := 0
deriving DecidableEq, Repr

namespace SequenceStore

def resetNumbers (_ : SequenceStore) : SequenceStore := { outgoingSeqNo := 0, incomingSeqNo := 0 }

def incrementOutgoingSeqNo (s : SequenceStore) : SequenceStore :=
  { s with outgoingSeqNo := s.outgoingSeqNo + 1 }

def incrementIncomingSeqNo (s : SequenceStore) : SequenceStore :=
  { s with incomingSeqNo := s.incomingSeqNo + 1 }

def setOutgoingSeqNo (s : SequenceStore) (n : UInt32) : SequenceStore :=
  { s with outgoingSeqNo := n }

def setIncomingSeqNo (s : SequenceStore) (n : UInt32) : SequenceStore :=
  { s with incomingSeqNo := n }

end SequenceStore

/-- The settings the session logic reads, with the defaults of `fix_session_settings.h`. -/
structure FixSessionSettings where
  heartbeatIntervalInNanoseconds : UInt64 := 30000000000
  enableSimdAvx2 : Bool := false
  beginString : Bytes := []
  senderCompId : Bytes := []
  targetCompId : Bytes := []
  defaultAppVerId : Bytes := []
  logonUsername : Bytes := []
  logonPassword : Bytes := []
  logonMessageNewPassword : Bytes := []
  logonResetSequenceNumbers : Bool := false
  logonTimeoutSeconds : UInt64 := 5
  logonIncludeNextExpectedSeqNo : Bool := false
  validationsEnabled : Bool := true
  maxAllowedMessageAgeSeconds : Nat := 0
  replayMessagesOnIncomingResendRequest : Bool := false
  maxResendRange : Nat := 10000
  outgoingResendRequestExpireInSecs : UInt64 := 30
  outgoingTestRequestIntervalMultiplier : UInt64 := 2
  throttleLimit : Nat := 0
  throttleAction : IncomingThrottlerAction := .wait
  throttlerRejectMessage : Bytes := text "Message rate limit exceeded"
  maxSerialisedFileSize : Nat := 67108864
  outgoingTestRequestIntervalInNanoseconds : UInt64 := 60000000000
deriving DecidableEq, Repr

structure FixSession where
  state : SessionState := .none
  sequenceStore : SequenceStore := {}
  settings : FixSessionSettings := {}
  lastSentMessageTimestampNanoseconds : UInt64 := 0
  lastReceivedMessageTimestampNanoseconds : UInt64 := 0
  incomingThrottlerExceedCount : UInt32 := 0
  incomingFixMessage : IncomingFixMessage := {}
  -- incoming test request
  incomingTestRequestId : Bytes := []
  needsRespondingToIncomingTestRequest : Bool := false
  -- outgoing test request
  outgoingTestRequestId : UInt32 := 0
  outgoingTestRequestTimestampNanoseconds : UInt64 := 0
  expectingResponseForOutgoingTestRequest : Bool := false
  -- incoming resend request
  needsRespondingToIncomingResendRequest : Bool := false
  incomingResendRequestBeginNo : UInt32 := 0
  incomingResendRequestEndNo : UInt32 := 0
  -- outgoing resend request
  needsToSendResendRequest : Bool := false
  outgoingResendRequestBeginNo : UInt32 := 0
  outgoingResendRequestEndNo : UInt32 := 0
  outgoingResendRequestTimestampNanoseconds : UInt64 := 0
  receivedLogoutResponse : Bool := false
  adminCommands : List ModifyingAdminCommand := []
  lastErrorTag : UInt32 := 0
  /-- The keys of `m_message_memory_records` of the outgoing serialiser. -/
  outgoingMessageRecords : List UInt32 := []
  /-- History, newest entry last. -/
  trace : List Output := []
deriving DecidableEq, Repr

namespace FixSession

/-- Appends to the history. -/
def record (s : FixSession) (o : Output) : FixSession := { s with trace := s.trace ++ [o] }

def setState (s : FixSession) (st : SessionState) : FixSession :=
  { s.record (.state st) with state := st }

/-! ### Setters -/

def setIncomingFixMessage (s : FixSession) (m : IncomingFixMessage) : FixSession :=
  { s with incomingFixMessage := m }

def setSettings (s : FixSession) (settings : FixSessionSettings) : FixSession :=
  { s with settings := settings }

def setLastErrorTag (s : FixSession) (tag : UInt32) : FixSession := { s with lastErrorTag := tag }

def setReceivedLogoutResponse (s : FixSession) (b : Bool) : FixSession :=
  { s with receivedLogoutResponse := b }

def setExpectingResponseForOutgoingTestRequest (s : FixSession) (b : Bool) : FixSession :=
  { s with expectingResponseForOutgoingTestRequest := b }

def setLastReceivedMessageTimestampNanoseconds (s : FixSession) (n : UInt64) : FixSession :=
  { s with lastReceivedMessageTimestampNanoseconds := n }

def incrementIncomingThrottlerExceedCount (s : FixSession) : FixSession :=
  { s with incomingThrottlerExceedCount := s.incomingThrottlerExceedCount + 1 }

/-- `get_sequence_store()->increment_incoming_seq_no()`. -/
def incrementIncomingSeqNo (s : FixSession) : FixSession :=
  { s with sequenceStore := s.sequenceStore.incrementIncomingSeqNo }

/-- `get_sequence_store()->set_incoming_seq_no(n)`. -/
def setIncomingSeqNo (s : FixSession) (n : UInt32) : FixSession :=
  { s with sequenceStore := s.sequenceStore.setIncomingSeqNo n }

/-- `get_sequence_store()->set_outgoing_seq_no(n)`. -/
def setOutgoingSeqNo (s : FixSession) (n : UInt32) : FixSession :=
  { s with sequenceStore := s.sequenceStore.setOutgoingSeqNo n }

/-- `get_sequence_store()->reset_numbers()`. -/
def resetNumbers (s : FixSession) : FixSession :=
  { s with sequenceStore := s.sequenceStore.resetNumbers }

/-- `push` on the queue of admin commands. -/
def pushAdminCommand (s : FixSession) (command : ModifyingAdminCommand) : FixSession :=
  { s with adminCommands := s.adminCommands ++ [command] }

/-! ### Serialiser, flags and the resend queue -/

def serialisationEnabled (s : FixSession) : Bool := 0 < s.settings.maxSerialisedFileSize

/-- `has_message_in_memory` of the outgoing serialiser. -/
def hasMessageInMemory (s : FixSession) (n : UInt32) : Bool :=
  s.settings.replayMessagesOnIncomingResendRequest && s.outgoingMessageRecords.contains n

/-- `write` of the outgoing serialiser, as far as its index goes: the first record of a number
is kept. -/
def writeOutgoingRecord (s : FixSession) (n : UInt32) : FixSession :=
  if s.serialisationEnabled && s.settings.replayMessagesOnIncomingResendRequest &&
      !s.outgoingMessageRecords.contains n then
    { s with outgoingMessageRecords := n :: s.outgoingMessageRecords }
  else s

/-- `reset_flags`. -/
def resetFlags (s : FixSession) : FixSession :=
  { s with
    needsRespondingToIncomingTestRequest := false
    expectingResponseForOutgoingTestRequest := false
    needsRespondingToIncomingResendRequest := false
    needsToSendResendRequest := false
    receivedLogoutResponse := false
    incomingThrottlerExceedCount := 0 }

/-- `queue_outgoing_resend_request`: undoes the increment of the incoming number and saves the
range to ask for. -/
def queueOutgoingResendRequest (s : FixSession)
    (sequenceStoreIncomingSeqNo liveIncomingSeqNo : UInt32) : FixSession :=
  { s with
    needsToSendResendRequest := true
    sequenceStore := s.sequenceStore.setIncomingSeqNo (sequenceStoreIncomingSeqNo - 1)
    outgoingResendRequestBeginNo := sequenceStoreIncomingSeqNo
    outgoingResendRequestEndNo := liveIncomingSeqNo }

/-! ## Message builders -/

def buildHeartbeatMessage (testRequestId : Option Bytes) : OutgoingFixMessage :=
  let message := OutgoingFixMessage.setMsgType msgTypeHeartbeat
  match testRequestId with
  | none => message
  | some id => message.setTag tagTestReqId id

/-- `build_test_request_message`, which also takes the next test request id. -/
def buildTestRequestMessage (s : FixSession) : FixSession × OutgoingFixMessage :=
  let s := { s with outgoingTestRequestId := s.outgoingTestRequestId + 1 }
  (s, (OutgoingFixMessage.setMsgType msgTypeTestRequest).setTagUInt32 tagTestReqId
    s.outgoingTestRequestId)

def buildResendRequestMessage (s : FixSession) (endNo : Bytes) : OutgoingFixMessage :=
  ((OutgoingFixMessage.setMsgType msgTypeResendRequest).setTagUInt32 tagBeginSeqNo
    s.outgoingResendRequestBeginNo).setTag tagEndSeqNo endNo

def buildLogoutMessage (reasonText : Bytes) : OutgoingFixMessage :=
  let message := OutgoingFixMessage.setMsgType msgTypeLogout
  if 0 < reasonText.length then message.setTag tagText reasonText else message

/-- The text of `get_reject_reason_text` for the codes the session layer produces; every other
code reads `Other` there. -/
def rejectReasonText (code : UInt32) : Bytes :=
  if code = fixErrorCodeInvalidTagNumber then text "Invalid tag number"
  else if code = fixErrorCodeTagWithoutValue then text "Tag specified without a value"
  else if code = fixErrorCodeValueIncorrectForTag then
    text "Value is incorrect (out of range) for this tag"
  else if code = fixErrorCodeFormatIncorrectForTag then text "Incorrect data format for value"
  else if code = fixErrorCodeCompidProblem then text "CompID problem"
  else if code = fixErrorCodeSendingTimeAccuracyProblem then
    text "SendingTime <52> accuracy problem"
  else if code = fixErrorCodeTagAppearsMoreThanOnce then text "Tag appears more than once"
  else text "Other"

def buildSessionLevelRejectMessage (s : FixSession) (rejectReasonCode errorTag : UInt32) :
    OutgoingFixMessage :=
  let incoming := s.incomingFixMessage
  let message := OutgoingFixMessage.setMsgType msgTypeReject
  let message :=
    if incoming.hasTag tagMsgSeqNum then
      message.setTagUInt32 tagRefSeqNum (incoming.getTagValueAsUInt32 tagMsgSeqNum)
    else message
  let message := if errorTag ≠ 0 then message.setTagUInt32 tagRefTag errorTag else message
  let message :=
    if incoming.hasTag tagMsgType then
      message.setTag tagRefMsgType (incoming.getTagValue tagMsgType)
    else message
  (message.setTagUInt32 tagSessionRejectReason rejectReasonCode).setTag tagText
    (rejectReasonText rejectReasonCode)

def buildGapFillMessage (s : FixSession) : OutgoingFixMessage :=
  ((OutgoingFixMessage.setMsgType msgTypeSequenceReset).setTagUInt32 tagNewSeqNo
    (s.sequenceStore.outgoingSeqNo + 1)).setTag tagGapFillFlag [fixBooleanTrue]

/-- `build_sequence_reset_message`, which writes the store before anything is sent. -/
def buildSequenceResetMessage (s : FixSession) (desiredSequenceNo : UInt32) :
    FixSession × OutgoingFixMessage :=
  (s.setOutgoingSeqNo desiredSequenceNo,
    (OutgoingFixMessage.setMsgType msgTypeSequenceReset).setTagUInt32 tagNewSeqNo
      (desiredSequenceNo + 1))

/-! ## Received messages -/

/-- `process_incoming_sequence_reset_message`. The second component is its result; a tag 36 that
is missing or not numeric changes nothing and returns `true`. -/
def processIncomingSequenceResetMessage (s : FixSession) (message : IncomingFixMessage) :
    FixSession × Bool :=
  if message.hasTag tagNewSeqNo then
    if message.isTagValueNumeric tagNewSeqNo then
      let newIncomingSeqNo := message.getTagValueAsUInt32 tagNewSeqNo
      if newIncomingSeqNo = 0 then (s, false)
      else if newIncomingSeqNo ≤ s.sequenceStore.incomingSeqNo then (s, false)
      else ((s.setIncomingSeqNo (newIncomingSeqNo - 1)).setState .loggedOn, true)
    else (s, true)
  else (s, true)

/-- `process_resend_request`. -/
def processResendRequest (s : FixSession) (message : IncomingFixMessage) : FixSession :=
  if message.hasTag tagBeginSeqNo && message.hasTag tagEndSeqNo then
    if message.isTagValueNumeric tagBeginSeqNo && message.isTagValueNumeric tagEndSeqNo then
      { s.setState .inRetransmissionInitiatedByPeer with
        incomingResendRequestBeginNo := message.getTagValueAsUInt32 tagBeginSeqNo
        incomingResendRequestEndNo := message.getTagValueAsUInt32 tagEndSeqNo
        needsRespondingToIncomingResendRequest := true }
    else s
  else s

/-- `process_test_request_message`. -/
def processTestRequestMessage (s : FixSession) (message : IncomingFixMessage) : FixSession :=
  if s.expectingResponseForOutgoingTestRequest = false then
    let s := { s with needsRespondingToIncomingTestRequest := true }
    if message.hasTag tagTestReqId then
      { s with incomingTestRequestId := message.getTagValue tagTestReqId }
    else s
  else s

/-- The result of `validate_fix_message`: `true`, or `false` with the code to put into a Reject
(none when the message is only dropped) and the tag that `set_last_error_tag` is given. -/
inductive Verdict
  | valid
  | dropped
  | rejected (code : UInt32) (errorTag : UInt32)
deriving DecidableEq, Repr

/-- `validate_fix_message`, in the order of its checks. `utcNow` is what `time(nullptr)`
returns. The dictionary checks, which a build option adds, are not part of it. -/
def validateFixMessage (settings : FixSessionSettings) (rx : RxMessage) (utcNow : Int) : Verdict :=
  let m := rx.message
  if m.hasTag tagMsgSeqNum = false then .dropped
  else if m.isTagValueNumeric tagMsgSeqNum = false then .dropped
  else match rx.parserRejectCode with
  | some code => if fixMaxErrorCode < code then .dropped else .rejected code 0
  | none =>
    if m.hasTag tagBeginString = false then .dropped
    else if m.getTagValue tagBeginString ≠ settings.beginString then .dropped
    else if m.hasTag tagSenderCompId = false then .dropped
    else if m.getTagValue tagSenderCompId ≠ settings.targetCompId then
      .rejected fixErrorCodeCompidProblem 0
    else if m.hasTag tagTargetCompId = false then .dropped
    else if m.getTagValue tagTargetCompId ≠ settings.senderCompId then
      .rejected fixErrorCodeCompidProblem 0
    else if m.isTagValueNumeric tagChecksum = false then .dropped
    else
      let summed := rx.buffer.take (rx.buffer.length - 7)
      let actualChecksum := m.getTagValueAsUInt32 tagChecksum
      let checksumOk :=
        if settings.enableSimdAvx2 then validateChecksumSimdAvx2 summed actualChecksum
        else validateChecksumNoSimd summed actualChecksum
      if checksumOk = false then .dropped
      else if m.hasTag tagSendingTime = false then .dropped
      else if 0 < settings.maxAllowedMessageAgeSeconds then
        let sendingTime := m.getTagValue tagSendingTime
        if isTimestamp sendingTime = false then
          .rejected fixErrorCodeFormatIncorrectForTag tagSendingTime
        else if isUtcTimestampStale sendingTime utcNow settings.maxAllowedMessageAgeSeconds then
          .rejected fixErrorCodeSendingTimeAccuracyProblem 0
        else .valid
      else .valid

/-- The validation of `process_incoming_fix_message`, which a setting turns off. -/
def verdict (s : FixSession) (rx : RxMessage) (utcNow : Int) : Verdict :=
  if s.settings.validationsEnabled then validateFixMessage s.settings rx utcNow else .valid

/-- The message with which the peer ends its answer to the resend request of this session. -/
def resendRequestSatisfied (s : FixSession) (rx : RxMessage) : Bool :=
  s.state = .inRetransmissionInitiatedBySelf && rx.seqNum = s.outgoingResendRequestEndNo

end FixSession

end Llfix
