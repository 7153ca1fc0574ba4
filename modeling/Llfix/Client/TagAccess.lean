import Llfix.Client.Messages
import Llfix.Client.ReceivedBytes
import Llfix.Server.TagAccess

/-!
# Access to the tags in the client

The functions that are reached from `process_rx_buffer` of `FixClient`, with the partial accessors,
and both engines together.

Results:
1. `handleMessage?_eq`: the accesses to a message.
2. `processRxBytes?_eq`: no access of `process_rx_buffer` fails, whatever is received.
3. `tagAccesses_defined`: neither does one of the server, for specifications that leave the tags of
   the session alone.
-/

namespace Llfix

open IncomingFixMessage

namespace FixClient

/-! ## The functions -/

/-- An update of the session that may fail. -/
def modifySession? (c : FixClient) (f : FixSession → Option FixSession) : Option FixClient :=
  (f c.session).map fun s => c.modifySession fun _ => s

def sendRejectMessage? (c : FixClient) (rejectReasonCode errorTag : UInt32) (o : SendOutcome) :
    Option FixClient :=
  (c.session.buildSessionLevelRejectMessage? rejectReasonCode errorTag).map fun message =>
    c.sendOutgoingMessage message o

/-- `process_logon_reject`, which logs tag 58. -/
def processLogonReject? (c : FixClient) (m : IncomingFixMessage) : Option FixClient :=
  let c := c.modifySession (·.setState .logonRejected)
  if m.hasTag tagText then
    (m.getTagValue? tagText).map fun _ => c.callback .onLogonReject (some m)
  else some (c.callback .onLogonReject (some m))

/-- `process_session_level_reject` and `process_application_level_reject`. -/
def processReject? (c : FixClient) (cb : Callback) (m : IncomingFixMessage) : Option FixClient :=
  if c.session.state = .pendingLogon then c.processLogonReject? m else some (c.callback cb (some m))

def processSessionLevelReject? (c : FixClient) (m : IncomingFixMessage) : Option FixClient :=
  c.processReject? .onSessionLevelReject m

def processApplicationLevelReject? (c : FixClient) (m : IncomingFixMessage) : Option FixClient :=
  c.processReject? .onApplicationLevelReject m

/-- `process_logout_response`. -/
def processLogoutResponse? (c : FixClient) (m : IncomingFixMessage) : Option FixClient :=
  if c.session.state = .pendingLogon then c.processLogonReject? m
  else
    some ((c.modifySession fun s =>
      (s.setReceivedLogoutResponse true).setState .loggedOut).callback .onLogoutResponse (some m))

/-- The case `MSG_TYPE_SEQUENCE_RESET`. -/
def processSequenceReset? (c : FixClient) (m : IncomingFixMessage) (env : ClientRxEnv) :
    Option FixClient := do
  let (s, accepted) ← c.session.processIncomingSequenceResetMessage? m
  let c := c.modifySession fun _ => s
  if accepted = false then
    c.sendRejectMessage? fixErrorCodeValueIncorrectForTag tagNewSeqNo env.send
  else some c

/-- The `switch` on MsgType at the end of `process_incoming_fix_message`. -/
def dispatch? (c : FixClient) (m : IncomingFixMessage) (env : ClientRxEnv) : Option FixClient := do
  match ← m.getTagValue? tagMsgType with
  | [t] =>
    if t = msgTypeExecutionReport then some (c.callback .onExecutionReport (some m))
    else if t = msgTypeHeartbeat then some (c.callback .onServerHeartbeat none)
    else if t = msgTypeTestRequest then
      (c.modifySession? (·.processTestRequestMessage? m)).map fun c =>
        c.callback .onServerTestRequest (some m)
    else if t = msgTypeResendRequest then
      (c.modifySession? (·.processResendRequest? m)).map fun c =>
        c.callback .onServerResendRequest (some m)
    else if t = msgTypeOrderCancelReject then
      some (c.callback .onOrderCancelReplaceReject (some m))
    else if t = msgTypeReject then c.processSessionLevelReject? m
    else if t = msgTypeBusinessReject then c.processApplicationLevelReject? m
    else if t = msgTypeLogon then some (c.processLogonResponse m)
    else if t = msgTypeLogout then c.processLogoutResponse? m
    else if t = msgTypeSequenceReset then c.processSequenceReset? m env
    else some (c.callback .onCustomMessageType (some m))
  | _ => some (c.callback .onCustomMessageType (some m))

/-- `process_incoming_fix_message` from the end of the sequence checks on. The number of the
message has been read by then. -/
def processInSequence? (c : FixClient) (rx : RxMessage) (env : ClientRxEnv) : Option FixClient :=
  let c :=
    if c.session.resendRequestSatisfied rx then c.modifySession (·.setState .loggedOn) else c
  c.dispatch? rx.message env

/-- The sequence number checks of `process_incoming_fix_message`. -/
def processSequenceNumber? (c : FixClient) (rx : RxMessage) (env : ClientRxEnv) :
    Option FixClient := do
  let stored := c.session.sequenceStore.incomingSeqNo
  let incomingSeqNo ← rx.message.getTagValueAsUInt32? tagMsgSeqNum
  if stored < incomingSeqNo then do
    let isHardReset ← isAHardSequenceResetMessage? rx.message
    if isHardReset = false then
      some (c.modifySession (·.queueOutgoingResendRequest stored incomingSeqNo))
    else c.processInSequence? rx env
  else if incomingSeqNo < stored then do
    let isHardReset ← isAHardSequenceResetMessage? rx.message
    if isHardReset = false then
      some (c.modifySession (·.setIncomingSeqNo (stored - 1))).doShutdownNow
    else c.processInSequence? rx env
  else c.processInSequence? rx env

/-- `process_incoming_fix_message`. -/
def processIncomingFixMessage? (c : FixClient) (rx : RxMessage) (env : ClientRxEnv) :
    Option FixClient := do
  let c := c.modifySession (·.messageReceived env.nowNanoseconds)
  match ← c.session.verdict? rx env.utcNow with
  | .rejected code errorTag =>
    (c.modifySession (·.setLastErrorTag errorTag)).sendRejectMessage? code errorTag env.send
  | .dropped => some (c.modifySession (·.setLastErrorTag 0))
  | .valid => (c.modifySession (·.incrementIncomingSeqNo)).processSequenceNumber? rx env

/-- A message is parsed into the message of the session, then processed. -/
def handleMessage? (c : FixClient) (rx : RxMessage) (env : ClientRxEnv) : Option FixClient :=
  (c.modifySession (·.setIncomingFixMessage rx.message)).processIncomingFixMessage? rx env

/-- One message of `process_rx_buffer`. -/
def rxStep? (l : RxLoop) (e : RxMessage × ClientRxEnv) : Option RxLoop :=
  if l.returned then some l
  else
    (l.client.handleMessage? e.1 e.2).map fun c =>
      { client := c, returned := c.session.state = .disconnected }

/-- One message of the loop over the bytes. -/
def rxTurn? (specs : RepeatingGroupSpecs) (buffer : RxBuffer) (finalTag10DelimiterIndex : Nat)
    (t : RxTurn) (env : ClientRxEnv) : Option RxTurn :=
  if t.loop.returned then some t
  else
    match findBeginStringPosition (buffer.bytes.drop t.bufferReadIndex) with
    | none => some { t with loop := { t.loop with returned := true } }
    | some offset => do
      let readIndex := t.bufferReadIndex + offset
      match ← parseMessage? specs (buffer.bytes.drop readIndex) with
      | none => some (t.retain buffer readIndex)
      | some (_, rx) =>
        (rxStep? t.loop (rx, env)).map fun loop =>
          RxTurn.behindMessage buffer finalTag10DelimiterIndex
            { t with loop, bufferReadIndex := readIndex + rx.buffer.length }

/-- `process_rx_buffer`. -/
def processRxBytes? (specs : RepeatingGroupSpecs) (c : FixClient) (connection : RxConnection)
    (buffer : RxBuffer) (env : Nat → ClientRxEnv) : Option (FixClient × RxConnection) :=
  match finalTag10DelimiterIndex buffer.bytes with
  | none => some (c, connection.setIncompleteBuffer buffer 0)
  | some final =>
    ((environments buffer env).foldlM (rxTurn? specs buffer final)
      { loop := { client := c }, connection }).map fun t => (t.loop.client, t.connection)

/-! ## A message of the session -/

theorem modifySession?_eq {c : FixClient} {f : FixSession → Option FixSession}
    {g : FixSession → FixSession} (h : f c.session = some (g c.session)) :
    c.modifySession? f = some (c.modifySession g) := by
  rw [modifySession?, h]
  rfl

section

variable (c : FixClient) (m : IncomingFixMessage) (env : ClientRxEnv)

theorem sendRejectMessage?_eq (code errorTag : UInt32) (o : SendOutcome) :
    c.sendRejectMessage? code errorTag o = some (c.sendRejectMessage code errorTag o) := by
  rw [sendRejectMessage?, FixSession.buildSessionLevelRejectMessage?_eq]
  rfl

theorem processLogonReject?_eq : c.processLogonReject? m = some (c.processLogonReject m) := by
  unfold processLogonReject? processLogonReject
  dsimp only
  split
  next hhas =>
    rw [getTagValue?_eq hhas]
    rfl
  next => rfl

theorem processReject?_eq (cb : Callback) :
    c.processReject? cb m = some (c.processReject cb m) := by
  unfold processReject? processReject
  split
  · exact processLogonReject?_eq c m
  · rfl

theorem processLogoutResponse?_eq :
    c.processLogoutResponse? m = some (c.processLogoutResponse m) := by
  unfold processLogoutResponse? processLogoutResponse
  split
  · exact processLogonReject?_eq c m
  · rfl

theorem processSequenceReset?_eq :
    c.processSequenceReset? m env = some (c.processSequenceReset m env) := by
  unfold processSequenceReset? processSequenceReset
  rw [FixSession.processIncomingSequenceResetMessage?_eq]
  show (if (c.session.processIncomingSequenceResetMessage m).2 = false then _ else _) = _
  dsimp only
  split
  · exact sendRejectMessage?_eq _ _ _ _
  · rfl

/-- MsgType is there, and the handlers access what they have asked for. -/
theorem dispatch?_eq {m : IncomingFixMessage} (h : m.Accepted) :
    c.dispatch? m env = some (c.dispatch m env) := by
  unfold dispatch? dispatch
  rw [getTagValue?_eq h.msgType]
  rw [Option.bind_eq_bind, Option.bind_some]
  generalize m.getTagValue tagMsgType = messageType
  rcases messageType with _ | ⟨t, _ | ⟨u, rest⟩⟩
  · rfl
  · dsimp only
    rw [modifySession?_eq (g := (·.processTestRequestMessage m))
        (FixSession.processTestRequestMessage?_eq _ m),
      modifySession?_eq (g := (·.processResendRequest m)) (FixSession.processResendRequest?_eq _ m),
      processSessionLevelReject?, processReject?_eq, processApplicationLevelReject?,
      processReject?_eq, processLogoutResponse?_eq, processSequenceReset?_eq]
    simp only [apply_ite some, Option.map_some, processSessionLevelReject,
      processApplicationLevelReject]
  · rfl

theorem processInSequence?_eq {rx : RxMessage} (h : rx.message.Accepted) :
    c.processInSequence? rx env = some (c.processInSequence rx env) :=
  dispatch?_eq _ env h

theorem processSequenceNumber?_eq {rx : RxMessage} (h : rx.message.Accepted) :
    c.processSequenceNumber? rx env = some (c.processSequenceNumber rx env) := by
  have hseqNum : rx.message.getTagValueAsUInt32? tagMsgSeqNum = some rx.seqNum :=
    getTagValueAsUInt32?_eq h.seqNum
  unfold processSequenceNumber? processSequenceNumber
  dsimp only
  rw [hseqNum, h.valued.isAHardSequenceResetMessage?_eq, processInSequence?_eq c env h]
  simp only [Bool.and_eq_true, decide_eq_true_eq]
  exact sequenceChecks_eq (fun habove hbelow => UInt32.lt_irrefl _ (UInt32.lt_trans habove hbelow))
    _ _ _

/-- With validations, the sequence checks have a message that was found valid. -/
theorem handleMessage?_eq {rx : RxMessage} (h : rx.Recorded)
    (hvalidations : c.session.settings.validationsEnabled = true) :
    c.handleMessage? rx env = some (c.handleMessage rx env) := by
  unfold handleMessage? handleMessage processIncomingFixMessage? processIncomingFixMessage
  dsimp only
  rw [modifySession_modifySession]
  have hsession : (c.modifySession fun s => (s.setIncomingFixMessage rx.message).messageReceived
      env.nowNanoseconds).session = c.session.received rx env.nowNanoseconds := rfl
  generalize (c.modifySession fun s => (s.setIncomingFixMessage rx.message).messageReceived
    env.nowNanoseconds) = received at hsession ⊢
  rw [FixSession.verdict?_eq h, Option.bind_eq_bind, Option.bind_some]
  cases hverdict : received.session.verdict rx env.utcNow with
  | rejected code errorTag => exact sendRejectMessage?_eq _ _ _ _
  | dropped => rfl
  | valid =>
    refine processSequenceNumber?_eq _ env (FixSession.accepted_of_verdict h ?_ hverdict)
    rw [hsession]
    exact hvalidations

end

/-! ## The settings -/

section

variable (c : FixClient) (m : IncomingFixMessage) (env : ClientRxEnv)

theorem sendOutgoingMessage_settings (message : OutgoingFixMessage) (o : SendOutcome) :
    (c.sendOutgoingMessage message o).session.settings = c.session.settings :=
  FixSession.settings_of_core (sendOutgoingMessage_core c message o)

theorem processReject_settings (cb : Callback) :
    (c.processReject cb m).session.settings = c.session.settings := by
  unfold processReject
  split <;> rfl

theorem processLogoutResponse_settings :
    (c.processLogoutResponse m).session.settings = c.session.settings := by
  unfold processLogoutResponse
  split <;> rfl

theorem processSequenceReset_settings :
    (c.processSequenceReset m env).session.settings = c.session.settings := by
  have hreset : (c.session.processIncomingSequenceResetMessage m).1.settings =
      c.session.settings := by
    unfold FixSession.processIncomingSequenceResetMessage
    dsimp only
    split_ifs <;> rfl
  unfold processSequenceReset
  dsimp only
  split
  · exact (sendOutgoingMessage_settings _ _ _).trans hreset
  · exact hreset

theorem dispatch_settings : (c.dispatch m env).session.settings = c.session.settings := by
  rcases dispatch_cases c m env with
    ⟨_, h⟩ | ⟨_, h⟩ | ⟨_, h⟩ | ⟨_, h⟩ | ⟨_, h⟩ | ⟨cb, _, h, _⟩ | ⟨_, cb, m', _, h⟩
  · rw [h]
    rfl
  · rw [h]
    exact processLogoutResponse_settings c m
  · rw [h]
    exact processSequenceReset_settings c m env
  · rw [h]
    show (c.session.processResendRequest m).settings = _
    unfold FixSession.processResendRequest
    split_ifs <;> rfl
  · rw [h]
    show (c.session.processTestRequestMessage m).settings = _
    unfold FixSession.processTestRequestMessage
    dsimp only
    split_ifs <;> rfl
  · rw [h]
    exact processReject_settings c m cb
  · rw [h]
    rfl

/-- No message changes the settings. -/
theorem handleMessage_settings (rx : RxMessage) :
    (c.handleMessage rx env).session.settings = c.session.settings := by
  rcases handleMessage_cases c rx env with
    ⟨code, errorTag, _, h⟩ | ⟨_, h⟩ | ⟨_, _, h⟩ | ⟨_, _, h⟩ | ⟨_, h⟩
  · rw [h]
    exact sendOutgoingMessage_settings _ _ _
  · rw [h]
    rfl
  · rw [h]
    rfl
  · rw [h]
    rfl
  · rw [h, dispatch_settings]
    exact FixSession.satisfied_settings _ rx

end

theorem rxStep_settings (l : RxLoop) (e : RxMessage × ClientRxEnv) :
    (rxStep l e).client.session.settings = l.client.session.settings := by
  unfold rxStep
  split
  · rfl
  · exact handleMessage_settings l.client e.2 e.1

theorem RxTurn.behindMessage_settings (buffer : RxBuffer) (final : Nat) (t : RxTurn) :
    (t.behindMessage buffer final).loop.client.session.settings =
      t.loop.client.session.settings := by
  unfold behindMessage
  split
  · rfl
  · split
    · rfl
    · split <;> rfl

/-! ## The loop -/

theorem rxStep?_eq {l : RxLoop} {rx : RxMessage} (h : rx.Recorded)
    (hvalidations : l.client.session.settings.validationsEnabled = true) (env : ClientRxEnv) :
    rxStep? l (rx, env) = some (rxStep l (rx, env)) := by
  unfold rxStep? rxStep
  split
  · rfl
  · dsimp only
    rw [handleMessage?_eq l.client env h hvalidations]
    rfl

section

variable {specs : RepeatingGroupSpecs} (buffer : RxBuffer)

theorem rxTurn?_eq (htype : specs.NamesNot tagMsgType) (hchecksum : specs.NamesNot tagChecksum)
    (final : Nat) {t : RxTurn}
    (hvalidations : t.loop.client.session.settings.validationsEnabled = true)
    (env : ClientRxEnv) :
    rxTurn? specs buffer final t env = some (rxTurn specs buffer final t env) := by
  unfold rxTurn? rxTurn
  split
  · rfl
  · cases findBeginStringPosition (buffer.bytes.drop t.bufferReadIndex) with
    | none => rfl
    | some offset =>
      dsimp only
      rw [parseMessage?_eq, Option.bind_eq_bind, Option.bind_some]
      cases hparse : parseMessage specs (buffer.bytes.drop (t.bufferReadIndex + offset)) with
      | none => rfl
      | some parsed =>
        show (rxStep? t.loop (parsed.2, env)).map _ = _
        rw [rxStep?_eq (parseMessage_recorded htype hchecksum hparse) hvalidations]
        rfl

theorem rxTurn_settings (final : Nat) (t : RxTurn) (env : ClientRxEnv) :
    (rxTurn specs buffer final t env).loop.client.session.settings =
      t.loop.client.session.settings := by
  unfold rxTurn
  split
  · rfl
  · cases findBeginStringPosition (buffer.bytes.drop t.bufferReadIndex) with
    | none => rfl
    | some offset =>
      dsimp only
      cases parseMessage specs (buffer.bytes.drop (t.bufferReadIndex + offset)) with
      | none => rfl
      | some parsed =>
        exact (RxTurn.behindMessage_settings buffer final _).trans
          (rxStep_settings t.loop (parsed.2, env))

/-- Every access of `process_rx_buffer` is to a tag that is there, and has a value where one is
compared. -/
theorem processRxBytes?_eq (htype : specs.NamesNot tagMsgType)
    (hchecksum : specs.NamesNot tagChecksum) {c : FixClient}
    (hvalidations : c.session.settings.validationsEnabled = true) (connection : RxConnection)
    (env : Nat → ClientRxEnv) :
    c.processRxBytes? specs connection buffer env =
      some (c.processRxBytes specs connection buffer env) := by
  unfold processRxBytes? processRxBytes
  cases finalTag10DelimiterIndex buffer.bytes with
  | none => rfl
  | some final =>
    dsimp only
    rw [GuardedRun.foldlM_eq_run
      (I := fun t : RxTurn => t.loop.client.session.settings.validationsEnabled = true)
      (fun t env ht => rxTurn?_eq buffer htype hchecksum final ht env)
      (fun t env ht => (congrArg FixSessionSettings.validationsEnabled
        (rxTurn_settings buffer final t env)).trans ht) hvalidations]
    rfl

end

end FixClient

/-! ## Both engines -/

/-- Whatever an engine receives, and whatever state it is in, it accesses tags that are in the
message, and takes the first byte of a value, or compares it, where there is one. -/
theorem tagAccesses_defined {declarations : List GroupDeclaration}
    (h : ∀ d ∈ declarations, ∀ tag ∈ sessionLevelTags, tag ∉ d.tags) :
    (∀ (srv : FixServer) (p : Nat) (buffer : Bytes) (env : Nat → ServerRxEnv),
      srv.ValidationsEnabled →
        srv.processRxBytes? (specified declarations).answers p buffer env =
          some (srv.processRxBytes (specified declarations).answers p buffer env)) ∧
    ∀ (c : FixClient) (connection : RxConnection) (buffer : RxBuffer) (env : Nat → ClientRxEnv),
      c.session.settings.validationsEnabled = true →
        c.processRxBytes? (specified declarations).answers connection buffer env =
          some (c.processRxBytes (specified declarations).answers connection buffer env) := by
  have htype : (specified declarations).answers.NamesNot tagMsgType :=
    specified_namesNot fun d hd => h d hd tagMsgType (by decide)
  have hchecksum : (specified declarations).answers.NamesNot tagChecksum :=
    specified_namesNot fun d hd => h d hd tagChecksum (by decide)
  constructor
  · exact fun srv p buffer env hsrv =>
      FixServer.processRxBytes?_eq p buffer htype hchecksum hsrv env
  · exact fun c connection buffer env hc =>
      FixClient.processRxBytes?_eq buffer htype hchecksum hc connection env

/-- A message without tag 34. -/
def exampleWithoutSeqNum : RxBuffer where
  bytes := text "8=FIX.4.4" ++ joinParts [text "9=5", text "35=0", text "10=163"]
  inIncomplete := false

theorem tagAccesses_defined_example :
    FixServer.exampleServer.processRxBytes? (specified exampleDeclarations).answers 0
        exampleWithoutSeqNum.bytes (fun _ => {}) =
      some (FixServer.exampleServer.processRxBytes (specified exampleDeclarations).answers 0
        exampleWithoutSeqNum.bytes fun _ => {}) ∧
    ({} : FixClient).processRxBytes? (specified exampleDeclarations).answers
        { rxBufferCapacity := 64 } exampleWithoutSeqNum (fun _ => {}) =
      some (({} : FixClient).processRxBytes (specified exampleDeclarations).answers
        { rxBufferCapacity := 64 } exampleWithoutSeqNum fun _ => {}) := by
  have hdeclarations : ∀ d ∈ exampleDeclarations, ∀ tag ∈ sessionLevelTags, tag ∉ d.tags := by
    have hall : ∀ d ∈ exampleDeclarations,
        sessionLevelTags.all (fun tag => decide (tag ∉ d.tags)) = true := by
      decide
    exact fun d hd => forall_tag_of_all (hall d hd)
  constructor
  · exact (tagAccesses_defined hdeclarations).1 FixServer.exampleServer 0 _ _ fun _ => rfl
  · exact (tagAccesses_defined hdeclarations).2 {} _ _ _ rfl

/-- Without validations, tag 34 is accessed all the same. -/
example :
    (({} : FixClient).modifySession fun s =>
      s.setSettings { s.settings with validationsEnabled := false }).processRxBytes? {}
        { rxBufferCapacity := 64 } exampleWithoutSeqNum (fun _ => {}) = none := by
  decide +kernel

end Llfix
