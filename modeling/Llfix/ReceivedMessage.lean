import Llfix.SessionEffects

/-!
# The session around one received message

Conditions on a received message that both engines test, and the forms of the session between
the tests. The conditions are stated on the session as it is before the message, while the code
tests them after it has incremented the incoming number.
-/

namespace Llfix

namespace FixSession

/-! ## Conditions -/

/-- The number of the message is above the one expected, and it is no hard sequence reset. -/
def aboveExpected (s : FixSession) (rx : RxMessage) : Bool :=
  s.sequenceStore.incomingSeqNo + 1 < rx.seqNum && isAHardSequenceResetMessage rx.message = false

/-- The number of the message is below the one expected, and it is no hard sequence reset. -/
def belowExpected (s : FixSession) (rx : RxMessage) : Bool :=
  rx.seqNum < s.sequenceStore.incomingSeqNo + 1 && isAHardSequenceResetMessage rx.message = false

/-- A message between the two has the expected number as it is read. -/
theorem seqNum_of_expected {s : FixSession} {rx : RxMessage} (habove : s.aboveExpected rx = false)
    (hbelow : s.belowExpected rx = false)
    (hhard : isAHardSequenceResetMessage rx.message = false) :
    rx.seqNum = s.sequenceStore.incomingSeqNo + 1 := by
  simp only [aboveExpected, belowExpected, hhard, decide_true, Bool.and_true,
    decide_eq_false_iff_not] at habove hbelow
  exact UInt32.le_antisymm (UInt32.not_lt.mp habove) (UInt32.not_lt.mp hbelow)

/-- `process_incoming_sequence_reset_message` accepts the message, on a session whose incoming
number is `stored`. -/
def acceptsSequenceReset (stored : UInt32) (m : IncomingFixMessage) : Bool :=
  m.hasTag tagNewSeqNo && m.isTagValueNumeric tagNewSeqNo &&
    m.getTagValueAsUInt32 tagNewSeqNo ≠ 0 && stored < m.getTagValueAsUInt32 tagNewSeqNo

/-- `process_incoming_sequence_reset_message` refuses the message, which is answered with a
Reject. -/
def refusesSequenceReset (stored : UInt32) (m : IncomingFixMessage) : Bool :=
  m.hasTag tagNewSeqNo && m.isTagValueNumeric tagNewSeqNo && !acceptsSequenceReset stored m

/-- `process_resend_request` takes the message up. -/
def takesResendRequest (m : IncomingFixMessage) : Bool :=
  m.hasTag tagBeginSeqNo && m.hasTag tagEndSeqNo && m.isTagValueNumeric tagBeginSeqNo &&
    m.isTagValueNumeric tagEndSeqNo

/-- A message whose MsgType is `A` is no hard sequence reset. -/
theorem isAHardSequenceResetMessage_logon {m : IncomingFixMessage}
    (h : m.getTagValue tagMsgType = [msgTypeLogon]) : isAHardSequenceResetMessage m = false := by
  have hc : m.getTagValueAsChar tagMsgType = msgTypeLogon := by
    rw [IncomingFixMessage.getTagValueAsChar, h]
    rfl
  have hne : msgTypeLogon ≠ msgTypeSequenceReset := by decide
  simp [isAHardSequenceResetMessage, hc, hne]

/-! ## Forms of the session -/

/-- With the message parsed into it, at the start of `process_incoming_fix_message`. -/
def received (s : FixSession) (rx : RxMessage) (nowNanoseconds : UInt64) : FixSession :=
  (s.setIncomingFixMessage rx.message).messageReceived nowNanoseconds

/-- At the start of the sequence checks. -/
def counted (s : FixSession) (rx : RxMessage) (nowNanoseconds : UInt64) : FixSession :=
  (s.received rx nowNanoseconds).incrementIncomingSeqNo

/-- Behind the sequence checks, where a resend request may be satisfied. -/
def satisfied (s : FixSession) (rx : RxMessage) : FixSession :=
  if s.resendRequestSatisfied rx then s.setState .loggedOn else s

section Fields

variable (s : FixSession) (rx : RxMessage) (now : UInt64)

@[simp] theorem received_trace : (s.received rx now).trace = s.trace := rfl

@[simp] theorem received_state : (s.received rx now).state = s.state := rfl

@[simp] theorem received_settings : (s.received rx now).settings = s.settings := rfl

@[simp] theorem received_sequenceStore :
    (s.received rx now).sequenceStore = s.sequenceStore := rfl

@[simp] theorem received_verdict (utcNow : Int) :
    (s.received rx now).verdict rx utcNow = s.verdict rx utcNow := rfl

@[simp] theorem counted_trace : (s.counted rx now).trace = s.trace := rfl

@[simp] theorem counted_state : (s.counted rx now).state = s.state := rfl

@[simp] theorem counted_settings : (s.counted rx now).settings = s.settings := rfl

@[simp] theorem counted_incomingFixMessage :
    (s.counted rx now).incomingFixMessage = rx.message := rfl

@[simp] theorem counted_incomingSeqNo :
    (s.counted rx now).sequenceStore.incomingSeqNo = s.sequenceStore.incomingSeqNo + 1 := rfl

@[simp] theorem counted_outgoingSeqNo :
    (s.counted rx now).sequenceStore.outgoingSeqNo = s.sequenceStore.outgoingSeqNo := rfl

@[simp] theorem counted_resendRequestSatisfied :
    (s.counted rx now).resendRequestSatisfied rx = s.resendRequestSatisfied rx := rfl

theorem satisfied_state :
    (s.satisfied rx).state = if s.resendRequestSatisfied rx then .loggedOn else s.state := by
  unfold satisfied
  split <;> rfl

theorem satisfied_trace :
    (s.satisfied rx).trace =
      s.trace ++ if s.resendRequestSatisfied rx then [.state .loggedOn] else [] := by
  unfold satisfied
  split <;> simp

@[simp] theorem satisfied_sequenceStore : (s.satisfied rx).sequenceStore = s.sequenceStore := by
  unfold satisfied
  split <;> rfl

@[simp] theorem satisfied_settings : (s.satisfied rx).settings = s.settings := by
  unfold satisfied
  split <;> rfl

@[simp] theorem satisfied_incomingFixMessage :
    (s.satisfied rx).incomingFixMessage = s.incomingFixMessage := by
  unfold satisfied
  split <;> rfl

@[simp] theorem core_satisfied : (s.satisfied rx).core = s.core := by
  unfold satisfied
  split <;> rfl

end Fields

/-! ## Handlers of session-level messages -/

theorem processIncomingSequenceResetMessage_accepted {s : FixSession} {m : IncomingFixMessage}
    (h : acceptsSequenceReset s.sequenceStore.incomingSeqNo m = true) :
    s.processIncomingSequenceResetMessage m =
      ((s.setIncomingSeqNo (m.getTagValueAsUInt32 tagNewSeqNo - 1)).setState .loggedOn, true) := by
  simp only [acceptsSequenceReset, Bool.and_eq_true, decide_eq_true_eq] at h
  obtain ⟨⟨⟨htag, hnum⟩, hzero⟩, hlt⟩ := h
  have hle : ¬ m.getTagValueAsUInt32 tagNewSeqNo ≤ s.sequenceStore.incomingSeqNo :=
    UInt32.not_le.mpr hlt
  simp [processIncomingSequenceResetMessage, htag, hnum, hzero, hle]

theorem processIncomingSequenceResetMessage_refused {s : FixSession} {m : IncomingFixMessage}
    (h : acceptsSequenceReset s.sequenceStore.incomingSeqNo m = false) :
    s.processIncomingSequenceResetMessage m =
      (s, !refusesSequenceReset s.sequenceStore.incomingSeqNo m) := by
  unfold processIncomingSequenceResetMessage refusesSequenceReset
  rw [h]
  by_cases htag : m.hasTag tagNewSeqNo = true
  · by_cases hnum : m.isTagValueNumeric tagNewSeqNo = true
    · simp only [acceptsSequenceReset, htag, hnum, Bool.true_and, Bool.and_eq_false_iff,
        decide_eq_false_iff_not, not_not, UInt32.not_lt] at h
      rcases h with hzero | hle
      · simp [htag, hnum, hzero]
      · by_cases hzero : m.getTagValueAsUInt32 tagNewSeqNo = 0
        · simp [htag, hnum, hzero]
        · simp [htag, hnum, hzero, hle]
    · simp [htag, hnum]
  · simp [htag]

theorem processResendRequest_taken {s : FixSession} {m : IncomingFixMessage}
    (h : takesResendRequest m = true) :
    s.processResendRequest m =
      { s.setState .inRetransmissionInitiatedByPeer with
        incomingResendRequestBeginNo := m.getTagValueAsUInt32 tagBeginSeqNo
        incomingResendRequestEndNo := m.getTagValueAsUInt32 tagEndSeqNo
        needsRespondingToIncomingResendRequest := true } := by
  simp only [takesResendRequest, Bool.and_eq_true] at h
  obtain ⟨⟨⟨hbegin, hend⟩, hbeginNum⟩, hendNum⟩ := h
  simp [processResendRequest, hbegin, hend, hbeginNum, hendNum]

theorem processResendRequest_ignored {s : FixSession} {m : IncomingFixMessage}
    (h : takesResendRequest m = false) : s.processResendRequest m = s := by
  unfold processResendRequest
  split
  · rename_i htags
    split
    · rename_i hnums
      simp [takesResendRequest, Bool.and_eq_true] at h htags hnums
      simp [htags, hnums] at h
    · rfl
  · rfl

theorem processTestRequestMessage_trace (s : FixSession) (m : IncomingFixMessage) :
    (s.processTestRequestMessage m).trace = s.trace := by
  unfold processTestRequestMessage
  split
  · dsimp only
    split <;> rfl
  · rfl

theorem processTestRequestMessage_state (s : FixSession) (m : IncomingFixMessage) :
    (s.processTestRequestMessage m).state = s.state := by
  unfold processTestRequestMessage
  split
  · dsimp only
    split <;> rfl
  · rfl

theorem processTestRequestMessage_sequenceStore (s : FixSession) (m : IncomingFixMessage) :
    (s.processTestRequestMessage m).sequenceStore = s.sequenceStore := by
  unfold processTestRequestMessage
  split
  · dsimp only
    split <;> rfl
  · rfl

theorem processIncomingSequenceResetMessage_accounts (s : FixSession) (m : IncomingFixMessage) :
    Accounts s (s.processIncomingSequenceResetMessage m).1 := by
  cases h : acceptsSequenceReset s.sequenceStore.incomingSeqNo m with
  | true =>
    rw [processIncomingSequenceResetMessage_accepted h]
    exact (Accounts.of_eq rfl rfl).trans (.setState _ _)
  | false =>
    rw [processIncomingSequenceResetMessage_refused h]
    exact .refl s

theorem processResendRequest_accounts (s : FixSession) (m : IncomingFixMessage) :
    Accounts s (s.processResendRequest m) := by
  cases h : takesResendRequest m with
  | true =>
    rw [processResendRequest_taken h]
    exact (Accounts.setState s _).trans (.of_eq rfl rfl)
  | false =>
    rw [processResendRequest_ignored h]
    exact .refl s

theorem processTestRequestMessage_accounts (s : FixSession) (m : IncomingFixMessage) :
    Accounts s (s.processTestRequestMessage m) :=
  .of_eq (processTestRequestMessage_trace s m)
    (congrArg (·.outgoingSeqNo) (processTestRequestMessage_sequenceStore s m))

theorem processResendRequest_sequenceStore (s : FixSession) (m : IncomingFixMessage) :
    (s.processResendRequest m).sequenceStore = s.sequenceStore := by
  unfold processResendRequest
  split
  · split <;> rfl
  · rfl

end FixSession

/-! ## Messages of the peer -/

/-- One field on the wire. -/
def encodeField (field : Tag × Bytes) : Bytes :=
  unsignedIntToChars field.1 ++ fixEquals :: field.2 ++ [fixDelimiter]

/-- The three digits of tag 10. -/
def checksumChars (buffer : Bytes) : Bytes :=
  let checksum := (byteSum buffer % fixChecksumModulo).toNat
  [checksum / 100, checksum / 10 % 10, checksum % 10].map fun digit => UInt8.ofNat (48 + digit)

/-- A well-formed message from the peer of a session, as the parser hands it over. -/
def peerMessage (settings : FixSessionSettings) (msgType : UInt8) (seqNum : UInt32)
    (fields : List (Tag × Bytes)) : RxMessage :=
  let body : List (Tag × Bytes) :=
    [(tagMsgType, [msgType]), (tagMsgSeqNum, unsignedIntToChars seqNum),
      (tagSenderCompId, settings.targetCompId), (tagTargetCompId, settings.senderCompId),
      (tagSendingTime, text "20260101-00:00:00")] ++ fields
  let length := unsignedIntToChars (body.flatMap encodeField).length.toUInt32
  let tags := (tagBeginString, settings.beginString) :: (tagBodyLength, length) :: body
  let buffer := tags.flatMap encodeField
  let checksum := (tagChecksum, checksumChars buffer)
  { message := { tags := tags ++ [checksum] }
    buffer := buffer ++ encodeField checksum
    parserRejectCode := none }

/-- The settings of a session in an example. -/
def exampleSettings : FixSessionSettings :=
  { beginString := text "FIX.4.4", senderCompId := text "LLFIX", targetCompId := text "PEER" }

example : FixSession.validateFixMessage exampleSettings
    (peerMessage exampleSettings msgTypeHeartbeat 7 []) 0 = .valid := by decide +kernel

end Llfix
