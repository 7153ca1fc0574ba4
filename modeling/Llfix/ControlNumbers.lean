import Llfix.ChecksumSpelling
import Llfix.Client.Messages
import Llfix.Server.Messages

/-!
# Control numbers

The numbers that steer a session are read with `is_numeric`, which lets a sign pass, and with a
conversion that wraps modulo `2^32`; HeartBtInt is only searched for `-` and `.`.

Results:
1. `parseMessage_bodyLength`: a message without a reject code has a numeric tag 9.
2. `handleMessage_msgSeqNum`, `dispatch_controlNumbers`, `processLogonRequest_heartBtInt`: what the
   engines compare and store is the number as it is read.
3. `controlNumbersExact_iff`: when the numbers that a session uses are those of their texts.
4. `controlNumbersExact_fails`: a Heartbeat of the number `4294967304` is taken for number 8.
-/

namespace Llfix

/-! ## Texts -/

/-- The text starts with a sign. -/
def isSigned (text : Bytes) : Bool :=
  text.head? = some '+'.toUInt8 || text.head? = some '-'.toUInt8

/-- Of the numeric texts those without a sign are the unsigned decimal numbers. -/
theorem isDecimal_iff_of_isNumeric {text : Bytes} (h : isNumeric text = true) :
    IsDecimal text ↔ isSigned text = false := by
  cases text with
  | nil => cases h
  | cons first rest =>
    rw [isNumeric] at h
    have hsigned : isSigned (first :: rest) =
        (first = '+'.toUInt8 || first = '-'.toUInt8) := by
      simp [isSigned]
    rw [hsigned]
    cases hsign : (first = '+'.toUInt8 || first = '-'.toUInt8 : Bool) with
    | true =>
      refine iff_of_false ?_ Bool.noConfusion
      rintro ⟨-, hall⟩
      rw [List.all_cons, Bool.and_eq_true] at hall
      rw [Bool.or_eq_true, decide_eq_true_eq, decide_eq_true_eq] at hsign
      rcases hsign with rfl | rfl
      · exact absurd hall.1 (by decide)
      · exact absurd hall.1 (by decide)
    | false =>
      rw [if_neg (by rw [hsign]; exact Bool.false_ne_true)] at h
      exact iff_of_true ⟨List.cons_ne_nil _ _, h⟩ rfl

/-! ## Exact numbers -/

/-- The text of a control number is an unsigned decimal number below `2^32`, and the number that
is read is its value. -/
def ExactNumber (m : IncomingFixMessage) (tag : Tag) : Prop :=
  IsDecimal (m.getTagValue tag) ∧ decimalValue (m.getTagValue tag) < 2 ^ 32 ∧
    (m.getTagValueAsUInt32 tag).toNat = decimalValue (m.getTagValue tag)

/-- The kinds of texts that the checks let pass though they are read as another number: a value
from `2^32` on, a sign, and in HeartBtInt a byte that is no digit. -/
def isMisread (m : IncomingFixMessage) (tag : Tag) : Bool :=
  let text := m.getTagValue tag
  2 ^ 32 ≤ decimalValue text || if tag = tagHeartBtInt then !text.all isDigit else isSigned text

/-- The conversion is exact for unsigned decimal numbers below `2^32`. -/
theorem exactNumber_iff (m : IncomingFixMessage) (tag : Tag) :
    ExactNumber m tag ↔
      IsDecimal (m.getTagValue tag) ∧ decimalValue (m.getTagValue tag) < 2 ^ 32 := by
  refine ⟨fun h => ⟨h.1, h.2.1⟩, fun ⟨hdecimal, hlt⟩ => ⟨hdecimal, hlt, ?_⟩⟩
  rw [IncomingFixMessage.getTagValueAsUInt32, charsToUnsignedInt_digits hdecimal.2]
  exact Nat.mod_eq_of_lt hlt

/-- What a use of the number takes for granted: `is_numeric`, or for HeartBtInt a number that is
not zero. -/
def IsChecked (m : IncomingFixMessage) (tag : Tag) : Prop :=
  if tag = tagHeartBtInt then m.getTagValueAsUInt32 tag ≠ 0 else m.isTagValueNumeric tag = true

theorem exactNumber_iff_of_checked {m : IncomingFixMessage} {tag : Tag} (h : IsChecked m tag) :
    ExactNumber m tag ↔ isMisread m tag = false := by
  have hvalue : (2 ^ 32 ≤ decimalValue (m.getTagValue tag) : Bool) = false ↔
      decimalValue (m.getTagValue tag) < 2 ^ 32 := by
    rw [decide_eq_false_iff_not, Nat.not_le]
  rw [exactNumber_iff, isMisread, Bool.or_eq_false_iff, hvalue, and_comm]
  refine and_congr_right fun _ => ?_
  unfold IsChecked at h
  split at h
  next htag =>
    have hne : m.getTagValue tag ≠ [] := by
      intro hnil
      rw [IncomingFixMessage.getTagValueAsUInt32, hnil] at h
      exact h rfl
    rw [if_pos htag, Bool.not_eq_false']
    exact and_iff_right hne
  next htag =>
    rw [if_neg htag]
    exact isDecimal_iff_of_isNumeric h

/-! ## Tag 9 -/

namespace MessageParser

/-- `validate_tag9_and_tag35` leaves no code only behind a numeric tag 9. -/
theorem validateTag9AndTag35_bodyLength {p : MessageParser} {start : Nat}
    (h : (p.validateTag9AndTag35 start).parserRejectCode = none) :
    p.message.isTagValueNumeric tagBodyLength = true := by
  unfold validateTag9AndTag35 at h
  cases htag35 : p.currentTag35TagStartIndex with
  | none =>
    rw [htag35] at h
    cases h
  | some tag35Start =>
    rw [htag35] at h
    dsimp only at h
    split_ifs at h with hhas hnumeric
    · exact hnumeric
    · cases h
    · cases h

end MessageParser

open MessageParser in
/-- A message without a reject code has a numeric tag 9. -/
theorem parseMessage_bodyLength {specs : RepeatingGroupSpecs} {buffer : Bytes} {p : MessageParser}
    {rx : RxMessage} (h : parseMessage specs buffer = some (p, rx))
    (hcode : rx.parserRejectCode = none) : rx.message.isTagValueNumeric tagBodyLength = true := by
  have hparts : parse specs {} 0 0 [] none buffer = parseParts specs {} 0 (partsFrom [] buffer) :=
    parse_eq_parseParts specs {} rfl 0 [] List.not_mem_nil none buffer
  obtain ⟨result, hresult, heq⟩ := Option.map_eq_some_iff.mp h
  obtain ⟨-, rfl⟩ := Prod.mk.inj heq
  obtain ⟨front, f, hf⟩ := parseParts_endsWith rfl rfl (hparts.symm.trans hresult)
  have hreads := hf.reads
  rw [readsAsChecksumTag, ← isTagFormat, Bool.and_eq_true, decide_eq_true_eq] at hreads
  have hend := hf.result_eq
  rw [f.after_of_format specs hreads.1, recordTag_eq, afterTag, if_pos hreads.2] at hend
  generalize (beforeSetTag _ specs _).setTag _ f.value = last at hend
  have hmessage : result.1.message = last.message := by
    rw [hend]
    exact congrArg Prod.fst (last.validateTag9AndTag35_stored f.start)
  have hlast : (last.validateTag9AndTag35 f.start).parserRejectCode = none := by
    rw [hend] at hcode
    exact hcode
  show result.1.message.isTagValueNumeric tagBodyLength = true
  rw [hmessage]
  exact validateTag9AndTag35_bodyLength hlast

/-! ## The numbers that a session uses -/

namespace FixSession

/-- The control numbers of the messages whose handlers both engines share: a ResendRequest that is
taken up and a SequenceReset that is accepted, by a session with the incoming number `stored`. -/
def handledControlNumbers (stored : UInt32) (m : IncomingFixMessage) : List Tag :=
  (if m.getTagValue tagMsgType = [msgTypeResendRequest] && takesResendRequest m then
    [tagBeginSeqNo, tagEndSeqNo] else []) ++
  if m.getTagValue tagMsgType = [msgTypeSequenceReset] && acceptsSequenceReset stored m then
    [tagNewSeqNo] else []

theorem isChecked_of_handled {stored : UInt32} {m : IncomingFixMessage} {tag : Tag}
    (h : tag ∈ handledControlNumbers stored m) : IsChecked m tag := by
  have hnumeric : tag ≠ tagHeartBtInt ∧ m.isTagValueNumeric tag = true := by
    rcases List.mem_append.mp h with h | h
    · split_ifs at h with hrequest
      · simp only [takesResendRequest, Bool.and_eq_true] at hrequest
        obtain ⟨-, ⟨-, hbegin⟩, hend⟩ := hrequest
        rcases List.mem_cons.mp h with rfl | h
        · exact ⟨by decide, hbegin⟩
        · obtain rfl := List.mem_singleton.mp h
          exact ⟨by decide, hend⟩
      · cases h
    · split_ifs at h with hreset
      · simp only [acceptsSequenceReset, Bool.and_eq_true] at hreset
        obtain ⟨-, ⟨⟨-, hnumber⟩, -⟩, -⟩ := hreset
        obtain rfl := List.mem_singleton.mp h
        exact ⟨by decide, hnumber⟩
      · cases h
  rw [IsChecked, if_neg hnumeric.1]
  exact hnumeric.2

end FixSession

open FixSession

namespace FixServer

/-- The control numbers that the server uses of a message that is valid for session `i`: the
parser compares tag 9, the sequence checks tag 34, the handlers the others. -/
def usedControlNumbers (srv : FixServer) (i : Nat) (rx : RxMessage) (env : ServerRxEnv) :
    List Tag :=
  let s := srv.sessions i
  [tagBodyLength, tagMsgSeqNum] ++
    if reachesDispatch s rx env then
      handledControlNumbers (s.sequenceStore.incomingSeqNo + 1) rx.message ++
        if authenticates rx env then [tagHeartBtInt] else []
    else []

/-- Of a message that passes the validation the numbers used are those of their texts. -/
def ControlNumbersExact (srv : FixServer) (i : Nat) (rx : RxMessage) (env : ServerRxEnv) : Prop :=
  validateFixMessage (srv.sessions i).settings rx env.utcNow = .valid →
    ∀ tag ∈ srv.usedControlNumbers i rx env, ExactNumber rx.message tag

/-- The message is refused, or no number used is misread. -/
def NoNumberMisread (srv : FixServer) (i : Nat) (rx : RxMessage) (env : ServerRxEnv) : Prop :=
  validateFixMessage (srv.sessions i).settings rx env.utcNow = .valid →
    ∀ tag ∈ srv.usedControlNumbers i rx env, isMisread rx.message tag = false

end FixServer

namespace FixClient

/-- The control numbers that the client uses of a valid message; it does not read tag 108. -/
def usedControlNumbers (c : FixClient) (rx : RxMessage) (env : ClientRxEnv) : List Tag :=
  [tagBodyLength, tagMsgSeqNum] ++
    if passesChecks c.session rx env then
      handledControlNumbers (c.session.sequenceStore.incomingSeqNo + 1) rx.message
    else []

def ControlNumbersExact (c : FixClient) (rx : RxMessage) (env : ClientRxEnv) : Prop :=
  validateFixMessage c.session.settings rx env.utcNow = .valid →
    ∀ tag ∈ c.usedControlNumbers rx env, ExactNumber rx.message tag

def NoNumberMisread (c : FixClient) (rx : RxMessage) (env : ClientRxEnv) : Prop :=
  validateFixMessage c.session.settings rx env.utcNow = .valid →
    ∀ tag ∈ c.usedControlNumbers rx env, isMisread rx.message tag = false

end FixClient

/-! ## What the handlers do with them -/

theorem FixSession.handled_begin {stored : UInt32} {m : IncomingFixMessage}
    (h : tagBeginSeqNo ∈ handledControlNumbers stored m) :
    m.getTagValue tagMsgType = [msgTypeResendRequest] ∧ takesResendRequest m = true := by
  rcases List.mem_append.mp h with h | h
  · split_ifs at h with hrequest
    · rwa [Bool.and_eq_true, decide_eq_true_eq] at hrequest
    · cases h
  · split_ifs at h
    · exact absurd h (by decide)
    · cases h

theorem FixSession.handled_newSeqNo {stored : UInt32} {m : IncomingFixMessage}
    (h : tagNewSeqNo ∈ handledControlNumbers stored m) :
    m.getTagValue tagMsgType = [msgTypeSequenceReset] ∧ acceptsSequenceReset stored m = true := by
  rcases List.mem_append.mp h with h | h
  · split_ifs at h
    · exact absurd h (by decide)
    · cases h
  · split_ifs at h with hreset
    · rwa [Bool.and_eq_true, decide_eq_true_eq] at hreset
    · cases h

/-- The server stores the range of a ResendRequest and the number of a SequenceReset as they are
read. -/
theorem FixServer.dispatch_controlNumbers (srv : FixServer) (i p : Nat) (m : IncomingFixMessage)
    (env : ServerRxEnv) :
    let used := handledControlNumbers (srv.sessions i).sequenceStore.incomingSeqNo m
    let s := (srv.dispatch i p m env).sessions i
    (tagBeginSeqNo ∈ used →
      s.incomingResendRequestBeginNo = m.getTagValueAsUInt32 tagBeginSeqNo ∧
        s.incomingResendRequestEndNo = m.getTagValueAsUInt32 tagEndSeqNo) ∧
    (tagNewSeqNo ∈ used →
      s.sequenceStore.incomingSeqNo = m.getTagValueAsUInt32 tagNewSeqNo - 1) := by
  refine ⟨fun hbegin => ?_, fun hnew => ?_⟩
  · obtain ⟨htype, htakes⟩ := handled_begin hbegin
    have hdispatch : srv.dispatch i p m env =
        (srv.modifySession i (·.processResendRequest m)).callback i .onClientResendRequest
          (some m) := by
      simp only [dispatch, htype]
      rfl
    rw [hdispatch, callback, modifySession_sessions_self, modifySession_sessions_self,
      processResendRequest_taken htakes]
    exact ⟨rfl, rfl⟩
  · obtain ⟨htype, haccepts⟩ := handled_newSeqNo hnew
    have hdispatch : srv.dispatch i p m env = srv.processSequenceReset i m env := by
      simp only [dispatch, htype]
      rfl
    rw [hdispatch, processSequenceReset, processIncomingSequenceResetMessage_accepted haccepts]
    dsimp only
    rw [if_neg Bool.true_eq_false_eq_False, modifySession_sessions_self]
    rfl

/-- The client stores them likewise. -/
theorem FixClient.dispatch_controlNumbers (c : FixClient) (m : IncomingFixMessage)
    (env : ClientRxEnv) :
    let used := handledControlNumbers c.session.sequenceStore.incomingSeqNo m
    let s := (c.dispatch m env).session
    (tagBeginSeqNo ∈ used →
      s.incomingResendRequestBeginNo = m.getTagValueAsUInt32 tagBeginSeqNo ∧
        s.incomingResendRequestEndNo = m.getTagValueAsUInt32 tagEndSeqNo) ∧
    (tagNewSeqNo ∈ used →
      s.sequenceStore.incomingSeqNo = m.getTagValueAsUInt32 tagNewSeqNo - 1) := by
  refine ⟨fun hbegin => ?_, fun hnew => ?_⟩
  · obtain ⟨htype, htakes⟩ := handled_begin hbegin
    have hdispatch : c.dispatch m env =
        (c.modifySession (·.processResendRequest m)).callback .onServerResendRequest
          (some m) := by
      simp only [dispatch, htype]
      rfl
    have hsession : (c.dispatch m env).session =
        (c.session.processResendRequest m).record (.callback .onServerResendRequest (some m)) := by
      rw [hdispatch]
      rfl
    rw [hsession, processResendRequest_taken htakes]
    exact ⟨rfl, rfl⟩
  · obtain ⟨htype, haccepts⟩ := handled_newSeqNo hnew
    have hdispatch : c.dispatch m env = c.processSequenceReset m env := by
      simp only [dispatch, htype]
      rfl
    rw [hdispatch, processSequenceReset, processIncomingSequenceResetMessage_accepted haccepts]
    dsimp only
    rw [if_neg Bool.true_eq_false_eq_False]
    rfl

/-- The server compares tag 34 as it is read, and asks for a resend up to it. -/
theorem FixServer.handleMessage_msgSeqNum (srv : FixServer) (i p : Nat) (rx : RxMessage)
    (env : ServerRxEnv) (hstate : (srv.sessions i).state ≠ .pendingLogon) :
    (passesChecks (srv.sessions i) rx env = true →
      isAHardSequenceResetMessage rx.message = false →
      rx.message.getTagValueAsUInt32 tagMsgSeqNum =
        (srv.sessions i).sequenceStore.incomingSeqNo + 1) ∧
    ((srv.sessions i).verdict rx env.utcNow = .valid → (srv.sessions i).aboveExpected rx = true →
      ((srv.handleMessage i p rx env).sessions i).outgoingResendRequestEndNo =
        rx.message.getTagValueAsUInt32 tagMsgSeqNum) := by
  refine ⟨fun hpasses hhard => ?_, fun hvalid habove => ?_⟩
  · simp only [passesChecks, hstate, Bool.and_eq_true, Bool.not_eq_true', ne_eq, not_false_eq_true,
      decide_true, Bool.and_true] at hpasses
    exact seqNum_of_expected hpasses.1.2 hpasses.2 hhard
  · have hs := modifySession_sessions_self srv i (·.counted rx env.nowNanoseconds)
    rw [handleMessage_eq, hvalid]
    rcases processSequenceNumber_cases _ i p rx env hs with
      ⟨-, -, h⟩ | ⟨hbelow, -⟩ | ⟨hnot, -⟩
    · dsimp only
      rw [h, modifySession_sessions_self]
      rfl
    · simp only [aboveExpected, belowExpected, Bool.and_eq_true, decide_eq_true_eq]
        at habove hbelow
      exact absurd habove.1 (UInt32.lt_asymm hbelow.1)
    · rw [habove] at hnot
      simp [hstate] at hnot

/-- The client does so likewise. -/
theorem FixClient.handleMessage_msgSeqNum (c : FixClient) (rx : RxMessage) (env : ClientRxEnv) :
    (passesChecks c.session rx env = true → isAHardSequenceResetMessage rx.message = false →
      rx.message.getTagValueAsUInt32 tagMsgSeqNum = c.session.sequenceStore.incomingSeqNo + 1) ∧
    (c.session.verdict rx env.utcNow = .valid → c.session.aboveExpected rx = true →
      (c.handleMessage rx env).session.outgoingResendRequestEndNo =
        rx.message.getTagValueAsUInt32 tagMsgSeqNum) := by
  refine ⟨fun hpasses hhard => ?_, fun hvalid habove => ?_⟩
  · simp only [passesChecks, Bool.and_eq_true, Bool.not_eq_true'] at hpasses
    exact seqNum_of_expected hpasses.1.2 hpasses.2 hhard
  · rw [handleMessage_eq, hvalid]
    rcases processSequenceNumber_cases (c.modifySession (·.counted rx env.nowNanoseconds)) rx env
        rfl with ⟨-, h⟩ | ⟨hbelow, -⟩ | ⟨hnot, -⟩
    · dsimp only
      rw [h]
      rfl
    · simp only [aboveExpected, belowExpected, Bool.and_eq_true, decide_eq_true_eq]
        at habove hbelow
      exact absurd habove.1 (UInt32.lt_asymm hbelow.1)
    · rw [habove] at hnot
      cases hnot

/-- An authenticated session has the interval of the Logon as it is read, in nanoseconds. -/
theorem FixServer.processLogonRequest_heartBtInt (srv : FixServer) (i p : Nat)
    (m : IncomingFixMessage) (env : ServerRxEnv)
    (h : (validateLogonRequest m && env.authenticated) = true) :
    ((srv.processLogonRequest i p m env).sessions i).settings.heartbeatIntervalInNanoseconds.toNat =
      (m.getTagValueAsUInt32 tagHeartBtInt).toNat * 1000000000 := by
  have hcore : (((srv.modifySession i (authenticated · m)).sendLogonResponse i
      env.send).sessions i).core = (authenticated (srv.sessions i) m).core := by
    rw [← modifySession_sessions_self srv i (authenticated · m)]
    exact (sendOutgoingMessage_steps _ i _ env.send).core i
  have hsettings : ((srv.processLogonRequest i p m env).sessions i).settings =
      (authenticated (srv.sessions i) m).settings := by
    rw [processLogonRequest_authenticated srv i p m env h, callback, modifySession_sessions_self,
      modifySession_sessions_self]
    exact (loggedOn_settings _).trans (settings_of_core hcore)
  have hlt := UInt32.toNat_lt (m.getTagValueAsUInt32 tagHeartBtInt)
  rw [hsettings]
  show ((m.getTagValueAsUInt32 tagHeartBtInt).toUInt64 * 1000000000).toNat = _
  rw [UInt64.toNat_mul, UInt32.toNat_toUInt64]
  show (m.getTagValueAsUInt32 tagHeartBtInt).toNat * 1000000000 % 2 ^ 64 = _
  exact Nat.mod_eq_of_lt (by omega)

/-! ## When the numbers are exact -/

/-- The checks of the two numbers that every valid message has. -/
theorem isChecked_of_valid {specs : RepeatingGroupSpecs} {buffer : Bytes} {p : MessageParser}
    {rx : RxMessage} (h : parseMessage specs buffer = some (p, rx)) {settings : FixSessionSettings}
    {utcNow : Int} (hvalid : validateFixMessage settings rx utcNow = .valid) {tag : Tag}
    (htag : tag ∈ [tagBodyLength, tagMsgSeqNum]) : IsChecked rx.message tag := by
  have hchecks := ((validateFixMessage_valid_iff settings rx utcNow).mp hvalid).1
  simp only [passesOtherChecks, Bool.and_eq_true] at hchecks
  have hnumber : rx.message.isTagValueNumeric tagMsgSeqNum = true := by tauto
  have hcode : rx.parserRejectCode.isNone = true := by tauto
  rcases List.mem_cons.mp htag with rfl | htag
  · exact parseMessage_bodyLength h (Option.isNone_iff_eq_none.mp hcode)
  · obtain rfl := List.mem_singleton.mp htag
    exact hnumber

/-- Every number used of a valid message has been checked. -/
theorem FixServer.isChecked_of_used {specs : RepeatingGroupSpecs} {buffer : Bytes}
    {parser : MessageParser} {rx : RxMessage} (h : parseMessage specs buffer = some (parser, rx))
    {srv : FixServer} {i : Nat} {env : ServerRxEnv}
    (hvalid : validateFixMessage (srv.sessions i).settings rx env.utcNow = .valid) {tag : Tag}
    (hused : tag ∈ srv.usedControlNumbers i rx env) : IsChecked rx.message tag := by
  rcases List.mem_append.mp hused with hused | hused
  · exact isChecked_of_valid h hvalid hused
  · split_ifs at hused with hreaches hlogon
    · rcases List.mem_append.mp hused with hused | hused
      · exact isChecked_of_handled hused
      · obtain rfl := List.mem_singleton.mp hused
        simp only [authenticates, validateLogonRequest, Bool.and_eq_true] at hlogon
        obtain ⟨⟨-, ⟨-, hzero⟩⟩, -⟩ := hlogon
        have hne := of_decide_eq_true hzero
        rw [IsChecked, if_pos rfl]
        exact hne
    · rw [List.append_nil] at hused
      exact isChecked_of_handled hused
    · cases hused

theorem FixClient.isChecked_of_used {specs : RepeatingGroupSpecs} {buffer : Bytes}
    {parser : MessageParser} {rx : RxMessage} (h : parseMessage specs buffer = some (parser, rx))
    {c : FixClient} {env : ClientRxEnv}
    (hvalid : validateFixMessage c.session.settings rx env.utcNow = .valid) {tag : Tag}
    (hused : tag ∈ c.usedControlNumbers rx env) : IsChecked rx.message tag := by
  rcases List.mem_append.mp hused with hused | hused
  · exact isChecked_of_valid h hvalid hused
  · split_ifs at hused
    · exact isChecked_of_handled hused
    · cases hused

/-- Both engines use the exact numbers of a message exactly when none of them is misread. -/
theorem controlNumbersExact_iff {specs : RepeatingGroupSpecs} {buffer : Bytes}
    {parser : MessageParser} {rx : RxMessage} (h : parseMessage specs buffer = some (parser, rx)) :
    (∀ (srv : FixServer) (i : Nat) (env : ServerRxEnv),
      srv.ControlNumbersExact i rx env ↔ srv.NoNumberMisread i rx env) ∧
    ∀ (c : FixClient) (env : ClientRxEnv),
      c.ControlNumbersExact rx env ↔ c.NoNumberMisread rx env := by
  refine ⟨fun srv i env => ?_, fun c env => ?_⟩
  · exact forall_congr' fun hvalid => forall₂_congr fun tag hused =>
      exactNumber_iff_of_checked (FixServer.isChecked_of_used h hvalid hused)
  · exact forall_congr' fun hvalid => forall₂_congr fun tag hused =>
      exactNumber_iff_of_checked (FixClient.isChecked_of_used h hvalid hused)

/-- A Heartbeat of the number `2^32 + 8`. -/
def wrappedNumberMessage : Bytes :=
  joinParts [text "8=FIX.4.4", text "9=57", text "35=0", text "34=4294967304", text "49=PEER",
    text "52=20260101-00:00:00", text "56=LLFIX", text "10=128"]

theorem wrappedNumberMessage_passes :
    (parseMessage {} wrappedNumberMessage).any (fun result =>
      FixServer.passesChecks (FixServer.exampleServer.sessions 0) result.2 {} &&
        validateFixMessage (FixServer.exampleServer.sessions 0).settings result.2 0 = .valid &&
        isMisread result.2.message tagMsgSeqNum) = true := by
  decide +kernel

theorem controlNumbersExact_iff_wrapped :
    ∃ parser rx, parseMessage {} wrappedNumberMessage = some (parser, rx) ∧
      (FixServer.exampleServer.ControlNumbersExact 0 rx {} ↔
        FixServer.exampleServer.NoNumberMisread 0 rx {}) := by
  have hparsed : (parseMessage {} wrappedNumberMessage).isSome = true := by decide +kernel
  obtain ⟨⟨parser, rx⟩, hparse⟩ := Option.isSome_iff_exists.mp hparsed
  exact ⟨parser, rx, hparse, (controlNumbersExact_iff hparse).1 FixServer.exampleServer 0 {}⟩

/-- A session that expects number 8 takes the message for it. -/
theorem controlNumbersExact_fails :
    ∃ parser rx, parseMessage {} wrappedNumberMessage = some (parser, rx) ∧
      FixServer.passesChecks (FixServer.exampleServer.sessions 0) rx {} = true ∧
      ¬ FixServer.exampleServer.ControlNumbersExact 0 rx {} := by
  have haccepted := wrappedNumberMessage_passes
  cases hparse : parseMessage {} wrappedNumberMessage with
  | none =>
    rw [hparse] at haccepted
    exact Bool.noConfusion haccepted
  | some result =>
    rw [hparse, Option.any_some, Bool.and_eq_true, Bool.and_eq_true, decide_eq_true_eq]
      at haccepted
    obtain ⟨⟨hpasses, hvalid⟩, hmisread⟩ := haccepted
    refine ⟨result.1, result.2, rfl, hpasses, fun hexact => ?_⟩
    have hused : tagMsgSeqNum ∈ FixServer.exampleServer.usedControlNumbers 0 result.2 {} :=
      List.mem_append_left _ (List.mem_cons_of_mem _ List.mem_cons_self)
    have hchecked := FixServer.isChecked_of_used hparse hvalid hused
    rw [(exactNumber_iff_of_checked hchecked).mp (hexact hvalid _ hused)] at hmisread
    exact Bool.noConfusion hmisread

end Llfix
