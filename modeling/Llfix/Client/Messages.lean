import Llfix.FixClient
import Llfix.ReceivedMessage

/-!
# What the client does with one message

The counterpart of the server's case analysis. `process_incoming_fix_message` of the client ends
in a Reject, a silent drop, a queued resend request, a shutdown for a number that is too low, or
the `switch` on MsgType.

Results:
1. `sendBytes_core`, `doShutdownNow_core`: neither a send nor a shutdown touches the core.
2. `handleMessage_cases`: the ends and their conditions.
3. `dispatch_cases`: the ends of the `switch`.
-/

namespace Llfix

namespace FixClient

open FixSession

/-! ## Updates of the session -/

@[simp] theorem modifySession_session (c : FixClient) (f : FixSession → FixSession) :
    (c.modifySession f).session = f c.session := rfl

@[simp] theorem modifySession_socketOpen (c : FixClient) (f : FixSession → FixSession) :
    (c.modifySession f).socketOpen = c.socketOpen := rfl

@[simp] theorem modifySession_isHaPrimary (c : FixClient) (f : FixSession → FixSession) :
    (c.modifySession f).isHaPrimary = c.isHaPrimary := rfl

@[simp] theorem modifySession_modifySession (c : FixClient) (f g : FixSession → FixSession) :
    (c.modifySession f).modifySession g = c.modifySession fun s => g (f s) := rfl

@[simp] theorem onConnectionLost_socketOpen (c : FixClient) :
    c.onConnectionLost.socketOpen = c.socketOpen := rfl

theorem onConnectionLost_session (c : FixClient) :
    c.onConnectionLost.session =
      (((c.session.setState .disconnected).record .connectionLost).record
        (.callback .onDisconnection none)) := rfl

@[simp] theorem onConnectionLost_core (c : FixClient) :
    c.onConnectionLost.session.core = c.session.core := rfl

@[simp] theorem close_core (c : FixClient) : c.close.session.core = c.session.core := rfl

@[simp] theorem doShutdownNow_core (c : FixClient) :
    c.doShutdownNow.session.core = c.session.core := rfl

@[simp] theorem doShutdownNow_state (c : FixClient) :
    c.doShutdownNow.session.state = .disconnected := rfl

/-! ## Sends -/

section Sends

variable (c : FixClient) (t : Transmission)

theorem sendBytes_closed (h : c.socketOpen = false) (o : SendOutcome) :
    c.sendBytes t o = c.modifySession (·.afterSend t.incrementOutgoingSeqNo false o.timestamp) := by
  simp [sendBytes, h]

theorem sendBytes_held (h : c.socketOpen = true) {o : SendOutcome}
    (ho : o.result ≠ .connectionLost) :
    c.sendBytes t o = c.modifySession fun s =>
      (s.record (.sent t s.sequenceStore.incomingSeqNo (o.result = .ok))).afterSend
        t.incrementOutgoingSeqNo (o.result = .ok) o.timestamp := by
  simp [sendBytes, h, ho]

theorem sendBytes_lost (h : c.socketOpen = true) {o : SendOutcome}
    (ho : o.result = .connectionLost) :
    c.sendBytes t o =
      (c.modifySession fun s =>
        s.record (.sent t s.sequenceStore.incomingSeqNo false)).onConnectionLost.modifySession
          (·.afterSend t.incrementOutgoingSeqNo false o.timestamp) := by
  simp [sendBytes, h, ho]

@[simp] theorem sendBytes_core (o : SendOutcome) :
    (c.sendBytes t o).session.core = c.session.core := by
  cases hopen : c.socketOpen with
  | false => simp [sendBytes_closed c t hopen]
  | true =>
    by_cases ho : o.result = .connectionLost
    · simp [sendBytes_lost c t hopen ho]
    · simp [sendBytes_held c t hopen ho]

@[simp] theorem sendBytes_socketOpen (o : SendOutcome) :
    (c.sendBytes t o).socketOpen = c.socketOpen := by
  cases hopen : c.socketOpen with
  | false => simp [sendBytes_closed c t hopen, hopen]
  | true =>
    by_cases ho : o.result = .connectionLost
    · simp [sendBytes_lost c t hopen ho, hopen]
    · simp [sendBytes_held c t hopen ho, hopen]

@[simp] theorem sendOutgoingMessage_core (m : OutgoingFixMessage) (o : SendOutcome) :
    (c.sendOutgoingMessage m o).session.core = c.session.core :=
  sendBytes_core c _ o

@[simp] theorem sendOutgoingMessage_socketOpen (m : OutgoingFixMessage) (o : SendOutcome) :
    (c.sendOutgoingMessage m o).socketOpen = c.socketOpen :=
  sendBytes_socketOpen c _ o

end Sends

/-! ## The ends of `process_incoming_fix_message` -/

/-- A message gets past the validation and the sequence checks, to the `switch` on MsgType. -/
def passesChecks (s : FixSession) (rx : RxMessage) (env : ClientRxEnv) : Bool :=
  s.verdict rx env.utcNow = .valid && !s.aboveExpected rx && !s.belowExpected rx

section Cases

variable (c : FixClient) (rx : RxMessage) (env : ClientRxEnv)

theorem handleMessage_eq :
    c.handleMessage rx env =
      match c.session.verdict rx env.utcNow with
      | .rejected code errorTag =>
        (c.modifySession fun s =>
          (s.received rx env.nowNanoseconds).setLastErrorTag errorTag).sendRejectMessage code
          errorTag env.send
      | .dropped => c.modifySession fun s =>
          (s.received rx env.nowNanoseconds).setLastErrorTag 0
      | .valid =>
        (c.modifySession (·.counted rx env.nowNanoseconds)).processSequenceNumber rx env := rfl

theorem processInSequence_eq :
    c.processInSequence rx env = (c.modifySession (·.satisfied rx)).dispatch rx.message env := by
  have hsat : (if c.session.resendRequestSatisfied rx then c.modifySession (·.setState .loggedOn)
      else c) = c.modifySession (·.satisfied rx) := by
    by_cases h : c.session.resendRequestSatisfied rx = true
    · simp [modifySession, satisfied, h]
    · simp [modifySession, satisfied, h]
  unfold processInSequence
  rw [hsat]

theorem processSequenceNumber_cases {s : FixSession}
    (hs : c.session = s.counted rx env.nowNanoseconds) :
    (s.aboveExpected rx = true ∧
      c.processSequenceNumber rx env = c.modifySession
        (·.queueOutgoingResendRequest (s.sequenceStore.incomingSeqNo + 1) rx.seqNum)) ∨
    (s.belowExpected rx = true ∧
      c.processSequenceNumber rx env =
        (c.modifySession (·.setIncomingSeqNo s.sequenceStore.incomingSeqNo)).doShutdownNow) ∨
    (s.aboveExpected rx = false ∧ s.belowExpected rx = false ∧
      c.processSequenceNumber rx env =
        (c.modifySession (·.satisfied rx)).dispatch rx.message env) := by
  have hsub : s.sequenceStore.incomingSeqNo + 1 - 1 = s.sequenceStore.incomingSeqNo := by grind
  unfold processSequenceNumber
  simp only [hs, counted_incomingSeqNo]
  cases habove : s.aboveExpected rx with
  | true =>
    rw [aboveExpected] at habove
    rw [if_pos habove]
    exact .inl ⟨rfl, rfl⟩
  | false =>
    rw [aboveExpected] at habove
    rw [if_neg (ne_of_eq_of_ne habove Bool.false_ne_true)]
    cases hbelow : s.belowExpected rx with
    | true =>
      rw [belowExpected] at hbelow
      rw [if_pos hbelow, hsub]
      exact .inr (.inl ⟨rfl, rfl⟩)
    | false =>
      rw [belowExpected] at hbelow
      rw [if_neg (ne_of_eq_of_ne hbelow Bool.false_ne_true)]
      exact .inr (.inr ⟨rfl, rfl, processInSequence_eq c rx env⟩)

theorem handleMessage_cases :
    (∃ code errorTag, c.session.verdict rx env.utcNow = .rejected code errorTag ∧
      c.handleMessage rx env =
        (c.modifySession fun s =>
          (s.received rx env.nowNanoseconds).setLastErrorTag errorTag).sendRejectMessage code
          errorTag env.send) ∨
    (c.session.verdict rx env.utcNow = .dropped ∧
      c.handleMessage rx env = c.modifySession fun s =>
        (s.received rx env.nowNanoseconds).setLastErrorTag 0) ∨
    (c.session.verdict rx env.utcNow = .valid ∧ c.session.aboveExpected rx = true ∧
      c.handleMessage rx env = c.modifySession fun s =>
        (s.counted rx env.nowNanoseconds).queueOutgoingResendRequest
          (s.sequenceStore.incomingSeqNo + 1) rx.seqNum) ∨
    (c.session.verdict rx env.utcNow = .valid ∧ c.session.belowExpected rx = true ∧
      c.handleMessage rx env = (c.modifySession fun s =>
        (s.counted rx env.nowNanoseconds).setIncomingSeqNo
          s.sequenceStore.incomingSeqNo).doShutdownNow) ∨
    (passesChecks c.session rx env = true ∧
      c.handleMessage rx env = (c.modifySession fun s =>
        (s.counted rx env.nowNanoseconds).satisfied rx).dispatch rx.message env) := by
  rw [handleMessage_eq]
  cases hv : c.session.verdict rx env.utcNow with
  | rejected code errorTag => exact .inl ⟨code, errorTag, rfl, rfl⟩
  | dropped => exact .inr (.inl ⟨rfl, rfl⟩)
  | valid =>
    refine .inr (.inr ?_)
    rcases processSequenceNumber_cases (c.modifySession (·.counted rx env.nowNanoseconds)) rx env
        rfl with ⟨habove, h⟩ | ⟨hbelow, h⟩ | ⟨habove, hbelow, h⟩
    · exact .inl ⟨rfl, habove, h⟩
    · exact .inr (.inl ⟨rfl, hbelow, h⟩)
    · refine .inr (.inr ⟨?_, h⟩)
      rw [passesChecks, hv, habove, hbelow]
      rfl

end Cases

/-! ## The ends of the `switch` on MsgType -/

/-- The types with a handler of their own in the client. -/
def sessionMsgTypes : List Bytes :=
  [[msgTypeLogon], [msgTypeLogout], [msgTypeSequenceReset], [msgTypeResendRequest],
    [msgTypeTestRequest], [msgTypeReject], [msgTypeBusinessReject]]

section Dispatch

variable (c : FixClient) (m : IncomingFixMessage) (env : ClientRxEnv)

theorem dispatch_cases :
    (m.getTagValue tagMsgType = [msgTypeLogon] ∧ c.dispatch m env = c.processLogonResponse m) ∨
    (m.getTagValue tagMsgType = [msgTypeLogout] ∧
      c.dispatch m env = c.processLogoutResponse m) ∨
    (m.getTagValue tagMsgType = [msgTypeSequenceReset] ∧
      c.dispatch m env = c.processSequenceReset m env) ∨
    (m.getTagValue tagMsgType = [msgTypeResendRequest] ∧
      c.dispatch m env =
        (c.modifySession (·.processResendRequest m)).callback .onServerResendRequest (some m)) ∨
    (m.getTagValue tagMsgType = [msgTypeTestRequest] ∧
      c.dispatch m env =
        (c.modifySession (·.processTestRequestMessage m)).callback .onServerTestRequest
          (some m)) ∨
    (∃ cb, (cb = .onSessionLevelReject ∨ cb = .onApplicationLevelReject) ∧
      c.dispatch m env = c.processReject cb m ∧
      (m.getTagValue tagMsgType = [msgTypeReject] ∨
        m.getTagValue tagMsgType = [msgTypeBusinessReject])) ∨
    (m.getTagValue tagMsgType ∉ sessionMsgTypes ∧
      ∃ cb m', (m' = some m ∨ m' = none) ∧ c.dispatch m env = c.callback cb m') := by
  by_cases hlogon : m.getTagValue tagMsgType = [msgTypeLogon]
  · exact .inl ⟨hlogon, by simp only [dispatch, hlogon]; rfl⟩
  by_cases hlogout : m.getTagValue tagMsgType = [msgTypeLogout]
  · exact .inr (.inl ⟨hlogout, by simp only [dispatch, hlogout]; rfl⟩)
  by_cases hreset : m.getTagValue tagMsgType = [msgTypeSequenceReset]
  · exact .inr (.inr (.inl ⟨hreset, by simp only [dispatch, hreset]; rfl⟩))
  by_cases hresend : m.getTagValue tagMsgType = [msgTypeResendRequest]
  · exact .inr (.inr (.inr (.inl ⟨hresend, by simp only [dispatch, hresend]; rfl⟩)))
  by_cases htest : m.getTagValue tagMsgType = [msgTypeTestRequest]
  · exact .inr (.inr (.inr (.inr (.inl ⟨htest, by simp only [dispatch, htest]; rfl⟩))))
  by_cases hreject : m.getTagValue tagMsgType = [msgTypeReject]
  · exact .inr (.inr (.inr (.inr (.inr (.inl
      ⟨.onSessionLevelReject, .inl rfl, by simp only [dispatch, hreject]; rfl, .inl hreject⟩)))))
  by_cases hbusiness : m.getTagValue tagMsgType = [msgTypeBusinessReject]
  · exact .inr (.inr (.inr (.inr (.inr (.inl
      ⟨.onApplicationLevelReject, .inr rfl, by simp only [dispatch, hbusiness]; rfl,
        .inr hbusiness⟩)))))
  refine .inr (.inr (.inr (.inr (.inr (.inr ⟨by simp [sessionMsgTypes, *], ?_⟩)))))
  unfold dispatch
  split
  · rename_i t ht
    simp only [ht, List.cons.injEq, and_true] at hlogon hlogout hreset hresend
    simp only [ht, List.cons.injEq, and_true] at htest hreject hbusiness
    simp only [if_neg hlogon, if_neg hlogout, if_neg hreset, if_neg hresend, if_neg htest,
      if_neg hreject, if_neg hbusiness]
    split_ifs
    · exact ⟨.onExecutionReport, some m, .inl rfl, rfl⟩
    · exact ⟨.onServerHeartbeat, none, .inr rfl, rfl⟩
    · exact ⟨.onOrderCancelReplaceReject, some m, .inl rfl, rfl⟩
    · exact ⟨.onCustomMessageType, some m, .inl rfl, rfl⟩
  · exact ⟨.onCustomMessageType, some m, .inl rfl, rfl⟩

end Dispatch

end FixClient

end Llfix
