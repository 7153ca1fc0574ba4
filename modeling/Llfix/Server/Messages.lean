import Llfix.Server.Effects
import Llfix.ReceivedMessage

/-!
# What the server does with one message

`process_incoming_fix_message` has five ends: a Reject, a silent drop, a queued resend request,
a closure for a number that is too low, and the part behind the sequence checks. That part ends
in the throttler or in the `switch` on MsgType. The ends are told apart by the session and the
message as they are before the call.

Results:
1. `handleMessage_cases`, `processInSequence_cases`: the ends and their conditions.
2. `handleMessage_steps`: the effect is a list of updates of the session and disconnections.
3. `rxStep_aligned`: inside a read the connection serves no other session.
-/

namespace Llfix

namespace FixSession

/-- The throttler keeps the message from the `switch`. -/
def throttles (s : FixSession) (throttlerReachedLimit : Bool) : Bool :=
  s.settings.throttleLimit ≠ 0 && throttlerReachedLimit &&
    (s.settings.throttleAction = .disconnect || s.settings.throttleAction = .reject)

/-- Behind the throttler, which counts exceeded limits. -/
def passed (s : FixSession) (rx : RxMessage) (throttlerReachedLimit : Bool) : FixSession :=
  if s.settings.throttleLimit ≠ 0 && throttlerReachedLimit then
    (s.satisfied rx).incrementIncomingThrottlerExceedCount
  else s.satisfied rx

section Passed

variable (s : FixSession) (rx : RxMessage) (b : Bool)

@[simp] theorem passed_sequenceStore : (s.passed rx b).sequenceStore = s.sequenceStore := by
  unfold passed
  split
  · exact satisfied_sequenceStore s rx
  · exact satisfied_sequenceStore s rx

@[simp] theorem passed_incomingFixMessage :
    (s.passed rx b).incomingFixMessage = s.incomingFixMessage := by
  unfold passed
  split
  · exact satisfied_incomingFixMessage s rx
  · exact satisfied_incomingFixMessage s rx

theorem passed_state :
    (s.passed rx b).state = if s.resendRequestSatisfied rx then .loggedOn else s.state := by
  unfold passed
  split
  · exact satisfied_state s rx
  · exact satisfied_state s rx

theorem passed_trace :
    (s.passed rx b).trace =
      s.trace ++ if s.resendRequestSatisfied rx then [.state .loggedOn] else [] := by
  unfold passed
  split
  · exact satisfied_trace s rx
  · exact satisfied_trace s rx

theorem passed_accounts : Accounts s (s.passed rx b) := by
  have hsat : Accounts s (s.satisfied rx) := by
    unfold satisfied
    split
    · exact .setState s _
    · exact .refl s
  unfold passed
  split
  · exact hsat.trans (.of_eq rfl rfl)
  · exact hsat

end Passed

end FixSession

namespace FixServer

open FixSession

/-- A message gets past the validation and the sequence checks. -/
def passesChecks (s : FixSession) (rx : RxMessage) (env : ServerRxEnv) : Bool :=
  s.verdict rx env.utcNow = .valid && !(s.aboveExpected rx && s.state ≠ .pendingLogon) &&
    !s.belowExpected rx

/-- A message gets to the `switch` on MsgType. -/
def reachesDispatch (s : FixSession) (rx : RxMessage) (env : ServerRxEnv) : Bool :=
  passesChecks s rx env && !s.throttles env.throttlerReachedLimit

/-- A Logon whose handler authenticates it, once it gets there. -/
def authenticates (rx : RxMessage) (env : ServerRxEnv) : Bool :=
  rx.msgType = [msgTypeLogon] && validateLogonRequest rx.message && env.authenticated

/-! ## The ends of `process_incoming_fix_message` -/

section Cases

variable (srv : FixServer) (i p : Nat) (rx : RxMessage) (env : ServerRxEnv)

theorem handleMessage_eq :
    srv.handleMessage i p rx env =
      match (srv.sessions i).verdict rx env.utcNow with
      | .rejected code errorTag =>
        (srv.modifySession i fun s =>
          (s.received rx env.nowNanoseconds).setLastErrorTag errorTag).sendRejectMessage i code
          errorTag env.send
      | .dropped => srv.modifySession i fun s =>
          (s.received rx env.nowNanoseconds).setLastErrorTag 0
      | .valid => (srv.modifySession i (·.counted rx env.nowNanoseconds)).processSequenceNumber i
          p rx env := by
  unfold handleMessage processIncomingFixMessage
  simp only [modifySession_modifySession, modifySession_sessions_self]
  rfl

theorem processSequenceNumber_cases {s : FixSession}
    (hs : srv.sessions i = s.counted rx env.nowNanoseconds) :
    (s.aboveExpected rx = true ∧ s.state ≠ .pendingLogon ∧
      srv.processSequenceNumber i p rx env = srv.modifySession i
        (·.queueOutgoingResendRequest (s.sequenceStore.incomingSeqNo + 1) rx.seqNum)) ∨
    (s.belowExpected rx = true ∧ ∃ sendLogout reason,
      srv.processSequenceNumber i p rx env =
        (srv.modifySession i
          (·.setIncomingSeqNo s.sequenceStore.incomingSeqNo)).processConnectionClosure (some p)
          sendLogout reason env.send) ∨
    ((s.aboveExpected rx && s.state ≠ .pendingLogon) = false ∧ s.belowExpected rx = false ∧
      srv.processSequenceNumber i p rx env = srv.processInSequence i p rx env) := by
  have hsub : s.sequenceStore.incomingSeqNo + 1 - 1 = s.sequenceStore.incomingSeqNo := by grind
  unfold processSequenceNumber
  simp only [hs, counted_incomingSeqNo, counted_state]
  cases habove : s.aboveExpected rx && s.state ≠ .pendingLogon with
  | true =>
    have hcond := habove
    simp only [aboveExpected, Bool.and_eq_true, decide_eq_true_eq] at habove
    rw [aboveExpected] at hcond
    rw [if_pos hcond]
    refine .inl ⟨?_, habove.2, rfl⟩
    simp [aboveExpected, habove.1]
  | false =>
    rw [aboveExpected] at habove
    rw [if_neg (ne_of_eq_of_ne habove Bool.false_ne_true)]
    cases hbelow : s.belowExpected rx with
    | true =>
      rw [belowExpected] at hbelow
      rw [if_pos hbelow, hsub]
      exact .inr (.inl ⟨rfl, _, _, rfl⟩)
    | false =>
      rw [belowExpected] at hbelow
      rw [if_neg (ne_of_eq_of_ne hbelow Bool.false_ne_true)]
      exact .inr (.inr ⟨rfl, rfl, rfl⟩)

theorem handleMessage_cases :
    (∃ code errorTag, (srv.sessions i).verdict rx env.utcNow = .rejected code errorTag ∧
      srv.handleMessage i p rx env =
        (srv.modifySession i fun s =>
          (s.received rx env.nowNanoseconds).setLastErrorTag errorTag).sendRejectMessage i code
          errorTag env.send) ∨
    ((srv.sessions i).verdict rx env.utcNow = .dropped ∧
      srv.handleMessage i p rx env = srv.modifySession i fun s =>
        (s.received rx env.nowNanoseconds).setLastErrorTag 0) ∨
    ((srv.sessions i).verdict rx env.utcNow = .valid ∧ (srv.sessions i).aboveExpected rx = true ∧
      (srv.sessions i).state ≠ .pendingLogon ∧
      srv.handleMessage i p rx env = srv.modifySession i fun s =>
        (s.counted rx env.nowNanoseconds).queueOutgoingResendRequest
          (s.sequenceStore.incomingSeqNo + 1) rx.seqNum) ∨
    ((srv.sessions i).verdict rx env.utcNow = .valid ∧ (srv.sessions i).belowExpected rx = true ∧
      ∃ sendLogout reason, srv.handleMessage i p rx env =
        (srv.modifySession i fun s => (s.counted rx env.nowNanoseconds).setIncomingSeqNo
          s.sequenceStore.incomingSeqNo).processConnectionClosure (some p) sendLogout reason
          env.send) ∨
    (passesChecks (srv.sessions i) rx env = true ∧
      srv.handleMessage i p rx env =
        (srv.modifySession i (·.counted rx env.nowNanoseconds)).processInSequence i p rx env) := by
  rw [handleMessage_eq]
  cases hv : (srv.sessions i).verdict rx env.utcNow with
  | rejected code errorTag => exact .inl ⟨code, errorTag, rfl, rfl⟩
  | dropped => exact .inr (.inl ⟨rfl, rfl⟩)
  | valid =>
    refine .inr (.inr ?_)
    have hs := modifySession_sessions_self srv i (·.counted rx env.nowNanoseconds)
    rcases processSequenceNumber_cases _ i p rx env hs with
      ⟨habove, hstate, h⟩ | ⟨hbelow, sendLogout, reason, h⟩ | ⟨habove, hbelow, h⟩
    · refine .inl ⟨rfl, habove, hstate, h.trans ?_⟩
      simp [modifySession]
    · refine .inr (.inl ⟨rfl, hbelow, sendLogout, reason, h.trans ?_⟩)
      simp [modifySession]
    · refine .inr (.inr ⟨?_, h⟩)
      rw [passesChecks, hv, habove, hbelow]
      rfl

theorem processInSequence_cases :
    ((srv.sessions i).throttles env.throttlerReachedLimit = true ∧
      ((srv.sessions i).settings.throttleAction = .disconnect ∧ srv.processInSequence i p rx env =
          (srv.modifySession i (·.passed rx env.throttlerReachedLimit)).processConnectionClosure
            (srv.connectors.getPeerIndex i) false [] {} ∨
        srv.processInSequence i p rx env =
          (srv.modifySession i (·.passed rx env.throttlerReachedLimit)).sendThrottleRejectMessage
            i rx.message env.send)) ∨
    ((srv.sessions i).throttles env.throttlerReachedLimit = false ∧
      srv.processInSequence i p rx env =
        (srv.modifySession i (·.passed rx env.throttlerReachedLimit)).dispatch i p rx.message
          env) := by
  have hsat : (if (srv.sessions i).resendRequestSatisfied rx then
      srv.modifySession i (·.setState .loggedOn) else srv) =
      srv.modifySession i (·.satisfied rx) := by
    by_cases h : (srv.sessions i).resendRequestSatisfied rx = true
    · simp [modifySession, satisfied, h]
    · simp [modifySession, satisfied, h]
  have hseq : ∀ throttled,
      (srv.modifySession i (·.satisfied rx)).processIncomingThrottling i rx.message env =
        throttled → srv.processInSequence i p rx env =
          if throttled.2 = false then throttled.1
          else throttled.1.dispatch i p rx.message env := by
    rintro _ rfl
    unfold processInSequence
    rw [hsat]
  rw [hseq _ rfl]
  -- Without a limit, and below it, `process_incoming_throttling` counts nothing.
  unfold processIncomingThrottling
  simp only [modifySession_sessions_self, satisfied_settings]
  by_cases hlimit : (srv.sessions i).settings.throttleLimit = 0
  · refine .inr ⟨by simp [throttles, hlimit], ?_⟩
    have hpassed : srv.modifySession i (·.passed rx env.throttlerReachedLimit) =
        srv.modifySession i (·.satisfied rx) := by
      simp [modifySession, passed, hlimit]
    rw [hpassed, if_pos hlimit]
    rfl
  · rw [if_neg hlimit]
    by_cases hreached : env.throttlerReachedLimit = true
    · have hpassed : srv.modifySession i (·.passed rx env.throttlerReachedLimit) =
          (srv.modifySession i (·.satisfied rx)).modifySession i
            (·.incrementIncomingThrottlerExceedCount) := by
        simp [modifySession, passed, hlimit, hreached]
      rw [hpassed, if_pos hreached]
      cases haction : (srv.sessions i).settings.throttleAction with
      | disconnect => exact .inl ⟨by simp [throttles, hlimit, hreached, haction], .inl ⟨rfl, rfl⟩⟩
      | reject => exact .inl ⟨by simp [throttles, hlimit, hreached, haction], .inr rfl⟩
      | wait => exact .inr ⟨by simp [throttles, haction], rfl⟩
      | none => exact .inr ⟨by simp [throttles, haction], rfl⟩
    · have hpassed : srv.modifySession i (·.passed rx env.throttlerReachedLimit) =
          srv.modifySession i (·.satisfied rx) := by
        simp [modifySession, passed, hreached]
      rw [hpassed, if_neg hreached]
      exact .inr ⟨by simp [throttles, hreached], rfl⟩

end Cases

/-! ## The ends of the `switch` on MsgType -/

/-- The callbacks that hand a message of the peer to the application. -/
def isApplicationCallback : Callback → Bool
  | .onNewOrder | .onCancelOrder | .onReplaceOrder | .onCustomMessage | .onSessionLevelReject
  | .onApplicationLevelReject => true
  | _ => false

/-- The types with a handler of their own in the server. -/
def sessionMsgTypes : List Bytes :=
  [[msgTypeLogon], [msgTypeLogout], [msgTypeSequenceReset], [msgTypeResendRequest],
    [msgTypeTestRequest], [msgTypeHeartbeat]]

section Dispatch

variable (srv : FixServer) (i p : Nat) (m : IncomingFixMessage) (env : ServerRxEnv)

theorem dispatch_cases :
    (m.getTagValue tagMsgType = [msgTypeLogon] ∧
      srv.dispatch i p m env = srv.processLogonRequest i p m env) ∨
    (m.getTagValue tagMsgType = [msgTypeLogout] ∧
      srv.dispatch i p m env = srv.processLogoutRequest i m env) ∨
    (m.getTagValue tagMsgType = [msgTypeSequenceReset] ∧
      srv.dispatch i p m env = srv.processSequenceReset i m env) ∨
    (m.getTagValue tagMsgType = [msgTypeResendRequest] ∧
      srv.dispatch i p m env =
        (srv.modifySession i (·.processResendRequest m)).callback i .onClientResendRequest
          (some m)) ∨
    (m.getTagValue tagMsgType = [msgTypeTestRequest] ∧
      srv.dispatch i p m env =
        (srv.modifySession i (·.processTestRequestMessage m)).callback i .onClientTestRequest
          (some m)) ∨
    (m.getTagValue tagMsgType = [msgTypeHeartbeat] ∧
      srv.dispatch i p m env = srv.callback i .onClientHeartbeat none) ∨
    (m.getTagValue tagMsgType ∉ sessionMsgTypes ∧
      ∃ cb, isApplicationCallback cb = true ∧
        srv.dispatch i p m env = srv.callback i cb (some m)) := by
  by_cases hlogon : m.getTagValue tagMsgType = [msgTypeLogon]
  · exact .inl ⟨hlogon, by simp only [dispatch, hlogon]; rfl⟩
  by_cases hlogout : m.getTagValue tagMsgType = [msgTypeLogout]
  · exact .inr (.inl ⟨hlogout, by simp only [dispatch, hlogout]; rfl⟩)
  by_cases hreset : m.getTagValue tagMsgType = [msgTypeSequenceReset]
  · exact .inr (.inr (.inl ⟨hreset, by simp only [dispatch, hreset]; rfl⟩))
  by_cases hresend : m.getTagValue tagMsgType = [msgTypeResendRequest]
  · exact .inr (.inr (.inr (.inl ⟨hresend, by simp only [dispatch, hresend]; rfl⟩)))
  by_cases htest : m.getTagValue tagMsgType = [msgTypeTestRequest]
  · exact .inr (.inr (.inr (.inr (.inl ⟨htest, by simp only [dispatch, htest]; rfl⟩))))
  by_cases hheart : m.getTagValue tagMsgType = [msgTypeHeartbeat]
  · exact .inr (.inr (.inr (.inr (.inr (.inl ⟨hheart, by simp only [dispatch, hheart]; rfl⟩)))))
  refine .inr (.inr (.inr (.inr (.inr (.inr ⟨by simp [sessionMsgTypes, *], ?_⟩)))))
  unfold dispatch
  split
  · rename_i c hc
    simp only [hc, List.cons.injEq, and_true] at hlogon hlogout hreset hresend htest hheart
    simp only [if_neg hlogon, if_neg hlogout, if_neg hreset, if_neg hresend, if_neg htest,
      if_neg hheart]
    split_ifs
    · exact ⟨.onNewOrder, rfl, rfl⟩
    · exact ⟨.onCancelOrder, rfl, rfl⟩
    · exact ⟨.onReplaceOrder, rfl, rfl⟩
    · exact ⟨.onSessionLevelReject, rfl, rfl⟩
    · exact ⟨.onApplicationLevelReject, rfl, rfl⟩
    · exact ⟨.onCustomMessage, rfl, rfl⟩
  · exact ⟨.onCustomMessage, rfl, rfl⟩

/-- The session for which the logon response is sent. -/
def authenticated (s : FixSession) (m : IncomingFixMessage) : FixSession :=
  (setHeartbeatInterval s m).record .authenticated

theorem authenticated_eq (s : FixSession) :
    ∃ x, authenticated s m = (s.setSettings x).record .authenticated :=
  ⟨_, rfl⟩

-- The fields are read off for a variable in place of the new settings: comparing the intervals
-- themselves would make Lean multiply them out.
@[simp] theorem authenticated_state (s : FixSession) : (authenticated s m).state = s.state := by
  obtain ⟨x, hx⟩ := authenticated_eq m s
  rw [hx]
  rfl

@[simp] theorem authenticated_trace (s : FixSession) :
    (authenticated s m).trace = s.trace ++ [.authenticated] := by
  obtain ⟨x, hx⟩ := authenticated_eq m s
  rw [hx]
  rfl

@[simp] theorem authenticated_sequenceStore (s : FixSession) :
    (authenticated s m).sequenceStore = s.sequenceStore := by
  obtain ⟨x, hx⟩ := authenticated_eq m s
  rw [hx]
  rfl

@[simp] theorem authenticated_incomingFixMessage (s : FixSession) :
    (authenticated s m).incomingFixMessage = s.incomingFixMessage := by
  obtain ⟨x, hx⟩ := authenticated_eq m s
  rw [hx]
  rfl

theorem authenticated_accounts (s : FixSession) : Accounts s (authenticated s m) :=
  ⟨[.authenticated], authenticated_trace m s, by simp [isOriginalSent]⟩

/-- The session behind the logon response. -/
def loggedOn (s : FixSession) : FixSession :=
  doPostLogonSequenceNumberCheck (s.setState .loggedOn)

@[simp] theorem loggedOn_settings (s : FixSession) : (loggedOn s).settings = s.settings := by
  unfold loggedOn doPostLogonSequenceNumberCheck
  dsimp only
  split_ifs <;> rfl

theorem doPostLogonSequenceNumberCheck_trace (s : FixSession) :
    (doPostLogonSequenceNumberCheck s).trace = s.trace := by
  unfold doPostLogonSequenceNumberCheck
  split
  · dsimp only
    split
    · split <;> rfl
    · rfl
  · rfl

theorem doPostLogonSequenceNumberCheck_state (s : FixSession) :
    (doPostLogonSequenceNumberCheck s).state = s.state := by
  unfold doPostLogonSequenceNumberCheck
  split
  · dsimp only
    split
    · split <;> rfl
    · rfl
  · rfl

theorem doPostLogonSequenceNumberCheck_outgoingSeqNo (s : FixSession) :
    (doPostLogonSequenceNumberCheck s).sequenceStore.outgoingSeqNo =
      s.sequenceStore.outgoingSeqNo := by
  unfold doPostLogonSequenceNumberCheck
  split
  · dsimp only
    split
    · split <;> rfl
    · rfl
  · rfl

theorem loggedOn_accounts (s : FixSession) : Accounts s (loggedOn s) :=
  (Accounts.setState s .loggedOn).trans
    (.of_eq (doPostLogonSequenceNumberCheck_trace _)
      (doPostLogonSequenceNumberCheck_outgoingSeqNo _))

theorem processLogonRequest_authenticated
    (h : (validateLogonRequest m && env.authenticated) = true) :
    srv.processLogonRequest i p m env =
      (((srv.modifySession i (authenticated · m)).sendLogonResponse i env.send).modifySession i
        loggedOn).callback i .onLogonRequest (some m) := by
  rw [Bool.and_eq_true] at h
  unfold processLogonRequest
  rw [if_neg (by simp [h.1]), if_neg (by simp [h.2])]
  rfl

theorem processLogonRequest_refused
    (h : (validateLogonRequest m && env.authenticated) = false) :
    srv.processLogonRequest i p m env = srv.onClientDisconnected p := by
  unfold processLogonRequest
  cases hv : validateLogonRequest m with
  | false => simp [processInvalidLogon, processConnectionClosure, closeConnection]
  | true =>
    have ha : env.authenticated = false := by simpa [hv] using h
    simp [ha, processInvalidLogon, processConnectionClosure, closeConnection]

end Dispatch

/-! ## Effects -/

section Steps

variable {srv : FixServer} {i : Nat}

theorem processConnectionClosure_quiet (peer : Option Nat) (reason : Bytes) (o : SendOutcome) :
    srv.processConnectionClosure peer false reason o = srv.closeConnection peer := rfl

theorem processConnectionClosure_steps (srv : FixServer) (peer : Option Nat)
    (hpeer : ∀ j, peer.bind srv.connectors.getSession = some j → j = i) (sendLogout : Bool)
    (reason : Bytes) (o : SendOutcome) :
    Steps i SendUpdate srv (srv.processConnectionClosure peer sendLogout reason o) := by
  unfold processConnectionClosure
  cases sendLogout with
  | false => exact closeConnection_steps srv i _ peer
  | true =>
    cases hj : peer.bind srv.connectors.getSession with
    | none => exact closeConnection_steps srv i _ peer
    | some j =>
      obtain rfl := hpeer j hj
      exact (sendOutgoingMessage_steps srv j _ o).trans (closeConnection_steps _ j _ peer)

/-- A list of sends is a list of updates that account for them. -/
theorem Steps.accounted {srv' : FixServer} (h : Steps i SendUpdate srv srv') :
    Steps i Accounts srv srv' :=
  h.mono fun _ _ => SendUpdate.accounts

theorem callback_steps (cb : Callback) (m : Option IncomingFixMessage) :
    Steps i Accounts srv (srv.callback i cb m) :=
  .one _ (.record rfl)

theorem processLogonRequest_steps (p : Nat) (m : IncomingFixMessage) (env : ServerRxEnv) :
    Steps i Accounts srv (srv.processLogonRequest i p m env) := by
  cases h : validateLogonRequest m && env.authenticated with
  | false =>
    rw [processLogonRequest_refused srv i p m env h]
    exact (Steps.refl srv).disconnect p
  | true =>
    rw [processLogonRequest_authenticated srv i p m env h]
    have hsent : Steps i Accounts srv
        ((srv.modifySession i (authenticated · m)).sendLogonResponse i env.send) :=
      (Steps.one _ (authenticated_accounts m _)).trans (sendOutgoingMessage_steps _ i _ _).accounted
    exact (hsent.modify _ (loggedOn_accounts _)).trans (callback_steps _ _)

theorem processLogoutRequest_steps (m : IncomingFixMessage) (env : ServerRxEnv) :
    Steps i Accounts srv (srv.processLogoutRequest i m env) := by
  unfold processLogoutRequest
  have hsent := (sendOutgoingMessage_steps srv i (buildLogoutMessage []) env.send).accounted
  exact (hsent.modify _ (.setState _ _)).trans (callback_steps _ _)

theorem processSequenceReset_steps (m : IncomingFixMessage) (env : ServerRxEnv) :
    Steps i Accounts srv (srv.processSequenceReset i m env) := by
  unfold processSequenceReset
  dsimp only
  have hreset : Steps i Accounts srv (srv.modifySession i fun _ =>
      ((srv.sessions i).processIncomingSequenceResetMessage m).1) :=
    .one _ (processIncomingSequenceResetMessage_accounts _ m)
  split
  · exact hreset.trans (sendOutgoingMessage_steps _ i _ _).accounted
  · exact hreset

theorem dispatch_steps (p : Nat) (m : IncomingFixMessage) (env : ServerRxEnv) :
    Steps i Accounts srv (srv.dispatch i p m env) := by
  rcases dispatch_cases srv i p m env with
    ⟨_, h⟩ | ⟨_, h⟩ | ⟨_, h⟩ | ⟨_, h⟩ | ⟨_, h⟩ | ⟨_, h⟩ | ⟨_, cb, _, h⟩
  · rw [h]
    exact processLogonRequest_steps p m env
  · rw [h]
    exact processLogoutRequest_steps m env
  · rw [h]
    exact processSequenceReset_steps m env
  · rw [h]
    exact (Steps.one _ (processResendRequest_accounts _ m)).trans (callback_steps _ _)
  · rw [h]
    exact (Steps.one _ (processTestRequestMessage_accounts _ m)).trans (callback_steps _ _)
  · rw [h]
    exact callback_steps _ _
  · rw [h]
    exact callback_steps _ _

theorem processInSequence_steps (p : Nat) (rx : RxMessage) (env : ServerRxEnv) :
    Steps i Accounts srv (srv.processInSequence i p rx env) := by
  have hpassed : Steps i Accounts srv
      (srv.modifySession i (·.passed rx env.throttlerReachedLimit)) :=
    .one _ (passed_accounts _ rx _)
  rcases processInSequence_cases srv i p rx env with ⟨_, ⟨_, h⟩ | h⟩ | ⟨_, h⟩
  · rw [h, processConnectionClosure_quiet]
    exact hpassed.trans (closeConnection_steps _ i _ _)
  · rw [h]
    exact hpassed.trans (sendOutgoingMessage_steps _ i _ _).accounted
  · rw [h]
    exact hpassed.trans (dispatch_steps p _ env)

theorem handleMessage_steps {p : Nat}
    (hp : ∀ j, srv.connectors.getSession p = some j → j = i) (rx : RxMessage)
    (env : ServerRxEnv) : Steps i Accounts srv (srv.handleMessage i p rx env) := by
  rcases handleMessage_cases srv i p rx env with
    ⟨code, errorTag, _, h⟩ | ⟨_, h⟩ | ⟨_, _, _, h⟩ | ⟨_, _, sendLogout, reason, h⟩ | ⟨_, h⟩
  · rw [h]
    refine (Steps.one _ (.of_eq ?_ ?_)).trans (sendOutgoingMessage_steps _ i _ _).accounted
    · rfl
    · rfl
  · rw [h]
    exact .one _ (.of_eq rfl rfl)
  · rw [h]
    exact .one _ (.of_eq rfl rfl)
  · rw [h]
    have hset : Steps i Accounts srv (srv.modifySession i fun s =>
        (s.counted rx env.nowNanoseconds).setIncomingSeqNo s.sequenceStore.incomingSeqNo) :=
      .one _ (.of_eq rfl rfl)
    exact hset.trans
      (processConnectionClosure_steps (srv.modifySession i _) (some p) hp _ _ _).accounted
  · rw [h]
    exact (Steps.one _ (.of_eq rfl rfl)).trans (processInSequence_steps p rx env)

end Steps

/-! ## Inside a read -/

/-- The connection that is read serves no session but the one the loop holds. -/
def RxLoop.Aligned (p : Nat) (l : RxLoop) : Prop :=
  ∀ j, l.server.connectors.getSession p = some j → l.session = some j

theorem processRxBuffer_aligned (srv : FixServer) (p : Nat) :
    RxLoop.Aligned p { server := srv, session := srv.connectors.getSession p } :=
  fun _ h => h

/-- The server between the look-up of the session and the processing of the message. -/
theorem target_some {p i : Nat} {l : RxLoop} {e : RxMessage × ServerRxEnv} {srv : FixServer}
    (h : l.target p e = (srv, some i)) :
    (l.session = some i ∧ srv = l.server) ∨
    (l.session = none ∧ l.server.findLogonSession e.1 e.2.scheduleValid = some i ∧
      srv = { l.server with connectors := l.server.connectors.update p i }.modifySession i
        (acceptedSession e.1.message)) := by
  unfold RxLoop.target at h
  cases hs : l.session with
  | some j =>
    rw [hs] at h
    obtain ⟨rfl, hj⟩ := Prod.mk.inj h
    exact .inl ⟨hj, rfl⟩
  | none =>
    rw [hs] at h
    unfold acceptSession at h
    cases hf : l.server.findLogonSession e.1 e.2.scheduleValid with
    | none => simp [hf] at h
    | some j =>
      simp only [hf, Prod.mk.injEq, Option.some.injEq] at h
      obtain ⟨rfl, rfl⟩ := h
      exact .inr ⟨rfl, rfl, rfl⟩

theorem target_none {p : Nat} {l : RxLoop} {e : RxMessage × ServerRxEnv} {srv : FixServer}
    (h : l.target p e = (srv, none)) :
    l.session = none ∧ l.server.findLogonSession e.1 e.2.scheduleValid = none ∧
      srv = l.server.onClientDisconnected p := by
  unfold RxLoop.target at h
  cases hs : l.session with
  | some j => simp [hs] at h
  | none =>
    rw [hs] at h
    unfold acceptSession at h
    cases hf : l.server.findLogonSession e.1 e.2.scheduleValid with
    | some j => simp [hf] at h
    | none =>
      simp only [hf, Prod.mk.injEq, and_true] at h
      exact ⟨rfl, rfl, h.symm⟩

theorem target_serves {p i : Nat} {l : RxLoop} {e : RxMessage × ServerRxEnv} {srv : FixServer}
    (hl : l.Aligned p) (h : l.target p e = (srv, some i)) (j : Nat)
    (hj : srv.connectors.getSession p = some j) : j = i := by
  rcases target_some h with ⟨hs, rfl⟩ | ⟨_, _, rfl⟩
  · exact Option.some.inj ((hl j hj).symm.trans hs)
  · simpa [FixServerConnectors.getSession, FixServerConnectors.update, eq_comm] using hj

theorem Steps.getSession {R : FixSession → FixSession → Prop} {srv srv' : FixServer} {i p j : Nat}
    (h : Steps i R srv srv') (hj : srv'.connectors.getSession p = some j) :
    srv.connectors.getSession p = some j := by
  induction h with
  | refl => exact hj
  | modify f _ _ ih => exact ih hj
  | send _ _ _ ih => exact ih hj
  | disconnect q _ ih => exact ih (onClientDisconnected_getSession _ q hj).2
  | closeInvalid _ ih => exact ih hj

theorem rxStep_aligned {p : Nat} {l : RxLoop} (hl : l.Aligned p)
    (e : RxMessage × ServerRxEnv) : (rxStep p l e).Aligned p := by
  unfold rxStep
  split
  · exact hl
  · split
    · rename_i srv h
      obtain ⟨_, _, rfl⟩ := target_none h
      intro j hj
      simp at hj
    · rename_i srv i h
      have hserves := target_serves hl h
      intro j hj
      exact congrArg some (hserves j ((handleMessage_steps hserves e.1 e.2).getSession hj)).symm

/-- The server of the examples: one session, which is disconnected, and a new connection 0. -/
def exampleServer : FixServer :=
  { sessions := fun _ =>
      { state := .disconnected
        sequenceStore := { outgoingSeqNo := 4, incomingSeqNo := 7 }
        settings := exampleSettings }
    sessionCount := 1
    connected := fun p => p = 0 }

end FixServer

end Llfix
