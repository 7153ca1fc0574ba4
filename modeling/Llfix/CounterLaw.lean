import Llfix.Server.Messages
import Llfix.Client.Messages

/-!
# The law of the incoming number

Which changes of the stored incoming number one received message may cause: one step for the
message that was expected, the jump of an accepted SequenceReset, and the reset of a logon. The
engines increment first and undo afterwards; here their net effect is computed, and from it the
exact condition under which a message obeys the law.

Results:
1. `FixServer.handleMessage_incomingSeqNo`, `FixClient.handleMessage_incomingSeqNo`: the number
   after a message, as a function of the session and the message before it.
2. `FixServer.counterLaw_numberAfter`, `FixClient.counterLaw_numberAfter`: that number obeys the
   law exactly under `InLawConditions`.
3. `counterLaw_iff`: the law for both engines, the acceptance of a logon included.
-/

namespace Llfix

open FixSession

/-! ## The law -/

/-- The number a SequenceReset asks for. -/
def RxMessage.newSeqNo (rx : RxMessage) : UInt32 := rx.message.getTagValueAsUInt32 tagNewSeqNo

/-- The incoming number may go from `k` to `k'`: it stays, or a valid message was the expected
one, or a SequenceReset was accepted and does not take it back. -/
def CounterLaw (rx : RxMessage) (valid accepted : Bool) (k k' : UInt32) : Prop :=
  k' = k ∨ (valid = true ∧ rx.seqNum = k + 1 ∧ k' = k + 1) ∨
    (accepted = true ∧ k' = rx.newSeqNo - 1 ∧ k ≤ k')

/-- What the law needs of a message behind the sequence checks: an accepted SequenceReset meets
no number at the end of its range, any other message is the expected one or `undone`. -/
def InLawConditions (rx : RxMessage) (accepted undone : Bool) (k : UInt32) : Prop :=
  if accepted then k ≠ 4294967295 ∨ (rx.seqNum = k + 1 ∧ rx.newSeqNo = k + 2)
  else rx.seqNum = k + 1 ∨ undone = true

theorem counterLaw_unchanged (rx : RxMessage) (valid accepted : Bool) (k : UInt32) :
    CounterLaw rx valid accepted k k :=
  .inl rfl

/-- A jump obeys the law except at the end of the range. -/
theorem counterLaw_jump_iff {rx : RxMessage} {k : UInt32}
    (h : acceptsSequenceReset (k + 1) rx.message = true) :
    CounterLaw rx true true k (rx.newSeqNo - 1) ↔
      k ≠ 4294967295 ∨ (rx.seqNum = k + 1 ∧ rx.newSeqNo = k + 2) := by
  simp only [acceptsSequenceReset, Bool.and_eq_true, decide_eq_true_eq] at h
  obtain ⟨⟨_, hzero⟩, hlt⟩ := h
  change rx.newSeqNo ≠ 0 at hzero
  change k + 1 < rx.newSeqNo at hlt
  simp only [CounterLaw, true_and]
  constructor
  · intro h
    by_cases hk : k = 4294967295
    · subst hk
      refine .inr ?_
      rcases h with h | ⟨hseq, h⟩ | h
      · exact absurd h (by grind)
      · exact ⟨hseq, by grind⟩
      · exact absurd h (by grind)
    · exact .inl hk
  · rintro (hk | ⟨hseq, hnew⟩)
    · exact .inr (.inr (by grind))
    · exact .inr (.inl ⟨hseq, by grind⟩)

/-- One step obeys the law for the expected message only. -/
theorem counterLaw_step_iff {rx : RxMessage} {k : UInt32} :
    CounterLaw rx true false k (k + 1) ↔ rx.seqNum = k + 1 := by
  simp only [CounterLaw, true_and, Bool.false_eq_true, false_and, or_false, and_true]
  constructor
  · rintro (h | h)
    · exact absurd h (by grind)
    · exact h
  · exact .inr

namespace FixServer

/-! ## The number after a message, on the server -/

section

variable (srv : FixServer) (i p : Nat) (m : IncomingFixMessage) (env : ServerRxEnv)

theorem sendOutgoingMessage_incomingSeqNo (j : Nat) (message : OutgoingFixMessage)
    (o : SendOutcome) :
    ((srv.sendOutgoingMessage i message o).sessions j).sequenceStore.incomingSeqNo =
      (srv.sessions j).sequenceStore.incomingSeqNo :=
  incomingSeqNo_of_core ((sendOutgoingMessage_steps srv i message o).core j)

theorem closeConnection_core (j : Nat) (peer : Option Nat) :
    ((srv.closeConnection peer).sessions j).core = (srv.sessions j).core :=
  (closeConnection_steps srv 0 SendUpdate peer).core j

theorem processConnectionClosure_core (j : Nat) (peer : Option Nat) (sendLogout : Bool)
    (reason : Bytes) (o : SendOutcome) :
    ((srv.processConnectionClosure peer sendLogout reason o).sessions j).core =
      (srv.sessions j).core := by
  unfold processConnectionClosure
  dsimp only
  rw [closeConnection_core]
  split
  · split
    · exact (sendOutgoingMessage_steps srv _ _ o).core j
    · rfl
  · rfl

theorem callback_incomingSeqNo (cb : Callback) (message : Option IncomingFixMessage) :
    ((srv.callback i cb message).sessions i).sequenceStore.incomingSeqNo =
      (srv.sessions i).sequenceStore.incomingSeqNo := by
  simp [callback]

/-- The number behind the `switch`, from the one in front of it. -/
def numberAfterDispatch (stored : UInt32) : UInt32 :=
  if m.getTagValue tagMsgType = [msgTypeSequenceReset] ∧ acceptsSequenceReset stored m = true then
    m.getTagValueAsUInt32 tagNewSeqNo - 1
  else if m.getTagValue tagMsgType = [msgTypeLogon] ∧
      (validateLogonRequest m && env.authenticated) = true ∧
      stored < m.getTagValueAsUInt32 tagMsgSeqNum then stored - 1
  else stored

theorem loggedOn_incomingSeqNo {s : FixSession}
    (htype : s.incomingFixMessage.getTagValue tagMsgType = [msgTypeLogon]) :
    (loggedOn s).sequenceStore.incomingSeqNo =
      if s.sequenceStore.incomingSeqNo <
          s.incomingFixMessage.getTagValueAsUInt32 tagMsgSeqNum then
        s.sequenceStore.incomingSeqNo - 1
      else s.sequenceStore.incomingSeqNo := by
  have hhard : isAHardSequenceResetMessage (s.setState .loggedOn).incomingFixMessage = false :=
    isAHardSequenceResetMessage_logon htype
  unfold loggedOn doPostLogonSequenceNumberCheck
  rw [if_pos (setState_state s _)]
  dsimp only
  rw [if_pos hhard]
  split
  · rename_i h
    exact (if_pos h).symm
  · rename_i h
    exact (if_neg h).symm

theorem processLogonRequest_incomingSeqNo (hm : (srv.sessions i).incomingFixMessage = m)
    (htype : m.getTagValue tagMsgType = [msgTypeLogon])
    (hauth : (validateLogonRequest m && env.authenticated) = true) :
    ((srv.processLogonRequest i p m env).sessions i).sequenceStore.incomingSeqNo =
      if (srv.sessions i).sequenceStore.incomingSeqNo < m.getTagValueAsUInt32 tagMsgSeqNum then
        (srv.sessions i).sequenceStore.incomingSeqNo - 1
      else (srv.sessions i).sequenceStore.incomingSeqNo := by
  have hcore : (((srv.modifySession i (authenticated · m)).sendLogonResponse i
      env.send).sessions i).core = (authenticated (srv.sessions i) m).core := by
    rw [← modifySession_sessions_self srv i (authenticated · m)]
    exact (sendOutgoingMessage_steps _ i _ env.send).core i
  have hnumber := incomingSeqNo_of_core hcore
  have hmessage := incomingFixMessage_of_core hcore
  rw [authenticated_incomingFixMessage, hm] at hmessage
  rw [authenticated_sequenceStore] at hnumber
  rw [processLogonRequest_authenticated srv i p m env hauth, callback_incomingSeqNo,
    modifySession_sessions_self, loggedOn_incomingSeqNo (by rw [hmessage, htype]), hmessage,
    hnumber]

theorem processSequenceReset_incomingSeqNo :
    ((srv.processSequenceReset i m env).sessions i).sequenceStore.incomingSeqNo =
      if acceptsSequenceReset (srv.sessions i).sequenceStore.incomingSeqNo m then
        m.getTagValueAsUInt32 tagNewSeqNo - 1
      else (srv.sessions i).sequenceStore.incomingSeqNo := by
  unfold processSequenceReset
  cases h : acceptsSequenceReset (srv.sessions i).sequenceStore.incomingSeqNo m with
  | true =>
    rw [processIncomingSequenceResetMessage_accepted h]
    simp [setIncomingSeqNo, SequenceStore.setIncomingSeqNo]
  | false =>
    rw [processIncomingSequenceResetMessage_refused h]
    dsimp only
    split
    · rw [sendRejectMessage, sendOutgoingMessage_incomingSeqNo]
      simp
    · simp

theorem numberAfterDispatch_other (stored : UInt32)
    (hlogon : m.getTagValue tagMsgType ≠ [msgTypeLogon])
    (hreset : m.getTagValue tagMsgType ≠ [msgTypeSequenceReset]) :
    numberAfterDispatch m env stored = stored := by
  simp [numberAfterDispatch, hlogon, hreset]

theorem dispatch_incomingSeqNo (hm : (srv.sessions i).incomingFixMessage = m) :
    ((srv.dispatch i p m env).sessions i).sequenceStore.incomingSeqNo =
      numberAfterDispatch m env (srv.sessions i).sequenceStore.incomingSeqNo := by
  rcases dispatch_cases srv i p m env with
    ⟨htype, h⟩ | ⟨htype, h⟩ | ⟨htype, h⟩ | ⟨htype, h⟩ | ⟨htype, h⟩ | ⟨htype, h⟩ |
      ⟨htype, cb, _, h⟩
  · have hne : ([msgTypeLogon] : Bytes) ≠ [msgTypeSequenceReset] := by decide
    rw [h, numberAfterDispatch, if_neg (by simp [htype, hne])]
    cases hauth : validateLogonRequest m && env.authenticated with
    | true =>
      rw [processLogonRequest_incomingSeqNo srv i p m env hm htype hauth]
      simp [htype]
    | false =>
      rw [processLogonRequest_refused srv i p m env hauth, if_neg (by simp)]
      exact incomingSeqNo_of_core (closeConnection_core srv i (some p))
  · rw [h, numberAfterDispatch_other m env _ (by rw [htype]; decide) (by rw [htype]; decide),
      processLogoutRequest, callback_incomingSeqNo, modifySession_sessions_self,
      setState_sequenceStore, sendLogoutMessage, sendOutgoingMessage_incomingSeqNo]
  · have hne : ([msgTypeSequenceReset] : Bytes) ≠ [msgTypeLogon] := by decide
    rw [h, processSequenceReset_incomingSeqNo, numberAfterDispatch]
    simp [htype, hne]
  · rw [h, numberAfterDispatch_other m env _ (by rw [htype]; decide) (by rw [htype]; decide),
      callback_incomingSeqNo, modifySession_sessions_self, processResendRequest_sequenceStore]
  · rw [h, numberAfterDispatch_other m env _ (by rw [htype]; decide) (by rw [htype]; decide),
      callback_incomingSeqNo, modifySession_sessions_self,
      processTestRequestMessage_sequenceStore]
  · rw [h, numberAfterDispatch_other m env _ (by rw [htype]; decide) (by rw [htype]; decide),
      callback_incomingSeqNo]
  · simp only [sessionMsgTypes, List.mem_cons, not_or] at htype
    rw [h, numberAfterDispatch_other m env _ htype.1 htype.2.2.1, callback_incomingSeqNo]

/-- The number after a message, from the session before it. -/
def numberAfter (s : FixSession) (rx : RxMessage) (env : ServerRxEnv) : UInt32 :=
  let k := s.sequenceStore.incomingSeqNo
  if passesChecks s rx env = false then k
  else if s.throttles env.throttlerReachedLimit then k + 1
  else numberAfterDispatch rx.message env (k + 1)

theorem handleMessage_incomingSeqNo (rx : RxMessage) :
    ((srv.handleMessage i p rx env).sessions i).sequenceStore.incomingSeqNo =
      numberAfter (srv.sessions i) rx env := by
  unfold numberAfter
  dsimp only
  rcases handleMessage_cases srv i p rx env with
    ⟨code, errorTag, hv, h⟩ | ⟨hv, h⟩ | ⟨_, habove, hstate, h⟩ |
      ⟨_, hbelow, sendLogout, reason, h⟩ | ⟨hpass, h⟩
  · rw [h, if_pos (by simp [passesChecks, hv]), sendRejectMessage,
      sendOutgoingMessage_incomingSeqNo, modifySession_sessions_self]
    rfl
  · rw [h, if_pos (by simp [passesChecks, hv]), modifySession_sessions_self]
    rfl
  · rw [h, if_pos (by simp [passesChecks, habove, hstate]), modifySession_sessions_self]
    change _ + 1 - 1 = _
    grind
  · rw [h, if_pos (by simp [passesChecks, hbelow]),
      incomingSeqNo_of_core (processConnectionClosure_core _ i _ _ _ _),
      modifySession_sessions_self]
    rfl
  · rw [h, if_neg (by simp [hpass])]
    have hthrottles : ((srv.sessions i).counted rx env.nowNanoseconds).throttles
        env.throttlerReachedLimit = (srv.sessions i).throttles env.throttlerReachedLimit := rfl
    rcases processInSequence_cases (srv.modifySession i (·.counted rx env.nowNanoseconds)) i p rx
        env with ⟨ht, ⟨_, h⟩ | h⟩ | ⟨ht, h⟩
    · rw [modifySession_sessions_self, hthrottles] at ht
      rw [h, if_pos ht, incomingSeqNo_of_core (processConnectionClosure_core _ i _ _ _ _)]
      simp
    · rw [modifySession_sessions_self, hthrottles] at ht
      rw [h, if_pos ht, sendThrottleRejectMessage, sendOutgoingMessage_incomingSeqNo]
      simp
    · rw [modifySession_sessions_self, hthrottles] at ht
      rw [h, if_neg (by simp [ht]), dispatch_incomingSeqNo _ i p _ env (by simp)]
      simp

end

/-- Processing a message for session `i` keeps the core of every other session. -/
theorem handleMessage_core_of_ne (srv : FixServer) {i j : Nat} (hj : j ≠ i) (p : Nat)
    (rx : RxMessage) (env : ServerRxEnv) :
    ((srv.handleMessage i p rx env).sessions j).core = (srv.sessions j).core := by
  rcases handleMessage_cases srv i p rx env with
    ⟨code, errorTag, hv, h⟩ | ⟨hv, h⟩ | ⟨_, habove, hstate, h⟩ |
      ⟨_, hbelow, sendLogout, reason, h⟩ | ⟨hpass, h⟩
  · rw [h, sendRejectMessage, (sendOutgoingMessage_steps _ i _ _).core j,
      modifySession_sessions_ne _ hj]
  · rw [h, modifySession_sessions_ne _ hj]
  · rw [h, modifySession_sessions_ne _ hj]
  · rw [h, processConnectionClosure_core, modifySession_sessions_ne _ hj]
  · rw [h, (processInSequence_steps p rx env).core_of_ne hj, modifySession_sessions_ne _ hj]

/-- So it keeps their numbers. -/
theorem handleMessage_incomingSeqNo_of_ne (srv : FixServer) {i j : Nat} (hj : j ≠ i) (p : Nat)
    (rx : RxMessage) (env : ServerRxEnv) :
    ((srv.handleMessage i p rx env).sessions j).sequenceStore.incomingSeqNo =
      (srv.sessions j).sequenceStore.incomingSeqNo :=
  incomingSeqNo_of_core (handleMessage_core_of_ne srv hj p rx env)

/-! ## The law, on the server -/

/-- The message is a SequenceReset that `process_incoming_sequence_reset_message` accepts. -/
def acceptedReset (s : FixSession) (rx : RxMessage) (env : ServerRxEnv) : Bool :=
  reachesDispatch s rx env && rx.msgType = [msgTypeSequenceReset] &&
    acceptsSequenceReset (s.sequenceStore.incomingSeqNo + 1) rx.message

/-- The message is a Logon above the expected number that is authenticated. It queues a resend
request, which takes its number back. -/
def undoneLogon (s : FixSession) (rx : RxMessage) (env : ServerRxEnv) : Bool :=
  reachesDispatch s rx env && authenticates rx env && s.aboveExpected rx

theorem verdict_of_passesChecks {s : FixSession} {rx : RxMessage} {env : ServerRxEnv}
    (h : passesChecks s rx env = true) : s.verdict rx env.utcNow = .valid := by
  simp only [passesChecks, Bool.and_eq_true, decide_eq_true_eq] at h
  exact h.1.1

/-- The number behind the `switch` in the three cases of the law. -/
theorem numberAfterDispatch_accepted {s : FixSession} {rx : RxMessage} {env : ServerRxEnv}
    (h : acceptedReset s rx env = true) :
    numberAfterDispatch rx.message env (s.sequenceStore.incomingSeqNo + 1) = rx.newSeqNo - 1 := by
  simp only [acceptedReset, Bool.and_eq_true, decide_eq_true_eq] at h
  exact if_pos ⟨h.1.2, h.2⟩

theorem numberAfterDispatch_undone {s : FixSession} {rx : RxMessage} {env : ServerRxEnv}
    (h : undoneLogon s rx env = true) :
    numberAfterDispatch rx.message env (s.sequenceStore.incomingSeqNo + 1) =
      s.sequenceStore.incomingSeqNo := by
  simp only [undoneLogon, authenticates, aboveExpected, Bool.and_eq_true, decide_eq_true_eq] at h
  obtain ⟨⟨_, ⟨htype, hvalid⟩, hauth⟩, habove, _⟩ := h
  change rx.message.getTagValue tagMsgType = [msgTypeLogon] at htype
  have hne : ([msgTypeLogon] : Bytes) ≠ [msgTypeSequenceReset] := by decide
  rw [numberAfterDispatch, if_neg (by simp [htype, hne]),
    if_pos ⟨htype, by simp [hvalid, hauth], habove⟩]
  grind

theorem numberAfterDispatch_counted {s : FixSession} {rx : RxMessage} {env : ServerRxEnv}
    (hreach : reachesDispatch s rx env = true) (haccepted : acceptedReset s rx env = false)
    (hundone : undoneLogon s rx env = false) :
    numberAfterDispatch rx.message env (s.sequenceStore.incomingSeqNo + 1) =
      s.sequenceStore.incomingSeqNo + 1 := by
  rw [numberAfterDispatch, if_neg, if_neg]
  · rintro ⟨htype, hauth, habove⟩
    have hhard := isAHardSequenceResetMessage_logon htype
    change rx.msgType = [msgTypeLogon] at htype
    rw [Bool.and_eq_true] at hauth
    change s.sequenceStore.incomingSeqNo + 1 < rx.seqNum at habove
    simp [undoneLogon, authenticates, aboveExpected, hreach, htype, hauth, habove, hhard] at hundone
  · rintro ⟨htype, haccepts⟩
    change rx.msgType = [msgTypeSequenceReset] at htype
    simp [acceptedReset, hreach, htype, haccepts] at haccepted

theorem counterLaw_numberAfter (s : FixSession) (rx : RxMessage) (env : ServerRxEnv) :
    CounterLaw rx (s.verdict rx env.utcNow = .valid) (acceptedReset s rx env)
        s.sequenceStore.incomingSeqNo (numberAfter s rx env) ↔
      (passesChecks s rx env = true →
        InLawConditions rx (acceptedReset s rx env) (undoneLogon s rx env)
          s.sequenceStore.incomingSeqNo) := by
  unfold numberAfter
  dsimp only
  cases hpass : passesChecks s rx env with
  | false => simp [counterLaw_unchanged]
  | true =>
    have hvalid : decide (s.verdict rx env.utcNow = .valid) = true :=
      decide_eq_true (verdict_of_passesChecks hpass)
    rw [hvalid, if_neg (by simp)]
    simp only [true_implies]
    cases ht : s.throttles env.throttlerReachedLimit with
    | true =>
      have haccepted : acceptedReset s rx env = false := by
        simp [acceptedReset, reachesDispatch, ht]
      have hundone : undoneLogon s rx env = false := by simp [undoneLogon, reachesDispatch, ht]
      rw [if_pos rfl, haccepted, hundone, counterLaw_step_iff]
      simp [InLawConditions]
    | false =>
      have hreach : reachesDispatch s rx env = true := by simp [reachesDispatch, hpass, ht]
      rw [if_neg (by simp)]
      cases haccepted : acceptedReset s rx env with
      | true =>
        have haccepts := haccepted
        simp only [acceptedReset, Bool.and_eq_true] at haccepts
        rw [numberAfterDispatch_accepted haccepted, counterLaw_jump_iff haccepts.2]
        simp [InLawConditions]
      | false =>
        cases hundone : undoneLogon s rx env with
        | true =>
          rw [numberAfterDispatch_undone hundone]
          simp [InLawConditions, counterLaw_unchanged]
        | false =>
          rw [numberAfterDispatch_counted hreach haccepted hundone, counterLaw_step_iff]
          simp [InLawConditions]

/-- The stored incoming number that the law starts from: 0 when the message is a Logon that
`accept_session` accepts with 141=Y. -/
def lawBase (l : RxLoop) (e : RxMessage × ServerRxEnv) (j : Nat) : UInt32 :=
  if l.session = none ∧ l.server.findLogonSession e.1 e.2.scheduleValid = some j ∧
      resetsSequenceNumbers e.1.message = true then 0
  else (l.server.sessions j).sequenceStore.incomingSeqNo

/-- One message of a read obeys the law: the session it is for moves as the law says, every other
session keeps its number. -/
def ObeysCounterLaw (p : Nat) (l : RxLoop) (e : RxMessage × ServerRxEnv) : Prop :=
  ∀ j,
    let s := (l.target p e).1.sessions j
    let after := ((rxStep p l e).server.sessions j).sequenceStore.incomingSeqNo
    if (l.target p e).2 = some j then
      CounterLaw e.1 (s.verdict e.1 e.2.utcNow = .valid) (acceptedReset s e.1 e.2) (lawBase l e j)
        after
    else after = (l.server.sessions j).sequenceStore.incomingSeqNo

/-- The condition for it, on the session that the message is for. -/
def MeetsLawConditions (p : Nat) (l : RxLoop) (e : RxMessage × ServerRxEnv) : Prop :=
  ∀ i, (l.target p e).2 = some i →
    let s := (l.target p e).1.sessions i
    passesChecks s e.1 e.2 = true →
      InLawConditions e.1 (acceptedReset s e.1 e.2) (undoneLogon s e.1 e.2)
        s.sequenceStore.incomingSeqNo

/-- Up to the processing of the message only an accepted logon moves a number. -/
theorem target_incomingSeqNo (p : Nat) (l : RxLoop) (e : RxMessage × ServerRxEnv) (j : Nat) :
    (((l.target p e).1.sessions j).sequenceStore.incomingSeqNo) =
      if (l.target p e).2 = some j then lawBase l e j
      else (l.server.sessions j).sequenceStore.incomingSeqNo := by
  cases htarget : l.target p e with
  | mk srv session =>
    cases session with
    | none =>
      obtain ⟨_, _, rfl⟩ := target_none htarget
      exact incomingSeqNo_of_core (closeConnection_core l.server j (some p))
    | some i =>
      rcases target_some htarget with ⟨hs, rfl⟩ | ⟨hs, hfind, rfl⟩
      · simp [lawBase, hs]
      · by_cases hj : j = i
        · subst hj
          simp only [modifySession_sessions_self, if_true, lawBase, hs, hfind, true_and]
          unfold acceptedSession
          cases resetsSequenceNumbers e.1.message with
          | true => rfl
          | false => rfl
        · rw [modifySession_sessions_ne _ hj, if_neg (by simp [Ne.symm hj])]

theorem rxStep_none {p : Nat} {l : RxLoop} {e : RxMessage × ServerRxEnv} {srv : FixServer}
    (hl : l.returned = false) (h : l.target p e = (srv, none)) :
    (rxStep p l e).server = srv := by
  simp [rxStep, hl, h]

theorem rxStep_some {p i : Nat} {l : RxLoop} {e : RxMessage × ServerRxEnv} {srv : FixServer}
    (hl : l.returned = false) (h : l.target p e = (srv, some i)) :
    (rxStep p l e).server = srv.handleMessage i p e.1 e.2 := by
  simp [rxStep, hl, h]

theorem obeysCounterLaw_iff {p : Nat} {l : RxLoop} (hl : l.returned = false)
    (e : RxMessage × ServerRxEnv) : ObeysCounterLaw p l e ↔ MeetsLawConditions p l e := by
  have hbase := target_incomingSeqNo p l e
  unfold ObeysCounterLaw MeetsLawConditions
  dsimp only
  cases htarget : l.target p e with
  | mk srv session =>
    rw [htarget] at hbase
    cases session with
    | none =>
      rw [rxStep_none hl htarget]
      simpa using hbase
    | some i =>
      rw [rxStep_some hl htarget]
      have hi : (srv.sessions i).sequenceStore.incomingSeqNo = lawBase l e i := by
        simpa using hbase i
      constructor
      · rintro h j hj
        obtain rfl := Option.some.inj hj
        have hlaw := h i
        rw [if_pos rfl, handleMessage_incomingSeqNo, ← hi, counterLaw_numberAfter] at hlaw
        exact hlaw
      · intro h j
        by_cases hj : j = i
        · subst hj
          rw [if_pos rfl, handleMessage_incomingSeqNo, ← hi, counterLaw_numberAfter]
          exact h j rfl
        · have hne : some i ≠ some j := fun hc => hj (Option.some.inj hc).symm
          have hj' := hbase j
          rw [if_neg hne] at hj' ⊢
          rw [handleMessage_incomingSeqNo_of_ne srv hj, hj']

end FixServer

namespace FixClient

/-! ## The client -/

section

variable (c : FixClient) (rx : RxMessage) (env : ClientRxEnv)

theorem sendOutgoingMessage_incomingSeqNo (message : OutgoingFixMessage) (o : SendOutcome) :
    (c.sendOutgoingMessage message o).session.sequenceStore.incomingSeqNo =
      c.session.sequenceStore.incomingSeqNo :=
  incomingSeqNo_of_core (sendOutgoingMessage_core c message o)

/-- The message is a SequenceReset that `process_incoming_sequence_reset_message` accepts. -/
def acceptedReset (s : FixSession) (rx : RxMessage) (env : ClientRxEnv) : Bool :=
  passesChecks s rx env && rx.msgType = [msgTypeSequenceReset] &&
    acceptsSequenceReset (s.sequenceStore.incomingSeqNo + 1) rx.message

/-- The number after a message, from the session before it. -/
def numberAfter (s : FixSession) (rx : RxMessage) (env : ClientRxEnv) : UInt32 :=
  if passesChecks s rx env = false then s.sequenceStore.incomingSeqNo
  else if acceptedReset s rx env then rx.newSeqNo - 1
  else s.sequenceStore.incomingSeqNo + 1

theorem processSequenceReset_incomingSeqNo :
    (c.processSequenceReset rx.message env).session.sequenceStore.incomingSeqNo =
      if acceptsSequenceReset c.session.sequenceStore.incomingSeqNo rx.message then
        rx.newSeqNo - 1
      else c.session.sequenceStore.incomingSeqNo := by
  unfold processSequenceReset
  cases h : acceptsSequenceReset c.session.sequenceStore.incomingSeqNo rx.message with
  | true =>
    rw [processIncomingSequenceResetMessage_accepted h]
    simp [setIncomingSeqNo, SequenceStore.setIncomingSeqNo, RxMessage.newSeqNo]
  | false =>
    rw [processIncomingSequenceResetMessage_refused h]
    dsimp only
    split
    · rw [sendRejectMessage, sendOutgoingMessage_incomingSeqNo]
      simp
    · simp

theorem dispatch_incomingSeqNo :
    (c.dispatch rx.message env).session.sequenceStore.incomingSeqNo =
      if rx.msgType = [msgTypeSequenceReset] ∧
          acceptsSequenceReset c.session.sequenceStore.incomingSeqNo rx.message = true then
        rx.newSeqNo - 1
      else c.session.sequenceStore.incomingSeqNo := by
  have hother : ∀ {t : UInt8}, t ≠ msgTypeSequenceReset →
      rx.message.getTagValue tagMsgType = [t] →
      ¬ (rx.msgType = [msgTypeSequenceReset] ∧
        acceptsSequenceReset c.session.sequenceStore.incomingSeqNo rx.message = true) := by
    rintro t ht htype ⟨hreset, _⟩
    exact ht (List.cons.inj (htype.symm.trans hreset)).1
  rcases dispatch_cases c rx.message env with
    ⟨htype, h⟩ | ⟨htype, h⟩ | ⟨htype, h⟩ | ⟨htype, h⟩ | ⟨htype, h⟩ | ⟨cb, _, h, htype⟩ |
      ⟨htype, cb, m, _, h⟩
  · rw [h, if_neg (hother (by decide) htype)]
    rfl
  · rw [h, if_neg (hother (by decide) htype), processLogoutResponse]
    split
    · rfl
    · rfl
  · rw [h, processSequenceReset_incomingSeqNo]
    have hreset : rx.msgType = [msgTypeSequenceReset] := htype
    simp [hreset]
  · rw [h, if_neg (hother (by decide) htype)]
    exact congrArg (·.incomingSeqNo) (processResendRequest_sequenceStore c.session rx.message)
  · rw [h, if_neg (hother (by decide) htype)]
    exact congrArg (·.incomingSeqNo)
      (processTestRequestMessage_sequenceStore c.session rx.message)
  · rw [h, if_neg (htype.elim (hother (by decide)) (hother (by decide))), processReject]
    split
    · rfl
    · rfl
  · have hreset : rx.msgType ≠ [msgTypeSequenceReset] := fun hc =>
      htype (by simp [sessionMsgTypes, RxMessage.msgType] at hc ⊢; simp [hc])
    rw [h, if_neg (fun hc => hreset hc.1)]
    rfl

theorem handleMessage_incomingSeqNo :
    (c.handleMessage rx env).session.sequenceStore.incomingSeqNo =
      numberAfter c.session rx env := by
  unfold numberAfter
  rcases handleMessage_cases c rx env with
    ⟨code, errorTag, hv, h⟩ | ⟨hv, h⟩ | ⟨_, habove, h⟩ | ⟨_, hbelow, h⟩ | ⟨hpass, h⟩
  · rw [h, if_pos (by simp [passesChecks, hv]), sendRejectMessage,
      sendOutgoingMessage_incomingSeqNo]
    rfl
  · rw [h, if_pos (by simp [passesChecks, hv])]
    rfl
  · rw [h, if_pos (by simp [passesChecks, habove])]
    change _ + 1 - 1 = _
    grind
  · rw [h, if_pos (by simp [passesChecks, hbelow])]
    rfl
  · rw [h, if_neg (by simp [hpass]), dispatch_incomingSeqNo]
    simp [acceptedReset, hpass]

end

theorem counterLaw_numberAfter (s : FixSession) (rx : RxMessage) (env : ClientRxEnv) :
    CounterLaw rx (s.verdict rx env.utcNow = .valid) (acceptedReset s rx env)
        s.sequenceStore.incomingSeqNo (numberAfter s rx env) ↔
      (passesChecks s rx env = true →
        InLawConditions rx (acceptedReset s rx env) false s.sequenceStore.incomingSeqNo) := by
  unfold numberAfter
  cases hpass : passesChecks s rx env with
  | false => simp [counterLaw_unchanged]
  | true =>
    have hvalid : decide (s.verdict rx env.utcNow = .valid) = true := by
      simp only [passesChecks, Bool.and_eq_true] at hpass
      exact hpass.1.1
    rw [hvalid, if_neg (by simp)]
    simp only [true_implies]
    cases haccepted : acceptedReset s rx env with
    | true =>
      have haccepts := haccepted
      simp only [acceptedReset, Bool.and_eq_true] at haccepts
      rw [if_pos rfl, counterLaw_jump_iff haccepts.2]
      simp [InLawConditions]
    | false =>
      rw [if_neg (by simp), counterLaw_step_iff]
      simp [InLawConditions]

/-- One message obeys the law on the client. -/
def ObeysCounterLaw (c : FixClient) (e : RxMessage × ClientRxEnv) : Prop :=
  CounterLaw e.1 (c.session.verdict e.1 e.2.utcNow = .valid) (acceptedReset c.session e.1 e.2)
    c.session.sequenceStore.incomingSeqNo
    (c.handleMessage e.1 e.2).session.sequenceStore.incomingSeqNo

/-- The condition for it. -/
def MeetsLawConditions (c : FixClient) (e : RxMessage × ClientRxEnv) : Prop :=
  passesChecks c.session e.1 e.2 = true →
    InLawConditions e.1 (acceptedReset c.session e.1 e.2) false
      c.session.sequenceStore.incomingSeqNo

theorem obeysCounterLaw_iff (c : FixClient) (e : RxMessage × ClientRxEnv) :
    ObeysCounterLaw c e ↔ MeetsLawConditions c e := by
  unfold ObeysCounterLaw MeetsLawConditions
  rw [handleMessage_incomingSeqNo]
  exact counterLaw_numberAfter c.session e.1 e.2

end FixClient

/-! ## Both engines -/

/-- A message obeys the law exactly when, behind the validation and the sequence checks, it is
the expected one, an accepted SequenceReset, or (on the server) a Logon above the expected
number that is authenticated. -/
theorem counterLaw_iff (p : Nat) (srv : FixServer) (session : Option Nat)
    (e : RxMessage × ServerRxEnv) (c : FixClient) (e' : RxMessage × ClientRxEnv) :
    (FixServer.ObeysCounterLaw p { server := srv, session := session } e ↔
      FixServer.MeetsLawConditions p { server := srv, session := session } e) ∧
    (FixClient.ObeysCounterLaw c e' ↔ FixClient.MeetsLawConditions c e') :=
  ⟨FixServer.obeysCounterLaw_iff rfl e, FixClient.obeysCounterLaw_iff c e'⟩

/-- A client that expects number 6 receives a SequenceReset numbered 9 without tag 36. Nothing
is reset, but the number moves. -/
theorem counterLaw_fails :
    ¬ FixClient.ObeysCounterLaw
      { session :=
          { state := .loggedOn, sequenceStore := { incomingSeqNo := 5 },
            settings := exampleSettings } }
      (peerMessage exampleSettings msgTypeSequenceReset 9 [], {}) := by
  unfold FixClient.ObeysCounterLaw CounterLaw
  decide +kernel

end Llfix
