import Llfix.Retransmission

/-!
# Sessions without a gap

A session that has nothing to ask for and owes no retransmission sends new messages only, each under
the next number, and counts each message it takes. What the application is given are the messages
of the types that `dispatch` has no handler for.

Results:
1. `Moves.trans`: steps that take messages and send new ones compose.
2. `Moves.send`: a new message goes out under the next number.
3. `Handles.takes`, `Handles.handsOn`: a message is handled or handed on.
-/

namespace Llfix

/-! ## Kinds of messages -/

/-- The types that `dispatch` of either engine does not hand on as a message of the application. -/
def isSessionLevelType (t : UInt8) : Bool :=
  t = msgTypeHeartbeat || t = msgTypeTestRequest || t = msgTypeResendRequest ||
    t = msgTypeReject || t = msgTypeBusinessReject || t = msgTypeLogon || t = msgTypeLogout ||
    t = msgTypeSequenceReset

/-- `dispatch` hands the message to the application. -/
def RxMessage.isApplication (rx : RxMessage) : Bool :=
  match rx.msgType with
  | [t] => !isSessionLevelType t
  | _ => true

/-- What `dispatch` hands to the application of the message. -/
def RxMessage.handedOn (rx : RxMessage) : Option IncomingFixMessage :=
  if rx.isApplication then some rx.message else none

/-- Neither a ResendRequest nor a SequenceReset. -/
def isOrdinaryType (msgType : Bytes) : Bool :=
  msgType ≠ [msgTypeResendRequest] && msgType ≠ [msgTypeSequenceReset]

/-- The message of a callback that `dispatch` makes for a message of the application. -/
def deliveredMessage : Output → Option IncomingFixMessage
  | .callback .onNewOrder m => m
  | .callback .onCancelOrder m => m
  | .callback .onReplaceOrder m => m
  | .callback .onCustomMessage m => m
  | .callback .onExecutionReport m => m
  | .callback .onOrderCancelReplaceReject m => m
  | .callback .onCustomMessageType m => m
  | _ => none

/-- New messages, the first of them with the number behind `n`. -/
def NewMessages (n : UInt32) : List (Transmission × UInt32) → Prop
  | [] => True
  | (t, _) :: rest =>
    (∃ m, t = .original m (n + 1) ∧ isOrdinaryType m.msgType = true) ∧ NewMessages (n + 1) rest

theorem ofNat_length_cons {α : Type*} (n : UInt32) (x : α) (xs : List α) :
    n + UInt32.ofNat (x :: xs).length = n + 1 + UInt32.ofNat xs.length := by
  rw [List.length_cons, Nat.add_comm, UInt32.ofNat_add, ← UInt32.add_assoc]
  rfl

theorem ofNat_length_append {α : Type*} (n : UInt32) (xs ys : List α) :
    n + UInt32.ofNat (xs ++ ys).length =
      n + UInt32.ofNat xs.length + UInt32.ofNat ys.length := by
  rw [List.length_append, UInt32.ofNat_add, UInt32.add_assoc]

theorem NewMessages.append {n : UInt32} {xs ys : List (Transmission × UInt32)}
    (h : NewMessages n xs) (h' : NewMessages (n + UInt32.ofNat xs.length) ys) :
    NewMessages n (xs ++ ys) := by
  induction xs generalizing n with
  | nil => exact (UInt32.add_zero n) ▸ h'
  | cons x xs ih =>
    rw [ofNat_length_cons] at h'
    exact ⟨h.1, ih h.2 h'⟩

/-- The messages that the receiver's engine hands to its application. -/
def applicationMessages (channel : List RxMessage) : List IncomingFixMessage :=
  (channel.filter (·.isApplication)).map (·.message)

theorem applicationMessages_append (xs ys : List RxMessage) :
    applicationMessages (xs ++ ys) = applicationMessages xs ++ applicationMessages ys := by
  rw [applicationMessages, List.filter_append, List.map_append]
  rfl

theorem RxMessage.filterMap_handedOn (rx : RxMessage) {o : Output}
    (ho : deliveredMessage o = rx.handedOn) :
    [o].filterMap deliveredMessage = applicationMessages [rx] := by
  rw [RxMessage.handedOn] at ho
  rw [applicationMessages, List.filter_cons, List.filter_nil]
  split at ho
  · next h => rw [List.filterMap_cons_some ho, List.filterMap_nil, if_pos h, List.map_singleton]
  · next h => rw [List.filterMap_cons_none ho, List.filterMap_nil, if_neg h, List.map_nil]

namespace FixSession

/-! ## What a session has to do -/

/-- The messages that have been handed to the application. -/
def deliveredMessages (s : FixSession) : List IncomingFixMessage :=
  s.trace.filterMap deliveredMessage

/-- No gap has just been noticed, none of the peer is to be answered, and no command is queued. -/
structure Idle (s : FixSession) : Prop where
  asksNothing : s.needsToSendResendRequest = false
  owesNothing : s.needsRespondingToIncomingResendRequest = false
  commands : s.adminCommands = []

/-- An idle session that does not wait for a retransmission. -/
structure Calm (s : FixSession) : Prop extends Idle s where
  waitsNot : s.state ≠ .inRetransmissionInitiatedBySelf

/-- From `s` to `s'` nothing of this changes, but that the session may cease to wait. -/
structure Keeps (s s' : FixSession) : Prop where
  asks : s'.needsToSendResendRequest = s.needsToSendResendRequest
  owes : s'.needsRespondingToIncomingResendRequest = s.needsRespondingToIncomingResendRequest
  commands : s'.adminCommands = s.adminCommands
  endNo : s'.outgoingResendRequestEndNo = s.outgoingResendRequestEndNo
  waits : s'.state = .inRetransmissionInitiatedBySelf →
    s.state = .inRetransmissionInitiatedBySelf

namespace Keeps

variable {s s' s'' : FixSession}

theorem refl (s : FixSession) : Keeps s s := ⟨rfl, rfl, rfl, rfl, id⟩

theorem trans (h : Keeps s s') (h' : Keeps s' s'') : Keeps s s'' :=
  ⟨h'.asks.trans h.asks, h'.owes.trans h.owes, h'.commands.trans h.commands,
    h'.endNo.trans h.endNo, h.waits ∘ h'.waits⟩

theorem of_core (hcore : s'.core = s.core)
    (hwaits : s'.state = .inRetransmissionInitiatedBySelf →
      s.state = .inRetransmissionInitiatedBySelf) : Keeps s s' :=
  ⟨(congrArg needsToSendResendRequest hcore : _),
    (congrArg needsRespondingToIncomingResendRequest hcore : _),
    (congrArg adminCommands hcore : _), (congrArg outgoingResendRequestEndNo hcore : _), hwaits⟩

theorem idle (h : Keeps s s') (hidle : s.Idle) : s'.Idle :=
  ⟨h.asks.trans hidle.asksNothing, h.owes.trans hidle.owesNothing,
    h.commands.trans hidle.commands⟩

theorem calm (h : Keeps s s') (hcalm : s.Calm) : s'.Calm :=
  ⟨h.idle hcalm.toIdle, fun hwaits => hcalm.waitsNot (h.waits hwaits)⟩

end Keeps

/-! ## Steps -/

/-- From `s` to `s'` the session hands on the messages `taken`, and sends new messages only. -/
def Exchanges (taken : List RxMessage) (s s' : FixSession) : Prop :=
  ∃ os, s'.trace = s.trace ++ os ∧
    NewMessages s.sequenceStore.outgoingSeqNo (os.filterMap sentMessage) ∧
    s'.sequenceStore.outgoingSeqNo =
      s.sequenceStore.outgoingSeqNo + UInt32.ofNat (os.filterMap sentMessage).length ∧
    os.filterMap deliveredMessage = applicationMessages taken

namespace Exchanges

variable {s s' s'' : FixSession} {taken taken' : List RxMessage}

theorem silent (htrace : s'.trace = s.trace)
    (hout : s'.sequenceStore.outgoingSeqNo = s.sequenceStore.outgoingSeqNo) :
    Exchanges [] s s' :=
  ⟨[], by rw [htrace, List.append_nil], trivial, by
    rw [hout]
    exact (UInt32.add_zero _).symm, rfl⟩

theorem trans (h : Exchanges taken s s') (h' : Exchanges taken' s' s'') :
    Exchanges (taken ++ taken') s s'' := by
  obtain ⟨os, htrace, hnew, hout, hdelivered⟩ := h
  obtain ⟨os', htrace', hnew', hout', hdelivered'⟩ := h'
  refine ⟨os ++ os', by rw [htrace', htrace, List.append_assoc], ?_, ?_, ?_⟩
  · rw [List.filterMap_append]
    exact hnew.append (hout ▸ hnew')
  · rw [hout', hout, List.filterMap_append, ofNat_length_append]
  · rw [List.filterMap_append, hdelivered, hdelivered', applicationMessages_append]

/-- An entry of the history that is not sent, and what it hands on. -/
theorem record (s : FixSession) {o : Output} (hsent : sentMessage o = none)
    (hdelivered : [o].filterMap deliveredMessage = applicationMessages taken) :
    Exchanges taken s (s.record o) := by
  refine ⟨[o], rfl, ?_, ?_, hdelivered⟩
  · rw [List.filterMap_cons_none hsent]
    trivial
  · rw [List.filterMap_cons_none hsent]
    exact (UInt32.add_zero _).symm

theorem delivered (h : Exchanges taken s s') :
    s'.deliveredMessages = s.deliveredMessages ++ applicationMessages taken := by
  obtain ⟨os, htrace, -, -, hdelivered⟩ := h
  rw [deliveredMessages, htrace, List.filterMap_append, hdelivered]
  rfl

end Exchanges

/-- From `s` to `s'` the session counts the messages `taken` and hands them on, sends new messages
only, and has nothing more to do than before. -/
structure Moves (taken : List RxMessage) (s s' : FixSession) : Prop where
  exchanges : Exchanges taken s s'
  incoming : s'.sequenceStore.incomingSeqNo =
    s.sequenceStore.incomingSeqNo + UInt32.ofNat taken.length
  keeps : Keeps s s'

namespace Moves

variable {s s' s'' : FixSession} {taken taken' : List RxMessage} {rx : RxMessage} {now : UInt64}

/-- An update that neither the history nor the numbers show. -/
theorem silent (htrace : s'.trace = s.trace) (hstore : s'.sequenceStore = s.sequenceStore)
    (hkeeps : Keeps s s') : Moves [] s s' where
  exchanges := .silent htrace (by rw [hstore])
  incoming := by
    rw [hstore]
    exact (UInt32.add_zero _).symm
  keeps := hkeeps

theorem refl (s : FixSession) : Moves [] s s := silent rfl rfl (.refl s)

theorem trans (h : Moves taken s s') (h' : Moves taken' s' s'') :
    Moves (taken ++ taken') s s'' where
  exchanges := h.exchanges.trans h'.exchanges
  incoming := by rw [h'.incoming, h.incoming, ofNat_length_append]
  keeps := h.keeps.trans h'.keeps

/-- A step that only goes on from another one. -/
theorem next (h : Moves taken s s') (h' : Moves [] s' s'') : Moves taken s s'' :=
  List.append_nil taken ▸ h.trans h'

theorem record (s : FixSession) {o : Output} (hsent : sentMessage o = none)
    (hdelivered : deliveredMessage o = none) : Moves [] s (s.record o) where
  exchanges := .record s hsent (List.filterMap_cons_none hdelivered)
  incoming := (UInt32.add_zero _).symm
  keeps := ⟨rfl, rfl, rfl, rfl, id⟩

theorem setState (s : FixSession) {st : SessionState}
    (h : st ≠ .inRetransmissionInitiatedBySelf) : Moves [] s (s.setState st) where
  exchanges := (record s (o := .state st) rfl rfl).exchanges
  incoming := (UInt32.add_zero _).symm
  keeps := ⟨rfl, rfl, rfl, rfl, fun hst => absurd hst h⟩

/-- The bookkeeping of a message that has not gone out. -/
theorem notSent (s : FixSession) (b : Bool) (ts : UInt64) : Moves [] s (s.afterSend b false ts) :=
  silent (by simp) (by simp [afterSend_sequenceStore])
    (.of_core (core_afterSend s b false ts) (by simp))

/-- A new message, handed to a connection that takes it or holds without taking it. -/
theorem send (s : FixSession) {m : OutgoingFixMessage} (hm : isOrdinaryType m.msgType = true)
    (ok : Bool) (ts : UInt64) :
    Moves [] s ((s.record (.sent (.original m (s.sequenceStore.outgoingSeqNo + 1))
      s.sequenceStore.incomingSeqNo ok)).afterSend true ok ts) := by
  cases ok with
  | false =>
    have hhanded : Moves [] s (s.record (.sent (.original m (s.sequenceStore.outgoingSeqNo + 1))
        s.sequenceStore.incomingSeqNo false)) := record s rfl rfl
    exact hhanded.next (notSent _ true ts)
  | true =>
    refine ⟨⟨[.sent (.original m (s.sequenceStore.outgoingSeqNo + 1))
      s.sequenceStore.incomingSeqNo true], by simp, ⟨⟨m, rfl, hm⟩, trivial⟩, ?_, rfl⟩, ?_,
      .of_core ?_ ?_⟩
    · rw [afterSend_sequenceStore]
      rfl
    · rw [afterSend_sequenceStore]
      exact (UInt32.add_zero _).symm
    · rw [core_afterSend, core_record]
    · simp

end Moves

/-- From `s` to `s'` a message that has been counted is handled, and handed on if it is for the
application. -/
structure Handles (rx : RxMessage) (s s' : FixSession) : Prop where
  exchanges : Exchanges [rx] s s'
  incoming : s'.sequenceStore.incomingSeqNo = s.sequenceStore.incomingSeqNo
  keeps : Keeps s s'

namespace Handles

variable {s s' s'' : FixSession} {rx : RxMessage} {now : UInt64}

/-- A message of the session level. -/
theorem takes (happlication : rx.isApplication = false) (h : Moves [] s s') : Handles rx s s' where
  exchanges := by
    obtain ⟨os, htrace, hnew, hout, hdelivered⟩ := h.exchanges
    refine ⟨os, htrace, hnew, hout, ?_⟩
    rw [hdelivered, applicationMessages, applicationMessages, List.filter_cons, happlication]
    rfl
  incoming := h.incoming.trans (UInt32.add_zero _)
  keeps := h.keeps

/-- A message that goes to a callback. -/
theorem handsOn (h : Moves [] s s') {cb : Callback} {m : Option IncomingFixMessage}
    (hcb : deliveredMessage (.callback cb m) = rx.handedOn) :
    Handles rx s (s'.record (.callback cb m)) where
  exchanges := h.exchanges.trans (.record s' (o := .callback cb m) rfl (rx.filterMap_handedOn hcb))
  incoming := h.incoming.trans (UInt32.add_zero _)
  keeps := h.keeps.trans ⟨rfl, rfl, rfl, rfl, id⟩

end Handles

/-! ## The expected message -/

theorem aboveExpected_next {s : FixSession} {rx : RxMessage}
    (h : rx.seqNum = s.sequenceStore.incomingSeqNo + 1) : s.aboveExpected rx = false := by
  rw [aboveExpected, h, decide_eq_false (UInt32.lt_irrefl _), Bool.false_and]

theorem belowExpected_next {s : FixSession} {rx : RxMessage}
    (h : rx.seqNum = s.sequenceStore.incomingSeqNo + 1) : s.belowExpected rx = false := by
  rw [belowExpected, h, decide_eq_false (UInt32.lt_irrefl _), Bool.false_and]

theorem satisfied_moves (s : FixSession) (rx : RxMessage) : Moves [] s (s.satisfied rx) := by
  unfold satisfied
  split
  · exact .setState s (by decide)
  · exact .refl s

theorem isOrdinary_ne {msgType : Bytes} (h : isOrdinaryType msgType = true) :
    msgType ≠ [msgTypeResendRequest] ∧ msgType ≠ [msgTypeSequenceReset] := by
  rw [isOrdinaryType, Bool.and_eq_true, decide_eq_true_eq, decide_eq_true_eq] at h
  exact h

theorem processTestRequestMessage_moves (s : FixSession) (m : IncomingFixMessage) :
    Moves [] s (s.processTestRequestMessage m) := by
  refine .silent (processTestRequestMessage_trace s m)
    (processTestRequestMessage_sequenceStore s m) ?_
  unfold processTestRequestMessage
  split
  · dsimp only
    split
    · exact ⟨rfl, rfl, rfl, rfl, id⟩
    · exact ⟨rfl, rfl, rfl, rfl, id⟩
  · exact .refl s

theorem isApplication_of_type {rx : RxMessage} {t : UInt8} (ht : rx.msgType = [t]) :
    rx.isApplication = !isSessionLevelType t := by
  rw [RxMessage.isApplication, ht]

theorem handedOn_of_type {rx : RxMessage} {t : UInt8} (ht : rx.msgType = [t]) :
    rx.handedOn = if isSessionLevelType t then none else some rx.message := by
  rw [RxMessage.handedOn, isApplication_of_type ht]
  cases isSessionLevelType t with
  | true => rfl
  | false => rfl

theorem handedOn_of_several {rx : RxMessage} (h : ∀ t, rx.msgType ≠ [t]) :
    rx.handedOn = some rx.message := by
  have happlication : rx.isApplication = true := by
    unfold RxMessage.isApplication
    split
    · next t ht => exact absurd ht (h t)
    · rfl
  rw [RxMessage.handedOn, happlication]
  rfl

end FixSession

end Llfix
