import Llfix.Server.Effects
import Llfix.Client.Messages
import Llfix.Lib.GuardedRun

/-!
# The law of the outgoing number

New messages, replays, gap fills and sequence resets share `send_bytes`. Only a new message uses
up a number, and only when it is sent. A sequence reset writes the number it announces into the
store while the message is built, before anything is sent.

Results:
1. `FixClient.send_outgoingSeqNo`, `FixServer.send_outgoingSeqNo`: the number after one send.
2. `outgoingLaw_iff`: in any order of sends the law holds exactly when every sequence reset that
   is not sent asks for the number that is stored already.
-/

namespace Llfix

open FixSession GuardedRun

/-- One of the sends that share `send_bytes`, with the answer of the transport. -/
inductive SendOperation
  /-- `send_outgoing_message`. -/
  | new (m : OutgoingFixMessage) (o : SendOutcome)
  /-- One message of `resend_messages_to_server` or `resend_messages_to_client`. -/
  | replay (sequenceNo : UInt32) (o : SendOutcome)
  /-- `send_gap_fill_message`. -/
  | gapFill (o : SendOutcome)
  /-- `send_sequence_reset_message`, the command `SEND_SEQUENCE_RESET`. -/
  | sequenceReset (desiredSequenceNo : UInt32) (o : SendOutcome)
deriving DecidableEq, Repr

/-- The answer of the transport. -/
def SendOperation.outcome : SendOperation → SendOutcome
  | .new _ o => o
  | .replay _ o => o
  | .gapFill o => o
  | .sequenceReset _ o => o

/-- The number the message of an operation is encoded with, when `stored` is the outgoing number
of the session. -/
def SendOperation.sequenceNo (s : FixSession) : SendOperation → UInt32
  | .new _ _ => s.sequenceStore.outgoingSeqNo + 1
  | .replay n _ => n
  | .gapFill _ => s.incomingResendRequestBeginNo
  | .sequenceReset n _ => n

/-- What the law says of the stored number after an operation that was sent or not. -/
def SendOperation.lawfulNumber (op : SendOperation) (sent : Bool) (stored : UInt32) : UInt32 :=
  match op with
  | .new _ _ => if sent then stored + 1 else stored
  | .replay _ _ => stored
  | .gapFill _ => stored
  | .sequenceReset n _ => if sent then n else stored

/-- What the code makes of it. -/
def SendOperation.numberAfter (op : SendOperation) (sent : Bool) (stored : UInt32) : UInt32 :=
  match op with
  | .sequenceReset n _ => n
  | op => op.lawfulNumber sent stored

/-- The operation keeps the law when it is no sequence reset, or is sent, or asks for the number
that is stored. -/
def SendOperation.KeepsLaw (op : SendOperation) (sent : Bool) (stored : UInt32) : Prop :=
  match op with
  | .sequenceReset n _ => sent = true ∨ n = stored
  | _ => True

theorem SendOperation.numberAfter_eq_iff (op : SendOperation) (sent : Bool) (stored : UInt32) :
    op.numberAfter sent stored = op.lawfulNumber sent stored ↔ op.KeepsLaw sent stored := by
  cases op with
  | new m o => exact iff_of_true rfl trivial
  | replay n o => exact iff_of_true rfl trivial
  | gapFill o => exact iff_of_true rfl trivial
  | sequenceReset n o =>
    cases sent with
    | true => simp [numberAfter, lawfulNumber, KeepsLaw]
    | false => simp [numberAfter, lawfulNumber, KeepsLaw]

/-- The number under which a message was handed to the transport. -/
def Transmission.sequenceNo : Transmission → UInt32
  | .original _ n => n
  | .control _ n => n
  | .replay n => n

/-- The messages handed over carry the number of the operation, and their answer is `sent`. -/
def HandsOver (sequenceNo : UInt32) (sent : Bool) : Output → Prop
  | .sent t _ ok => t.sequenceNo = sequenceNo ∧ ok = sent
  | _ => True

/-! ## One send of a session -/

namespace FixSession

theorem afterSend_outgoingSeqNo (s : FixSession) (b ret : Bool) (ts : UInt64) :
    (s.afterSend b ret ts).sequenceStore.outgoingSeqNo =
      if b && ret then s.sequenceStore.outgoingSeqNo + 1 else s.sequenceStore.outgoingSeqNo := by
  rw [afterSend_sequenceStore]
  split <;> rfl

end FixSession

/-! ## The client -/

namespace FixClient

def send (c : FixClient) : SendOperation → FixClient
  | .new m o => c.sendOutgoingMessage m o
  | .replay n o => c.sendBytes (.replay n) o
  | .gapFill o => c.sendGapFillMessage o
  | .sequenceReset n o => c.sendSequenceResetMessage n o

/-- The transport takes the message completely. -/
def sends (c : FixClient) (op : SendOperation) : Bool :=
  c.socketOpen && op.outcome.result = .ok

theorem sendBytes_outgoingSeqNo (c : FixClient) (t : Transmission) (o : SendOutcome) :
    (c.sendBytes t o).session.sequenceStore.outgoingSeqNo =
      if t.incrementOutgoingSeqNo && (c.socketOpen && o.result = .ok) then
        c.session.sequenceStore.outgoingSeqNo + 1
      else c.session.sequenceStore.outgoingSeqNo := by
  cases hopen : c.socketOpen with
  | false => simp [sendBytes_closed c t hopen, afterSend_outgoingSeqNo]
  | true =>
    by_cases ho : o.result = .connectionLost
    · simp [sendBytes_lost c t hopen ho, afterSend_outgoingSeqNo, onConnectionLost_session, ho]
    · simp [sendBytes_held c t hopen ho, afterSend_outgoingSeqNo]

/-- The number after one send. -/
theorem send_outgoingSeqNo (c : FixClient) (op : SendOperation) :
    (c.send op).session.sequenceStore.outgoingSeqNo =
      op.numberAfter (c.sends op) c.session.sequenceStore.outgoingSeqNo := by
  cases op with
  | new m o => exact sendBytes_outgoingSeqNo c _ o
  | replay n o => exact sendBytes_outgoingSeqNo c _ o
  | gapFill o => exact sendBytes_outgoingSeqNo c _ o
  | sequenceReset n o => exact sendBytes_outgoingSeqNo (c.modifySession (·.setOutgoingSeqNo n)) _ o

theorem sendBytes_handsOver (c : FixClient) (t : Transmission) (o : SendOutcome) :
    Extends (HandsOver t.sequenceNo (c.socketOpen && o.result = .ok)) c.session
      (c.sendBytes t o).session := by
  cases hopen : c.socketOpen with
  | false => exact .of_trace_eq (by simp [sendBytes_closed c t hopen])
  | true =>
    by_cases ho : o.result = .connectionLost
    · refine ⟨[.sent t c.session.sequenceStore.incomingSeqNo false, .state .disconnected,
        .connectionLost, .callback .onDisconnection none], ?_, ?_⟩
      · simp [sendBytes_lost c t hopen ho, onConnectionLost_session]
      · simp [HandsOver, ho]
    · refine ⟨[.sent t c.session.sequenceStore.incomingSeqNo (o.result = .ok)], ?_, ?_⟩
      · simp [sendBytes_held c t hopen ho]
      · simp [HandsOver]

theorem send_handsOver (c : FixClient) (op : SendOperation) :
    Extends (HandsOver (op.sequenceNo c.session) (c.sends op)) c.session (c.send op).session := by
  cases op with
  | new m o => exact sendBytes_handsOver c _ o
  | replay n o => exact sendBytes_handsOver c _ o
  | gapFill o => exact sendBytes_handsOver c _ o
  | sequenceReset n o => exact sendBytes_handsOver (c.modifySession (·.setOutgoingSeqNo n)) _ o

/-- The law for one send: its message carries the number of the operation, the next one for a new
message, and the stored number is the lawful one afterwards. -/
def ObeysOutgoingLaw (c : FixClient) (op : SendOperation) : Prop :=
  Extends (HandsOver (op.sequenceNo c.session) (c.sends op)) c.session (c.send op).session ∧
    (c.send op).session.sequenceStore.outgoingSeqNo =
      op.lawfulNumber (c.sends op) c.session.sequenceStore.outgoingSeqNo

def KeepsOutgoingLaw (c : FixClient) (op : SendOperation) : Prop :=
  op.KeepsLaw (c.sends op) c.session.sequenceStore.outgoingSeqNo

theorem obeysOutgoingLaw_iff (c : FixClient) (op : SendOperation) :
    c.ObeysOutgoingLaw op ↔ c.KeepsOutgoingLaw op := by
  rw [ObeysOutgoingLaw, KeepsOutgoingLaw, send_outgoingSeqNo, SendOperation.numberAfter_eq_iff]
  exact and_iff_right (send_handsOver c op)

end FixClient

/-! ## The server -/

namespace FixServer

section

variable (srv : FixServer) (i : Nat)

def send : SendOperation → FixServer
  | .new m o => srv.sendOutgoingMessage i m o
  | .replay n o => srv.sendBytes i (.replay n) o
  | .gapFill o => srv.sendGapFillMessage i o
  | .sequenceReset n o => srv.sendSequenceResetMessage i n o

/-- The session has a connection, which takes the message completely. -/
def sends (op : SendOperation) : Bool :=
  (srv.connectors.getPeerIndex i).isSome && op.outcome.result = .ok

theorem sendBytes_outgoingSeqNo (t : Transmission) (o : SendOutcome) :
    ((srv.sendBytes i t o).sessions i).sequenceStore.outgoingSeqNo =
      if t.incrementOutgoingSeqNo &&
          ((srv.connectors.getPeerIndex i).isSome && o.result = .ok) then
        (srv.sessions i).sequenceStore.outgoingSeqNo + 1
      else (srv.sessions i).sequenceStore.outgoingSeqNo := by
  cases h : srv.connectors.getPeerIndex i with
  | none => simp [sendBytes_unmapped srv i h]
  | some p =>
    by_cases ho : o.result = .connectionLost
    · rw [sendBytes_lost srv i h t ho]
      simp only [modifySession_sessions_self, afterSend_outgoingSeqNo,
        onClientDisconnected_sessions]
      by_cases hp : srv.connectors.getSession p = some i
      · simp [hp, ho]
      · simp [hp, ho]
    · simp [sendBytes_held srv i h t ho, afterSend_outgoingSeqNo]

/-- The number after one send. -/
theorem send_outgoingSeqNo (op : SendOperation) :
    ((srv.send i op).sessions i).sequenceStore.outgoingSeqNo =
      op.numberAfter (srv.sends i op) (srv.sessions i).sequenceStore.outgoingSeqNo := by
  cases op with
  | new m o => exact sendBytes_outgoingSeqNo srv i _ o
  | replay n o => exact sendBytes_outgoingSeqNo srv i _ o
  | gapFill o => exact sendBytes_outgoingSeqNo srv i _ o
  | sequenceReset n o =>
    have h := sendBytes_outgoingSeqNo (srv.modifySession i (·.setOutgoingSeqNo n)) i
      (.control ((srv.sessions i).buildSequenceResetMessage n).2 n) o
    rw [modifySession_sessions_self] at h
    exact h

theorem sendBytes_handsOver (t : Transmission) (o : SendOutcome) :
    Extends (HandsOver t.sequenceNo ((srv.connectors.getPeerIndex i).isSome && o.result = .ok))
      (srv.sessions i) ((srv.sendBytes i t o).sessions i) := by
  cases h : srv.connectors.getPeerIndex i with
  | none => exact .of_trace_eq (by simp [sendBytes_unmapped srv i h])
  | some p =>
    by_cases ho : o.result = .connectionLost
    · have hsent : HandsOver t.sequenceNo false
          (.sent t (srv.sessions i).sequenceStore.incomingSeqNo false) := ⟨rfl, rfl⟩
      rw [sendBytes_lost srv i h t ho]
      simp only [modifySession_sessions_self, onClientDisconnected_sessions, ho]
      refine ((Extends.record _ hsent).trans ?_).trans (.of_trace_eq (afterSend_trace _ _ _ _))
      split
      · exact .setState _ trivial
      · exact .refl _ _
    · refine ⟨[.sent t (srv.sessions i).sequenceStore.incomingSeqNo (o.result = .ok)], ?_, ?_⟩
      · simp [sendBytes_held srv i h t ho]
      · simp [HandsOver]

theorem send_handsOver (op : SendOperation) :
    Extends (HandsOver (op.sequenceNo (srv.sessions i)) (srv.sends i op)) (srv.sessions i)
      ((srv.send i op).sessions i) := by
  cases op with
  | new m o => exact sendBytes_handsOver srv i _ o
  | replay n o => exact sendBytes_handsOver srv i _ o
  | gapFill o => exact sendBytes_handsOver srv i _ o
  | sequenceReset n o =>
    have h := sendBytes_handsOver (srv.modifySession i (·.setOutgoingSeqNo n)) i
      (.control ((srv.sessions i).buildSequenceResetMessage n).2 n) o
    rw [modifySession_sessions_self] at h
    exact h

/-- The law for one send, as on the client. -/
def ObeysOutgoingLaw (op : SendOperation) : Prop :=
  Extends (HandsOver (op.sequenceNo (srv.sessions i)) (srv.sends i op)) (srv.sessions i)
      ((srv.send i op).sessions i) ∧
    ((srv.send i op).sessions i).sequenceStore.outgoingSeqNo =
      op.lawfulNumber (srv.sends i op) (srv.sessions i).sequenceStore.outgoingSeqNo

def KeepsOutgoingLaw (op : SendOperation) : Prop :=
  op.KeepsLaw (srv.sends i op) (srv.sessions i).sequenceStore.outgoingSeqNo

theorem obeysOutgoingLaw_iff (op : SendOperation) :
    srv.ObeysOutgoingLaw i op ↔ srv.KeepsOutgoingLaw i op := by
  rw [ObeysOutgoingLaw, KeepsOutgoingLaw, send_outgoingSeqNo, SendOperation.numberAfter_eq_iff]
  exact and_iff_right (send_handsOver srv i op)

end

end FixServer

/-! ## Runs -/

/-- Along every list of sends of a client, and of a session of a server, the law holds exactly
when each sequence reset that is not sent asks for the number that is stored already. -/
theorem outgoingLaw_iff (c : FixClient) (srv : FixServer) (i : Nat) (ops : List SendOperation) :
    (Guarded FixClient.send FixClient.ObeysOutgoingLaw c ops ↔
      Guarded FixClient.send FixClient.KeepsOutgoingLaw c ops) ∧
    (Guarded (FixServer.send · i) (FixServer.ObeysOutgoingLaw · i) srv ops ↔
      Guarded (FixServer.send · i) (FixServer.KeepsOutgoingLaw · i) srv ops) := by
  constructor
  · exact ⟨Guarded.mono fun c op => (c.obeysOutgoingLaw_iff op).mp,
      Guarded.mono fun c op => (c.obeysOutgoingLaw_iff op).mpr⟩
  · exact ⟨Guarded.mono fun srv op => (srv.obeysOutgoingLaw_iff i op).mp,
      Guarded.mono fun srv op => (srv.obeysOutgoingLaw_iff i op).mpr⟩

/-- A logged-on client whose last message had number 5. -/
def exampleSender : FixClient :=
  { session := { state := .loggedOn, sequenceStore := { outgoingSeqNo := 5 } }, socketOpen := true }

/-- A sequence reset to 20 that the socket does not take leaves the stored number at 20. -/
theorem outgoingLaw_fails :
    ¬ Guarded FixClient.send FixClient.ObeysOutgoingLaw exampleSender
      [.sequenceReset 20 { result := .tryCountExhausted }] := by
  rintro ⟨⟨_, h⟩, _⟩
  exact absurd h (by decide +kernel)

end Llfix
