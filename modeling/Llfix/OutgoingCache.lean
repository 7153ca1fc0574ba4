import Llfix.OutgoingCounter
import Llfix.SerialisedFiles

/-!
# What one send leaves in the resend cache

`send_bytes` of the client and of the server: the outgoing number of the sequence store and the
serialiser of the outgoing messages, with the bytes that are written.

`afterSend_indexedBy` connects this to the model of the session, which has the numbers of the
index only.
-/

namespace Llfix

open MessageSerialiser

/-- The outgoing number of a session and its serialiser of outgoing messages. -/
structure OutgoingCache where
  outgoingSeqNo : UInt32
  serialiser : MessageSerialiser

/-- A call of `send_bytes`, with what `send` and the clock answer. -/
structure SendBytesCall where
  incrementOutgoingSeqNo : Bool
  buffer : Bytes
  ret : Bool
  epoch : Nat := 0
deriving DecidableEq, Repr

namespace OutgoingCache

/-- The stored number after a call. -/
def seqNoAfter (c : OutgoingCache) (call : SendBytesCall) : UInt32 :=
  if call.incrementOutgoingSeqNo && call.ret then c.outgoingSeqNo + 1 else c.outgoingSeqNo

/-- `send_bytes` with serialisation enabled. -/
def sendBytes (c : OutgoingCache) (call : SendBytesCall) : OutgoingCache :=
  { outgoingSeqNo := c.seqNoAfter call
    serialiser := c.serialiser.write call.buffer call.ret (c.seqNoAfter call) call.epoch }

/-- What a call adds to the files. -/
def written (c : OutgoingCache) (call : SendBytesCall) : List Bytes :=
  if c.serialiser.fitsFile call.buffer then [call.buffer] else []

section SendBytes

variable {c : OutgoingCache} (call : SendBytesCall)

theorem sendBytes_messagesOnDisc (h : c.serialiser.WellFormed) :
    (c.sendBytes call).serialiser.messagesOnDisc =
      c.serialiser.messagesOnDisc ++ c.written call :=
  write_messagesOnDisc _ _ _ _ h

theorem sendBytes_lookupMessage (h : c.serialiser.WellFormed)
    (hkeep : c.serialiser.keepMessageRecordsInMemory = true) (n : UInt32) :
    (c.sendBytes call).serialiser.lookupMessage n =
      if n = c.seqNoAfter call then (c.serialiser.lookupMessage n).or (c.written call).head?
      else c.serialiser.lookupMessage n := by
  show (c.serialiser.write _ _ _ _).lookupMessage n = _
  rw [write_lookupMessage _ _ _ _ h hkeep, written]
  cases c.serialiser.fitsFile call.buffer with
  | true => simp
  | false => simp

/-- The lower numbers were in range before the call. -/
theorem le_of_lt_seqNoAfter {n : UInt32} (hlt : n < c.seqNoAfter call) :
    n ≤ c.outgoingSeqNo := by
  unfold seqNoAfter at hlt
  split at hlt
  · rw [UInt32.lt_iff_toNat_lt, UInt32.toNat_add] at hlt
    rw [UInt32.le_iff_toNat_le]
    have hone : (1 : UInt32).toNat = 1 := rfl
    omega
  · exact UInt32.le_of_lt hlt

end SendBytes

end OutgoingCache

/-! ## The session -/

namespace FixSession

/-- The session has the number of the cache, and its records are the index of the cache. -/
structure IndexedBy (s : FixSession) (c : OutgoingCache) : Prop where
  seqNo : s.sequenceStore.outgoingSeqNo = c.outgoingSeqNo
  inMemory : ∀ n, s.hasMessageInMemory n = c.serialiser.hasMessageInMemory n

theorem writeOutgoingRecord_hasMessageInMemory {s : FixSession}
    (hserialise : s.serialisationEnabled = true)
    (hreplay : s.settings.replayMessagesOnIncomingResendRequest = true) (k n : UInt32) :
    (s.writeOutgoingRecord k).hasMessageInMemory n = (s.hasMessageInMemory n || n = k) := by
  unfold writeOutgoingRecord
  rw [hserialise, hreplay]
  cases hcontains : s.outgoingMessageRecords.contains k with
  | true =>
    show s.hasMessageInMemory n = _
    by_cases hn : n = k
    · subst hn
      rw [hasMessageInMemory, hreplay, hcontains]
      rfl
    · simp [hn]
  | false =>
    show (s.settings.replayMessagesOnIncomingResendRequest &&
      (k :: s.outgoingMessageRecords).contains n) = _
    rw [List.contains_cons, hasMessageInMemory, hreplay]
    by_cases hn : n = k
    · simp [hn]
    · simp [hn]

theorem afterSend_hasMessageInMemory {s : FixSession}
    (hserialise : s.serialisationEnabled = true)
    (hreplay : s.settings.replayMessagesOnIncomingResendRequest = true) (b ret : Bool)
    (timestamp : UInt64) (n : UInt32) :
    (s.afterSend b ret timestamp).hasMessageInMemory n =
      (s.hasMessageInMemory n ||
        n = (s.afterSend b ret timestamp).sequenceStore.outgoingSeqNo) := by
  rw [afterSend_outgoingSeqNo]
  cases hsent : b && ret with
  | true =>
    rw [afterSend, hsent]
    exact writeOutgoingRecord_hasMessageInMemory (s := { s with
      sequenceStore := s.sequenceStore.incrementOutgoingSeqNo }) hserialise hreplay _ n
  | false =>
    rw [afterSend, hsent]
    exact writeOutgoingRecord_hasMessageInMemory hserialise hreplay _ n

/-- With replay enabled the session records what `send_bytes` puts into the index, as long as
the message fits into a file. -/
theorem afterSend_indexedBy {s : FixSession} {c : OutgoingCache} (h : s.IndexedBy c)
    (hserialise : s.serialisationEnabled = true)
    (hreplay : s.settings.replayMessagesOnIncomingResendRequest = true)
    (hwell : c.serialiser.WellFormed) (hkeep : c.serialiser.keepMessageRecordsInMemory = true)
    (call : SendBytesCall) (hfits : c.serialiser.fitsFile call.buffer = true) (timestamp : UInt64) :
    (s.afterSend call.incrementOutgoingSeqNo call.ret timestamp).IndexedBy (c.sendBytes call) := by
  have hnumber : (s.afterSend call.incrementOutgoingSeqNo call.ret
      timestamp).sequenceStore.outgoingSeqNo = c.seqNoAfter call := by
    rw [afterSend_outgoingSeqNo, h.seqNo, OutgoingCache.seqNoAfter]
  refine ⟨hnumber, fun n => ?_⟩
  have hkeeps : (c.sendBytes call).serialiser.keepMessageRecordsInMemory = true := by
    show (c.serialiser.write _ _ _ _).keepMessageRecordsInMemory = true
    rw [write_keepMessageRecordsInMemory, hkeep]
  rw [afterSend_hasMessageInMemory hserialise hreplay, hnumber, h.inMemory n,
    hasMessageInMemory_eq, hasMessageInMemory_eq, hkeep, hkeeps,
    OutgoingCache.sendBytes_lookupMessage call hwell hkeep, OutgoingCache.written, if_pos hfits]
  by_cases hn : n = c.seqNoAfter call
  · simp [hn]
  · simp [hn]

end FixSession

end Llfix
