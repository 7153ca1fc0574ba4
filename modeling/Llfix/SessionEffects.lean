import Llfix.AdminUtility

/-!
# What a send does to a session

Every send of either engine changes a session in one of three ways (`SendUpdate`). None of them
touches what a message means to the session: `core` is that part. The history only grows, and
the outgoing number moves by the messages that were sent.

Results:
1. `SendUpdate.core`, `SendUpdate.state`: a send keeps the core and the state.
2. `SendUpdate.accounts`: the outgoing number counts the original messages sent.
3. `Extends.trans`, `Accounts.trans`: both relations compose along a handler.
-/

namespace Llfix

namespace FixSession

/-! ## Fields -/

@[simp] theorem record_trace (s : FixSession) (o : Output) :
    (s.record o).trace = s.trace ++ [o] := rfl

@[simp] theorem record_state (s : FixSession) (o : Output) : (s.record o).state = s.state := rfl

@[simp] theorem record_sequenceStore (s : FixSession) (o : Output) :
    (s.record o).sequenceStore = s.sequenceStore := rfl

@[simp] theorem record_incomingFixMessage (s : FixSession) (o : Output) :
    (s.record o).incomingFixMessage = s.incomingFixMessage := rfl

@[simp] theorem setState_state (s : FixSession) (st : SessionState) :
    (s.setState st).state = st := rfl

@[simp] theorem setState_trace (s : FixSession) (st : SessionState) :
    (s.setState st).trace = s.trace ++ [.state st] := rfl

@[simp] theorem setState_sequenceStore (s : FixSession) (st : SessionState) :
    (s.setState st).sequenceStore = s.sequenceStore := rfl

@[simp] theorem setSettings_state (s : FixSession) (x : FixSessionSettings) :
    (s.setSettings x).state = s.state := rfl

@[simp] theorem setSettings_trace (s : FixSession) (x : FixSessionSettings) :
    (s.setSettings x).trace = s.trace := rfl

@[simp] theorem setSettings_sequenceStore (s : FixSession) (x : FixSessionSettings) :
    (s.setSettings x).sequenceStore = s.sequenceStore := rfl

@[simp] theorem setSettings_incomingFixMessage (s : FixSession) (x : FixSessionSettings) :
    (s.setSettings x).incomingFixMessage = s.incomingFixMessage := rfl

@[simp] theorem writeOutgoingRecord_state (s : FixSession) (n : UInt32) :
    (s.writeOutgoingRecord n).state = s.state := by
  unfold writeOutgoingRecord
  split <;> rfl

@[simp] theorem writeOutgoingRecord_trace (s : FixSession) (n : UInt32) :
    (s.writeOutgoingRecord n).trace = s.trace := by
  unfold writeOutgoingRecord
  split <;> rfl

@[simp] theorem writeOutgoingRecord_sequenceStore (s : FixSession) (n : UInt32) :
    (s.writeOutgoingRecord n).sequenceStore = s.sequenceStore := by
  unfold writeOutgoingRecord
  split <;> rfl

@[simp] theorem afterSend_state (s : FixSession) (b ret : Bool) (ts : UInt64) :
    (s.afterSend b ret ts).state = s.state := by
  unfold afterSend
  split <;> simp

@[simp] theorem afterSend_trace (s : FixSession) (b ret : Bool) (ts : UInt64) :
    (s.afterSend b ret ts).trace = s.trace := by
  unfold afterSend
  split <;> simp

theorem afterSend_sequenceStore (s : FixSession) (b ret : Bool) (ts : UInt64) :
    (s.afterSend b ret ts).sequenceStore =
      if b && ret then s.sequenceStore.incrementOutgoingSeqNo else s.sequenceStore := by
  unfold afterSend
  split <;> simp

/-! ## The part that sends leave alone -/

/-- The session without its state, its outgoing number, its records, the time of the last send
and its history. -/
def core (s : FixSession) : FixSession :=
  { s with
    state := .none
    sequenceStore := s.sequenceStore.setOutgoingSeqNo 0
    lastSentMessageTimestampNanoseconds := 0
    outgoingMessageRecords := []
    trace := [] }

@[simp] theorem core_record (s : FixSession) (o : Output) : (s.record o).core = s.core := rfl

@[simp] theorem core_setState (s : FixSession) (st : SessionState) :
    (s.setState st).core = s.core := rfl

@[simp] theorem core_writeOutgoingRecord (s : FixSession) (n : UInt32) :
    (s.writeOutgoingRecord n).core = s.core := by
  unfold writeOutgoingRecord
  split <;> rfl

@[simp] theorem core_afterSend (s : FixSession) (b ret : Bool) (ts : UInt64) :
    (s.afterSend b ret ts).core = s.core := by
  have hts : ∀ (s : FixSession) ts,
      ({ s with lastSentMessageTimestampNanoseconds := ts } : FixSession).core = s.core :=
    fun _ _ => rfl
  unfold afterSend
  split
  · rw [hts, core_writeOutgoingRecord]
    rfl
  · rw [hts, core_writeOutgoingRecord]

section Core

variable {s s' : FixSession} (h : s'.core = s.core)
include h

theorem incomingSeqNo_of_core :
    s'.sequenceStore.incomingSeqNo = s.sequenceStore.incomingSeqNo :=
  show s'.core.sequenceStore.incomingSeqNo = s.core.sequenceStore.incomingSeqNo by rw [h]

theorem settings_of_core : s'.settings = s.settings :=
  show s'.core.settings = s.core.settings by rw [h]

theorem incomingFixMessage_of_core : s'.incomingFixMessage = s.incomingFixMessage :=
  show s'.core.incomingFixMessage = s.core.incomingFixMessage by rw [h]

end Core

/-! ## Sends -/

/-- The three ways in which `send_bytes` updates its session: the whole send in one go, or,
around the loss of the connection, the hand-over and the bookkeeping. -/
inductive SendUpdate : FixSession → FixSession → Prop
  | whole (s : FixSession) (t : Transmission) (ok : Bool) (ts : UInt64) :
      SendUpdate s ((s.record (.sent t s.sequenceStore.incomingSeqNo ok)).afterSend
        t.incrementOutgoingSeqNo ok ts)
  | handedOver (s : FixSession) (t : Transmission) :
      SendUpdate s (s.record (.sent t s.sequenceStore.incomingSeqNo false))
  | noted (s : FixSession) (b : Bool) (ts : UInt64) : SendUpdate s (s.afterSend b false ts)

theorem SendUpdate.core {s s' : FixSession} (h : SendUpdate s s') : s'.core = s.core := by
  cases h <;> simp

theorem SendUpdate.state {s s' : FixSession} (h : SendUpdate s s') : s'.state = s.state := by
  cases h <;> simp

/-! ## The history grows -/

/-- `s'` continues the history of `s` with entries that satisfy `P`. -/
def Extends (P : Output → Prop) (s s' : FixSession) : Prop :=
  ∃ os, s'.trace = s.trace ++ os ∧ ∀ o ∈ os, P o

theorem Extends.of_trace_eq {P : Output → Prop} {s s' : FixSession} (h : s'.trace = s.trace) :
    Extends P s s' :=
  ⟨[], by simpa using h, by simp⟩

theorem Extends.refl (P : Output → Prop) (s : FixSession) : Extends P s s :=
  .of_trace_eq rfl

theorem Extends.trans {P : Output → Prop} {s s' s'' : FixSession} (h : Extends P s s')
    (h' : Extends P s' s'') : Extends P s s'' := by
  obtain ⟨os, hos, hP⟩ := h
  obtain ⟨os', hos', hP'⟩ := h'
  refine ⟨os ++ os', by rw [hos', hos, List.append_assoc], fun o ho => ?_⟩
  rcases List.mem_append.mp ho with ho | ho
  · exact hP o ho
  · exact hP' o ho

theorem Extends.record {P : Output → Prop} (s : FixSession) {o : Output} (h : P o) :
    Extends P s (s.record o) :=
  ⟨[o], rfl, by simpa using h⟩

theorem Extends.setState {P : Output → Prop} (s : FixSession) {st : SessionState}
    (h : P (.state st)) : Extends P s (s.setState st) :=
  ⟨[.state st], rfl, by simpa using h⟩

theorem SendUpdate.extends {P : Output → Prop} (hP : ∀ t n ok, P (.sent t n ok))
    {s s' : FixSession} (h : SendUpdate s s') : Extends P s s' := by
  cases h with
  | whole t ok ts =>
    exact (Extends.record s (hP t s.sequenceStore.incomingSeqNo ok)).trans (.of_trace_eq (by simp))
  | handedOver t => exact .record s (hP _ _ _)
  | noted b ts => exact .of_trace_eq (by simp)

/-- The entries `s'` has recorded since `s`. -/
def since (s s' : FixSession) : List Output := s'.trace.drop s.trace.length

theorem since_of_append {s s' : FixSession} {os : List Output} (h : s'.trace = s.trace ++ os) :
    since s s' = os := by
  rw [since, h, List.drop_left]

/-! ## The outgoing number -/

/-- An original message that the transport sent completely. -/
def isOriginalSent : Output → Bool
  | .sent t _ ok => t.incrementOutgoingSeqNo && ok
  | _ => false

/-- `s'` continues the history of `s` and its outgoing number is the one of `s` plus the original
messages sent since. -/
def Accounts (s s' : FixSession) : Prop :=
  ∃ os, s'.trace = s.trace ++ os ∧
    s'.sequenceStore.outgoingSeqNo =
      s.sequenceStore.outgoingSeqNo + UInt32.ofNat (os.countP isOriginalSent)

theorem Accounts.of_eq {s s' : FixSession} (ht : s'.trace = s.trace)
    (hn : s'.sequenceStore.outgoingSeqNo = s.sequenceStore.outgoingSeqNo) : Accounts s s' :=
  ⟨[], by simpa using ht, by simpa using hn⟩

theorem Accounts.refl (s : FixSession) : Accounts s s := .of_eq rfl rfl

theorem Accounts.trans {s s' s'' : FixSession} (h : Accounts s s') (h' : Accounts s' s'') :
    Accounts s s'' := by
  obtain ⟨os, hos, hn⟩ := h
  obtain ⟨os', hos', hn'⟩ := h'
  refine ⟨os ++ os', by rw [hos', hos, List.append_assoc], ?_⟩
  rw [hn', hn, List.countP_append, UInt32.ofNat_add, UInt32.add_assoc]

theorem Accounts.record {s : FixSession} {o : Output} (h : isOriginalSent o = false) :
    Accounts s (s.record o) :=
  ⟨[o], rfl, by simp [h]⟩

theorem Accounts.setState (s : FixSession) (st : SessionState) : Accounts s (s.setState st) :=
  .record rfl

theorem SendUpdate.accounts {s s' : FixSession} (h : SendUpdate s s') : Accounts s s' := by
  cases h with
  | whole t ok ts =>
    refine ⟨[.sent t s.sequenceStore.incomingSeqNo ok], by simp, ?_⟩
    cases hsent : t.incrementOutgoingSeqNo && ok <;>
      simp [afterSend_sequenceStore, isOriginalSent, hsent,
        SequenceStore.incrementOutgoingSeqNo]
  | handedOver t => exact .record (by simp [isOriginalSent])
  | noted b ts => exact .of_eq (by simp) (by simp [afterSend_sequenceStore])

end FixSession

end Llfix
