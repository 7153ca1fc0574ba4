import Llfix.Server.Messages

/-!
# Who waits for a retransmission

A session is in `IN_RETRANSMISSION_INITIATED_BY_SELF` only from the moment it has sent a
ResendRequest. Everything else either engine does to it is `Passive`: it does not put the session
into that state.

Results:
1. `Passive.trans`, `Proceeds.trans`: both relations compose along a handler.
2. `processResendRequest_needs`: a ResendRequest that is taken up waits for its answer.
-/

namespace Llfix

/-- A ResendRequest. -/
def RxMessage.isResendRequest (rx : RxMessage) : Bool := rx.msgType = [msgTypeResendRequest]

/-- A message the transport has sent completely, with the incoming number it was encoded with. -/
def sentMessage : Output → Option (Transmission × UInt32)
  | .sent t incomingSeqNo true => some (t, incomingSeqNo)
  | _ => none

/-- A ResendRequest on its way to the encoder. -/
def Transmission.isResendRequest : Transmission → Bool
  | .original m _ => m.msgType = [msgTypeResendRequest]
  | _ => false

namespace FixSession

/-- A step after which the session waits for a retransmission only if it did before. The history
grows. -/
structure Passive (s s' : FixSession) : Prop where
  waits : s'.state = .inRetransmissionInitiatedBySelf → s.state = .inRetransmissionInitiatedBySelf
  trace : s.trace <+: s'.trace

/-- The history has grown by a ResendRequest, among other entries. -/
def Asked (s s' : FixSession) : Prop :=
  ∃ before after t n, s'.trace = s.trace ++ before ++ .sent t n true :: after ∧
    t.isResendRequest = true

namespace Passive

variable {s s' s'' : FixSession}

theorem refl (s : FixSession) : Passive s s := ⟨id, List.prefix_rfl⟩

theorem trans (h : Passive s s') (h' : Passive s' s'') : Passive s s'' :=
  ⟨fun hwaits => h.waits (h'.waits hwaits), h.trace.trans h'.trace⟩

theorem silent (hstate : s'.state = s.state) (htrace : s'.trace = s.trace) : Passive s s' :=
  ⟨fun hwaits => hstate ▸ hwaits, htrace ▸ List.prefix_rfl⟩

theorem record (s : FixSession) (o : Output) : Passive s (s.record o) :=
  ⟨id, List.prefix_append _ _⟩

theorem setState (s : FixSession) {st : SessionState}
    (h : st ≠ .inRetransmissionInitiatedBySelf) : Passive s (s.setState st) :=
  ⟨fun hwaits => absurd hwaits h, List.prefix_append _ _⟩

theorem asked (h : Passive s s') (hasked : Asked s' s'') : Asked s s'' := by
  obtain ⟨os, hos⟩ := h.trace
  obtain ⟨before, after, t, n, htrace, ht⟩ := hasked
  exact ⟨os ++ before, after, t, n, by rw [htrace, ← hos]; simp, ht⟩

end Passive

theorem Asked.trace_append {s s' s'' : FixSession} (hasked : Asked s s')
    (h : s'.trace <+: s''.trace) : Asked s s'' := by
  obtain ⟨os, hos⟩ := h
  obtain ⟨before, after, t, n, htrace, ht⟩ := hasked
  exact ⟨before, after ++ os, t, n, by rw [← hos, htrace]; simp, ht⟩

theorem Asked.trace {s s' : FixSession} (hasked : Asked s s') : s.trace <+: s'.trace := by
  obtain ⟨before, after, t, n, htrace, -⟩ := hasked
  exact ⟨before ++ .sent t n true :: after, by rw [htrace]; simp⟩

/-- The session does not come to wait for a retransmission, or a ResendRequest has gone out. -/
def Proceeds (s s' : FixSession) : Prop := Passive s s' ∨ Asked s s'

theorem Proceeds.refl (s : FixSession) : Proceeds s s := .inl (.refl s)

theorem Proceeds.trace {s s' : FixSession} (h : Proceeds s s') : s.trace <+: s'.trace :=
  h.elim Passive.trace Asked.trace

theorem Proceeds.trans {s s' s'' : FixSession} (h : Proceeds s s') (h' : Proceeds s' s'') :
    Proceeds s s'' := by
  rcases h with hpassive | hasked
  · rcases h' with hpassive' | hasked'
    · exact .inl (hpassive.trans hpassive')
    · exact .inr (hpassive.asked hasked')
  · exact .inr (hasked.trace_append h'.trace)

theorem SendUpdate.passive {s s' : FixSession} (h : SendUpdate s s') : Passive s s' := by
  refine ⟨fun hwaits => h.state ▸ hwaits, ?_⟩
  obtain ⟨os, hos, -⟩ := h.extends (P := fun _ => True) fun _ _ _ => trivial
  exact ⟨os, hos.symm⟩

theorem satisfied_passive (s : FixSession) (rx : RxMessage) : Passive s (s.satisfied rx) := by
  unfold satisfied
  split
  · exact .setState s (by decide)
  · exact .refl s

theorem passed_passive (s : FixSession) (rx : RxMessage) (b : Bool) :
    Passive s (s.passed rx b) := by
  unfold passed
  split
  · exact (s.satisfied_passive rx).trans (.silent rfl rfl)
  · exact s.satisfied_passive rx

theorem processIncomingSequenceResetMessage_passive (s : FixSession) (m : IncomingFixMessage) :
    Passive s (s.processIncomingSequenceResetMessage m).1 := by
  cases h : acceptsSequenceReset s.sequenceStore.incomingSeqNo m with
  | true =>
    rw [processIncomingSequenceResetMessage_accepted h]
    have hset : Passive s (s.setIncomingSeqNo (m.getTagValueAsUInt32 tagNewSeqNo - 1)) :=
      .silent rfl rfl
    exact hset.trans (.setState _ (by decide))
  | false =>
    rw [processIncomingSequenceResetMessage_refused h]
    exact .refl s

theorem processResendRequest_passive (s : FixSession) (m : IncomingFixMessage) :
    Passive s (s.processResendRequest m) := by
  cases h : takesResendRequest m with
  | true =>
    rw [processResendRequest_taken h]
    have hpeer : Passive s (s.setState .inRetransmissionInitiatedByPeer) :=
      .setState s (by decide)
    exact hpeer.trans (.silent rfl rfl)
  | false =>
    rw [processResendRequest_ignored h]
    exact .refl s

theorem processTestRequestMessage_passive (s : FixSession) (m : IncomingFixMessage) :
    Passive s (s.processTestRequestMessage m) :=
  .silent (processTestRequestMessage_state s m) (processTestRequestMessage_trace s m)

theorem resendRequestAnswered_passive (s : FixSession) : Passive s s.resendRequestAnswered := by
  have hflag : Passive s { s with needsRespondingToIncomingResendRequest := false } :=
    .silent rfl rfl
  exact hflag.trans (.setState _ (by decide))

theorem tryPopAdminCommand_passive {s s' : FixSession} {command : ModifyingAdminCommand}
    (h : s.tryPopAdminCommand = some (command, s')) : Passive s s' := by
  unfold tryPopAdminCommand at h
  split at h
  · cases h
  · obtain ⟨-, rfl⟩ := Prod.mk.inj (Option.some.inj h)
    exact .silent rfl rfl

theorem reinitialiseOutgoingSerialiser_passive (s : FixSession) (records : List UInt32) :
    Passive s (s.reinitialiseOutgoingSerialiser records) := by
  unfold reinitialiseOutgoingSerialiser
  split
  · exact .silent rfl rfl
  · exact .refl s

/-- The session has a ResendRequest to answer. -/
theorem processResendRequest_needs {s : FixSession} {m : IncomingFixMessage}
    (h : takesResendRequest m = true) :
    (s.processResendRequest m).needsRespondingToIncomingResendRequest = true ∧
      (s.processResendRequest m).state ≠ .inRetransmissionInitiatedBySelf := by
  rw [processResendRequest_taken h]
  refine ⟨rfl, ?_⟩
  intro hwaits
  cases hwaits

end FixSession

open FixSession

end Llfix
