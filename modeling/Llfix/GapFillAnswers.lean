import Llfix.Decimal
import Llfix.OutgoingCounter
import Llfix.ReceivedMessage

/-!
# Answers by a gap fill

A gap fill is sent under the number that the peer asked for and announces the number behind the
last message sent. Nothing compares the two: a request that begins with 0, or behind the last
message, is answered all the same.

Results:
1. `willReplay_iff`: when a request is answered by a replay.
2. `movesForward_iff`: when a gap fill takes a peer forward that expects its number.
3. `gapFillForward_iff`: when the answers of both engines do.
4. `gapFillForward_fails`: a request from 0 on is answered under the number 0.
-/

namespace Llfix

open FixSession

/-- A control message carries a number from 1 on, announces the number behind `stored`, which is
larger than its own, and is accepted as a sequence reset by a session that has counted it. -/
def MovesForward (stored : UInt32) : Output → Prop
  | .sent (.control m sequenceNo) _ _ =>
    1 ≤ sequenceNo.toNat ∧ ∃ newSeqNo, m.body.lookup tagNewSeqNo = some newSeqNo ∧
      decimalValue newSeqNo = stored.toNat + 1 ∧ sequenceNo.toNat < decimalValue newSeqNo ∧
      ∀ received : IncomingFixMessage, received.tags.lookup tagNewSeqNo = some newSeqNo →
        acceptsSequenceReset sequenceNo received = true
  | _ => True

namespace FixSession

/-! ## The search for the messages -/

section Search

variable {s : FixSession} {last i : UInt32}

theorem hasMessagesInMemory_of_room (hroom : last.toNat + 1 < 2 ^ 32) {steps : Nat}
    (hsteps : last.toNat < steps + i.toNat) :
    s.hasMessagesInMemory last steps i = true ↔
      ∀ n, i ≤ n → n ≤ last → s.hasMessageInMemory n = true := by
  induction steps generalizing i with
  | zero =>
    rw [Nat.zero_add] at hsteps
    refine iff_of_true rfl fun n hin hn => absurd (UInt32.le_trans hin hn) ?_
    exact UInt32.not_le.mpr (UInt32.lt_iff_toNat_lt.mpr hsteps)
  | succ steps ih =>
    rw [hasMessagesInMemory]
    split
    · next hle =>
      have hle' : i.toNat ≤ last.toNat := UInt32.le_iff_toNat_le.mp hle
      have hnext : (i + 1).toNat = i.toNat + 1 := by
        rw [UInt32.toNat_add]
        exact Nat.mod_eq_of_lt (Nat.lt_of_le_of_lt (Nat.succ_le_succ hle') hroom)
      have hrest := ih (i := i + 1) (by rw [hnext]; omega)
      rw [Bool.and_eq_true, hrest]
      constructor
      · rintro ⟨hi, hall⟩ n hin hn
        rcases Nat.eq_or_lt_of_le (UInt32.le_iff_toNat_le.mp hin) with heq | hlt
        · rw [← UInt32.toNat_inj.mp heq]
          exact hi
        · exact hall n (UInt32.le_iff_toNat_le.mpr (hnext ▸ hlt)) hn
      · refine fun hall => ⟨hall i (UInt32.le_refl i) hle, fun n hin hn => hall n ?_ hn⟩
        have hin' := UInt32.le_iff_toNat_le.mp hin
        rw [hnext] at hin'
        exact UInt32.le_iff_toNat_le.mpr (Nat.le_of_succ_le hin')
    · next hlt =>
      exact iff_of_true rfl fun n hin hn => absurd (UInt32.le_trans hin hn) hlt

/-- No number is above the largest one, so that the search takes all its steps. -/
theorem hasMessagesInMemory_largest (hlast : last.toNat + 1 = 2 ^ 32) (steps : Nat) :
    s.hasMessagesInMemory last steps i = true ↔
      ∀ k < steps, s.hasMessageInMemory (i + UInt32.ofNat k) = true := by
  induction steps generalizing i with
  | zero => exact iff_of_true rfl fun k hk => absurd hk (Nat.not_lt_zero k)
  | succ steps ih =>
    have hle : i ≤ last := by
      have hi := i.toNat_lt
      rw [UInt32.le_iff_toNat_le]
      omega
    have hshift : ∀ k, i + 1 + UInt32.ofNat k = i + UInt32.ofNat (k + 1) := fun k => by
      rw [UInt32.ofNat_add, UInt32.add_assoc, UInt32.add_comm 1]
      rfl
    rw [hasMessagesInMemory, if_pos hle, Bool.and_eq_true, ih]
    constructor
    · rintro ⟨hi, hall⟩ k hk
      cases k with
      | zero => exact (UInt32.add_zero i).symm ▸ hi
      | succ k => exact hshift k ▸ hall k (Nat.lt_of_succ_lt_succ hk)
    · refine fun hall => ⟨?_, fun k hk => ?_⟩
      · exact UInt32.add_zero i ▸ hall 0 (Nat.succ_pos steps)
      · exact (hshift k).symm ▸ hall (k + 1) (Nat.succ_lt_succ hk)

/-- Replays are configured, the request asks for all numbers up to the last one used, their count is
allowed and their messages are in memory. At the largest number, behind which the search goes on from
0, these would be the messages of all numbers. -/
structure HasReplay (s : FixSession) : Prop where
  serialises : s.serialisationEnabled = true
  replays : s.settings.replayMessagesOnIncomingResendRequest = true
  toEnd : s.incomingResendRequestEndNo = 0 ∨
    s.incomingResendRequestEndNo = s.sequenceStore.outgoingSeqNo
  begin_le : s.incomingResendRequestBeginNo ≤ s.sequenceStore.outgoingSeqNo
  allowed : s.incomingResendRequestBeginNo < s.sequenceStore.outgoingSeqNo →
    (s.sequenceStore.outgoingSeqNo - s.incomingResendRequestBeginNo + 1).toNat ≤
      s.settings.maxResendRange
  inMemory : ∀ n, (s.incomingResendRequestBeginNo ≤ n ∧ n ≤ s.sequenceStore.outgoingSeqNo) ∨
    s.sequenceStore.outgoingSeqNo.toNat + 1 = 2 ^ 32 → s.hasMessageInMemory n = true

/-- The search finds the messages in memory. -/
theorem hasMessagesInMemory_iff :
    s.hasMessagesInMemory last 4294967296 i = true ↔
      ∀ n, (i ≤ n ∧ n ≤ last) ∨ last.toNat + 1 = 2 ^ 32 → s.hasMessageInMemory n = true := by
  rcases Nat.lt_or_ge (last.toNat + 1) (2 ^ 32) with hroom | hlargest
  · have hne : last.toNat + 1 ≠ 2 ^ 32 := Nat.ne_of_lt hroom
    rw [hasMessagesInMemory_of_room hroom (Nat.lt_add_right _ last.toNat_lt)]
    exact ⟨fun h n hn => h n (hn.resolve_right hne).1 (hn.resolve_right hne).2,
      fun h n hin hn => h n (.inl ⟨hin, hn⟩)⟩
  · have hlast : last.toNat + 1 = 2 ^ 32 := Nat.le_antisymm last.toNat_lt hlargest
    rw [hasMessagesInMemory_largest hlast]
    constructor
    · intro h n _
      have hstep := h (n - i).toNat (UInt32.toNat_lt _)
      rw [UInt32.ofNat_toNat, UInt32.add_comm, UInt32.sub_add_cancel] at hstep
      exact hstep
    · exact fun h k _ => h _ (.inr hlast)

theorem willReplay_iff : s.willReplay = true ↔ s.HasReplay := by
  unfold willReplay
  simp only [Bool.and_eq_true, Bool.or_eq_true, Bool.not_eq_true', decide_eq_true_eq,
    Bool.and_eq_false_iff, decide_eq_false_iff_not, hasMessagesInMemory_iff]
  constructor
  · rintro ⟨⟨⟨⟨⟨hserialises, hreplays⟩, hend⟩, hbegin⟩, hallowed⟩, hmemory⟩
    refine ⟨hserialises, hreplays, hend, hbegin, fun hlt => ?_, hmemory⟩
    exact Nat.le_of_not_lt (hallowed.resolve_left fun hge => hge hlt)
  · rintro ⟨hserialises, hreplays, hend, hbegin, hallowed, hmemory⟩
    refine ⟨⟨⟨⟨⟨hserialises, hreplays⟩, hend⟩, hbegin⟩, ?_⟩, hmemory⟩
    by_cases hlt : s.incomingResendRequestBeginNo < s.sequenceStore.outgoingSeqNo
    · exact .inr (Nat.not_lt.mpr (hallowed hlt))
    · exact .inl hlt

end Search

/-! ## The gap fill -/

/-- A ResendRequest that waits for an answer and has no replay begins with a number that was used,
and there is a number behind the last one used. -/
def GapFillInRange (s : FixSession) : Prop :=
  s.needsRespondingToIncomingResendRequest = true → ¬ s.HasReplay →
    1 ≤ s.incomingResendRequestBeginNo.toNat ∧
      s.incomingResendRequestBeginNo ≤ s.sequenceStore.outgoingSeqNo ∧
      s.sequenceStore.outgoingSeqNo.toNat + 1 < 2 ^ 32

theorem buildGapFillMessage_newSeqNo (s : FixSession) :
    s.buildGapFillMessage.body.lookup tagNewSeqNo =
      some (unsignedIntToChars (s.sequenceStore.outgoingSeqNo + 1)) := rfl

/-- A session that has counted the message accepts a larger number. -/
theorem acceptsSequenceReset_of_lt {counted newSeqNo : UInt32} (h : counted < newSeqNo)
    {received : IncomingFixMessage}
    (hreceived : received.tags.lookup tagNewSeqNo = some (unsignedIntToChars newSeqNo)) :
    acceptsSequenceReset counted received = true := by
  have hvalue : received.getTagValue tagNewSeqNo = unsignedIntToChars newSeqNo := by
    rw [IncomingFixMessage.getTagValue, hreceived]
    rfl
  have hzero : newSeqNo ≠ 0 := by
    rintro rfl
    exact absurd h (UInt32.not_lt.mpr (UInt32.zero_le))
  rw [acceptsSequenceReset, IncomingFixMessage.hasTag, hreceived,
    IncomingFixMessage.isTagValueNumeric, IncomingFixMessage.getTagValueAsUInt32, hvalue,
    unsignedIntToChars_isNumeric, charsToUnsignedInt_unsignedIntToChars, decide_eq_true hzero,
    decide_eq_true h]
  rfl

/-- The gap fill of a session takes the peer forward exactly for a request in range. -/
theorem movesForward_iff (s : FixSession) (k : UInt32) (ok : Bool) :
    MovesForward s.sequenceStore.outgoingSeqNo
        (.sent (.control s.buildGapFillMessage s.incomingResendRequestBeginNo) k ok) ↔
      1 ≤ s.incomingResendRequestBeginNo.toNat ∧
        s.incomingResendRequestBeginNo ≤ s.sequenceStore.outgoingSeqNo ∧
        s.sequenceStore.outgoingSeqNo.toNat + 1 < 2 ^ 32 := by
  have hsucc : (s.sequenceStore.outgoingSeqNo + 1).toNat =
      (s.sequenceStore.outgoingSeqNo.toNat + 1) % 2 ^ 32 := UInt32.toNat_add _ _
  have hlt := s.sequenceStore.outgoingSeqNo.toNat_lt
  constructor
  · rintro ⟨hpos, newSeqNo, hlookup, hvalue, hless, -⟩
    rw [buildGapFillMessage_newSeqNo] at hlookup
    obtain rfl := Option.some.inj hlookup
    rw [decimalValue_unsignedIntToChars] at hvalue hless
    refine ⟨hpos, ?_, ?_⟩
    · rw [UInt32.le_iff_toNat_le]
      omega
    · rw [hsucc] at hvalue
      rw [← hvalue]
      exact Nat.mod_lt _ (by decide)
  · rintro ⟨hpos, hle, hroom⟩
    have hnext : (s.sequenceStore.outgoingSeqNo + 1).toNat =
        s.sequenceStore.outgoingSeqNo.toNat + 1 := by
      rw [hsucc, Nat.mod_eq_of_lt hroom]
    have hless : s.incomingResendRequestBeginNo < s.sequenceStore.outgoingSeqNo + 1 := by
      rw [UInt32.lt_iff_toNat_lt, hnext]
      exact Nat.lt_succ_of_le (UInt32.le_iff_toNat_le.mp hle)
    refine ⟨hpos, _, s.buildGapFillMessage_newSeqNo, ?_, ?_,
      fun received => acceptsSequenceReset_of_lt hless⟩
    · rw [decimalValue_unsignedIntToChars, hnext]
    · rw [decimalValue_unsignedIntToChars]
      exact UInt32.lt_iff_toNat_lt.mp hless

/-- What is handed to the transport stands first among the new entries. -/
def SendsFirst (t : Transmission) (s s' : FixSession) : Prop :=
  ∃ k ok os, s'.trace = s.trace ++ .sent t k ok :: os ∧
    ∀ o ∈ os, ∀ t' k' ok', o ≠ .sent t' k' ok'

theorem SendsFirst.extends_iff {t : Transmission} {s s' : FixSession} (h : SendsFirst t s s')
    {P : Output → Prop} (hP : ∀ o, (∀ t' k' ok', o ≠ .sent t' k' ok') → P o) {Q : Prop}
    (hQ : ∀ k ok, P (.sent t k ok) ↔ Q) : Extends P s s' ↔ Q := by
  obtain ⟨k, ok, os, hos, hrest⟩ := h
  constructor
  · rintro ⟨os', hos', hall⟩
    obtain rfl := List.append_cancel_left (hos'.symm.trans hos)
    exact (hQ k ok).mp (hall _ List.mem_cons_self)
  · intro hq
    refine ⟨_, hos, fun o ho => ?_⟩
    rcases List.mem_cons.mp ho with rfl | ho
    · exact (hQ k ok).mpr hq
    · exact hP o (hrest o ho)

/-- A further state behind the message. -/
theorem SendsFirst.resendRequestAnswered {t : Transmission} {s s' : FixSession}
    (h : SendsFirst t s s') : SendsFirst t s s'.resendRequestAnswered := by
  obtain ⟨k, ok, os, hos, hrest⟩ := h
  refine ⟨k, ok, os ++ [.state .loggedOn], ?_, fun o ho => ?_⟩
  · show s'.trace ++ [.state .loggedOn] = _
    rw [hos, List.append_assoc]
    rfl
  · rcases List.mem_append.mp ho with ho | ho
    · exact hrest o ho
    · rw [List.mem_singleton.mp ho]
      exact nofun

theorem movesForward_of_not_sent (stored : UInt32) (o : Output)
    (h : ∀ t k ok, o ≠ .sent t k ok) : MovesForward stored o := by
  cases o with
  | sent t k ok => exact absurd rfl (h t k ok)
  | _ => trivial

end FixSession

/-! ## The client -/

namespace FixClient

variable (c : FixClient)

theorem sendBytes_sendsFirst (hopen : c.socketOpen = true) (t : Transmission) (o : SendOutcome) :
    SendsFirst t c.session (c.sendBytes t o).session := by
  by_cases ho : o.result = .connectionLost
  · refine ⟨c.session.sequenceStore.incomingSeqNo, false, [.state .disconnected, .connectionLost,
      .callback .onDisconnection none], ?_, by simp⟩
    simp [sendBytes_lost c t hopen ho, onConnectionLost_session]
  · refine ⟨c.session.sequenceStore.incomingSeqNo, o.result = .ok, [], ?_, by simp⟩
    simp [sendBytes_held c t hopen ho]

/-- Nothing but replays is sent by a replay. -/
theorem resendMessagesToServer_forward (stored beginSeqNo endSeqNo : UInt32)
    (o : UInt32 → SendOutcome) :
    Extends (MovesForward stored) c.session
      (c.resendMessagesToServer beginSeqNo endSeqNo o).session := by
  unfold resendMessagesToServer
  induction replayRange beginSeqNo endSeqNo generalizing c with
  | nil => exact .refl _ _
  | cons n ns ih =>
    refine Extends.trans ?_ (ih (c.sendBytes (.replay n) (o n)))
    cases hopen : c.socketOpen with
    | false => exact .of_trace_eq (by simp [sendBytes_closed c _ hopen])
    | true =>
      exact ((c.sendBytes_sendsFirst hopen (.replay n) (o n)).extends_iff
        (movesForward_of_not_sent stored) (Q := True) fun _ _ => Iff.rfl).mpr trivial

theorem respondToResendRequest_forward_iff (env : ClientProcessEnv) :
    Extends (MovesForward c.session.sequenceStore.outgoingSeqNo) c.session
        (c.respondToResendRequestIfNecessary env).session ↔
      (c.socketOpen = true → c.session.GapFillInRange) := by
  unfold respondToResendRequestIfNecessary GapFillInRange
  dsimp only
  split_ifs with hneeds hreplays
  · refine iff_of_true ?_ fun _ _ hno => ?_
    · exact (c.resendMessagesToServer_forward _ _ _ _).trans (.setState _ trivial)
    · exact absurd (willReplay_iff.mp hreplays) hno
  · have hnot : ¬ c.session.HasReplay := fun hhas => hreplays (willReplay_iff.mpr hhas)
    cases hopen : c.socketOpen with
    | false =>
      refine iff_of_true ?_ fun hno => ?_
      · refine Extends.trans (.of_trace_eq ?_) (.setState _ trivial)
        simp [sendGapFillMessage, sendBytes_closed c _ hopen]
      · cases hno
    | true =>
      have hsent := (c.sendBytes_sendsFirst hopen (.control c.session.buildGapFillMessage
        c.session.incomingResendRequestBeginNo) env.gapFillSend).resendRequestAnswered
      rw [forall_prop_of_true rfl, forall_prop_of_true hneeds, forall_prop_of_true hnot]
      exact hsent.extends_iff (movesForward_of_not_sent _) c.session.movesForward_iff
  · refine iff_of_true (.refl _ _) fun _ hno => ?_
    exact absurd hno hneeds

end FixClient

/-! ## The server -/

namespace FixServer

variable (srv : FixServer) (i : Nat)

theorem sendBytes_sendsFirst (hmapped : ¬ Unmapped i srv) (t : Transmission) (o : SendOutcome) :
    SendsFirst t (srv.sessions i) ((srv.sendBytes i t o).sessions i) := by
  obtain ⟨p, hp⟩ := Option.ne_none_iff_exists'.mp hmapped
  by_cases ho : o.result = .connectionLost
  · rw [sendBytes_lost srv i hp t ho, modifySession_sessions_self, onClientDisconnected_sessions]
    split
    · refine ⟨(srv.sessions i).sequenceStore.incomingSeqNo, false, [.state .disconnected], ?_,
        by simp⟩
      simp
    · refine ⟨(srv.sessions i).sequenceStore.incomingSeqNo, false, [], ?_, by simp⟩
      simp
  · refine ⟨(srv.sessions i).sequenceStore.incomingSeqNo, o.result = .ok, [], ?_, by simp⟩
    simp [sendBytes_held srv i hp t ho]

theorem resendMessagesToClient_forward (stored beginSeqNo endSeqNo : UInt32)
    (o : UInt32 → SendOutcome) :
    Extends (MovesForward stored) (srv.sessions i)
      ((srv.resendMessagesToClient i beginSeqNo endSeqNo o).sessions i) := by
  unfold resendMessagesToClient
  induction replayRange beginSeqNo endSeqNo generalizing srv with
  | nil => exact .refl _ _
  | cons n ns ih =>
    refine Extends.trans ?_ (ih (srv.sendBytes i (.replay n) (o n)))
    by_cases hmapped : Unmapped i srv
    · exact .of_trace_eq (by rw [sendBytes_unmapped srv i hmapped])
    · exact ((srv.sendBytes_sendsFirst i hmapped (.replay n) (o n)).extends_iff
        (movesForward_of_not_sent stored) (Q := True) fun _ _ => Iff.rfl).mpr trivial

theorem respondToResendRequest_forward_iff (env : ProcessEnv) :
    Extends (MovesForward (srv.sessions i).sequenceStore.outgoingSeqNo) (srv.sessions i)
        ((srv.respondToResendRequestIfNecessary i env).sessions i) ↔
      (¬ Unmapped i srv → (srv.sessions i).GapFillInRange) := by
  unfold respondToResendRequestIfNecessary GapFillInRange
  dsimp only
  split_ifs with hneeds hreplays
  · refine iff_of_true ?_ fun _ _ hno => ?_
    · rw [modifySession_sessions_self]
      exact (srv.resendMessagesToClient_forward i _ _ _ _).trans (.setState _ trivial)
    · exact absurd (willReplay_iff.mp hreplays) hno
  · have hnot : ¬ (srv.sessions i).HasReplay := fun hhas => hreplays (willReplay_iff.mpr hhas)
    rw [modifySession_sessions_self, sendGapFillMessage]
    by_cases hmapped : Unmapped i srv
    · refine iff_of_true ?_ fun hno => absurd hmapped hno
      rw [sendBytes_unmapped srv i hmapped]
      exact .setState _ trivial
    · have hsent := (srv.sendBytes_sendsFirst i hmapped
        (.control (srv.sessions i).buildGapFillMessage
          (srv.sessions i).incomingResendRequestBeginNo) env.gapFillSend).resendRequestAnswered
      rw [forall_prop_of_true hmapped, forall_prop_of_true hneeds, forall_prop_of_true hnot]
      exact hsent.extends_iff (movesForward_of_not_sent _) (srv.sessions i).movesForward_iff
  · refine iff_of_true (.refl _ _) fun _ hno => ?_
    exact absurd hno hneeds

end FixServer

/-- The answers of a client and of a server take the peer forward exactly when, with a connection
to send over, a request that is answered by a gap fill is in range. -/
theorem gapFillForward_iff (c : FixClient) (clientEnv : ClientProcessEnv) (srv : FixServer) (i : Nat)
    (env : ProcessEnv) :
    (Extends (MovesForward c.session.sequenceStore.outgoingSeqNo) c.session
        (c.respondToResendRequestIfNecessary clientEnv).session ↔
      (c.socketOpen = true → c.session.GapFillInRange)) ∧
    (Extends (MovesForward (srv.sessions i).sequenceStore.outgoingSeqNo) (srv.sessions i)
        ((srv.respondToResendRequestIfNecessary i env).sessions i) ↔
      (¬ FixServer.Unmapped i srv → (srv.sessions i).GapFillInRange)) :=
  ⟨c.respondToResendRequest_forward_iff clientEnv, srv.respondToResendRequest_forward_iff i env⟩

/-- A ResendRequest for all messages from 0 on. -/
def exampleRequestFromZero : RxMessage :=
  peerMessage exampleSettings msgTypeResendRequest 1
    [(tagBeginSeqNo, text "0"), (tagEndSeqNo, text "0")]

/-- The request is taken up, and answered under the number 0. -/
theorem gapFillForward_fails :
    takesResendRequest exampleRequestFromZero.message = true ∧
      ¬ Extends (MovesForward 5)
        (exampleSender.session.processResendRequest exampleRequestFromZero.message)
        ((exampleSender.modifySession
          (·.processResendRequest exampleRequestFromZero.message)).respondToResendRequestIfNecessary
            {}).session := by
  refine ⟨by decide +kernel, fun h => ?_⟩
  have hrange := ((exampleSender.modifySession
    (·.processResendRequest exampleRequestFromZero.message)).respondToResendRequest_forward_iff
      {}).mp h rfl
  obtain ⟨hpos, -⟩ := hrange (by decide +kernel) fun hreplay =>
    absurd hreplay.replays (by decide +kernel)
  exact absurd hpos (by decide +kernel)

end Llfix
