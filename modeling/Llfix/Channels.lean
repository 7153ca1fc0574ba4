import Llfix.Client.NewMessages
import Llfix.Decimal
import Llfix.MutualGap
import Llfix.OutgoingMessage
import Llfix.Server.NewMessages

/-!
# What a session reads

What is on its way to a session are new messages, each under the next number, or the rest of the
answer to a ResendRequest and new messages behind it: messages under their old numbers, and
SequenceResets for those that are not sent again.

Results:
1. `Tracks.handled`, `Tracks.skipped`: one message, and what is left to read.
2. `FixClient.foldl_rxStep_tracks`, `FixServer.foldl_rxStep_tracks`: either engine reads any part.
-/

namespace Llfix

open FixSession GuardedRun

/-! ## Channels -/

/-- Consecutive numbers, the first of them behind `n`, and no request for a retransmission. -/
def Consecutive (n : UInt32) : List RxMessage → Prop
  | [] => True
  | rx :: rest =>
    (rx.seqNum = n + 1 ∧ isOrdinaryType rx.msgType = true) ∧ Consecutive (n + 1) rest

theorem consecutive_append {n : UInt32} {xs ys : List RxMessage} :
    Consecutive n (xs ++ ys) ↔
      Consecutive n xs ∧ Consecutive (n + UInt32.ofNat xs.length) ys := by
  induction xs generalizing n with
  | nil =>
    have hzero : n + UInt32.ofNat ([] : List RxMessage).length = n := UInt32.add_zero n
    rw [hzero]
    exact ⟨fun h => ⟨trivial, h⟩, fun h => h.2⟩
  | cons x xs ih =>
    rw [ofNat_length_cons, List.cons_append, Consecutive, Consecutive, ih]
    exact and_assoc.symm

/-- A read takes messages from the front of a channel. -/
theorem zip_append_drop {α β : Type*} : ∀ (xs : List α) (ys : List β),
    xs = (xs.zip ys).map Prod.fst ++ xs.drop ys.length
  | [], _ => by rw [List.zip_nil_left, List.drop_nil, List.map_nil, List.append_nil]
  | _ :: _, [] => rfl
  | x :: xs, _ :: ys => congrArg (x :: ·) (zip_append_drop xs ys)

/-- The message is a SequenceReset that announces the number behind `n`. -/
structure RxMessage.SkipsTo (rx : RxMessage) (n : Nat) : Prop where
  msgType : rx.msgType = [msgTypeSequenceReset]
  present : rx.message.hasTag tagNewSeqNo = true
  numeric : rx.message.isTagValueNumeric tagNewSeqNo = true
  newSeqNo : (rx.message.getTagValueAsUInt32 tagNewSeqNo).toNat = n + 1

/-- What takes a session from the number `k` to the number `final` of its peer: with `repairs`, the
rest of an answer that reaches `last`, and new messages behind it. -/
inductive Feeds (repairs : Bool) (last final : UInt32) : Nat → List RxMessage → Prop
  | new {channel : List RxMessage} : Consecutive last channel →
      final = last + UInt32.ofNat channel.length → Feeds repairs last final last.toNat channel
  | resend {k : Nat} {rx : RxMessage} {rest : List RxMessage} : repairs = true →
      last.toNat + 1 < 2 ^ 32 → rx.seqNum.toNat = k + 1 →
      isANonRetransmittableAdminMessageType rx.msgType = false →
      Feeds repairs last final (k + 1) rest → Feeds repairs last final k (rx :: rest)
  | skip {k n : Nat} {rx : RxMessage} {rest : List RxMessage} : repairs = true →
      last.toNat + 1 < 2 ^ 32 → rx.seqNum.toNat = k + 1 → rx.SkipsTo n → k < n →
      Feeds repairs last final n rest → Feeds repairs last final k (rx :: rest)

namespace Feeds

variable {repairs : Bool} {last final : UInt32} {k : Nat} {rx : RxMessage}
  {channel rest new : List RxMessage}

theorem le (h : Feeds repairs last final k channel) : k ≤ last.toNat := by
  induction h with
  | new => exact Nat.le_refl _
  | resend _ _ _ _ _ ih => exact Nat.le_of_succ_le ih
  | skip _ _ _ _ hlt _ ih => exact hlt.le.trans ih

/-- The channel grows at its end. -/
theorem append (h : Feeds repairs last final k channel) (hnew : Consecutive final new) :
    Feeds repairs last (final + UInt32.ofNat new.length) k (channel ++ new) := by
  induction h with
  | new hconsecutive hfinal =>
    refine .new (consecutive_append.mpr ⟨hconsecutive, hfinal ▸ hnew⟩) ?_
    rw [ofNat_length_append, ← hfinal]
  | resend hrepairs hlast hseq htype _ ih => exact .resend hrepairs hlast hseq htype ih
  | skip hrepairs hlast hseq hskips hlt _ ih => exact .skip hrepairs hlast hseq hskips hlt ih

/-- A message that is sent again is no request and no SequenceReset. -/
theorem isOrdinary_of_retransmitted
    (htype : isANonRetransmittableAdminMessageType rx.msgType = false) :
    isOrdinaryType rx.msgType = true := by
  have hne : ∀ t : UInt8, isANonRetransmittableAdminMessageType [t] = true → rx.msgType ≠ [t] := by
    intro t ht heq
    rw [heq, ht] at htype
    cases htype
  rw [isOrdinaryType, Bool.and_eq_true, decide_eq_true_eq, decide_eq_true_eq]
  exact ⟨hne _ rfl, hne _ rfl⟩

end Feeds

namespace FixSession

/-- The session has counted up to `k`, and if it waits then for a message up to `last`. -/
structure AwaitsAnswer (k last : Nat) (s : FixSession) : Prop where
  incoming : s.sequenceStore.incomingSeqNo.toNat = k
  asksNothing : s.needsToSendResendRequest = false
  waits : s.state = .inRetransmissionInitiatedBySelf →
    k < s.outgoingResendRequestEndNo.toNat ∧ s.outgoingResendRequestEndNo.toNat ≤ last

/-- The session reads from the channel up to the number `final` of its peer. -/
def Tracks (repairs : Bool) (final : UInt32) (s : FixSession) (channel : List RxMessage) : Prop :=
  ∃ last k, s.AwaitsAnswer k last.toNat ∧ Feeds repairs last final k channel

variable {repairs : Bool} {final : UInt32} {s s' : FixSession} {rx : RxMessage}
  {channel rest new : List RxMessage} {k last : Nat}

theorem AwaitsAnswer.keeps (h : s.AwaitsAnswer k last) (hkeeps : Keeps s s')
    (hincoming : s'.sequenceStore.incomingSeqNo = s.sequenceStore.incomingSeqNo) :
    s'.AwaitsAnswer k last where
  incoming := hincoming ▸ h.incoming
  asksNothing := hkeeps.asks.trans h.asksNothing
  waits hwaits := hkeeps.endNo ▸ h.waits (hkeeps.waits hwaits)

theorem Tracks.moves (h : Tracks repairs final s channel) (hmoves : Moves [] s s') :
    Tracks repairs final s' channel := by
  obtain ⟨last, k, hawaits, hfeeds⟩ := h
  exact ⟨last, k, hawaits.keeps hmoves.keeps (hmoves.incoming.trans (UInt32.add_zero _)), hfeeds⟩

/-- A calm session waits for nothing. -/
theorem Tracks.of_calm (h : Tracks repairs final s channel) (hcalm : s'.Calm)
    (hincoming : s'.sequenceStore.incomingSeqNo = s.sequenceStore.incomingSeqNo) :
    Tracks repairs final s' channel := by
  obtain ⟨last, k, hawaits, hfeeds⟩ := h
  exact ⟨last, k, ⟨hincoming ▸ hawaits.incoming, hcalm.asksNothing,
    fun hwaits => absurd hwaits hcalm.waitsNot⟩, hfeeds⟩

theorem Tracks.append (h : Tracks repairs final s channel) (hnew : Consecutive final new) :
    Tracks repairs (final + UInt32.ofNat new.length) s (channel ++ new) := by
  obtain ⟨last, k, hawaits, hfeeds⟩ := h
  exact ⟨last, k, hawaits, hfeeds.append hnew⟩

/-- When all is read, the two numbers agree and the session does not wait. -/
theorem Tracks.end (h : Tracks repairs final s []) :
    s.sequenceStore.incomingSeqNo = final ∧ s.state ≠ .inRetransmissionInitiatedBySelf := by
  obtain ⟨last, k, hawaits, hfeeds⟩ := h
  cases hfeeds with
  | new _ hfinal =>
    have hsame : final = last := hfinal.trans (UInt32.add_zero last)
    refine ⟨?_, fun hwaits => ?_⟩
    · rw [hsame]
      exact UInt32.toNat_inj.mp hawaits.incoming
    · obtain ⟨hbelow, hreached⟩ := hawaits.waits hwaits
      exact absurd hbelow (Nat.not_lt.mpr hreached)

/-! ## One message -/

theorem Feeds.seqNum {last : UInt32} (h : Feeds repairs last final k (rx :: rest))
    (hawaits : s.AwaitsAnswer k last.toNat) :
    rx.seqNum = s.sequenceStore.incomingSeqNo + 1 := by
  have hnext : ∀ {n : UInt32}, n.toNat = k + 1 → k + 1 < 2 ^ 32 →
      n = s.sequenceStore.incomingSeqNo + 1 := by
    intro n hn hroom
    refine UInt32.toNat_inj.mp ?_
    rw [hn, UInt32.toNat_add, hawaits.incoming]
    exact (Nat.mod_eq_of_lt hroom).symm
  cases h with
  | new hconsecutive =>
    have hsame : s.sequenceStore.incomingSeqNo = last := UInt32.toNat_inj.mp hawaits.incoming
    rw [hsame]
    exact hconsecutive.1.1
  | resend _ hlast hseq _ hrest =>
    exact hnext hseq (Nat.lt_of_le_of_lt hrest.le (Nat.lt_of_succ_lt hlast))
  | skip _ hlast hseq _ hlt hrest =>
    exact hnext hseq (Nat.lt_of_le_of_lt (Nat.le_trans hlt hrest.le) (Nat.lt_of_succ_lt hlast))

theorem Tracks.seqNum (h : Tracks repairs final s (rx :: rest)) :
    rx.seqNum = s.sequenceStore.incomingSeqNo + 1 := by
  obtain ⟨last, k, hawaits, hfeeds⟩ := h
  exact Feeds.seqNum hfeeds hawaits

/-- The message is a SequenceReset or no request for a retransmission at all. -/
theorem Tracks.ordinary (h : Tracks repairs final s (rx :: rest))
    (hreset : rx.msgType ≠ [msgTypeSequenceReset]) : isOrdinaryType rx.msgType = true := by
  obtain ⟨last, k, -, hfeeds⟩ := h
  cases hfeeds with
  | new hconsecutive => exact hconsecutive.1.2
  | resend _ _ _ htype => exact Feeds.isOrdinary_of_retransmitted htype
  | skip _ _ _ hskips => exact absurd hskips.msgType hreset

/-- Behind the count of a resend. -/
theorem AwaitsAnswer.counted (h : s.AwaitsAnswer k last) (hroom : k + 1 < 2 ^ 32)
    (hseq : rx.seqNum.toNat = k + 1) (now : UInt64) :
    ((s.counted rx now).satisfied rx).AwaitsAnswer (k + 1) last where
  incoming := by
    rw [satisfied_sequenceStore, counted_incomingSeqNo, UInt32.toNat_add, h.incoming]
    exact Nat.mod_eq_of_lt hroom
  asksNothing := (satisfied_moves (s.counted rx now) rx).keeps.asks.trans h.asksNothing
  waits hwaits := by
    rw [(satisfied_moves (s.counted rx now) rx).keeps.endNo]
    rw [satisfied_state, counted_resendRequestSatisfied] at hwaits
    split at hwaits
    · cases hwaits
    · next hmore =>
      obtain ⟨hbelow, hreached⟩ := h.waits hwaits
      refine ⟨Nat.lt_of_le_of_ne hbelow fun heq => hmore ?_, hreached⟩
      -- The message is not the one that the session waits for.
      have hend : rx.seqNum = s.outgoingResendRequestEndNo :=
        UInt32.toNat_inj.mp (hseq.trans heq)
      rw [counted_state] at hwaits
      rw [resendRequestSatisfied, hwaits, hend, decide_eq_true rfl, decide_eq_true rfl]
      rfl

/-- A message that is handled leaves the rest to be read. -/
theorem Tracks.handled (h : Tracks repairs final s (rx :: rest)) {now : UInt64}
    {counted : FixSession} (hcounted : Moves [] ((s.counted rx now).satisfied rx) counted)
    (hordinary : isOrdinaryType rx.msgType = true) (hhandles : Handles rx counted s') :
    Tracks repairs final s' rest := by
  obtain ⟨last, k, hawaits, hfeeds⟩ := h
  have hkeeps := hcounted.keeps.trans hhandles.keeps
  have hincoming : s'.sequenceStore.incomingSeqNo =
      ((s.counted rx now).satisfied rx).sequenceStore.incomingSeqNo := by
    rw [hhandles.incoming, hcounted.incoming]
    exact UInt32.add_zero _
  cases hfeeds with
  | new hconsecutive hfinal =>
    have hsame : s.sequenceStore.incomingSeqNo = last := UInt32.toNat_inj.mp hawaits.incoming
    refine ⟨last + 1, (last + 1).toNat, AwaitsAnswer.keeps ⟨?_, ?_, ?_⟩ hkeeps hincoming,
      .new hconsecutive.2 (hfinal.trans (ofNat_length_cons _ _ _))⟩
    · rw [satisfied_sequenceStore, counted_incomingSeqNo, hsame]
    · exact (satisfied_moves (s.counted rx now) rx).keeps.asks.trans hawaits.asksNothing
    · -- A session that has caught up does not wait.
      intro hwaits
      have hwaits' := (satisfied_moves (s.counted rx now) rx).keeps.waits hwaits
      obtain ⟨hbelow, hreached⟩ := hawaits.waits hwaits'
      exact absurd hbelow (Nat.not_lt.mpr hreached)
  | resend _ hlast hseq _ hrest =>
    have hroom : k + 1 < 2 ^ 32 := Nat.lt_of_le_of_lt hrest.le (Nat.lt_of_succ_lt hlast)
    exact ⟨last, k + 1, (hawaits.counted hroom hseq now).keeps hkeeps hincoming, hrest⟩
  | skip _ _ _ hskips =>
    rw [hskips.msgType] at hordinary
    cases hordinary

/-- A SequenceReset takes the session to the number that it announces. -/
theorem Tracks.skipped (h : Tracks repairs final s (rx :: rest)) {now : UInt64}
    {counted : FixSession} (hcounted : Moves [] ((s.counted rx now).satisfied rx) counted)
    (hreset : rx.msgType = [msgTypeSequenceReset]) :
    ∃ s', counted.processIncomingSequenceResetMessage rx.message = (s', true) ∧
      Exchanges [rx] counted s' ∧ Keeps counted s' ∧ s'.state = .loggedOn ∧
      Tracks repairs final s' rest := by
  obtain ⟨last, k, hawaits, hfeeds⟩ := h
  -- Neither a new message nor one that is sent again is a SequenceReset.
  cases hfeeds with
  | new hconsecutive =>
    have hordinary := hconsecutive.1.2
    rw [hreset] at hordinary
    cases hordinary
  | resend _ _ _ htype =>
    rw [hreset] at htype
    cases htype
  | @skip _ n _ _ _ hlast hseq hskips hlt hrest =>
    have hroom : k + 1 < 2 ^ 32 :=
      Nat.lt_of_le_of_lt (Nat.le_trans hlt hrest.le) (Nat.lt_of_succ_lt hlast)
    have hawaits' : counted.AwaitsAnswer (k + 1) last.toNat :=
      (hawaits.counted hroom hseq now).keeps hcounted.keeps
        (hcounted.incoming.trans (UInt32.add_zero _))
    have hnew := hskips.newSeqNo
    generalize hvalue : rx.message.getTagValueAsUInt32 tagNewSeqNo = newSeqNo at hnew
    have hone : 1 ≤ newSeqNo := by
      rw [UInt32.le_iff_toNat_le, hnew]
      exact Nat.le_add_left 1 n
    have hpositive : newSeqNo ≠ 0 := by
      rintro rfl
      exact Nat.succ_ne_zero n hnew.symm
    have hlarger : counted.sequenceStore.incomingSeqNo < newSeqNo := by
      rw [UInt32.lt_iff_toNat_lt, hawaits'.incoming, hnew]
      exact Nat.succ_lt_succ hlt
    have haccepts : acceptsSequenceReset counted.sequenceStore.incomingSeqNo rx.message = true := by
      rw [acceptsSequenceReset, hskips.present, hskips.numeric, hvalue, decide_eq_true hpositive,
        decide_eq_true hlarger]
      rfl
    have hnothing : rx.handedOn = none := handedOn_of_type hskips.msgType
    refine ⟨_, processIncomingSequenceResetMessage_accepted haccepts, ?_, ?_, rfl, last, n, ?_,
      hrest⟩
    · exact Exchanges.record counted (o := .state .loggedOn) rfl
        (rx.filterMap_handedOn (o := .state .loggedOn) hnothing.symm)
    · exact ⟨rfl, rfl, rfl, rfl, SessionState.noConfusion⟩
    · refine ⟨?_, hawaits'.asksNothing, SessionState.noConfusion⟩
      show (rx.message.getTagValueAsUInt32 tagNewSeqNo - 1).toNat = n
      rw [hvalue, UInt32.toNat_sub_of_le _ _ hone, hnew]
      rfl

/-- From `s` to `s'` the messages `taken` are read, whatever their numbers. -/
structure Reads (taken : List RxMessage) (s s' : FixSession) : Prop where
  exchanges : Exchanges taken s s'
  keeps : Keeps s s'

theorem Reads.refl (s : FixSession) : Reads [] s s := ⟨.silent rfl rfl, .refl s⟩

theorem Reads.trans {s'' : FixSession} {taken taken' : List RxMessage} (h : Reads taken s s')
    (h' : Reads taken' s' s'') : Reads (taken ++ taken') s s'' :=
  ⟨h.exchanges.trans h'.exchanges, h.keeps.trans h'.keeps⟩

theorem Reads.next {s'' : FixSession} {taken : List RxMessage} (h : Reads taken s s')
    (h' : Moves [] s' s'') : Reads taken s s'' :=
  List.append_nil taken ▸ h.trans ⟨h'.exchanges, h'.keeps⟩

/-- With the count in front. -/
theorem Reads.counts {now : UInt64} {counted : FixSession}
    (hcounted : Moves [] ((s.counted rx now).satisfied rx) counted)
    (hexchanges : Exchanges [rx] counted s') (hkeeps : Keeps counted s') : Reads [rx] s s' := by
  have hmoves := (satisfied_moves (s.counted rx now) rx).next hcounted
  obtain ⟨os, htrace, hnew, hout, hdelivered⟩ := hmoves.exchanges.trans hexchanges
  have hkeeps' := hmoves.keeps.trans hkeeps
  exact ⟨⟨os, htrace, hnew, hout, hdelivered⟩,
    ⟨hkeeps'.asks, hkeeps'.owes, hkeeps'.commands, hkeeps'.endNo, hkeeps'.waits⟩⟩

end FixSession

/-! ## The client -/

/-- A message that arrives at the client passes the validation. -/
def FixClient.Accepts (c : FixClient) (e : RxMessage × ClientRxEnv) : Prop :=
  c.session.verdict e.1 e.2.utcNow = .valid

namespace FixClient

variable {c : FixClient} {repairs : Bool} {final : UInt32}

/-- The client reads the first message of its channel. -/
theorem handleMessage_tracks {e : RxMessage × ClientRxEnv} {rest : List RxMessage}
    (h : Tracks repairs final c.session (e.1 :: rest)) (haccepts : c.Accepts e) :
    Reads [e.1] c.session (c.handleMessage e.1 e.2).session ∧
      Tracks repairs final (c.handleMessage e.1 e.2).session rest ∧
      (c.session.state ≠ .disconnected →
        (c.handleMessage e.1 e.2).session.state ≠ .disconnected) := by
  obtain ⟨rx, env⟩ := e
  let counted := c.modifySession fun s => (s.counted rx env.nowNanoseconds).satisfied rx
  have hcounted : Moves [] ((c.session.counted rx env.nowNanoseconds).satisfied rx)
      counted.session := .refl _
  rw [handleMessage_expected h.seqNum haccepts]
  by_cases hreset : rx.msgType = [msgTypeSequenceReset]
  · obtain ⟨s', hprocess, hexchanges, hkeeps, hstate, hrest⟩ := h.skipped hcounted hreset
    have hdispatch : counted.dispatch rx.message env = counted.modifySession fun _ => s' := by
      have htype : rx.message.getTagValue tagMsgType = [msgTypeSequenceReset] := hreset
      have hhandler : counted.dispatch rx.message env =
          counted.processSequenceReset rx.message env := by
        simp only [dispatch, htype]
        rfl
      rw [hhandler, processSequenceReset, hprocess]
      rfl
    rw [hdispatch]
    refine ⟨.counts hcounted hexchanges hkeeps, hrest, fun _ => ?_⟩
    show s'.state ≠ _
    rw [hstate]
    exact SessionState.noConfusion
  · have hordinary := h.ordinary hreset
    obtain ⟨hhandles, hconnected⟩ :=
      (dispatch_handles hordinary : Handles rx counted.session
        (counted.dispatch rx.message env).session ∧ _)
    refine ⟨.counts hcounted hhandles.exchanges hhandles.keeps,
      h.handled hcounted hordinary hhandles, fun hup => hconnected ?_⟩
    show ((c.session.counted rx env.nowNanoseconds).satisfied rx).state ≠ _
    rw [satisfied_state]
    split
    · exact SessionState.noConfusion
    · exact hup

/-- The client reads from the front of its channel. -/
theorem foldl_rxStep_tracks {messages : List (RxMessage × ClientRxEnv)} {rest : List RxMessage}
    {l : RxLoop} (hreturned : l.returned = false) (hstate : l.client.session.state ≠ .disconnected)
    (h : Tracks repairs final l.client.session (messages.map Prod.fst ++ rest))
    (haccepts : Guarded rxStep (fun l e => l.returned = false → l.client.Accepts e) l messages) :
    Reads (messages.map Prod.fst) l.client.session (messages.foldl rxStep l).client.session ∧
      Tracks repairs final (messages.foldl rxStep l).client.session rest := by
  induction messages generalizing l with
  | nil => exact ⟨.refl _, h⟩
  | cons e messages ih =>
    obtain ⟨haccepts, haccepts'⟩ := haccepts
    have hstep : rxStep l e =
        { client := l.client.handleMessage e.1 e.2,
          returned := (l.client.handleMessage e.1 e.2).session.state = .disconnected } := by
      rw [rxStep, hreturned, if_neg Bool.false_ne_true]
    obtain ⟨hreads, hrest, hconnected⟩ := handleMessage_tracks h (haccepts hreturned)
    have hstate' := hconnected hstate
    rw [List.foldl_cons, List.map_cons]
    rw [hstep] at haccepts' ⊢
    obtain ⟨hreads', hend⟩ := ih (decide_eq_false hstate') hstate' hrest haccepts'
    exact ⟨hreads.trans hreads', hend⟩

end FixClient

/-! ## The server -/

/-- A message that arrives at the session passes the validation and the throttler. -/
def FixServer.Accepts (i : Nat) (srv : FixServer) (e : RxMessage × ServerRxEnv) : Prop :=
  (srv.sessions i).verdict e.1 e.2.utcNow = .valid ∧
    (srv.sessions i).throttles e.2.throttlerReachedLimit = false

namespace FixServer

variable {i p : Nat} {srv srv' srv'' : FixServer} {repairs : Bool} {final : UInt32}
  {taken taken' : List RxMessage}

/-- Session `i` reads, and goes on holding its connection while that is up. -/
structure Reads (i p : Nat) (taken : List RxMessage) (srv srv' : FixServer) : Prop where
  session : FixSession.Reads taken (srv.sessions i) (srv'.sessions i)
  holding : srv.Holding i p → srv'.Holding i p
  connected : srv'.connected p = true → srv.connected p = true

theorem Reads.refl (srv : FixServer) : Reads i p [] srv srv := ⟨.refl _, id, id⟩

theorem Reads.trans (h : Reads i p taken srv srv') (h' : Reads i p taken' srv' srv'') :
    Reads i p (taken ++ taken') srv srv'' :=
  ⟨h.session.trans h'.session, h'.holding ∘ h.holding, h.connected ∘ h'.connected⟩

theorem Moves.reads (h : Moves i p taken srv srv') : Reads i p taken srv srv' :=
  ⟨⟨h.session.exchanges, h.session.keeps⟩, h.holding, h.connected⟩

/-- The session reads the first message of its channel. -/
theorem handleMessage_tracks {e : RxMessage × ServerRxEnv} {rest : List RxMessage}
    (h : Tracks repairs final (srv.sessions i) (e.1 :: rest)) (haccepts : srv.Accepts i e) :
    Reads i p [e.1] srv (srv.handleMessage i p e.1 e.2) ∧
      Tracks repairs final ((srv.handleMessage i p e.1 e.2).sessions i) rest := by
  obtain ⟨rx, env⟩ := e
  obtain ⟨hvalid, hthrottles⟩ := haccepts
  let passed := (srv.modifySession i (·.counted rx env.nowNanoseconds)).modifySession i
    (·.passed rx env.throttlerReachedLimit)
  have hself : passed.sessions i = ((srv.sessions i).counted rx env.nowNanoseconds).passed rx
      env.throttlerReachedLimit := by
    rw [modifySession_sessions_self, modifySession_sessions_self]
  have hpassed : FixSession.Moves [] (((srv.sessions i).counted rx env.nowNanoseconds).satisfied rx)
      (passed.sessions i) := by
    rw [hself]
    unfold FixSession.passed
    split
    · exact .silent rfl rfl ⟨rfl, rfl, rfl, rfl, id⟩
    · exact .refl _
  have hholding : srv.Holding i p → passed.Holding i p := by
    refine fun hholding hp => (hholding hp).of_connectors rfl ?_
    rw [hself, passed_state]
    split
    · exact SessionState.noConfusion
    · exact (hholding hp).known
  rw [handleMessage_expected h.seqNum hvalid hthrottles]
  -- A gap fill skips numbers, any other message of the channel counts its own.
  by_cases hreset : rx.msgType = [msgTypeSequenceReset]
  · obtain ⟨s', hprocess, hexchanges, hkeeps, hstate, hrest⟩ := h.skipped hpassed hreset
    have hdispatch : passed.dispatch i p rx.message env = passed.modifySession i fun _ => s' := by
      have htype : rx.message.getTagValue tagMsgType = [msgTypeSequenceReset] := hreset
      have hhandler : passed.dispatch i p rx.message env =
          passed.processSequenceReset i rx.message env := by
        simp only [dispatch, htype]
        rfl
      rw [hhandler, processSequenceReset, hprocess]
      rfl
    have hlast : (passed.modifySession i fun _ => s').sessions i = s' :=
      modifySession_sessions_self passed i _
    rw [hdispatch]
    refine ⟨⟨?_, fun hheld hp => (hholding hheld hp).of_connectors rfl ?_, id⟩, ?_⟩
    · rw [hlast]
      exact .counts hpassed hexchanges hkeeps
    · rw [hlast, hstate]
      exact SessionState.noConfusion
    · rw [hlast]
      exact hrest
  · have hordinary := h.ordinary hreset
    have hseq : (passed.sessions i).incomingFixMessage.getTagValueAsUInt32 tagMsgSeqNum =
        (passed.sessions i).sequenceStore.incomingSeqNo := by
      rw [hself, passed_incomingFixMessage, passed_sequenceStore]
      exact h.seqNum
    have hhandles : Handles i p rx passed (passed.dispatch i p rx.message env) :=
      dispatch_handles hordinary hseq
    exact ⟨⟨.counts hpassed hhandles.session.exchanges hhandles.session.keeps,
      hhandles.holding ∘ hholding, hhandles.connected⟩,
      h.handled hpassed hordinary hhandles.session⟩

/-- The session reads from the front of its channel, unless its connection is closed meanwhile. -/
theorem foldl_rxStep_tracks {messages : List (RxMessage × ServerRxEnv)} {rest : List RxMessage}
    {l : RxLoop} (hsession : l.session = some i)
    (hreturned : l.returned = true → l.server.connected p = false)
    (hholding : l.server.Holding i p)
    (h : l.returned = false →
      Tracks repairs final (l.server.sessions i) (messages.map Prod.fst ++ rest))
    (haccepts : Guarded (rxStep p) (fun l e => l.returned = false → l.server.Accepts i e) l
      messages) :
    ∃ taken, Reads i p taken l.server (messages.foldl (rxStep p) l).server ∧
      (messages.foldl (rxStep p) l).server.isStopping = l.server.isStopping ∧
      ((messages.foldl (rxStep p) l).server.connected p = true →
        taken = messages.map Prod.fst ∧
          Tracks repairs final ((messages.foldl (rxStep p) l).server.sessions i) rest) := by
  induction messages generalizing l with
  | nil =>
    refine ⟨[], .refl _, rfl, fun hup => ⟨rfl, h ?_⟩⟩
    cases hl : l.returned with
    | false => rfl
    | true =>
      have hup' : l.server.connected p = true := hup
      rw [hreturned hl] at hup'
      cases hup'
  | cons e messages ih =>
    obtain ⟨haccepts, haccepts'⟩ := haccepts
    rw [List.foldl_cons]
    cases hl : l.returned with
    | true =>
      have hclosed := hreturned hl
      have hleft : ∀ rest : List (RxMessage × ServerRxEnv), rest.foldl (rxStep p) l = l := by
        intro rest
        induction rest with
        | nil => rfl
        | cons e' rest ih' => rw [List.foldl_cons, Pair.rxStep_left hl, ih']
      rw [Pair.rxStep_left hl, hleft]
      refine ⟨[], .refl _, rfl, fun hup => ?_⟩
      rw [hclosed] at hup
      cases hup
    | false =>
      have hstep := Pair.rxStep_mapped (p := p) hsession hl e
      obtain ⟨hreads, hrest⟩ := handleMessage_tracks (p := p) (h hl) (haccepts hl)
      have hholding' := hreads.holding hholding
      rw [hstep] at haccepts' ⊢
      -- The loop ends with the connection, and only then.
      have hgone : decide (((l.server.handleMessage i p e.1 e.2).sessions i).state =
          .disconnected) = true → (l.server.handleMessage i p e.1 e.2).connected p = false := by
        intro hgone
        cases hup : (l.server.handleMessage i p e.1 e.2).connected p with
        | false => rfl
        | true => exact absurd (of_decide_eq_true hgone) (hholding' hup).known
      obtain ⟨taken, hreads', hstopping, hall⟩ :=
        ih rfl hgone hholding' (fun _ => hrest) haccepts'
      refine ⟨e.1 :: taken, hreads.trans hreads', ?_, fun hup => ?_⟩
      · rw [hstopping]
        exact (handleMessage_effects l.server i p e.1 e.2).isStopping
      · obtain ⟨htaken, hend⟩ := hall hup
        exact ⟨by rw [htaken, List.map_cons], hend⟩

/-- A read of the connection. -/
theorem onDataReady_tracks {messages : List (RxMessage × ServerRxEnv)} {rest : List RxMessage}
    (hconnected : srv.connected p = true) (hholding : srv.Holding i p)
    (h : Tracks repairs final (srv.sessions i) (messages.map Prod.fst ++ rest))
    (haccepts : Guarded (rxStep p) (fun l e => l.returned = false → l.server.Accepts i e)
      { server := srv, session := srv.connectors.getSession p } messages) :
    ∃ taken, Reads i p taken srv (srv.onDataReady p messages) ∧
      (srv.onDataReady p messages).isStopping = srv.isStopping ∧
      ((srv.onDataReady p messages).connected p = true → taken = messages.map Prod.fst ∧
        Tracks repairs final ((srv.onDataReady p messages).sessions i) rest) := by
  obtain ⟨taken, hreads, hstopping, hall⟩ := foldl_rxStep_tracks
    (l := { server := srv, session := srv.connectors.getSession p })
    (hholding hconnected).session (fun h => nomatch h) hholding (fun _ => h) haccepts
  have hbuffer : (srv.processRxBuffer p messages).server = (messages.foldl (rxStep p)
      { server := srv, session := srv.connectors.getSession p }).server := rfl
  unfold onDataReady
  dsimp only
  rw [hbuffer]
  split
  · exact ⟨taken, hreads, hstopping, hall⟩
  · next hgone =>
    refine ⟨taken, List.append_nil taken ▸ hreads.trans (Moves.disconnect _ p).reads, ?_,
      fun hup => ?_⟩
    · rw [← hstopping]
      exact (closeConnection_effects _ (some p)).isStopping
    · rw [onClientDisconnected_connected_self] at hup
      cases hup

end FixServer

end Llfix
