import Llfix.Client.DeliveryOrder
import Llfix.NewMessages

/-!
# A client without a gap

Results:
1. `dispatch_handles`: what the `switch` on MsgType does with a counted message.
2. `processAfterReads_moves`: the timers and the answers of an idle client.
-/

namespace Llfix

namespace FixClient

open FixSession

variable (c : FixClient)

theorem onConnectionLost_moves : Moves [] c.session c.onConnectionLost.session :=
  ((Moves.setState c.session (by decide)).next (.record _ rfl rfl)).next (.record _ rfl rfl)

theorem sendOutgoingMessage_moves {m : OutgoingFixMessage} (hm : isOrdinaryType m.msgType = true)
    (o : SendOutcome) : Moves [] c.session (c.sendOutgoingMessage m o).session := by
  unfold sendOutgoingMessage
  cases hopen : c.socketOpen with
  | false =>
    rw [sendBytes_closed c _ hopen]
    exact .notSent _ _ _
  | true =>
    by_cases ho : o.result = .connectionLost
    · rw [sendBytes_lost c _ hopen ho]
      have hhanded : Moves [] c.session (c.session.record (.sent (.original m
          (c.session.sequenceStore.outgoingSeqNo + 1)) c.session.sequenceStore.incomingSeqNo
            false)) := .record _ rfl rfl
      exact (hhanded.next (onConnectionLost_moves (c.modifySession fun s => s.record (.sent
        (.original m (c.session.sequenceStore.outgoingSeqNo + 1)) s.sequenceStore.incomingSeqNo
          false)))).next (.notSent _ _ _)
    · rw [sendBytes_held c _ hopen ho]
      exact .send _ hm _ _

section Message

variable {c} {rx : RxMessage} {env : ClientRxEnv}

/-- A message of a type without a handler goes to a callback. -/
theorem dispatch_other (htype : rx.msgType ∉ sessionMsgTypes) :
    ∃ cb m, deliveredMessage (.callback cb m) = rx.handedOn ∧
      c.dispatch rx.message env = c.callback cb m := by
  simp only [sessionMsgTypes, List.mem_cons, List.not_mem_nil, or_false, not_or] at htype
  obtain ⟨hlogon, hlogout, hreset, hresend, htest, hreject, hbusiness⟩ := htype
  unfold dispatch
  split
  · next t ht =>
    have hhanded := handedOn_of_type (show rx.msgType = _ from ht)
    rw [RxMessage.msgType, ht] at hlogon hlogout hreset hresend htest hreject hbusiness
    simp only [List.cons.injEq, and_true] at hlogon hlogout hreset hresend
    simp only [List.cons.injEq, and_true] at htest hreject hbusiness
    simp only [if_neg hlogon, if_neg hlogout, if_neg hreset, if_neg hresend, if_neg htest,
      if_neg hreject, if_neg hbusiness]
    split_ifs with hexecution hheartbeat hcancel
    · exact ⟨_, _, by rw [hhanded, hexecution]; rfl, rfl⟩
    · exact ⟨_, _, by rw [hhanded, hheartbeat]; rfl, rfl⟩
    · exact ⟨_, _, by rw [hhanded, hcancel]; rfl, rfl⟩
    · refine ⟨_, _, ?_, rfl⟩
      rw [hhanded, isSessionLevelType, decide_eq_false hheartbeat, decide_eq_false htest,
        decide_eq_false hresend, decide_eq_false hreject, decide_eq_false hbusiness,
        decide_eq_false hlogon, decide_eq_false hlogout, decide_eq_false hreset]
      rfl
  · next hseveral =>
    exact ⟨.onCustomMessageType, some rx.message, (handedOn_of_several hseveral).symm, rfl⟩

/-- The `switch` on MsgType, for a message that is no request for a retransmission. -/
theorem dispatch_handles (hordinary : isOrdinaryType rx.msgType = true) :
    Handles rx c.session (c.dispatch rx.message env).session ∧
      (c.session.state ≠ .disconnected →
        (c.dispatch rx.message env).session.state ≠ .disconnected) := by
  obtain ⟨hresend, hreset⟩ := isOrdinary_ne hordinary
  have hkept : ∀ {t : UInt8}, rx.msgType = [t] → isSessionLevelType t = true →
      rx.isApplication = false := fun ht h => by rw [isApplication_of_type ht, h]; rfl
  have hrejected : Moves [] c.session (c.processLogonReject rx.message).session :=
    (Moves.setState c.session (by decide)).next (.record _ rfl rfl)
  rcases dispatch_cases c rx.message env with
    ⟨ht, h⟩ | ⟨ht, h⟩ | ⟨ht, _⟩ | ⟨ht, _⟩ | ⟨ht, h⟩ | ⟨cb, hcb, h, ht⟩ | ⟨ht, _⟩
  · rw [h]
    have hlogged : Moves [] c.session ((c.session.record .logonResponse).setState .loggedOn) :=
      (Moves.record c.session rfl rfl).next (.setState _ (by decide))
    exact ⟨.takes (hkept ht rfl) (hlogged.next (.record _ rfl rfl)),
      fun _ => SessionState.noConfusion⟩
  · rw [h, processLogoutResponse]
    split
    · exact ⟨.takes (hkept ht rfl) hrejected, fun _ => SessionState.noConfusion⟩
    · have hflag : Moves [] c.session (c.session.setReceivedLogoutResponse true) :=
        .silent rfl rfl ⟨rfl, rfl, rfl, rfl, id⟩
      have hstate : Moves [] c.session
          ((c.session.setReceivedLogoutResponse true).setState .loggedOut) :=
        hflag.next (.setState _ (by decide))
      exact ⟨.takes (hkept ht rfl) (hstate.next (.record _ rfl rfl)),
        fun _ => SessionState.noConfusion⟩
  · exact absurd ht hreset
  · exact absurd ht hresend
  · rw [h]
    have htested := processTestRequestMessage_moves c.session rx.message
    refine ⟨.takes (hkept ht rfl) (htested.next (.record _ rfl rfl)), fun h => ?_⟩
    show (c.session.processTestRequestMessage rx.message).state ≠ _
    rw [processTestRequestMessage_state]
    exact h
  · have happlication : rx.isApplication = false := ht.elim (hkept · rfl) (hkept · rfl)
    have hnone : deliveredMessage (.callback cb (some rx.message)) = none := by
      rcases hcb with rfl | rfl
      · rfl
      · rfl
    rw [h, processReject]
    split
    · exact ⟨.takes happlication hrejected, fun _ => SessionState.noConfusion⟩
    · exact ⟨.takes happlication (.record _ rfl hnone), id⟩
  · obtain ⟨cb, m, hcb, h⟩ := (dispatch_other ht : ∃ cb m, _ ∧ c.dispatch rx.message env = _)
    rw [h]
    exact ⟨.handsOn (.refl _) hcb, id⟩

/-- A valid message with the expected number passes the checks. -/
theorem handleMessage_expected (hseq : rx.seqNum = c.session.sequenceStore.incomingSeqNo + 1)
    (hvalid : c.session.verdict rx env.utcNow = .valid) :
    c.handleMessage rx env = (c.modifySession fun s =>
      (s.counted rx env.nowNanoseconds).satisfied rx).dispatch rx.message env := by
  rcases handleMessage_cases c rx env with
    ⟨code, errorTag, hv, _⟩ | ⟨hv, _⟩ | ⟨_, habove, _⟩ | ⟨_, hbelow, _⟩ | ⟨_, h⟩
  · rw [hvalid] at hv
    cases hv
  · rw [hvalid] at hv
    cases hv
  · rw [aboveExpected_next hseq] at habove
    cases habove
  · rw [belowExpected_next hseq] at hbelow
    cases hbelow
  · exact h

end Message

/-! ### `process` -/

section Process

variable (env : ClientProcessEnv)

/-- A shutdown that does not wait for its logout, or finds nothing to read while it does. -/
theorem doShutdown_moves (graceful : Bool) {senv : ShutdownEnv}
    (hreads : graceful = true → senv.reads = []) :
    Moves [] c.session (c.doShutdown graceful senv).session := by
  have hend : ∀ c' : FixClient, Moves [] c.session c'.session →
      Moves [] c.session (c'.close.modifySession (·.setState .disconnected)).session :=
    fun c' h => (h.next (.record _ rfl rfl)).next (.setState _ (by decide))
  rw [doShutdown_eq]
  refine hend _ ?_
  split
  · next hgraceful =>
    rw [Bool.and_eq_true] at hgraceful
    rw [hreads hgraceful.1]
    have hflag : ∀ s : FixSession, Moves [] s (s.setReceivedLogoutResponse false) := fun s =>
      .silent rfl rfl ⟨rfl, rfl, rfl, rfl, id⟩
    have hsent := sendOutgoingMessage_moves
      (c.onConnectionLost.modifySession (·.setReceivedLogoutResponse false))
      (m := buildLogoutMessage []) rfl senv.logoutSend
    exact ((c.onConnectionLost_moves.next (hflag _)).next hsent).next (.setState _ (by decide))
  · exact c.onConnectionLost_moves

theorem processOutgoingTestRequest_moves :
    Moves [] c.session (c.processOutgoingTestRequestIfNecessary env).session := by
  unfold processOutgoingTestRequestIfNecessary
  dsimp only
  split_ifs
  · have hbuilt : Moves [] c.session c.session.buildTestRequestMessage.1 :=
      .silent rfl rfl ⟨rfl, rfl, rfl, rfl, id⟩
    have hsent := sendOutgoingMessage_moves (c.modifySession fun _ =>
      c.session.buildTestRequestMessage.1) (m := c.session.buildTestRequestMessage.2) rfl
        env.testRequestSend
    exact (hbuilt.next hsent).next (.silent rfl rfl ⟨rfl, rfl, rfl, rfl, id⟩)
  · exact .refl _
  · have hflag : Moves [] c.session (c.session.setExpectingResponseForOutgoingTestRequest false) :=
      .silent rfl rfl ⟨rfl, rfl, rfl, rfl, id⟩
    exact hflag.next (doShutdown_moves (c.modifySession
      (·.setExpectingResponseForOutgoingTestRequest false)) false (fun h => nomatch h))
  · exact .refl _

theorem respondToTestRequest_moves :
    Moves [] c.session (c.respondToTestRequestIfNecessary env).session := by
  unfold respondToTestRequestIfNecessary
  dsimp only
  split
  · have hordinary : isOrdinaryType
        (buildHeartbeatMessage c.session.savedTestRequestId).msgType = true := by
      unfold buildHeartbeatMessage
      split <;> rfl
    exact (sendOutgoingMessage_moves c hordinary env.testResponseSend).next
      (.silent rfl rfl ⟨rfl, rfl, rfl, rfl, id⟩)
  · exact .refl _

theorem sendClientHeartbeat_moves :
    Moves [] c.session (c.sendClientHeartbeatIfNecessary env).session := by
  unfold sendClientHeartbeatIfNecessary
  split
  · exact sendOutgoingMessage_moves c (m := buildHeartbeatMessage none) rfl env.heartbeatSend
  · exact .refl _

theorem processScheduleValidator_moves
    (hreads : env.scheduleValid = false → env.scheduleShutdown.reads = []) :
    Moves [] c.session (c.processScheduleValidator env).session := by
  unfold processScheduleValidator
  split
  · next hinvalid => exact doShutdown_moves c true fun _ => hreads hinvalid
  · exact .refl _

/-- With nothing to ask for, a client that waits too long gives up. -/
theorem processOutgoingResendRequest_moves (hasks : c.session.needsToSendResendRequest = false) :
    Moves [] c.session (c.processOutgoingResendRequestIfNecessary env).session := by
  unfold processOutgoingResendRequestIfNecessary
  dsimp only
  rw [hasks, if_neg Bool.false_ne_true]
  split_ifs
  · exact c.doShutdown_moves false (fun h => nomatch h)
  · exact .refl _
  · exact .refl _

/-- The steps of an idle client: there is nothing to ask for and nothing to answer. -/
theorem processLive_moves (hidle : c.session.Idle)
    (hreads : env.scheduleValid = false → env.scheduleShutdown.reads = []) :
    Moves [] c.session (c.processLive env).session := by
  have hask := c.processOutgoingResendRequest_moves env hidle.asksNothing
  have htest := hask.next (processOutgoingTestRequest_moves _ env)
  have hanswer : ((c.processOutgoingResendRequestIfNecessary
      env).processOutgoingTestRequestIfNecessary env).respondToResendRequestIfNecessary env =
        (c.processOutgoingResendRequestIfNecessary env).processOutgoingTestRequestIfNecessary
          env := by
    rw [respondToResendRequestIfNecessary]
    simp only [(htest.keeps.idle hidle).owesNothing, if_false, Bool.false_eq_true]
  unfold processLive
  dsimp only
  rw [hanswer]
  exact ((htest.next (respondToTestRequest_moves _ env)).next
    (sendClientHeartbeat_moves _ env)).next (processScheduleValidator_moves _ env hreads)

/-- What a `process` does behind its reads. -/
theorem processAfterReads_moves (hidle : c.session.Idle) (sessionState : SessionState)
    (hreads : env.scheduleValid = false → env.scheduleShutdown.reads = []) :
    Moves [] c.session
      ((c.processAdminCommands env).processAfterAdmin sessionState env).session := by
  have hadmin : c.processAdminCommands env = c := by
    rw [processAdminCommands, tryPopAdminCommand, hidle.commands]
  rw [hadmin]
  unfold processAfterAdmin
  split
  · exact c.processLive_moves env hidle hreads
  · split
    · unfold processOutgoingLogonRequest
      split
      · exact .setState _ (by decide)
      · exact .refl _
    · exact .refl _

end Process

end FixClient

end Llfix
