import Llfix.Client.Messages

/-!
# A Logon response above the expected number

The server takes a Logon whose number is too high and asks for the gap afterwards. The client
checks the number first: behind a gap its Logon response does not get to
`process_logon_response`, and the resend request that is queued instead waits for a live state.

Results:
1. `handleMessage_logonResponse`: the expected Logon response logs on.
2. `handleMessage_logonResponse_above`, `process_pendingLogon`: behind a gap the session stays in
   `PENDING_LOGON`, and `process` sends nothing there.
3. `logonResponse_recovers_iff`: the client recovers exactly from the expected number.
-/

namespace Llfix

open FixSession

/-- A ResendRequest that asks for everything from `beginSeqNo` on. -/
def isResendRequestFrom (beginSeqNo : UInt32) : Output → Bool
  | .sent (.original m _) _ _ =>
    m.msgType = [msgTypeResendRequest] &&
      m.body.contains (tagBeginSeqNo, unsignedIntToChars beginSeqNo)
  | _ => false

namespace FixClient

/-- A valid Logon response that meets a client waiting for it, with a number that has not been
received before. -/
structure LogonResponseArrives (c : FixClient) (rx : RxMessage) (env : ClientRxEnv) : Prop where
  pending : c.session.state = .pendingLogon
  logon : rx.msgType = [msgTypeLogon]
  valid : c.session.verdict rx env.utcNow = .valid
  fresh : c.session.sequenceStore.incomingSeqNo.toNat + 1 ≤ rx.seqNum.toNat

/-- The next `process`, with nothing to read and no command to execute, asks for everything from
`beginSeqNo` on. -/
def AsksForResend (c : FixClient) (beginSeqNo : UInt32) : Prop :=
  c.socketOpen = true → c.session.adminCommands = [] →
    ∀ env : ClientProcessEnv, env.read = .nothing →
      ∃ o ∈ since c.session (c.process env).session, isResendRequestFrom beginSeqNo o = true

/-- The message logs the client on and makes it ask for what it has missed. -/
def Recovers (c : FixClient) (rx : RxMessage) (env : ClientRxEnv) : Prop :=
  let c' := c.handleMessage rx env
  let expected := c.session.sequenceStore.incomingSeqNo + 1
  c'.session.state = .loggedOn ∧
    (∃ m, Output.callback .onLogonResponse m ∈ since c.session c'.session) ∧
    (expected < rx.seqNum → c'.AsksForResend expected)

section LogonResponse

variable {c : FixClient} {rx : RxMessage} {env : ClientRxEnv}

theorem LogonResponseArrives.expected_le (h : LogonResponseArrives c rx env) :
    c.session.sequenceStore.incomingSeqNo + 1 ≤ rx.seqNum := by
  have hfresh := h.fresh
  have hbound := rx.seqNum.toNat_lt
  rw [UInt32.le_iff_toNat_le, UInt32.toNat_add, UInt32.toNat_one]
  omega

theorem LogonResponseArrives.aboveExpected_eq (h : LogonResponseArrives c rx env) :
    c.session.aboveExpected rx =
      decide (c.session.sequenceStore.incomingSeqNo + 1 < rx.seqNum) := by
  simp [aboveExpected, isAHardSequenceResetMessage_logon h.logon]

theorem LogonResponseArrives.not_below (h : LogonResponseArrives c rx env) :
    c.session.belowExpected rx = false := by
  have hle := UInt32.not_lt.mpr h.expected_le
  simp [belowExpected, hle]

/-- The expected Logon response logs on. -/
theorem handleMessage_logonResponse (h : LogonResponseArrives c rx env)
    (hseq : rx.seqNum = c.session.sequenceStore.incomingSeqNo + 1) :
    c.handleMessage rx env =
      (c.modifySession (·.counted rx env.nowNanoseconds)).processLogonResponse rx.message := by
  have habove : c.session.aboveExpected rx = false := by
    rw [h.aboveExpected_eq, hseq]
    simp
  have hbelow := h.not_below
  have hvalid := h.valid
  have hsatisfied : (c.session.counted rx env.nowNanoseconds).satisfied rx =
      c.session.counted rx env.nowNanoseconds := by
    simp [satisfied, resendRequestSatisfied, h.pending]
  have hdispatch : ∀ c : FixClient, c.dispatch rx.message env = c.processLogonResponse rx.message :=
    fun c => by
      have hlogon := h.logon
      rw [RxMessage.msgType] at hlogon
      simp only [dispatch, hlogon]
      rfl
  rcases handleMessage_cases c rx env with
    ⟨_, _, hv, _⟩ | ⟨hv, _⟩ | ⟨_, ha, _⟩ | ⟨_, hb, _⟩ | ⟨_, hm⟩
  · simp [hvalid] at hv
  · simp [hvalid] at hv
  · simp [habove] at ha
  · simp [hbelow] at hb
  · rw [hm, hdispatch]
    simp only [modifySession, hsatisfied]

/-- Behind a gap the session only queues the resend request. -/
theorem handleMessage_logonResponse_above (h : LogonResponseArrives c rx env)
    (hseq : rx.seqNum ≠ c.session.sequenceStore.incomingSeqNo + 1) :
    c.handleMessage rx env = c.modifySession fun s =>
      (s.counted rx env.nowNanoseconds).queueOutgoingResendRequest
        (s.sequenceStore.incomingSeqNo + 1) rx.seqNum := by
  have habove : c.session.aboveExpected rx = true := by
    have hle := h.expected_le
    rw [h.aboveExpected_eq]
    grind
  have hbelow := h.not_below
  have hvalid := h.valid
  rcases handleMessage_cases c rx env with
    ⟨_, _, hv, _⟩ | ⟨hv, _⟩ | ⟨_, _, hm⟩ | ⟨_, hb, _⟩ | ⟨hp, _⟩
  · simp [hvalid] at hv
  · simp [hvalid] at hv
  · exact hm
  · simp [hbelow] at hb
  · simp [passesChecks, habove] at hp

end LogonResponse

/-- In `PENDING_LOGON` an idle `process` sends nothing; after the logon timeout it gives up. -/
theorem process_pendingLogon {c : FixClient} (h : c.session.state = .pendingLogon)
    (hcommands : c.session.adminCommands = []) {env : ClientProcessEnv}
    (hread : env.read = .nothing) :
    (c.process env).session.trace = c.session.trace ∨
      (c.process env).session.trace = c.session.trace ++ [.state .disconnected] := by
  have hreads : c.processReads env = c := by
    unfold processReads processIncomingMessages
    rw [hread]
    split
    · split <;> rfl
    · rfl
  have hadmin : c.processAdminCommands env = c := by
    simp [processAdminCommands, tryPopAdminCommand, hcommands]
  have hprocess : c.process env = c.processOutgoingLogonRequest env := by
    unfold process
    dsimp only
    rw [hreads, hadmin, h, processAfterAdmin, if_neg (by decide), if_pos rfl]
  rw [hprocess]
  unfold processOutgoingLogonRequest
  split_ifs
  · exact .inr (by rw [modifySession_session, setState_trace])
  · exact .inl rfl

/-- The client recovers from a Logon response exactly when its number is the expected one. -/
theorem logonResponse_recovers_iff {c : FixClient} {rx : RxMessage} {env : ClientRxEnv}
    (h : LogonResponseArrives c rx env) :
    Recovers c rx env ↔ rx.seqNum = c.session.sequenceStore.incomingSeqNo + 1 := by
  constructor
  · rintro ⟨hstate, _, _⟩
    by_contra hseq
    rw [handleMessage_logonResponse_above h hseq] at hstate
    have hpending : c.session.state = .loggedOn := hstate
    rw [h.pending] at hpending
    cases hpending
  · intro hseq
    have hm := handleMessage_logonResponse h hseq
    have htrace : (c.handleMessage rx env).session.trace = c.session.trace ++
        [.logonResponse, .state .loggedOn, .callback .onLogonResponse (some rx.message)] := by
      rw [hm]
      simp [processLogonResponse, callback]
    refine ⟨by rw [hm]; rfl, ⟨some rx.message, ?_⟩, fun hlt => ?_⟩
    · rw [since_of_append htrace]
      simp
    · rw [hseq] at hlt
      exact absurd hlt (UInt32.lt_irrefl _)

/-- A client that has sent its Logon and has received seven messages before. -/
def examplePendingClient : FixClient :=
  { session :=
      { state := .pendingLogon
        sequenceStore := { outgoingSeqNo := 5, incomingSeqNo := 7 }
        settings := exampleSettings }
    socketOpen := true }

/-- The Logon response of its peer under the number `n`. -/
def exampleLogonResponse (n : UInt32) : RxMessage :=
  peerMessage exampleSettings msgTypeLogon n
    [(tagEncryptMethod, text "0"), (tagHeartBtInt, text "30")]

theorem logonResponse_recovers_eight : Recovers examplePendingClient (exampleLogonResponse 8) {} :=
  (logonResponse_recovers_iff ⟨rfl, by decide +kernel, by decide +kernel, by decide +kernel⟩).mpr
    (by decide +kernel)

/-- Message 8 is missing: the response with number 9 neither logs on nor is it answered. -/
theorem logonResponse_nine_lost :
    LogonResponseArrives examplePendingClient (exampleLogonResponse 9) {} ∧
      ¬ Recovers examplePendingClient (exampleLogonResponse 9) {} := by
  refine ⟨⟨rfl, by decide +kernel, by decide +kernel, by decide +kernel⟩, fun h => ?_⟩
  exact absurd h.1 (by decide +kernel)

end FixClient

end Llfix
