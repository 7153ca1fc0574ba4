import Llfix.CounterLaw

/-!
# Refused logons and the sequence store

`accept_session` resets the numbers of the session before anything about the message is
validated, and the incoming number is incremented before the Logon is authenticated; no later
exit takes either back.

Results:
1. `numberAfter_refused`: the number after an attempt that is not authenticated.
2. `refusedLogon_keeps_numbers_iff`: when an attempt leaves both numbers of every session as they
   were, the messages sent meanwhile apart.
-/

namespace Llfix

open FixSession

theorem FixSession.accounts_iff {s s' : FixSession} {os : List Output}
    (h : s'.trace = s.trace ++ os) :
    Accounts s s' ↔ s'.sequenceStore.outgoingSeqNo =
      s.sequenceStore.outgoingSeqNo + UInt32.ofNat (os.countP isOriginalSent) := by
  constructor
  · rintro ⟨os', h', hn⟩
    obtain rfl := List.append_cancel_left (h.symm.trans h')
    exact hn
  · intro hn
    exact ⟨os, h, hn⟩

namespace FixServer

/-- The message passes on to the authentication of a Logon and passes there. -/
def endsAuthenticated (p : Nat) (l : RxLoop) (e : RxMessage × ServerRxEnv) : Bool :=
  match l.target p e with
  | (srv, some i) => reachesDispatch (srv.sessions i) e.1 e.2 && authenticates e.1 e.2
  | (_, none) => false

/-- A message inside a read of connection `p` that does not end in an authenticated logon. -/
structure RefusedAttempt (p : Nat) (l : RxLoop) (e : RxMessage × ServerRxEnv) : Prop where
  reading : l.returned = false
  aligned : l.Aligned p
  refused : endsAuthenticated p l e = false

/-- Every session has the numbers it had, the outgoing one moved by the messages sent. -/
def KeepsNumbers (p : Nat) (l : RxLoop) (e : RxMessage × ServerRxEnv) : Prop :=
  ∀ j,
    ((rxStep p l e).server.sessions j).sequenceStore.incomingSeqNo =
        (l.server.sessions j).sequenceStore.incomingSeqNo ∧
      Accounts (l.server.sessions j) ((rxStep p l e).server.sessions j)

/-- The attempt is stopped before the incoming number counts it, or a reset left the numbers
where they end up anyway. -/
def StopsInTime (p : Nat) (l : RxLoop) (e : RxMessage × ServerRxEnv) : Prop :=
  ∀ i, (l.target p e).2 = some i →
    let passes := passesChecks ((l.target p e).1.sessions i) e.1 e.2
    let store := (l.server.sessions i).sequenceStore
    if l.session = none ∧ resetsSequenceNumbers e.1.message = true then
      store.outgoingSeqNo = 0 ∧ store.incomingSeqNo = if passes then 1 else 0
    else passes = false

/-! ## Accepted logons -/

theorem findLogonSession_logon {srv : FixServer} {rx : RxMessage} {scheduleValid : Bool} {i : Nat}
    (h : srv.findLogonSession rx scheduleValid = some i) :
    rx.message.getTagValueAsChar tagMsgType = msgTypeLogon := by
  unfold findLogonSession at h
  by_contra hne
  simp only [hne, ne_eq, not_false_eq_true, if_true] at h
  split at h
  · cases h
  · split at h <;> cases h

/-- The session that accepts the logon is neither live nor disabled. -/
theorem findLogonSession_state {srv : FixServer} {rx : RxMessage} {scheduleValid : Bool} {i : Nat}
    (h : srv.findLogonSession rx scheduleValid = some i) :
    isStateLive (srv.sessions i).state = false ∧ (srv.sessions i).state ≠ .disabled := by
  unfold findLogonSession at h
  dsimp only at h
  split at h
  · cases h
  · split at h
    · cases h
    · split at h
      · cases h
      · split at h
        · cases h
        · split at h
          · cases h
          · rename_i hlive
            split at h
            · cases h
            · rename_i hdisabled
              split at h
              · cases h
              · obtain rfl := Option.some.inj h
                exact ⟨by simpa using hlive, hdisabled⟩

theorem acceptedSession_sequenceStore (m : IncomingFixMessage) (s : FixSession) :
    (acceptedSession m s).sequenceStore =
      if resetsSequenceNumbers m then s.sequenceStore.resetNumbers else s.sequenceStore := by
  unfold acceptedSession
  cases resetsSequenceNumbers m with
  | true => rfl
  | false => rfl

theorem acceptedSession_trace (m : IncomingFixMessage) (s : FixSession) :
    (acceptedSession m s).trace = s.trace ++ [.state .pendingLogon] := by
  unfold acceptedSession
  cases resetsSequenceNumbers m with
  | true => rfl
  | false => rfl

/-- A message that `accept_session` takes for a Logon is no SequenceReset. -/
theorem acceptedReset_of_logon (s : FixSession) {rx : RxMessage}
    (h : rx.message.getTagValueAsChar tagMsgType = msgTypeLogon) (env : ServerRxEnv) :
    acceptedReset s rx env = false := by
  have hne : rx.msgType ≠ [msgTypeSequenceReset] := by
    intro hc
    rw [RxMessage.msgType] at hc
    rw [IncomingFixMessage.getTagValueAsChar, hc] at h
    exact absurd h (by decide)
  simp [acceptedReset, hne]

/-! ## The incoming number -/

/-- Without an authenticated logon every message behind the sequence checks moves the number. -/
theorem numberAfter_refused {s : FixSession} {rx : RxMessage} {env : ServerRxEnv}
    (h : (reachesDispatch s rx env && authenticates rx env) = false) :
    numberAfter s rx env =
      if passesChecks s rx env = false then s.sequenceStore.incomingSeqNo
      else if acceptedReset s rx env then rx.newSeqNo - 1
      else s.sequenceStore.incomingSeqNo + 1 := by
  unfold numberAfter
  dsimp only
  cases hpass : passesChecks s rx env with
  | false => simp
  | true =>
    simp only [Bool.true_eq_false, if_false]
    cases ht : s.throttles env.throttlerReachedLimit with
    | true => simp [acceptedReset, reachesDispatch, ht]
    | false =>
      have hreach : reachesDispatch s rx env = true := by simp [reachesDispatch, hpass, ht]
      have hundone : undoneLogon s rx env = false := by simp [undoneLogon, h]
      rw [if_neg (by simp)]
      cases haccepted : acceptedReset s rx env with
      | true => rw [numberAfterDispatch_accepted haccepted, if_pos rfl]
      | false =>
        rw [numberAfterDispatch_counted hreach haccepted hundone, if_neg (by simp)]

/-- No accepted SequenceReset leads back to the number before it. -/
theorem numberAfter_eq_iff {s : FixSession} {rx : RxMessage} {env : ServerRxEnv}
    (h : (reachesDispatch s rx env && authenticates rx env) = false) :
    numberAfter s rx env = s.sequenceStore.incomingSeqNo ↔ passesChecks s rx env = false := by
  rw [numberAfter_refused h]
  cases hpass : passesChecks s rx env with
  | false => simp
  | true =>
    rw [if_neg (by simp)]
    simp only [Bool.true_eq_false, iff_false]
    cases haccepted : acceptedReset s rx env with
    | true =>
      simp only [acceptedReset, acceptsSequenceReset, Bool.and_eq_true, decide_eq_true_eq]
        at haccepted
      have hzero : rx.newSeqNo ≠ 0 := haccepted.2.1.2
      have hlt : s.sequenceStore.incomingSeqNo + 1 < rx.newSeqNo := haccepted.2.2
      rw [if_pos rfl]
      grind
    | false =>
      rw [if_neg (by simp)]
      grind

/-! ## The attempt as a whole -/

section Attempt

variable {p i : Nat} {l : RxLoop} {e : RxMessage × ServerRxEnv} {srv : FixServer}

/-- A refusal by `accept_session` only closes the connection. -/
theorem keepsNumbers_none (hl : l.returned = false) (htarget : l.target p e = (srv, none)) :
    KeepsNumbers p l e := by
  intro j
  rw [rxStep_none hl htarget]
  obtain ⟨_, _, rfl⟩ := target_none htarget
  have hsteps : Steps j Accounts l.server (l.server.onClientDisconnected p) :=
    (Steps.refl _).disconnect p
  refine ⟨incomingSeqNo_of_core (closeConnection_core l.server j (some p)), ?_⟩
  exact hsteps.relates Accounts Accounts.refl (fun _ _ _ => Accounts.trans)
    (fun s => .setState s _) (fun _ _ h => h) j

/-- The processing of the message accounts for the outgoing number of every session. -/
theorem handleMessage_accounts (hp : ∀ j, srv.connectors.getSession p = some j → j = i)
    (rx : RxMessage) (env : ServerRxEnv) (j : Nat) :
    Accounts (srv.sessions j) ((srv.handleMessage i p rx env).sessions j) :=
  (handleMessage_steps hp rx env).relates Accounts Accounts.refl (fun _ _ _ => Accounts.trans)
    (fun s => .setState s _) (fun _ _ h => h) j

/-- Of the numbers of other sessions nothing is touched. -/
theorem keepsNumbers_of_ne (hl : l.returned = false) (haligned : l.Aligned p)
    (htarget : l.target p e = (srv, some i)) {j : Nat} (hj : j ≠ i) :
    ((rxStep p l e).server.sessions j).sequenceStore.incomingSeqNo =
        (l.server.sessions j).sequenceStore.incomingSeqNo ∧
      Accounts (l.server.sessions j) ((rxStep p l e).server.sessions j) := by
  have hsame : srv.sessions j = l.server.sessions j := by
    rcases target_some htarget with ⟨_, rfl⟩ | ⟨_, _, rfl⟩
    · rfl
    · exact modifySession_sessions_ne _ hj _
  rw [rxStep_some hl htarget, handleMessage_incomingSeqNo_of_ne srv hj, ← hsame]
  exact ⟨rfl, handleMessage_accounts (target_serves haligned htarget) e.1 e.2 j⟩

/-- On the session of the attempt, the numbers are kept as `StopsInTime` says. -/
theorem keepsNumbers_some (hl : l.returned = false) (haligned : l.Aligned p)
    (hrefused : endsAuthenticated p l e = false) (htarget : l.target p e = (srv, some i)) :
    (((rxStep p l e).server.sessions i).sequenceStore.incomingSeqNo =
        (l.server.sessions i).sequenceStore.incomingSeqNo ∧
      Accounts (l.server.sessions i) ((rxStep p l e).server.sessions i)) ↔
    let passes := passesChecks (srv.sessions i) e.1 e.2
    let store := (l.server.sessions i).sequenceStore
    if l.session = none ∧ resetsSequenceNumbers e.1.message = true then
      store.outgoingSeqNo = 0 ∧ store.incomingSeqNo = if passes then 1 else 0
    else passes = false := by
  have hrefused' : (reachesDispatch (srv.sessions i) e.1 e.2 && authenticates e.1 e.2) = false := by
    simpa [endsAuthenticated, htarget] using hrefused
  have haccounts := handleMessage_accounts (target_serves haligned htarget) e.1 e.2 i
  rw [rxStep_some hl htarget, handleMessage_incomingSeqNo]
  dsimp only
  -- The session is that of the connection, or this Logon opens it and may reset its numbers.
  rcases target_some htarget with ⟨hsession, rfl⟩ | ⟨hsession, hfind, hsrv⟩
  · rw [if_neg (by simp [hsession]), numberAfter_eq_iff hrefused']
    exact and_iff_left haccounts
  · have hs : srv.sessions i = acceptedSession e.1.message (l.server.sessions i) := by
      rw [hsrv, modifySession_sessions_self]
    have htrace : (srv.sessions i).trace =
        (l.server.sessions i).trace ++ [.state .pendingLogon] := by
      rw [hs, acceptedSession_trace]
    have hstore := acceptedSession_sequenceStore e.1.message (l.server.sessions i)
    rw [← hs] at hstore
    cases hreset : resetsSequenceNumbers e.1.message with
    | false =>
      simp only [hreset, Bool.false_eq_true, if_false] at hstore
      have haccept : Accounts (l.server.sessions i) (srv.sessions i) :=
        ⟨_, htrace, by simp [hstore, isOriginalSent]⟩
      rw [if_neg (by simp), ← hstore, numberAfter_eq_iff hrefused']
      exact and_iff_left (haccept.trans haccounts)
    | true =>
      simp only [hreset, if_true] at hstore
      obtain ⟨os, hos, hn⟩ := haccounts
      rw [htrace, List.append_assoc] at hos
      have hnotReset : acceptedReset (srv.sessions i) e.1 e.2 = false :=
        acceptedReset_of_logon _ (findLogonSession_logon hfind) e.2
      rw [if_pos ⟨hsession, rfl⟩, accounts_iff hos, hn, numberAfter_refused hrefused', hnotReset,
        hstore]
      cases passesChecks (srv.sessions i) e.1 e.2 with
      | true =>
        simp [SequenceStore.resetNumbers, isOriginalSent, and_comm, eq_comm]
      | false =>
        simp [SequenceStore.resetNumbers, isOriginalSent, and_comm, eq_comm]

end Attempt

/-- An attempt to log on that is not authenticated keeps the numbers of every session exactly
when it is stopped in time. -/
theorem refusedLogon_keeps_numbers_iff {p : Nat} {l : RxLoop} {e : RxMessage × ServerRxEnv}
    (h : RefusedAttempt p l e) : KeepsNumbers p l e ↔ StopsInTime p l e := by
  cases htarget : l.target p e with
  | mk srv session =>
    cases session with
    | none =>
      constructor
      · intro _ i hi
        rw [htarget] at hi
        cases hi
      · exact fun _ => keepsNumbers_none h.reading htarget
    | some i =>
      have hi := keepsNumbers_some h.reading h.aligned h.refused htarget
      constructor
      · intro hkeeps j hj
        rw [htarget] at hj
        obtain rfl := Option.some.inj hj
        rw [htarget]
        exact hi.mp (hkeeps i)
      · intro hstops j
        by_cases hj : j = i
        · subst hj
          refine hi.mpr ?_
          have := hstops j (by rw [htarget])
          rwa [htarget] at this
        · exact keepsNumbers_of_ne h.reading h.aligned htarget hj

/-- The start of a read on the new connection of the example server. -/
def exampleRead : RxLoop := { server := exampleServer, session := none }

theorem exampleRead_aligned : exampleRead.Aligned 0 := by
  intro j hj
  cases hj

/-- A Logon for another session than the server's is refused without a trace. -/
theorem refusedLogon_unknown_session :
    KeepsNumbers 0 exampleRead
      (peerMessage { exampleSettings with senderCompId := text "OTHER" } msgTypeLogon 1 [], {}) :=
  (refusedLogon_keeps_numbers_iff
    ⟨rfl, exampleRead_aligned, (by decide +kernel)⟩).mpr
    (by
      intro i hi
      exact absurd hi (by
        have hnone : (exampleRead.target 0 (peerMessage
            { exampleSettings with senderCompId := text "OTHER" } msgTypeLogon 1 [], {})).2 =
            none := by decide +kernel
        rw [hnone]
        exact fun h => nomatch h))

/-- A Logon with 141=Y and without tags 98 and 108. -/
def resettingLogon : RxMessage × ServerRxEnv :=
  (peerMessage exampleSettings msgTypeLogon 1 [(tagResetSeqNumFlag, [fixBooleanTrue])], {})

/-- On a connection without a session it is refused, and has reset the numbers. -/
theorem refusedLogon_resets :
    RefusedAttempt 0 exampleRead resettingLogon ∧ exampleRead.session = none ∧
      ¬ KeepsNumbers 0 exampleRead resettingLogon := by
  refine ⟨⟨rfl, exampleRead_aligned, by decide +kernel⟩, rfl, fun hkeeps => ?_⟩
  exact absurd (hkeeps 0).1 (by decide +kernel)

end FixServer

end Llfix
