import Llfix.Server.Retransmission
import Llfix.Server.ReceivedBytes

/-!
# Isolation of the connections of a server

While a message is processed its connection may be closed. The loop over the buffer goes on unless
the session is `DISCONNECTED` then, and two handlers assign another state behind their answer: the
one for a Logon and the one for a Logout.

Results:
1. `handleMessage_open`, `handleMessage_closed`: when the loop would go on in a closed slot.
2. `run_rxTurn_isolated_iff`: a buffer isolates the slots exactly when no lost answer stands before
   further bytes.
3. `reactor_isolated_iff`: so does a run of the reactor.
-/

namespace Llfix

namespace FixServer

open FixSession GuardedRun

/-! ## One message -/

/-- The connection serves the session, or the session is disconnected. -/
def ServesOrEnded (p i : Nat) (srv : FixServer) : Prop :=
  srv.connectors.getSession p = some i ∨ (srv.sessions i).state = .disconnected

/-- The handler of the message answers a Logon or a Logout. -/
def answersLogonOrLogout (s : FixSession) (rx : RxMessage) (env : ServerRxEnv) : Bool :=
  reachesDispatch s rx env && (authenticates rx env || rx.msgType = [msgTypeLogout])

/-- The connection is lost when the answer to a Logon or a Logout is sent. -/
def losesAnswer (s : FixSession) (rx : RxMessage) (env : ServerRxEnv) : Bool :=
  answersLogonOrLogout s rx env && env.send.result = .connectionLost

section Message

variable {srv : FixServer} {i p : Nat}

theorem sendBytes_serves (hinverse : srv.TablesInverse) (hp : srv.connectors.getSession p = some i)
    (t : Transmission) (o : SendOutcome) : ServesOrEnded p i (srv.sendBytes i t o) := by
  have hpeer := (hinverse p i).mp hp
  by_cases ho : o.result = .connectionLost
  · right
    rw [sendBytes_lost srv i hpeer t ho, modifySession_sessions_self, afterSend_state,
      onClientDisconnected_sessions]
    simp [hp]
  · left
    rw [sendBytes_held srv i hpeer t ho]
    exact hp

/-- Only a lost connection is closed by a send. -/
theorem sendBytes_getSession (hinverse : srv.TablesInverse)
    (hp : srv.connectors.getSession p = some i) (t : Transmission) {o : SendOutcome}
    (ho : o.result ≠ .connectionLost) : (srv.sendBytes i t o).connectors.getSession p = some i := by
  rw [sendBytes_held srv i ((hinverse p i).mp hp) t ho]
  exact hp

theorem sendBytes_connected (hinverse : srv.TablesInverse)
    (hp : srv.connectors.getSession p = some i) (t : Transmission) {o : SendOutcome}
    (ho : o.result = .connectionLost) : (srv.sendBytes i t o).connected p = false := by
  rw [sendBytes_lost srv i ((hinverse p i).mp hp) t ho]
  exact onClientDisconnected_connected_self _ p

/-- The answer to a Logon or a Logout, with what is done behind it. -/
theorem dispatch_answers {m : IncomingFixMessage} {env : ServerRxEnv}
    (h : m.getTagValue tagMsgType = [msgTypeLogon] ∧ validateLogonRequest m = true ∧
        env.authenticated = true ∨
      m.getTagValue tagMsgType = [msgTypeLogout]) :
    ∃ (before behind : FixSession → FixSession) (t : Transmission),
      (∀ s, (behind s).state ≠ .disconnected) ∧
      srv.dispatch i p m env =
        ((srv.modifySession i before).sendBytes i t env.send).modifySession i behind := by
  rcases h with ⟨htype, hvalid, hauthenticated⟩ | htype
  · have hdispatch : srv.dispatch i p m env = srv.processLogonRequest i p m env := by
      simp only [dispatch, htype]
      rfl
    have hrequest : (validateLogonRequest m && env.authenticated) = true := by
      rw [hvalid, hauthenticated, Bool.and_self]
    rw [hdispatch, processLogonRequest_authenticated srv i p m env hrequest, callback,
      modifySession_modifySession]
    refine ⟨(authenticated · m), _, _, fun s hstate => ?_, rfl⟩
    have hloggedOn : ((loggedOn s).record (.callback .onLogonRequest (some m))).state =
        .loggedOn := doPostLogonSequenceNumberCheck_state (s.setState .loggedOn)
    rw [hloggedOn] at hstate
    cases hstate
  · have hdispatch : srv.dispatch i p m env = srv.processLogoutRequest i m env := by
      simp only [dispatch, htype]
      rfl
    rw [hdispatch, processLogoutRequest, callback, modifySession_modifySession]
    have hsame : srv.modifySession i id = srv := by simp [modifySession]
    refine ⟨id, fun s => (s.setState .loggedOut).record (.callback .onLogoutRequest (some m)),
      .original (buildLogoutMessage []) ((srv.sessions i).sequenceStore.outgoingSeqNo + 1),
      fun s hstate => ?_, ?_⟩
    · cases hstate
    · rw [hsame]
      rfl

/-- Any other message leaves the connection with the session, or the session disconnected. -/
theorem dispatch_open (hinverse : srv.TablesInverse) (hp : srv.connectors.getSession p = some i)
    {m : IncomingFixMessage} {env : ServerRxEnv}
    (h : ¬ (m.getTagValue tagMsgType = [msgTypeLogon] ∧ validateLogonRequest m = true ∧
        env.authenticated = true ∨
      m.getTagValue tagMsgType = [msgTypeLogout])) :
    ServesOrEnded p i (srv.dispatch i p m env) := by
  rw [not_or] at h
  rcases dispatch_cases srv i p m env with
    ⟨htype, hd⟩ | ⟨htype, hd⟩ | ⟨_, hd⟩ | ⟨_, hd⟩ | ⟨_, hd⟩ | ⟨_, hd⟩ | ⟨_, cb, _, hd⟩
  · -- a Logon that is refused closes the connection
    have hrefused : (validateLogonRequest m && env.authenticated) = false := by
      refine Bool.eq_false_iff.mpr fun hrequest => h.1 ⟨htype, ?_⟩
      exact Bool.and_eq_true_iff.mp hrequest
    rw [hd, processLogonRequest_refused srv i p m env hrefused]
    right
    rw [onClientDisconnected_sessions, if_pos hp]
    rfl
  · exact absurd htype h.2
  · rw [hd, processSequenceReset]
    dsimp only
    split
    · refine sendBytes_serves ?_ ?_ _ _
      · exact hinverse
      · exact hp
    · exact .inl hp
  · rw [hd]
    exact .inl hp
  · rw [hd]
    exact .inl hp
  · rw [hd]
    exact .inl hp
  · rw [hd]
    exact .inl hp

/-- The two ways through the checks in front of the `switch`. -/
theorem reachesDispatch_cases (srv : FixServer) (i p : Nat) (rx : RxMessage) (env : ServerRxEnv)
    (hp : srv.connectors.getSession p = some i) (hinverse : srv.TablesInverse) :
    (reachesDispatch (srv.sessions i) rx env = false ∧
      ServesOrEnded p i (srv.handleMessage i p rx env)) ∨
    (reachesDispatch (srv.sessions i) rx env = true ∧ ∃ f : FixSession → FixSession,
      srv.handleMessage i p rx env = (srv.modifySession i f).dispatch i p rx.message env) := by
  have hserves : ∀ (f : FixSession → FixSession) (t : Transmission) (o : SendOutcome),
      ServesOrEnded p i ((srv.modifySession i f).sendBytes i t o) := by
    intro f t o
    refine sendBytes_serves ?_ ?_ t o
    · exact hinverse
    · exact hp
  have hvalid : passesChecks (srv.sessions i) rx env = true →
      (srv.sessions i).verdict rx env.utcNow = .valid := by
    intro hpass
    unfold passesChecks at hpass
    simp only [Bool.and_eq_true, decide_eq_true_eq] at hpass
    exact hpass.1.1
  -- In the first four cases a check ends the message, in the last one the throttler may.
  rcases handleMessage_cases srv i p rx env with
    ⟨code, errorTag, hv, h⟩ | ⟨hv, h⟩ | ⟨_, habove, hstate, h⟩ |
    ⟨_, hbelow, sendLogout, reason, h⟩ | ⟨hpass, h⟩
  · refine .inl ⟨?_, ?_⟩
    · rw [reachesDispatch, passesChecks, hv]
      rfl
    · rw [h]
      exact hserves _ _ _
  · refine .inl ⟨?_, ?_⟩
    · rw [reachesDispatch, passesChecks, hv]
      rfl
    · rw [h]
      exact .inl hp
  · refine .inl ⟨?_, ?_⟩
    · rw [reachesDispatch, passesChecks, habove, decide_eq_true hstate]
      simp
    · rw [h]
      exact .inl hp
  · refine .inl ⟨?_, ?_⟩
    · rw [reachesDispatch, passesChecks, hbelow]
      simp
    · rw [h]
      exact .inr (processConnectionClosure_state (srv.modifySession i _) i hp sendLogout reason _)
  · have hthrottles : ((srv.modifySession i (·.counted rx env.nowNanoseconds)).sessions
        i).throttles env.throttlerReachedLimit =
        (srv.sessions i).throttles env.throttlerReachedLimit := by
      rw [modifySession_sessions_self]
      rfl
    rw [h]
    rcases processInSequence_cases (srv.modifySession i (·.counted rx env.nowNanoseconds)) i p rx
        env with ⟨hthrottled, hends⟩ | ⟨hpasses, hdispatch⟩
    · rw [hthrottles] at hthrottled
      refine .inl ⟨by rw [reachesDispatch, hthrottled, Bool.not_true, Bool.and_false], ?_⟩
      rcases hends with ⟨_, hends⟩ | hends
      · rw [hends]
        have hpeer : (srv.modifySession i (·.counted rx env.nowNanoseconds)).connectors.getPeerIndex
            i = some p := (hinverse p i).mp hp
        rw [hpeer, modifySession_modifySession]
        exact .inr (processConnectionClosure_state (srv.modifySession i _) i hp _ _ _)
      · rw [hends, modifySession_modifySession]
        exact hserves _ _ _
    · rw [hthrottles] at hpasses
      refine .inr ⟨by rw [reachesDispatch, hpass, hpasses, Bool.not_false, Bool.and_self], ?_⟩
      rw [hdispatch, modifySession_modifySession]
      exact ⟨_, rfl⟩

theorem answersLogonOrLogout_iff (s : FixSession) (rx : RxMessage) (env : ServerRxEnv) :
    answersLogonOrLogout s rx env = true ↔ reachesDispatch s rx env = true ∧
      (rx.message.getTagValue tagMsgType = [msgTypeLogon] ∧
          validateLogonRequest rx.message = true ∧ env.authenticated = true ∨
        rx.message.getTagValue tagMsgType = [msgTypeLogout]) := by
  unfold answersLogonOrLogout authenticates RxMessage.msgType
  simp only [Bool.and_eq_true, Bool.or_eq_true, decide_eq_true_eq, and_assoc]

/-- Without a lost answer the connection stays with the session, or the session is disconnected. -/
theorem handleMessage_open (hinverse : srv.TablesInverse)
    (hp : srv.connectors.getSession p = some i) {rx : RxMessage} {env : ServerRxEnv}
    (hkeeps : losesAnswer (srv.sessions i) rx env = false) :
    ServesOrEnded p i (srv.handleMessage i p rx env) := by
  rcases reachesDispatch_cases srv i p rx env hp hinverse with ⟨_, hends⟩ | ⟨hreaches, f, h⟩
  · exact hends
  · rw [h]
    cases hanswers : answersLogonOrLogout (srv.sessions i) rx env with
    | false =>
      refine dispatch_open ?_ ?_ fun htype => ?_
      · exact hinverse
      · exact hp
      · rw [(answersLogonOrLogout_iff _ rx env).mpr ⟨hreaches, htype⟩] at hanswers
        cases hanswers
    | true =>
      obtain ⟨before, behind, t, -, hdispatch⟩ :=
        dispatch_answers ((answersLogonOrLogout_iff _ rx env).mp hanswers).2
      have ho : env.send.result ≠ .connectionLost := by
        rw [losesAnswer, hanswers, Bool.true_and, decide_eq_false_iff_not] at hkeeps
        exact hkeeps
      rw [hdispatch]
      left
      refine sendBytes_getSession ?_ ?_ t ho
      · exact hinverse
      · exact hp

/-- A lost answer leaves a closed slot, and a session that is not disconnected. -/
theorem handleMessage_closed (hinverse : srv.TablesInverse)
    (hp : srv.connectors.getSession p = some i) {rx : RxMessage} {env : ServerRxEnv}
    (hloses : losesAnswer (srv.sessions i) rx env = true) :
    (srv.handleMessage i p rx env).connected p = false ∧
      ((srv.handleMessage i p rx env).sessions i).state ≠ .disconnected := by
  obtain ⟨hanswers, ho⟩ := Bool.and_eq_true_iff.mp hloses
  obtain ⟨hreaches, htype⟩ := (answersLogonOrLogout_iff _ rx env).mp hanswers
  rcases reachesDispatch_cases srv i p rx env hp hinverse with ⟨hno, _⟩ | ⟨_, f, h⟩
  · rw [hreaches] at hno
    cases hno
  · obtain ⟨before, behind, t, hstate, hdispatch⟩ := dispatch_answers htype
    rw [h, hdispatch]
    refine ⟨?_, ?_⟩
    · refine sendBytes_connected ?_ ?_ t (of_decide_eq_true ho)
      · exact hinverse
      · exact hp
    · rw [modifySession_sessions_self]
      exact hstate _

end Message

/-! ## One message of a buffer -/

/-- The connection is lost when the message of the loop is answered. -/
def RxLoop.losesAnswer (p : Nat) (l : RxLoop) (e : RxMessage × ServerRxEnv) : Bool :=
  match l.target p e with
  | (srv, some i) => FixServer.losesAnswer (srv.sessions i) e.1 e.2
  | (_, none) => false

/-- The slot is in use, and the loop holds the session that it serves. -/
structure RxLoop.Open (p : Nat) (l : RxLoop) : Prop where
  tables : l.server.TablesInOrder
  slots : InOrder l.server.slotOperations
  connected : l.server.connected p = true
  session : l.session = l.server.connectors.getSession p

theorem update_getSession (c : FixServerConnectors) (p i q : Nat) :
    (c.update p i).getSession q =
      if q = p then some i
      else if c.getPeerIndex i = some q then none
      else c.getSession q := by
  have hpeer : c.getPeerIndex i = c.sessionPeerIndexTable i := rfl
  rw [hpeer, FixServerConnectors.getSession, FixServerConnectors.getSession]
  by_cases hq : q = p
  · simp [FixServerConnectors.update, hq]
  · cases hold : c.sessionPeerIndexTable i with
    | none => simp [FixServerConnectors.update, hold, hq]
    | some existing =>
      by_cases hexisting : existing = p
      · simp [FixServerConnectors.update, hold, hq, hexisting, Ne.symm hq]
      · by_cases hqe : q = existing
        · subst hqe
          simp [FixServerConnectors.update, hold, hq]
        · simp [FixServerConnectors.update, hold, hq, hexisting, hqe, Ne.symm hqe]

theorem update_getPeerIndex (c : FixServerConnectors) (p i j : Nat) :
    (c.update p i).getPeerIndex j = if j = i then some p else c.getPeerIndex j := by
  simp only [FixServerConnectors.update, FixServerConnectors.getPeerIndex, Function.update_apply]

/-- A connection that is open may be given to a session. -/
theorem MappedConnected.update {srv : FixServer} (h : srv.MappedConnected) {p : Nat}
    (hp : srv.connected p = true) (i : Nat) :
    { srv with connectors := srv.connectors.update p i }.MappedConnected := by
  intro q j hq
  dsimp only at hq ⊢
  rw [update_getSession] at hq
  split at hq
  · next hqp =>
    rw [hqp]
    exact hp
  · split at hq
    · cases hq
    · exact h q j hq

/-- A connection that serves nobody may be given to a session; the connection that the session had
before serves nobody then. -/
theorem TablesInverse.update {srv : FixServer} (h : srv.TablesInverse) {p : Nat}
    (hp : srv.connectors.getSession p = none) (i : Nat) :
    { srv with connectors := srv.connectors.update p i }.TablesInverse := by
  intro q j
  have hqj := h q j
  dsimp only
  rw [update_getSession, update_getPeerIndex]
  by_cases hq : q = p
  · rw [if_pos hq, Option.some.injEq]
    by_cases hj : j = i
    · simp [hj, hq]
    · have hno : srv.connectors.getPeerIndex j ≠ some q := by
        intro hc
        have hserves := hqj.mpr hc
        rw [hq, hp] at hserves
        cases hserves
      simp [hj, Ne.symm hj, hno]
  · rw [if_neg hq]
    by_cases hj : j = i
    · subst hj
      by_cases hold : srv.connectors.getPeerIndex j = some q
      · simp [hold, Ne.symm hq]
      · have hno : srv.connectors.getSession q ≠ some j := fun hc => hold (hqj.mp hc)
        simp [hold, hno, Ne.symm hq]
    · by_cases hold : srv.connectors.getPeerIndex i = some q
      · have hno : srv.connectors.getPeerIndex j ≠ some q := by
          intro hc
          have hserves := (h q i).mpr hold
          rw [hqj.mpr hc] at hserves
          exact hj (Option.some.inj hserves)
        simp [hold, hj, hno]
      · simpa [hold, hj] using hqj

section Turn

variable {p : Nat} {l : RxLoop}

/-- The session that a message is for has the connection. -/
theorem target_open (h : l.Open p) {e : RxMessage × ServerRxEnv} {srv : FixServer} {i : Nat}
    (htarget : l.target p e = (srv, some i)) :
    srv.TablesInOrder ∧ srv.connectors.getSession p = some i ∧ srv.connected = l.server.connected ∧
      srv.slotOperations = l.server.slotOperations := by
  rcases target_some htarget with ⟨hsession, rfl⟩ | ⟨hsession, _, rfl⟩
  · exact ⟨h.tables, h.session ▸ hsession, rfl, rfl⟩
  · have hfree : l.server.connectors.getSession p = none := h.session ▸ hsession
    have hmapped : ∀ q j, (l.server.connectors.update p i).getSession q = some j →
        l.server.connected q = true := by
      intro q j hq
      rw [update_getSession] at hq
      split at hq
      · next hqp =>
        rw [hqp]
        exact h.connected
      · split at hq
        · cases hq
        · exact h.tables.mapped q j hq
    refine ⟨⟨h.tables.inverse.update hfree i, hmapped, h.tables.connected⟩, ?_, rfl, rfl⟩
    rw [modifySession_connectors, update_getSession, if_pos rfl]

theorem rxStep_slotOperations (p : Nat) (l : RxLoop) (e : RxMessage × ServerRxEnv) :
    l.server.slotOperations <+: (rxStep p l e).server.slotOperations := by
  unfold rxStep
  split
  · exact List.prefix_refl _
  · split
    · next srv htarget =>
      obtain ⟨-, -, rfl⟩ := target_none htarget
      rw [onClientDisconnected_slotOperations]
      exact List.prefix_append _ _
    · next srv i htarget =>
      have hsame : srv.slotOperations = l.server.slotOperations := by
        rcases target_some htarget with ⟨-, rfl⟩ | ⟨-, -, rfl⟩
        · rfl
        · rfl
      rw [← hsame]
      exact (handleMessage_effects srv i p e.1 e.2).slotOperations

/-- One message: the tables and the slots stay in order. The slot stays open when the loop goes on,
unless an answer is lost; then it is closed, and the loop goes on. -/
theorem rxStep_open (h : l.Open p) (hreturned : l.returned = false)
    (e : RxMessage × ServerRxEnv) :
    (rxStep p l e).server.TablesInOrder ∧ InOrder (rxStep p l e).server.slotOperations ∧
      (∀ q, receivedOn (rxStep p l e).server.slotOperations q =
        receivedOn l.server.slotOperations q) ∧
      (l.losesAnswer p e = false → (rxStep p l e).returned = false → (rxStep p l e).Open p) ∧
      (l.losesAnswer p e = true → (rxStep p l e).returned = false ∧
        (rxStep p l e).server.connected p = false) := by
  unfold rxStep RxLoop.losesAnswer
  rw [if_neg (by rw [hreturned]; exact Bool.false_ne_true)]
  rcases htarget : l.target p e with ⟨srv, _ | i⟩
  · obtain ⟨-, -, rfl⟩ := target_none htarget
    have heffects : Effects l.server (l.server.onClientDisconnected p) :=
      (Effects.refl _).disconnect p
    refine ⟨heffects.tables h.tables, heffects.slots h.tables h.slots, heffects.receivedOn,
      fun _ hgoes => ?_, fun hno => ?_⟩
    · cases hgoes
    · cases hno
  · obtain ⟨htables, hserves, -, hsame⟩ := target_open h htarget
    have heffects := handleMessage_effects srv i p e.1 e.2
    have hslots : InOrder (srv.handleMessage i p e.1 e.2).slotOperations := by
      refine heffects.slots htables ?_
      rw [hsame]
      exact h.slots
    refine ⟨heffects.tables htables, hslots, fun q => ?_, fun hkeeps hgoes => ?_, fun hloses => ?_⟩
    · rw [heffects.receivedOn q, hsame]
    · have hstate : ((srv.handleMessage i p e.1 e.2).sessions i).state ≠ .disconnected :=
        of_decide_eq_false hgoes
      have hstill : (srv.handleMessage i p e.1 e.2).connectors.getSession p = some i :=
        (handleMessage_open htables.inverse hserves hkeeps).resolve_right hstate
      exact ⟨heffects.tables htables, hslots, (heffects.tables htables).mapped p i hstill,
        hstill.symm⟩
    · obtain ⟨hclosed, hstate⟩ := handleMessage_closed htables.inverse hserves hloses
      exact ⟨decide_eq_false hstate, hclosed⟩

/-! ## A buffer -/

variable {specs : RepeatingGroupSpecs} {buffer : Bytes} {final : Nat} {t : RxTurn}

/-- When an answer of the turn is lost, nothing stands behind its message. -/
def KeepsIsolation (specs : RepeatingGroupSpecs) (p : Nat) (buffer : Bytes) (t : RxTurn)
    (env : ServerRxEnv) : Prop :=
  ∀ offset parser rx, t.loop.returned = false →
    findBeginStringPosition (buffer.drop t.bufferReadIndex) = some offset →
    parseMessage specs (buffer.drop (t.bufferReadIndex + offset)) = some (parser, rx) →
    t.loop.losesAnswer p (rx, env) = true →
    t.bufferReadIndex + offset + rx.buffer.length = buffer.length

/-- The loop between two messages. -/
structure RxTurn.Open (p : Nat) (buffer : Bytes) (t : RxTurn) : Prop where
  tables : t.loop.server.TablesInOrder
  slots : InOrder t.loop.server.slotOperations
  goesOn : t.loop.returned = false →
    t.loop.Open p ∧ buffer.Sublist (receivedOn t.loop.server.slotOperations p)

theorem behindMessage_slotOperations (l : RxLoop) (readIndex : Nat) :
    l.server.slotOperations <+:
      (behindMessage p buffer final l readIndex).loop.server.slotOperations := by
  unfold behindMessage
  dsimp only
  split_ifs
  · exact List.prefix_refl _
  · exact List.prefix_append _ _
  · exact List.prefix_append _ _
  · exact List.prefix_append _ _

theorem rxTurn_slotOperations (t : RxTurn) (env : ServerRxEnv) :
    t.loop.server.slotOperations <+:
      (rxTurn specs p buffer final t env).loop.server.slotOperations := by
  unfold rxTurn
  split
  · exact List.prefix_refl _
  · split
    · exact List.prefix_refl _
    · dsimp only
      split
      · exact List.prefix_append _ _
      · exact (rxStep_slotOperations p _ _).trans (behindMessage_slotOperations _ _)

/-- Behind a message that leaves the slot open, or ends the loop. -/
theorem behindMessage_open {readIndex : Nat} (htables : l.server.TablesInOrder)
    (hslots : InOrder l.server.slotOperations)
    (hbuffer : buffer.Sublist (receivedOn l.server.slotOperations p))
    (h : l.returned = false → l.Open p) :
    (behindMessage p buffer final l readIndex).Open p buffer := by
  unfold behindMessage
  dsimp only
  cases hreturned : l.returned with
  | true =>
    rw [if_pos rfl]
    refine ⟨htables, hslots, fun hgoes => ?_⟩
    rw [hreturned] at hgoes
    cases hgoes
  | false =>
    have hopen := h hreturned
    have hconnected : (connectorAt l.server.slotOperations p).connected = true := by
      rw [← htables.connected]
      exact hopen.connected
    have hrest : (buffer.drop readIndex).Sublist (receivedOn l.server.slotOperations p) :=
      (List.drop_sublist _ _).trans hbuffer
    rw [if_neg Bool.false_ne_true]
    split_ifs
    · refine ⟨htables.onSlot fun _ _ => Connector.after_reset_connected _ _ _, hslots.reset p,
        fun hgoes => ?_⟩
      cases hgoes
    · refine ⟨htables.onSlot fun _ _ => Connector.after_retained_connected _ _ _ _,
        hslots.retain hconnected hrest, fun hgoes => ?_⟩
      cases hgoes
    · have htables' : (l.server.onSlot (.read p (buffer.drop readIndex))).TablesInOrder :=
        htables.onSlot fun _ _ => rfl
      have hslots' := hslots.read hconnected hrest
      refine ⟨htables', hslots', fun _ => ⟨⟨htables', hslots', hopen.connected, hopen.session⟩, ?_⟩⟩
      rw [onSlot_slotOperations, receivedOn_snoc]
      exact hbuffer

/-- Behind a message at the end of the buffer nothing is done with the content of the slot. -/
theorem behindMessage_end (htables : l.server.TablesInOrder)
    (hslots : InOrder l.server.slotOperations) (hreturned : l.returned = false) :
    (behindMessage p buffer final l buffer.length).Open p buffer := by
  unfold behindMessage
  dsimp only
  rw [if_neg (by rw [hreturned]; exact Bool.false_ne_true), if_pos rfl]
  refine ⟨htables.onSlot fun _ _ => Connector.after_reset_connected _ _ _, hslots.reset p,
    fun hgoes => ?_⟩
  cases hgoes

/-- Before further bytes the loop reads them from the slot, or retains them in it. -/
theorem behindMessage_closed {readIndex : Nat} (hreturned : l.returned = false)
    (hclosed : (connectorAt l.server.slotOperations p).connected = false)
    (hrest : readIndex ≠ buffer.length) :
    ¬ Isolated (behindMessage p buffer final l readIndex).loop.server.slotOperations := by
  have hnot : ∀ operation, (IsolatedOperation l.server.slotOperations operation →
      (connectorAt l.server.slotOperations p).connected = true) →
      ¬ Isolated (l.server.onSlot operation).slotOperations := by
    intro operation hoperation
    rw [onSlot_slotOperations, isolated_snoc]
    rintro ⟨-, hisolated⟩
    rw [hoperation hisolated] at hclosed
    cases hclosed
  unfold behindMessage
  dsimp only
  rw [if_neg (by rw [hreturned]; exact Bool.false_ne_true), if_neg hrest]
  split_ifs
  · exact hnot _ fun hisolated => hisolated
  · exact hnot _ fun hisolated => hisolated.1

/-- A turn without a message that loses its answer keeps everything in order. -/
theorem rxTurn_open (h : t.Open p buffer) {env : ServerRxEnv}
    (hkeeps : KeepsIsolation specs p buffer t env) :
    (rxTurn specs p buffer final t env).Open p buffer := by
  unfold rxTurn
  cases hreturned : t.loop.returned with
  | true =>
    rw [if_pos rfl]
    exact h
  | false =>
    obtain ⟨hopen, hbuffer⟩ := h.goesOn hreturned
    rw [if_neg Bool.false_ne_true]
    split
    · refine ⟨h.tables, h.slots, fun hgoes => ?_⟩
      cases hgoes
    · next offset hbegin =>
      dsimp only
      split
      · refine ⟨h.tables.onSlot fun _ _ => Connector.after_retained_connected _ _ _ _, ?_,
          fun hgoes => ?_⟩
        · refine h.slots.retain ?_ ((List.drop_sublist _ _).trans hbuffer)
          rw [← h.tables.connected]
          exact hopen.connected
        · cases hgoes
      · next parser rx hparse =>
        obtain ⟨htables, hslots, hreceived, hkept, hlost⟩ := rxStep_open hopen hreturned (rx, env)
        cases hloses : t.loop.losesAnswer p (rx, env) with
        | false =>
          refine behindMessage_open htables hslots ?_ (hkept hloses)
          rw [hreceived p]
          exact hbuffer
        | true =>
          rw [hkeeps offset parser rx hreturned hbegin hparse hloses]
          exact behindMessage_end htables hslots (hlost hloses).1

/-- A turn that loses an answer before further bytes does not isolate the slots. -/
theorem rxTurn_not_isolated (h : t.Open p buffer) {env : ServerRxEnv}
    (hloses : ¬ KeepsIsolation specs p buffer t env) :
    ¬ Isolated (rxTurn specs p buffer final t env).loop.server.slotOperations := by
  unfold KeepsIsolation at hloses
  push Not at hloses
  obtain ⟨offset, parser, rx, hreturned, hbegin, hparse, hlost, hrest⟩ := hloses
  obtain ⟨htables, -, -, -, hclosed⟩ := rxStep_open (h.goesOn hreturned).1 hreturned (rx, env)
  obtain ⟨hgoes, hfree⟩ := hclosed hlost
  unfold rxTurn
  rw [if_neg (by rw [hreturned]; exact Bool.false_ne_true), hbegin]
  simp only [hparse]
  refine behindMessage_closed hgoes ?_ hrest
  rw [← htables.connected]
  exact hfree

/-- The loop over a buffer isolates the slots exactly when no turn loses an answer before further
bytes. -/
theorem run_rxTurn_isolated_iff (h : t.Open p buffer) (envs : List ServerRxEnv) :
    Isolated (run (rxTurn specs p buffer final) t envs).loop.server.slotOperations ↔
      Guarded (rxTurn specs p buffer final) (KeepsIsolation specs p buffer) t envs := by
  refine holds_at_end_iff (RxTurn.Open p buffer)
    (fun t => Isolated t.loop.server.slotOperations) (fun t env hafter => ?_)
    (fun t env ht hafter => ?_) (fun t env ht _ => ?_) envs h h.slots.isolated
  · exact hafter.of_prefix (rxTurn_slotOperations t env)
  · by_cases hkeeps : KeepsIsolation specs p buffer t env
    · exact rxTurn_open ht hkeeps
    · exact absurd hafter (rxTurn_not_isolated ht hkeeps)
  · constructor
    · intro hafter
      by_contra hloses
      exact rxTurn_not_isolated ht hloses hafter
    · intro hkeeps
      exact InOrder.isolated (rxTurn_open ht hkeeps).slots

end Turn

/-! ## Reads and runs -/

/-- The buffer that a read gives to `process_rx_buffer`. -/
def rxBufferOf (srv : FixServer) (p : Nat) (received : Bytes) : Bytes :=
  (connectorAt (srv.onSlot (.received p received)).slotOperations p).getRxBuffer

/-- The server at the first message of a read. -/
def beforeMessages (srv : FixServer) (p : Nat) (received : Bytes) : FixServer :=
  (srv.onSlot (.received p received)).onSlot (.read p (srv.rxBufferOf p received))

/-- A read loses no answer before further bytes. -/
def ReadKeepsIsolation (specs : RepeatingGroupSpecs) (rxBufferCapacity : Nat) (srv : FixServer)
    (p : Nat) (received : Bytes) (env : Nat → ServerRxEnv) : Prop :=
  0 < received.length → received.length ≤ rxBufferCapacity →
    ∀ final, finalTag10DelimiterIndex (srv.rxBufferOf p received) = some final →
      Guarded (rxTurn specs p (srv.rxBufferOf p received) final)
        (KeepsIsolation specs p (srv.rxBufferOf p received))
        ((srv.beforeMessages p received).firstTurn p)
        (environments (srv.rxBufferOf p received) env)

/-- When the connection is lost while a Logon or a Logout is answered, the message is the last in
its buffer, with nothing behind it. -/
def EventKeepsIsolation (specs : RepeatingGroupSpecs) (rxBufferCapacity : Nat) (srv : FixServer) :
    ReactorEvent → Prop
  | .readable p received env =>
    srv.connected p = true → srv.ReadKeepsIsolation specs rxBufferCapacity p received env
  | _ => True

section Run

variable {specs : RepeatingGroupSpecs} {rxBufferCapacity : Nat} {srv : FixServer} {p : Nat}

theorem rxBufferOf_eq (srv : FixServer) (p : Nat) (received : Bytes) :
    srv.rxBufferOf p received = (connectorAt srv.slotOperations p).incomplete ++ received := by
  rw [rxBufferOf, onSlot_slotOperations, connectorAt_snoc, Connector.after, if_pos rfl]
  rfl

/-- What is read in a slot was received on its connection. -/
theorem beforeMessages_open (htables : srv.TablesInOrder) (hslots : InOrder srv.slotOperations)
    (hp : srv.connected p = true) (received : Bytes) :
    (srv.beforeMessages p received).TablesInOrder ∧
      InOrder (srv.beforeMessages p received).slotOperations ∧
      (connectorAt (srv.beforeMessages p received).slotOperations p).connected = true ∧
      (srv.rxBufferOf p received).Sublist
        (receivedOn (srv.beforeMessages p received).slotOperations p) := by
  have hconnected : (connectorAt srv.slotOperations p).connected = true := by
    rw [← htables.connected]
    exact hp
  have hreceivedTables : (srv.onSlot (.received p received)).TablesInOrder := by
    refine htables.onSlot fun c q => ?_
    rw [Connector.after]
    split <;> rfl
  have hbuffer : (srv.rxBufferOf p received).Sublist
      (receivedOn (srv.onSlot (.received p received)).slotOperations p) := by
    rw [rxBufferOf_eq, onSlot_slotOperations, receivedOn_snoc]
    dsimp only
    rw [if_pos rfl]
    exact (hslots.retained p).append (List.Sublist.refl received)
  have hreceivedConnected : (connectorAt
      (srv.onSlot (.received p received)).slotOperations p).connected = true := by
    rw [← hreceivedTables.connected]
    exact hp
  have htables' : (srv.beforeMessages p received).TablesInOrder :=
    hreceivedTables.onSlot fun _ _ => rfl
  refine ⟨htables', (hslots.received hconnected received).read hreceivedConnected hbuffer, ?_, ?_⟩
  · rw [← htables'.connected]
    exact hp
  · rw [beforeMessages, onSlot_slotOperations, receivedOn_snoc]
    exact hbuffer

/-- The messages of a read keep everything in order, or the slots are not isolated. -/
theorem processRead_isolated_iff (htables : srv.TablesInOrder)
    (hslots : InOrder srv.slotOperations) (hp : srv.connected p = true) (received : Bytes)
    (env : Nat → ServerRxEnv) :
    (srv.ReadKeepsIsolation specs rxBufferCapacity p received env →
      (srv.processRead specs rxBufferCapacity p received env).TablesInOrder ∧
        InOrder (srv.processRead specs rxBufferCapacity p received env).slotOperations) ∧
    (Isolated (srv.processRead specs rxBufferCapacity p received env).slotOperations →
      srv.ReadKeepsIsolation specs rxBufferCapacity p received env) := by
  obtain ⟨htables', hslots', hconnected', hbuffer⟩ :=
    beforeMessages_open htables hslots hp received
  have hconnected : (connectorAt srv.slotOperations p).connected = true := by
    rw [← htables.connected]
    exact hp
  have hreceivedTables : (srv.onSlot (.received p received)).TablesInOrder := by
    refine htables.onSlot fun c q => ?_
    rw [Connector.after]
    split <;> rfl
  have hserver : srv.processRead specs rxBufferCapacity p received env =
      if 0 < received.length && received.length ≤ rxBufferCapacity then
        (srv.onSlot (.received p received)).processRxBytes specs p (srv.rxBufferOf p received) env
      else srv.onSlot (.received p received) := rfl
  rw [hserver]
  unfold ReadKeepsIsolation
  -- A read that is empty or too long changes nothing but the history of the slots.
  cases hread : (0 < received.length && received.length ≤ rxBufferCapacity : Bool) with
  | false =>
    rw [if_neg Bool.false_ne_true]
    refine ⟨fun _ => ⟨hreceivedTables, hslots.received hconnected received⟩,
      fun _ hpos hle => ?_⟩
    rw [decide_eq_true hpos, decide_eq_true hle] at hread
    cases hread
  | true =>
    obtain ⟨hpos, hle⟩ := Bool.and_eq_true_iff.mp hread
    rw [if_pos rfl]
    unfold processRxBytes
    cases hfinal : finalTag10DelimiterIndex (srv.rxBufferOf p received) with
    | none =>
      refine ⟨fun _ => ⟨htables'.onSlot fun _ _ => Connector.after_retained_connected _ _ _ _,
        hslots'.retain hconnected' hbuffer⟩, fun _ _ _ _ hno => ?_⟩
      cases hno
    | some final =>
      have hopen : ((srv.beforeMessages p received).firstTurn p).Open p
          (srv.rxBufferOf p received) :=
        ⟨htables', hslots', fun _ => ⟨⟨htables', hslots', hp, rfl⟩, hbuffer⟩⟩
      constructor
      · intro hkeeps
        have hguarded := hkeeps (of_decide_eq_true hpos) (of_decide_eq_true hle) final rfl
        have hend := Guarded.invariant (I := RxTurn.Open p (srv.rxBufferOf p received))
          (fun _ _ ht hkeep => rxTurn_open ht hkeep) hopen hguarded
        exact ⟨hend.tables, hend.slots⟩
      · intro hisolated _ _ final' hfinal'
        obtain rfl := Option.some.inj hfinal'
        exact (run_rxTurn_isolated_iff hopen _).mp hisolated

theorem processRead_slotOperations (specs : RepeatingGroupSpecs) (rxBufferCapacity : Nat)
    (srv : FixServer) (p : Nat) (received : Bytes) (env : Nat → ServerRxEnv) :
    srv.slotOperations <+:
      (srv.processRead specs rxBufferCapacity p received env).slotOperations := by
  have hbefore : srv.slotOperations <+: (srv.beforeMessages p received).slotOperations :=
    (List.prefix_append _ _).trans (List.prefix_append _ _)
  unfold processRead
  dsimp only
  split
  · unfold processRxBytes
    dsimp only
    split
    · exact hbefore.trans (List.prefix_append _ _)
    · have hstart : srv.slotOperations <+:
          ((srv.beforeMessages p received).firstTurn p).loop.server.slotOperations := hbefore
      exact run_invariant (I := fun t => srv.slotOperations <+: t.loop.server.slotOperations)
        (fun t env h => h.trans (rxTurn_slotOperations t env)) _ hstart
  · exact List.prefix_append _ _

theorem receiveDone_effects (srv : FixServer) (p : Nat) : Effects srv (srv.receiveDone p) := by
  unfold receiveDone
  split
  · exact (Effects.refl srv).disconnect p
  · exact .refl srv

theorem disconnect_effects (srv : FixServer) (p : Nat) :
    Effects srv (srv.step (.disconnect p)) := by
  show Effects srv (if srv.connected p then srv.onClientDisconnected p else srv)
  split
  · exact (Effects.refl srv).disconnect p
  · exact .refl srv

/-- A free slot is given to a connection. -/
theorem connect_open (htables : srv.TablesInOrder) (hslots : InOrder srv.slotOperations)
    (hp : srv.connected p = false) :
    (srv.step (.connect p)).TablesInOrder ∧ InOrder (srv.step (.connect p)).slotOperations := by
  refine ⟨⟨htables.inverse, fun q i hq => ?_, fun q => ?_⟩, hslots.given ?_⟩
  · show Function.update srv.connected p true q = true
    by_cases hqp : q = p
    · rw [hqp, Function.update_self]
    · rw [Function.update_of_ne hqp]
      exact htables.mapped q i hq
  · show Function.update srv.connected p true q =
      (connectorAt (srv.slotOperations ++ [.given p]) q).connected
    rw [connectorAt_snoc, Connector.after]
    by_cases hqp : q = p
    · rw [hqp, Function.update_self, if_pos rfl]
    · rw [Function.update_of_ne hqp, if_neg (Ne.symm hqp), htables.connected]
  · rw [← htables.connected]
    exact hp

theorem reactorStep_slotOperations (srv : FixServer) (e : ReactorEvent) :
    srv.slotOperations <+: (reactorStep specs rxBufferCapacity srv e).slotOperations := by
  cases e with
  | connect p =>
    simp only [reactorStep]
    split
    · exact List.prefix_refl _
    · exact List.prefix_append _ _
  | readable p received env =>
    simp only [reactorStep]
    split
    · exact (processRead_slotOperations specs rxBufferCapacity srv p received env).trans
        (receiveDone_effects _ p).slotOperations
    · exact List.prefix_refl _
  | connectionLost p => exact (disconnect_effects srv p).slotOperations
  | process env => exact (process_effects srv env).slotOperations
  | pushAdminCommand i command =>
    exact (Effects.one srv i (·.pushAdminCommand command)).slotOperations

/-- An event keeps everything in order, or the slots are not isolated behind it. -/
theorem reactorStep_isolated_iff (htables : srv.TablesInOrder)
    (hslots : InOrder srv.slotOperations) (e : ReactorEvent) :
    (EventKeepsIsolation specs rxBufferCapacity srv e →
      (reactorStep specs rxBufferCapacity srv e).TablesInOrder ∧
        InOrder (reactorStep specs rxBufferCapacity srv e).slotOperations) ∧
    (Isolated (reactorStep specs rxBufferCapacity srv e).slotOperations →
      EventKeepsIsolation specs rxBufferCapacity srv e) := by
  have heffects : ∀ srv', Effects srv srv' →
      srv'.TablesInOrder ∧ InOrder srv'.slotOperations := fun srv' h =>
    ⟨h.tables htables, h.slots htables hslots⟩
  cases e with
  | connect p =>
    refine ⟨fun _ => ?_, fun _ => trivial⟩
    simp only [reactorStep]
    cases hp : srv.connected p with
    | true => exact ⟨htables, hslots⟩
    | false => exact connect_open htables hslots hp
  | readable p received env =>
    simp only [reactorStep, EventKeepsIsolation]
    cases hp : srv.connected p with
    | false => exact ⟨fun _ => ⟨htables, hslots⟩, fun _ hno => by cases hno⟩
    | true =>
      obtain ⟨hkept, hkeeps⟩ := processRead_isolated_iff htables hslots hp received env
      have hdone := receiveDone_effects (srv.processRead specs rxBufferCapacity p received env) p
      rw [if_pos rfl, onBytesReady]
      constructor
      · intro hread
        obtain ⟨htables', hslots'⟩ := hkept (hread rfl)
        exact ⟨hdone.tables htables', hdone.slots htables' hslots'⟩
      · exact fun hisolated _ => hkeeps (hisolated.of_prefix hdone.slotOperations)
  | connectionLost p =>
    exact ⟨fun _ => heffects _ (disconnect_effects srv p), fun _ => trivial⟩
  | process env =>
    exact ⟨fun _ => heffects _ (process_effects srv env), fun _ => trivial⟩
  | pushAdminCommand i command =>
    exact ⟨fun _ => heffects _ (.one srv i (·.pushAdminCommand command)), fun _ => trivial⟩

/-- A run isolates the slots exactly when no answer to a Logon or a Logout is lost before further
bytes. -/
theorem run_reactorStep_isolated_iff (htables : srv.TablesInOrder)
    (hslots : InOrder srv.slotOperations) (events : List ReactorEvent) :
    Isolated (run (reactorStep specs rxBufferCapacity) srv events).slotOperations ↔
      Guarded (reactorStep specs rxBufferCapacity) (EventKeepsIsolation specs rxBufferCapacity) srv
        events := by
  refine holds_at_end_iff (fun srv : FixServer => srv.TablesInOrder ∧ InOrder srv.slotOperations)
    (fun srv : FixServer => Isolated srv.slotOperations) (fun srv e hafter => ?_)
    (fun srv e h hafter => ?_) (fun srv e h _ => ?_) events ⟨htables, hslots⟩ hslots.isolated
  · exact hafter.of_prefix (reactorStep_slotOperations srv e)
  · obtain ⟨hkept, hkeeps⟩ := reactorStep_isolated_iff h.1 h.2 e
    exact hkept (hkeeps hafter)
  · obtain ⟨hkept, hkeeps⟩ := reactorStep_isolated_iff h.1 h.2 e
    exact ⟨hkeeps, fun hevent => (hkept hevent).2.isolated⟩

end Run

end FixServer

end Llfix
