import Llfix.Retransmission
import Llfix.Server.Turns

/-!
# Retransmission on the server

The relation of the client, for one session of the server. It also follows the connections: one
that is still up serves the session it served, and a session whose connection is gone does not
wait.

Results:
1. `handleMessage_proceeds`, `processTurn_proceeds`: messages and turns proceed.
2. `handleMessage_takesUp`, `handleMessage_endsWait`: a ResendRequest with the expected number is
   taken up, and one below it closes the connection.
-/

namespace Llfix

open FixSession

namespace FixServer

theorem onClientDisconnected_getSession_ne (srv : FixServer) {p q : Nat} (h : q ≠ p) :
    (srv.onClientDisconnected p).connectors.getSession q = srv.connectors.getSession q := by
  cases hp : srv.connectors.getSession p with
  | none => rw [onClientDisconnected_unmapped srv p hp, onSlot_connectors]
  | some i =>
    rw [onClientDisconnected_mapped srv p hp]
    simp [FixServerConnectors.remove, FixServerConnectors.getSession, h]

/-- The session proceeds, the connections that remain serve the sessions they served, and a
session that has lost its connection does not wait. -/
structure Proceeds (k : Nat) (srv srv' : FixServer) : Prop where
  session : FixSession.Proceeds (srv.sessions k) (srv'.sessions k)
  unmaps : ∀ p, srv.connectors.getSession p = some k →
    srv'.connectors.getSession p = some k ∨
      (srv'.sessions k).state ≠ .inRetransmissionInitiatedBySelf ∨
      Asked (srv.sessions k) (srv'.sessions k)
  peers : ∀ p, srv'.connected p = true →
    srv.connected p = true ∧ srv'.connectors.getSession p = srv.connectors.getSession p

namespace Proceeds

variable {k : Nat} {srv srv' srv'' : FixServer}

/-- A step on one session, or on none, that leaves the connections alone. -/
theorem of_peers (h : FixSession.Proceeds (srv.sessions k) (srv'.sessions k))
    (hconnected : srv'.connected = srv.connected) (hconnectors : srv'.connectors = srv.connectors) :
    Proceeds k srv srv' where
  session := h
  unmaps _ hp := .inl (hconnectors ▸ hp)
  peers _ hp := ⟨hconnected ▸ hp, by rw [hconnectors]⟩

theorem refl (srv : FixServer) : Proceeds k srv srv := .of_peers (.refl _) rfl rfl

theorem trans (h : Proceeds k srv srv') (h' : Proceeds k srv' srv'') : Proceeds k srv srv'' where
  session := h.session.trans h'.session
  unmaps p hp := by
    rcases h.unmaps p hp with hmapped | hstate | hasked
    · rcases h'.unmaps p hmapped with hmapped' | hstate' | hasked'
      · exact .inl hmapped'
      · exact .inr (.inl hstate')
      · refine .inr (.inr ?_)
        rcases h.session with hpassive | hasked
        · exact hpassive.asked hasked'
        · exact hasked.trace_append hasked'.trace
    · rcases h'.session with hpassive' | hasked'
      · exact .inr (.inl fun hwaits => hstate (hpassive'.waits hwaits))
      · rcases h.session with hpassive | hasked
        · exact .inr (.inr (hpassive.asked hasked'))
        · exact .inr (.inr (hasked.trace_append hasked'.trace))
    · exact .inr (.inr (hasked.trace_append h'.session.trace))
  peers p hp := by
    obtain ⟨hp', hserves'⟩ := h'.peers p hp
    obtain ⟨hp, hserves⟩ := h.peers p hp'
    exact ⟨hp, hserves'.trans hserves⟩

theorem modify (srv : FixServer) (i : Nat) {f : FixSession → FixSession}
    (h : i = k → FixSession.Proceeds (srv.sessions i) (f (srv.sessions i))) :
    Proceeds k srv (srv.modifySession i f) := by
  refine .of_peers ?_ rfl rfl
  by_cases hi : k = i
  · subst hi
    rw [modifySession_sessions_self]
    exact h rfl
  · rw [modifySession_sessions_ne srv hi]
    exact .refl _

theorem onSlot (srv : FixServer) (operation : SlotOperation) :
    Proceeds k srv (srv.onSlot operation) :=
  .of_peers (.refl _) rfl rfl

theorem passive (srv : FixServer) (i : Nat) {f : FixSession → FixSession}
    (h : Passive (srv.sessions i) (f (srv.sessions i))) :
    Proceeds k srv (srv.modifySession i f) :=
  .modify srv i fun _ => .inl h

theorem disconnect (srv : FixServer) (p : Nat) :
    Proceeds k srv (srv.onClientDisconnected p) where
  session := by
    rw [onClientDisconnected_sessions]
    split
    · exact .inl (.setState _ (by decide))
    · exact .refl _
  unmaps q hq := by
    by_cases hqp : q = p
    · subst hqp
      refine .inr (.inl fun hwaits => ?_)
      rw [onClientDisconnected_sessions, if_pos hq] at hwaits
      cases hwaits
    · exact .inl (by rwa [onClientDisconnected_getSession_ne srv hqp])
  peers q hq := by
    have hne : q ≠ p := by
      rintro rfl
      rw [onClientDisconnected_connected_self] at hq
      cases hq
    refine ⟨?_, onClientDisconnected_getSession_ne srv hne⟩
    cases hp : srv.connectors.getSession p with
    | none =>
      rw [onClientDisconnected_unmapped srv p hp] at hq
      simpa [hne] using hq
    | some i =>
      rw [onClientDisconnected_mapped srv p hp] at hq
      simpa [hne] using hq

theorem of_steps {i : Nat} {R : FixSession → FixSession → Prop} (hR : ∀ s s', R s s' → Passive s s')
    (h : Steps i R srv srv') : Proceeds k srv srv' := by
  induction h with
  | refl => exact .refl _
  | modify f _ hf ih => exact ih.trans (.passive _ i (hR _ _ hf))
  | send p _ _ ih => exact ih.trans (.onSlot _ (.sent p))
  | disconnect p _ ih => exact ih.trans (.disconnect _ p)
  | closeInvalid _ ih => exact ih.trans (.of_peers (.refl _) rfl rfl)

end Proceeds

section Passive

variable {k : Nat} (srv : FixServer) (i : Nat)

theorem sendBytes_proceeds (t : Transmission) (o : SendOutcome) :
    Proceeds k srv (srv.sendBytes i t o) :=
  .of_steps (fun _ _ => SendUpdate.passive) (sendBytes_steps srv i t o)

theorem sendOutgoingMessage_proceeds (m : OutgoingFixMessage) (o : SendOutcome) :
    Proceeds k srv (srv.sendOutgoingMessage i m o) :=
  sendBytes_proceeds srv i _ o

theorem closeConnection_proceeds (peer : Option Nat) : Proceeds k srv (srv.closeConnection peer) := by
  cases peer with
  | none => exact .of_peers (.refl _) rfl rfl
  | some p => exact .disconnect srv p

theorem processConnectionClosure_proceeds (peer : Option Nat) (sendLogout : Bool)
    (reason : Bytes) (o : SendOutcome) :
    Proceeds k srv (srv.processConnectionClosure peer sendLogout reason o) := by
  unfold processConnectionClosure
  cases sendLogout with
  | false => exact closeConnection_proceeds srv peer
  | true =>
    cases peer.bind srv.connectors.getSession with
    | none => exact closeConnection_proceeds srv peer
    | some j =>
      exact (sendOutgoingMessage_proceeds srv j _ o).trans (closeConnection_proceeds _ peer)

theorem callback_proceeds (cb : Callback) (m : Option IncomingFixMessage) :
    Proceeds k srv (srv.callback i cb m) :=
  .passive srv i (.record _ _)

theorem processLogonRequest_proceeds (p : Nat) (m : IncomingFixMessage) (env : ServerRxEnv) :
    Proceeds k srv (srv.processLogonRequest i p m env) := by
  cases h : validateLogonRequest m && env.authenticated with
  | false =>
    rw [processLogonRequest_refused srv i p m env h]
    exact .disconnect srv p
  | true =>
    rw [processLogonRequest_authenticated srv i p m env h]
    have hauthenticated : Passive (srv.sessions i) (authenticated (srv.sessions i) m) :=
      ⟨fun hwaits => by rwa [authenticated_state] at hwaits,
        ⟨[.authenticated], (authenticated_trace m _).symm⟩⟩
    have hloggedOn : ∀ s : FixSession, Passive s (loggedOn s) := by
      intro s
      have hstate : Passive s (s.setState .loggedOn) := .setState s (by decide)
      exact hstate.trans
        (.silent (doPostLogonSequenceNumberCheck_state _) (doPostLogonSequenceNumberCheck_trace _))
    exact (((Proceeds.passive srv i hauthenticated).trans
      (sendOutgoingMessage_proceeds _ i _ _)).trans (.passive _ i (hloggedOn _))).trans
        (callback_proceeds _ i _ _)

theorem processLogoutRequest_proceeds (m : IncomingFixMessage) (env : ServerRxEnv) :
    Proceeds k srv (srv.processLogoutRequest i m env) := by
  unfold processLogoutRequest
  have hstate : ∀ s : FixSession, Passive s (s.setState .loggedOut) := fun s =>
    .setState s (by decide)
  exact ((sendOutgoingMessage_proceeds srv i (buildLogoutMessage []) env.send).trans
    (.passive _ i (hstate _))).trans (callback_proceeds _ i _ _)

theorem processSequenceReset_proceeds (m : IncomingFixMessage) (env : ServerRxEnv) :
    Proceeds k srv (srv.processSequenceReset i m env) := by
  unfold processSequenceReset
  dsimp only
  have hreset : Proceeds k srv (srv.modifySession i fun _ =>
      ((srv.sessions i).processIncomingSequenceResetMessage m).1) :=
    .passive srv i (processIncomingSequenceResetMessage_passive _ m)
  split
  · exact hreset.trans (sendOutgoingMessage_proceeds _ i _ _)
  · exact hreset

theorem dispatch_proceeds (p : Nat) (m : IncomingFixMessage) (env : ServerRxEnv) :
    Proceeds k srv (srv.dispatch i p m env) := by
  rcases dispatch_cases srv i p m env with
    ⟨_, h⟩ | ⟨_, h⟩ | ⟨_, h⟩ | ⟨_, h⟩ | ⟨_, h⟩ | ⟨_, h⟩ | ⟨_, cb, _, h⟩
  · rw [h]
    exact processLogonRequest_proceeds srv i p m env
  · rw [h]
    exact processLogoutRequest_proceeds srv i m env
  · rw [h]
    exact processSequenceReset_proceeds srv i m env
  · rw [h]
    exact (Proceeds.passive srv i (processResendRequest_passive _ m)).trans
      (callback_proceeds _ i _ _)
  · rw [h]
    exact (Proceeds.passive srv i (processTestRequestMessage_passive _ m)).trans
      (callback_proceeds _ i _ _)
  · rw [h]
    exact callback_proceeds srv i _ _
  · rw [h]
    exact callback_proceeds srv i _ _

theorem processInSequence_proceeds (p : Nat) (rx : RxMessage) (env : ServerRxEnv) :
    Proceeds k srv (srv.processInSequence i p rx env) := by
  have hpassed : Proceeds k srv (srv.modifySession i (·.passed rx env.throttlerReachedLimit)) :=
    .passive srv i (passed_passive _ rx _)
  rcases processInSequence_cases srv i p rx env with ⟨_, ⟨_, h⟩ | h⟩ | ⟨_, h⟩
  · rw [h]
    exact hpassed.trans (processConnectionClosure_proceeds _ _ _ _ _)
  · rw [h]
    exact hpassed.trans (sendOutgoingMessage_proceeds _ i _ _)
  · rw [h]
    exact hpassed.trans (dispatch_proceeds _ i p _ env)

theorem handleMessage_proceeds (p : Nat) (rx : RxMessage) (env : ServerRxEnv) :
    Proceeds k srv (srv.handleMessage i p rx env) := by
  have hcounted : Proceeds k srv (srv.modifySession i (·.counted rx env.nowNanoseconds)) :=
    .passive srv i (.silent rfl rfl)
  rcases handleMessage_cases srv i p rx env with
    ⟨code, errorTag, _, h⟩ | ⟨_, h⟩ | ⟨_, _, _, h⟩ | ⟨_, _, sendLogout, reason, h⟩ | ⟨_, h⟩
  · rw [h]
    have hparsed : Proceeds k srv (srv.modifySession i fun s =>
        (s.received rx env.nowNanoseconds).setLastErrorTag errorTag) :=
      .passive srv i (.silent rfl rfl)
    exact hparsed.trans (sendOutgoingMessage_proceeds _ i _ _)
  · rw [h]
    exact .passive srv i (.silent rfl rfl)
  · rw [h]
    exact .passive srv i (.silent rfl rfl)
  · rw [h]
    have hundone : Proceeds k srv (srv.modifySession i fun s => (s.counted rx
        env.nowNanoseconds).setIncomingSeqNo s.sequenceStore.incomingSeqNo) :=
      .passive srv i (.silent rfl rfl)
    exact hundone.trans (processConnectionClosure_proceeds _ _ _ _ _)
  · rw [h]
    exact hcounted.trans (processInSequence_proceeds _ i p rx env)

/-- The session of a connection that is closed is disconnected, also when the logout before has
closed it already. -/
theorem processConnectionClosure_state {p : Nat} (hp : srv.connectors.getSession p = some i)
    (sendLogout : Bool) (reason : Bytes) (o : SendOutcome) :
    ((srv.processConnectionClosure (some p) sendLogout reason o).sessions i).state =
      .disconnected := by
  have hclosed : ∀ srv' : FixServer, Steps i SendUpdate srv srv' →
      ((srv'.onClientDisconnected p).sessions i).state = .disconnected := by
    intro srv' hsteps
    have hserved : srv'.connectors.getSession p = some i ∨
        (srv'.sessions i).state = .disconnected := by
      induction hsteps with
      | refl => exact .inl hp
      | modify f _ hf ih =>
        refine ih.imp id fun hstate => ?_
        rw [modifySession_sessions_self, hf.state, hstate]
      | send _ _ _ ih => exact ih
      | closeInvalid _ ih => exact ih
      | @disconnect srv' q _ ih =>
        rw [onClientDisconnected_sessions]
        rcases ih with hserves | hstate
        · by_cases hq : q = p
          · subst hq
            exact .inr (by rw [if_pos hserves]; rfl)
          · exact .inl (by rwa [onClientDisconnected_getSession_ne srv' (Ne.symm hq)])
        · refine .inr ?_
          split
          · rfl
          · exact hstate
    rw [onClientDisconnected_sessions]
    rcases hserved with hserves | hstate
    · rw [if_pos hserves]
      rfl
    · split
      · rfl
      · exact hstate
  unfold processConnectionClosure
  cases sendLogout with
  | false => exact hclosed srv (.refl srv)
  | true =>
    dsimp only [Option.bind_some]
    rw [hp]
    exact hclosed _ (sendOutgoingMessage_steps srv i _ o)

theorem dispatch_resendRequest (p : Nat) {m : IncomingFixMessage} (env : ServerRxEnv)
    (h : m.getTagValue tagMsgType = [msgTypeResendRequest]) :
    srv.dispatch i p m env =
      (srv.modifySession i (·.processResendRequest m)).callback i .onClientResendRequest
        (some m) := by
  simp only [dispatch, h]
  rfl

/-- A ResendRequest that is well formed, passes the validation and is not kept back by the
throttler. -/
def ResendRequestArrives (e : RxMessage × ServerRxEnv) : Prop :=
  e.1.isResendRequest = true ∧ takesResendRequest e.1.message = true ∧
    (srv.sessions i).verdict e.1 e.2.utcNow = .valid ∧
    (srv.sessions i).throttles e.2.throttlerReachedLimit = false

variable {srv i}

/-- A ResendRequest is taken up unless a sequence check keeps it back. -/
theorem handleMessage_takesUp {p : Nat} {rx : RxMessage} {env : ServerRxEnv}
    (h : srv.ResendRequestArrives i (rx, env)) (habove : (srv.sessions i).aboveExpected rx = false)
    (hbelow : (srv.sessions i).belowExpected rx = false) :
    ((srv.handleMessage i p rx env).sessions i).needsRespondingToIncomingResendRequest = true ∧
      ((srv.handleMessage i p rx env).sessions i).state ≠ .inRetransmissionInitiatedBySelf := by
  obtain ⟨htype, htakes, hvalid, hthrottles⟩ := h
  dsimp only at htype htakes hvalid hthrottles
  rcases handleMessage_cases srv i p rx env with
    ⟨code, errorTag, hv, _⟩ | ⟨hv, _⟩ | ⟨_, habove', _⟩ | ⟨_, hbelow', _⟩ | ⟨_, h⟩
  · rw [hvalid] at hv
    cases hv
  · rw [hvalid] at hv
    cases hv
  · rw [habove] at habove'
    cases habove'
  · rw [hbelow] at hbelow'
    cases hbelow'
  · have hresend : rx.message.getTagValue tagMsgType = [msgTypeResendRequest] :=
      of_decide_eq_true htype
    have hthrottles' : ((srv.modifySession i (·.counted rx env.nowNanoseconds)).sessions
        i).throttles env.throttlerReachedLimit = false := by
      rw [modifySession_sessions_self]
      exact hthrottles
    rcases processInSequence_cases (srv.modifySession i (·.counted rx env.nowNanoseconds)) i p rx
        env with ⟨hthrottled, _⟩ | ⟨_, hdispatch⟩
    · rw [hthrottles'] at hthrottled
      cases hthrottled
    · rw [h, hdispatch, dispatch_resendRequest _ i p env hresend, callback,
        modifySession_sessions_self, modifySession_sessions_self]
      exact processResendRequest_needs htakes

/-- A ResendRequest that is not above the expected number ends the wait of the session: it is
taken up, or closes the connection. -/
theorem handleMessage_endsWait {p : Nat} (hp : srv.connectors.getSession p = some i)
    {rx : RxMessage} {env : ServerRxEnv} (h : srv.ResendRequestArrives i (rx, env))
    (habove : (srv.sessions i).aboveExpected rx = false) :
    ((srv.handleMessage i p rx env).sessions i).state ≠ .inRetransmissionInitiatedBySelf := by
  cases hbelow : (srv.sessions i).belowExpected rx with
  | false => exact (handleMessage_takesUp h habove hbelow).2
  | true =>
    rcases handleMessage_cases srv i p rx env with
      ⟨code, errorTag, hv, _⟩ | ⟨hv, _⟩ | ⟨_, habove', _⟩ | ⟨_, _, sendLogout, reason, hclosed⟩ |
      ⟨hpass, _⟩
    · rw [h.2.2.1] at hv
      cases hv
    · rw [h.2.2.1] at hv
      cases hv
    · rw [habove] at habove'
      cases habove'
    · rw [hclosed]
      intro hwaits
      rw [processConnectionClosure_state (srv.modifySession i _) i hp] at hwaits
      cases hwaits
    · rw [passesChecks, hbelow, Bool.not_true, Bool.and_false] at hpass
      cases hpass

variable (srv i)

theorem AdminUpdate.passive {s s' : FixSession} (h : AdminUpdate s s') : Passive s s' := by
  cases h with
  | popped => exact .silent rfl rfl
  | setOutgoingSeqNo n => exact .silent rfl rfl
  | disabled => exact .setState s (by decide)
  | disconnected => exact .setState s (by decide)
  | reinitialised records => exact reinitialiseOutgoingSerialiser_passive s records

theorem TimerUpdate.passive {s s' : FixSession} (h : TimerUpdate s s') : Passive s s' := by
  cases h with
  | testRequestBuilt => exact .silent rfl rfl
  | testRequestSent timestamp => exact .silent rfl rfl
  | testRequestExpired => exact .silent rfl rfl
  | resendRequestAnswered => exact resendRequestAnswered_passive s
  | testRequestAnswered => exact .silent rfl rfl

/-- Updates of a session that does not start to wait. -/
theorem proceeds_respects {U : FixSession → FixSession → Prop}
    (hU : ∀ s s', U s s' → Passive s s') : Respects i U (Proceeds k) where
  refl := .refl
  trans := .trans
  sendBytes := sendBytes_proceeds
  closeConnection := closeConnection_proceeds
  modify srv _ hf := .passive srv i (hU _ _ hf)

theorem processAdminCommands_proceeds (env : ProcessEnv) :
    Proceeds k srv (srv.processAdminCommands i env) :=
  processAdminCommands_related (proceeds_respects i fun _ _ => AdminUpdate.passive)
    (fun _ _ => .of_peers (.refl _) rfl rfl) srv env fun _ _ _ srv' =>
      .passive srv' i (.silent rfl rfl)

theorem sendLogoutMessagesToAllSessions_proceeds (env : Nat → ProcessEnv) :
    Proceeds k srv (srv.sendLogoutMessagesToAllSessions env) :=
  sendLogoutMessages_related (fun i => proceeds_respects i fun _ _ => AdminUpdate.passive) srv env

end Passive

/-! ### Asking -/

section Asks

variable {k : Nat} {srv : FixServer} {i : Nat} {env : ProcessEnv}

/-- The ResendRequest that the turn would send is taken whole by the connection of the session. -/
def ResendRequestGoesOut (srv : FixServer) (i : Nat) (env : ProcessEnv) : Prop :=
  (srv.sessions i).state ≠ .inRetransmissionInitiatedBySelf →
    (srv.sessions i).needsToSendResendRequest = true →
    (srv.connectors.getPeerIndex i).isSome = true ∧ env.resendRequestSend.result = .ok

theorem processOutgoingResendRequestIfNecessary_proceeds
    (h : i = k → srv.ResendRequestGoesOut i env) :
    Proceeds k srv (srv.processOutgoingResendRequestIfNecessary i env) := by
  unfold processOutgoingResendRequestIfNecessary
  dsimp only
  split_ifs with hwaits hexpired hneeds
  · exact processConnectionClosure_proceeds srv _ _ _ _
  · exact .refl _
  · by_cases hi : i = k
    · obtain ⟨hpeer, ho⟩ := h hi hwaits hneeds
      obtain ⟨p, hp⟩ := Option.isSome_iff_exists.mp hpeer
      have hne : env.resendRequestSend.result ≠ .connectionLost := by
        rw [ho]
        decide
      rw [sendResendRequest, sendOutgoingMessage, sendBytes_held srv i hp _ hne,
        modifySession_modifySession]
      refine (Proceeds.onSlot srv (.sent p)).trans (.modify _ i fun _ => .inr
        ⟨[], [.state .inRetransmissionInitiatedBySelf],
          .original ((srv.sessions i).buildResendRequestMessage (text "0"))
            ((srv.sessions i).sequenceStore.outgoingSeqNo + 1),
          (srv.sessions i).sequenceStore.incomingSeqNo, ?_, rfl⟩)
      simp [resendRequestSent, ho]
    · exact (sendOutgoingMessage_proceeds srv i _ _).trans (.modify _ i fun h => absurd h hi)
  · exact .refl _

theorem processLive_proceeds (h : i = k → srv.ResendRequestGoesOut i env) :
    Proceeds k srv (srv.processLive i env) := by
  have hrespects : Respects i TimerUpdate (Proceeds k) :=
    proceeds_respects i fun _ _ => TimerUpdate.passive
  exact (processOutgoingResendRequestIfNecessary_proceeds h).trans
    ((processOutgoingTestRequest_related hrespects _ env).trans
      ((respondToResendRequest_related hrespects _ env).trans
        ((respondToTestRequest_related hrespects _ env).trans
          ((sendHeartbeat_related hrespects _ env).trans
            (processScheduleValidator_related hrespects _ env)))))

/-- The ResendRequest of a turn goes out. -/
def TurnGoesOut (srv : FixServer) (i : Nat) (env : ProcessEnv) : Prop :=
  isStateLive ((srv.processAdminCommands i env).sessions i).state = true →
    (srv.processAdminCommands i env).ResendRequestGoesOut i env

theorem processTurn_proceeds (h : i = k → srv.TurnGoesOut i env) :
    Proceeds k srv (srv.processTurn i env) := by
  have hadmin : Proceeds k srv (srv.processAdminCommands i env) :=
    processAdminCommands_proceeds srv i env
  unfold processTurn
  dsimp only
  split
  · next hlive => exact hadmin.trans (processLive_proceeds fun hi => h hi hlive)
  · exact hadmin

end Asks

end FixServer

end Llfix
