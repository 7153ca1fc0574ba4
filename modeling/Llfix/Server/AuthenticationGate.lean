import Llfix.Server.LiveConnections
import Llfix.Server.RefusedLogons

/-!
# Before the first authenticated Logon

`accept_session` looks at the first character of MsgType only, and a Logon that fails the
validation leaves its connection mapped to the session. What the connection sends next is
processed as for a session that is logged on, as there is no check of the state ahead of the
`switch` on MsgType.

Results:
1. `handleMessage_gate`: what a message does to a session that is not live.
2. `authenticationGate_iff`: nothing reaches the application and no live state is entered ahead of
   an authenticated Logon exactly when no message before it opens the gate.
3. `authenticationGate_fails`: a message of type `AB` is handed to the application.
-/

namespace Llfix

open FixSession GuardedRun

/-! ## Histories -/

/-- The entries that need an authenticated Logon before them. -/
def needsAuthentication : Output → Bool
  | .callback c _ => FixServer.isApplicationCallback c
  | .state s => isStateLive s
  | _ => false

/-- Each of these entries has an authenticated Logon before it. -/
def Gated (os : List Output) : Prop :=
  ∀ before o after, os = before ++ o :: after → needsAuthentication o = true →
    .authenticated ∈ before

theorem gated_nil : Gated [] := by
  intro before o after hos
  exact absurd hos.symm (List.append_ne_nil_of_right_ne_nil _ (List.cons_ne_nil o after))

theorem gated_append_iff {os os' : List Output} :
    Gated (os ++ os') ↔ Gated os ∧ (.authenticated ∈ os ∨ Gated os') := by
  constructor
  · intro h
    refine ⟨fun before o after hos => h before o (after ++ os') ?_, ?_⟩
    · rw [hos, List.append_assoc, List.cons_append]
    · refine or_iff_not_imp_left.mpr fun hno before o after hos hneeds => ?_
      have hmem : Output.authenticated ∈ os ++ before := by
        refine h (os ++ before) o after ?_ hneeds
        rw [hos, List.append_assoc]
      exact (List.mem_append.mp hmem).resolve_left hno
  · rintro ⟨hos, hrest⟩ before o after happend hneeds
    -- the entry stands in one of the two parts
    rcases List.append_eq_append_iff.mp happend with ⟨front, rfl, hos'⟩ | ⟨back, rfl, hback⟩
    · rcases hrest with hmem | hos''
      · exact List.mem_append_left front hmem
      · exact List.mem_append_right os (hos'' front o after hos' hneeds)
    · cases back with
      | nil =>
        rw [List.append_nil] at hos hrest
        rcases hrest with hmem | hos'
        · exact hmem
        · exact absurd (hos' [] o after hback.symm hneeds) List.not_mem_nil
      | cons o' back =>
        obtain ⟨rfl, rfl⟩ := List.cons.inj hback
        exact hos before o back rfl hneeds

theorem gated_of_plain {os : List Output} (h : ∀ o ∈ os, needsAuthentication o = false) :
    Gated os := by
  intro before o after hos hneeds
  have hplain := h o (hos ▸ List.mem_append_right before List.mem_cons_self)
  rw [hneeds] at hplain
  cases hplain

theorem gated_authenticated (os : List Output) : Gated (.authenticated :: os) := by
  rw [← List.singleton_append, gated_append_iff]
  refine ⟨gated_of_plain fun o ho => ?_, .inl List.mem_cons_self⟩
  rw [List.mem_singleton.mp ho]
  rfl

theorem not_gated_cons {o : Output} (h : needsAuthentication o = true) (os : List Output) :
    ¬ Gated (o :: os) :=
  fun hgated => List.not_mem_nil (hgated [] o os rfl h)

/-- The entries since a session that the history has gone on from. -/
theorem FixSession.since_append {s₀ s s' : FixSession} (h : s₀.trace <+: s.trace)
    {os : List Output} (hos : s'.trace = s.trace ++ os) : since s₀ s' = since s₀ s ++ os := by
  rw [since, since, hos, List.drop_append_of_le_length h.length_le]

/-! ## Updates that keep the gate closed -/

/-- The history of the session goes on with entries that need no authentication, and no live state
is entered. -/
structure Quiet (s s' : FixSession) : Prop where
  history : Extends (fun o => needsAuthentication o = false) s s'
  notLive : isStateLive s.state = false → isStateLive s'.state = false

namespace Quiet

variable {s s' s'' : FixSession}

theorem refl (s : FixSession) : Quiet s s := ⟨.refl _ s, id⟩

theorem trans (h : Quiet s s') (h' : Quiet s' s'') : Quiet s s'' :=
  ⟨h.history.trans h'.history, h'.notLive ∘ h.notLive⟩

theorem of_eq (htrace : s'.trace = s.trace) (hstate : s'.state = s.state) : Quiet s s' := by
  refine ⟨.of_trace_eq htrace, fun h => ?_⟩
  rw [hstate]
  exact h

theorem setState (s : FixSession) {st : SessionState} (h : isStateLive st = false) :
    Quiet s (s.setState st) :=
  ⟨.setState s h, fun _ => h⟩

theorem callback (s : FixSession) {c : Callback} (h : FixServer.isApplicationCallback c = false)
    (m : Option IncomingFixMessage) : Quiet s (s.record (.callback c m)) :=
  ⟨.record s h, id⟩

theorem gated (h : Quiet s s') {s₀ : FixSession} (hs₀ : s₀.trace <+: s.trace)
    (hgated : Gated (since s₀ s)) : Gated (since s₀ s') := by
  obtain ⟨os, hos, hplain⟩ := h.history
  rw [since_append hs₀ hos, gated_append_iff]
  exact ⟨hgated, .inr (gated_of_plain hplain)⟩

end Quiet

theorem FixSession.SendUpdate.quiet {s s' : FixSession} (h : SendUpdate s s') : Quiet s s' := by
  refine ⟨h.extends fun _ _ _ => rfl, fun hlive => ?_⟩
  rw [h.state]
  exact hlive

namespace FixServer

namespace Steps

variable {i : Nat} {R : FixSession → FixSession → Prop} {srv srv' : FixServer}

theorem quiet (h : Steps i R srv srv') (hR : ∀ s s', R s s' → Quiet s s') (j : Nat) :
    Quiet (srv.sessions j) (srv'.sessions j) :=
  h.relates Quiet Quiet.refl (fun _ _ _ => Quiet.trans) (fun s => .setState s rfl) hR j

/-- The other sessions are disconnected at most. -/
theorem quiet_of_ne {j : Nat} (h : Steps i R srv srv') (hj : j ≠ i) :
    Quiet (srv.sessions j) (srv'.sessions j) := by
  induction h with
  | refl => exact .refl _
  | modify f _ _ ih =>
    rw [modifySession_sessions_ne _ hj]
    exact ih
  | send _ _ _ ih => exact ih
  | disconnect p _ ih =>
    rw [onClientDisconnected_sessions]
    split
    · exact ih.trans (.setState _ rfl)
    · exact ih
  | closeInvalid _ ih => exact ih

theorem sends (h : Steps i SendUpdate srv srv') : Steps i Quiet srv srv' :=
  h.mono fun _ _ => SendUpdate.quiet

theorem callback (h : Steps i Quiet srv srv') {c : Callback} (hc : isApplicationCallback c = false)
    (m : Option IncomingFixMessage) : Steps i Quiet srv (srv'.callback i c m) :=
  h.modify _ (.callback _ hc m)

/-- The history of every session goes on. -/
theorem grows (h : Steps i Accounts srv srv') (j : Nat) :
    ∃ os, (srv'.sessions j).trace = (srv.sessions j).trace ++ os := by
  obtain ⟨os, hos, -⟩ := h.relates Accounts Accounts.refl (fun _ _ _ => Accounts.trans)
    (fun s => .setState s _) (fun _ _ h => h) j
  exact ⟨os, hos⟩

end Steps

/-! ## One message -/

/-- The case of the `switch` on MsgType hands the message to the application, or sets a live state
without a Logon, on a session whose incoming number is `stored`. -/
def opensAtSwitch (stored : UInt32) (m : IncomingFixMessage) : Bool :=
  m.getTagValue tagMsgType ∉ sessionMsgTypes ||
    m.getTagValue tagMsgType = [msgTypeResendRequest] && takesResendRequest m ||
    m.getTagValue tagMsgType = [msgTypeSequenceReset] && acceptsSequenceReset stored m

/-- The message gets to such a case. -/
def opensGate (s : FixSession) (rx : RxMessage) (env : ServerRxEnv) : Bool :=
  reachesDispatch s rx env && opensAtSwitch (s.sequenceStore.incomingSeqNo + 1) rx.message

/-- The first entry that the session records is one that needs a Logon. -/
def Opens (s s' : FixSession) : Prop :=
  ∃ o os, s'.trace = s.trace ++ o :: os ∧ needsAuthentication o = true

/-- The first entry that the session records is the authentication of a Logon. -/
def Authenticates (s s' : FixSession) : Prop := ∃ os, s'.trace = s.trace ++ .authenticated :: os

/-- What a message may do to a session that is not live. -/
def MeetsGate (opens : Bool) (i : Nat) (srv srv' : FixServer) : Prop :=
  if opens then Opens (srv.sessions i) (srv'.sessions i)
  else Authenticates (srv.sessions i) (srv'.sessions i) ∨ Steps i Quiet srv srv'

section MeetsGate

variable {srv srv' : FixServer} {i : Nat} {opens : Bool}

theorem meetsGate_opens (h : opens = true) (o : Output) (os : List Output)
    (ho : needsAuthentication o = true)
    (htrace : (srv'.sessions i).trace = (srv.sessions i).trace ++ o :: os) :
    MeetsGate opens i srv srv' := by
  rw [MeetsGate, if_pos h]
  exact ⟨o, os, htrace, ho⟩

theorem meetsGate_authenticates (h : opens = false) (os : List Output)
    (htrace : (srv'.sessions i).trace = (srv.sessions i).trace ++ .authenticated :: os) :
    MeetsGate opens i srv srv' := by
  rw [MeetsGate, h, if_neg Bool.false_ne_true]
  exact .inl ⟨os, htrace⟩

theorem meetsGate_quiet (h : opens = false) (hsteps : Steps i Quiet srv srv') :
    MeetsGate opens i srv srv' := by
  rw [MeetsGate, h, if_neg Bool.false_ne_true]
  exact .inr hsteps

/-- Updates of the session that record nothing may come first. -/
theorem MeetsGate.after_modify {f : FixSession → FixSession}
    (htrace : (f (srv.sessions i)).trace = (srv.sessions i).trace)
    (hstate : (f (srv.sessions i)).state = (srv.sessions i).state)
    (h : MeetsGate opens i (srv.modifySession i f) srv') : MeetsGate opens i srv srv' := by
  cases opens with
  | true =>
    rw [MeetsGate, if_pos rfl] at h
    obtain ⟨o, os, hos, ho⟩ := h
    rw [modifySession_sessions_self, htrace] at hos
    exact meetsGate_opens rfl o os ho hos
  | false =>
    rw [MeetsGate, if_neg Bool.false_ne_true] at h
    rcases h with ⟨os, hos⟩ | hsteps
    · rw [modifySession_sessions_self, htrace] at hos
      exact meetsGate_authenticates rfl os hos
    · exact meetsGate_quiet rfl ((Steps.one f (.of_eq htrace hstate)).trans hsteps)

end MeetsGate

section Message

variable (srv : FixServer) (i p : Nat) (env : ServerRxEnv)

/-- A type with a handler of its own opens the gate by the handler only. -/
theorem opensAtSwitch_handled {stored : UInt32} {m : IncomingFixMessage} {c : UInt8}
    (hc : [c] ∈ sessionMsgTypes) (h : m.getTagValue tagMsgType = [c])
    (hresend : c = msgTypeResendRequest → takesResendRequest m = false)
    (hreset : c = msgTypeSequenceReset → acceptsSequenceReset stored m = false) :
    opensAtSwitch stored m = false := by
  simp only [opensAtSwitch, h, Bool.or_eq_false_iff, Bool.and_eq_false_iff,
    decide_eq_false_iff_not, not_not, List.cons.injEq, and_true]
  refine ⟨⟨hc, ?_⟩, ?_⟩
  · exact (em (c = msgTypeResendRequest)).symm.imp id hresend
  · exact (em (c = msgTypeSequenceReset)).symm.imp id hreset

theorem processLogonRequest_gate (m : IncomingFixMessage) :
    MeetsGate false i srv (srv.processLogonRequest i p m env) := by
  cases hrequest : validateLogonRequest m && env.authenticated with
  | false =>
    rw [processLogonRequest_refused srv i p m env hrequest]
    exact meetsGate_quiet rfl ((Steps.refl srv).disconnect p)
  | true =>
    rw [processLogonRequest_authenticated srv i p m env hrequest]
    have hbehind : Steps i Accounts (srv.modifySession i (authenticated · m))
        ((((srv.modifySession i (authenticated · m)).sendLogonResponse i env.send).modifySession i
          loggedOn).callback i .onLogonRequest (some m)) :=
      ((sendOutgoingMessage_steps _ i _ _).accounted.modify _ (loggedOn_accounts _)).trans
        (callback_steps _ _)
    obtain ⟨os, hos⟩ := hbehind.grows i
    refine meetsGate_authenticates rfl os ?_
    rw [hos, modifySession_sessions_self, authenticated_trace, List.append_assoc]
    rfl

theorem processLogoutRequest_gate (m : IncomingFixMessage) :
    MeetsGate false i srv (srv.processLogoutRequest i m env) := by
  have hsent := (sendOutgoingMessage_steps srv i (buildLogoutMessage []) env.send).sends
  exact meetsGate_quiet rfl ((hsent.modify (·.setState .loggedOut) (.setState _ rfl)).callback rfl _)

theorem processSequenceReset_gate (m : IncomingFixMessage) :
    MeetsGate (acceptsSequenceReset (srv.sessions i).sequenceStore.incomingSeqNo m) i srv
      (srv.processSequenceReset i m env) := by
  unfold processSequenceReset
  cases haccepts : acceptsSequenceReset (srv.sessions i).sequenceStore.incomingSeqNo m with
  | true =>
    rw [processIncomingSequenceResetMessage_accepted haccepts]
    refine meetsGate_opens rfl (.state .loggedOn) [] rfl ?_
    dsimp only
    rw [if_neg (by decide), modifySession_sessions_self]
    rfl
  | false =>
    rw [processIncomingSequenceResetMessage_refused haccepts]
    have hsame : Steps i Quiet srv (srv.modifySession i fun _ => srv.sessions i) :=
      .one _ (.refl _)
    refine meetsGate_quiet rfl ?_
    dsimp only
    split
    · exact hsame.trans (sendOutgoingMessage_steps _ i _ _).sends
    · exact hsame

theorem processResendRequest_gate (m : IncomingFixMessage) :
    MeetsGate (takesResendRequest m) i srv ((srv.modifySession i
      (·.processResendRequest m)).callback i .onClientResendRequest (some m)) := by
  cases htakes : takesResendRequest m with
  | true =>
    refine meetsGate_opens rfl (.state .inRetransmissionInitiatedByPeer)
      [.callback .onClientResendRequest (some m)] rfl ?_
    rw [callback, modifySession_modifySession, modifySession_sessions_self, record_trace,
      processResendRequest_taken htakes]
    exact List.append_assoc _ _ _
  | false =>
    refine meetsGate_quiet rfl (Steps.callback (.one _ ?_) rfl _)
    rw [processResendRequest_ignored htakes]
    exact .refl _

/-- The `switch` on MsgType. -/
theorem dispatch_gate (m : IncomingFixMessage) :
    MeetsGate (opensAtSwitch (srv.sessions i).sequenceStore.incomingSeqNo m) i srv
      (srv.dispatch i p m env) := by
  rcases dispatch_cases srv i p m env with
    ⟨htype, hd⟩ | ⟨htype, hd⟩ | ⟨htype, hd⟩ | ⟨htype, hd⟩ | ⟨htype, hd⟩ | ⟨htype, hd⟩ |
      ⟨htype, cb, hcb, hd⟩
  · rw [hd, opensAtSwitch_handled (by decide) htype (fun h => by cases h) (fun h => by cases h)]
    exact processLogonRequest_gate srv i p env m
  · rw [hd, opensAtSwitch_handled (by decide) htype (fun h => by cases h) (fun h => by cases h)]
    exact processLogoutRequest_gate srv i env m
  · have hopens : opensAtSwitch (srv.sessions i).sequenceStore.incomingSeqNo m =
        acceptsSequenceReset (srv.sessions i).sequenceStore.incomingSeqNo m := by
      rw [opensAtSwitch, htype]
      rfl
    rw [hd, hopens]
    exact processSequenceReset_gate srv i env m
  · have hopens : opensAtSwitch (srv.sessions i).sequenceStore.incomingSeqNo m =
        takesResendRequest m := by
      rw [opensAtSwitch, htype]
      cases takesResendRequest m <;> rfl
    rw [hd, hopens]
    exact processResendRequest_gate srv i m
  · rw [hd, opensAtSwitch_handled (by decide) htype (fun h => by cases h) (fun h => by cases h)]
    refine meetsGate_quiet rfl (Steps.callback (.one _ ?_) rfl _)
    exact .of_eq (processTestRequestMessage_trace _ _) (processTestRequestMessage_state _ _)
  · rw [hd, opensAtSwitch_handled (by decide) htype (fun h => by cases h) (fun h => by cases h)]
    exact meetsGate_quiet rfl ((Steps.refl srv).callback rfl _)
  · have hopens : opensAtSwitch (srv.sessions i).sequenceStore.incomingSeqNo m = true := by
      simp [opensAtSwitch, htype]
    rw [hd, hopens]
    refine meetsGate_opens rfl (.callback cb (some m)) [] hcb ?_
    rw [callback, modifySession_sessions_self]
    rfl

/-- A session that is not live waits for no end of a resend request. -/
theorem resendRequestSatisfied_notLive {s : FixSession} (h : isStateLive s.state = false)
    (rx : RxMessage) : s.resendRequestSatisfied rx = false := by
  rw [resendRequestSatisfied, Bool.and_eq_false_iff, decide_eq_false_iff_not]
  refine .inl fun hstate => ?_
  rw [hstate] at h
  cases h

/-- Without such an end the part ahead of the `switch` records nothing. -/
theorem passed_quiet {s : FixSession} {rx : RxMessage} (h : s.resendRequestSatisfied rx = false)
    (b : Bool) : (s.passed rx b).trace = s.trace ∧ (s.passed rx b).state = s.state := by
  rw [passed_trace, passed_state, h]
  exact ⟨List.append_nil _, rfl⟩

theorem processInSequence_gate (rx : RxMessage)
    (hsatisfied : (srv.sessions i).resendRequestSatisfied rx = false) :
    MeetsGate (!(srv.sessions i).throttles env.throttlerReachedLimit &&
      opensAtSwitch (srv.sessions i).sequenceStore.incomingSeqNo rx.message) i srv
      (srv.processInSequence i p rx env) := by
  obtain ⟨htrace, hstate⟩ := passed_quiet hsatisfied env.throttlerReachedLimit
  have hpassed : Steps i Quiet srv (srv.modifySession i (·.passed rx env.throttlerReachedLimit)) :=
    .one _ (.of_eq htrace hstate)
  rcases processInSequence_cases srv i p rx env with
    ⟨hthrottles, ⟨_, hs⟩ | hs⟩ | ⟨hthrottles, hs⟩
  · rw [hs, hthrottles]
    exact meetsGate_quiet rfl (hpassed.trans (closeConnection_steps _ i _ _))
  · rw [hs, hthrottles]
    exact meetsGate_quiet rfl (hpassed.trans (sendOutgoingMessage_steps _ i _ _).sends)
  · have hdispatched := dispatch_gate
      (srv.modifySession i (·.passed rx env.throttlerReachedLimit)) i p env rx.message
    rw [modifySession_sessions_self, passed_sequenceStore] at hdispatched
    rw [hs, hthrottles]
    exact hdispatched.after_modify htrace hstate

/-- What a message does to a session that is not live. -/
theorem handleMessage_gate (rx : RxMessage) (hlive : isStateLive (srv.sessions i).state = false)
    (hp : ∀ j, srv.connectors.getSession p = some j → j = i) :
    MeetsGate (opensGate (srv.sessions i) rx env) i srv (srv.handleMessage i p rx env) := by
  -- the ends ahead of the throttler are those of a message that is not passed on
  have hstopped : ∀ srv', passesChecks (srv.sessions i) rx env = false → Steps i Quiet srv srv' →
      MeetsGate (opensGate (srv.sessions i) rx env) i srv srv' := by
    refine fun srv' hpass hsteps => meetsGate_quiet ?_ hsteps
    rw [opensGate, reachesDispatch, hpass, Bool.false_and, Bool.false_and]
  rcases handleMessage_cases srv i p rx env with
    ⟨code, errorTag, hv, hm⟩ | ⟨hv, hm⟩ | ⟨_, habove, hstate, hm⟩ |
      ⟨_, hbelow, sendLogout, reason, hm⟩ | ⟨hpass, hm⟩
  · rw [hm]
    refine hstopped _ (by simp [passesChecks, hv]) ?_
    exact (Steps.one _ (.of_eq rfl rfl)).trans (sendOutgoingMessage_steps _ i _ _).sends
  · rw [hm]
    exact hstopped _ (by simp [passesChecks, hv]) (.one _ (.of_eq rfl rfl))
  · rw [hm]
    exact hstopped _ (by simp [passesChecks, habove, hstate]) (.one _ (.of_eq rfl rfl))
  · rw [hm]
    refine hstopped _ (by simp [passesChecks, hbelow]) ?_
    have hset : Steps i Quiet srv (srv.modifySession i fun s =>
        (s.counted rx env.nowNanoseconds).setIncomingSeqNo s.sequenceStore.incomingSeqNo) :=
      .one _ (.of_eq rfl rfl)
    exact hset.trans
      (processConnectionClosure_steps (srv.modifySession i _) (some p) hp _ _ _).sends
  · have hpassed := processInSequence_gate (srv.modifySession i (·.counted rx env.nowNanoseconds)) i
      p env rx (by
        rw [modifySession_sessions_self, counted_resendRequestSatisfied]
        exact resendRequestSatisfied_notLive hlive rx)
    have hopens : opensGate (srv.sessions i) rx env =
        (!(srv.sessions i).throttles env.throttlerReachedLimit &&
          opensAtSwitch ((srv.sessions i).sequenceStore.incomingSeqNo + 1) rx.message) := by
      rw [opensGate, reachesDispatch, hpass, Bool.true_and]
    rw [hm, hopens]
    rw [modifySession_sessions_self] at hpassed
    exact hpassed.after_modify rfl rfl

end Message

/-! ## Reads of one connection -/

/-- Since `start` no session has handed a message to the application or become live ahead of an
authenticated Logon. -/
def GatedSince (start srv : FixServer) : Prop :=
  ∀ j, Gated (since (start.sessions j) (srv.sessions j))

/-- A Logon of the session was authenticated since `start`. -/
def AuthenticatedSince (start srv : FixServer) (i : Nat) : Prop :=
  Output.authenticated ∈ since (start.sessions i) (srv.sessions i)

/-- The message is for a session with an authenticated Logon, or does not open the gate. -/
def RxLoop.KeepsGate (start : FixServer) (p : Nat) (l : RxLoop) (e : RxMessage × ServerRxEnv) :
    Prop :=
  l.returned = false → ∀ i, (l.target p e).2 = some i →
    AuthenticatedSince start l.server i ∨
      opensGate ((l.target p e).1.sessions i) e.1 e.2 = false

/-- The session of the loop is not live unless a Logon was authenticated or the gate has been
opened. -/
structure RxLoop.Watched (start : FixServer) (p : Nat) (l : RxLoop) : Prop where
  aligned : l.Aligned p
  grown : ∀ j, (start.sessions j).trace <+: (l.server.sessions j).trace
  closed : ∀ i, l.session = some i →
    Gated (since (start.sessions i) (l.server.sessions i)) →
      AuthenticatedSince start l.server i ∨ isStateLive (l.server.sessions i).state = false

section Gate

variable {start srv srv' : FixServer} {i p : Nat}

theorem GatedSince.quiet (hgrown : ∀ j, (start.sessions j).trace <+: (srv.sessions j).trace)
    (hquiet : ∀ j, Quiet (srv.sessions j) (srv'.sessions j)) (h : GatedSince start srv) :
    GatedSince start srv' :=
  fun j => (hquiet j).gated (hgrown j) (h j)

theorem onClientDisconnected_quiet (srv : FixServer) (p j : Nat) :
    Quiet (srv.sessions j) ((srv.onClientDisconnected p).sessions j) := by
  rw [onClientDisconnected_sessions]
  split
  · exact .setState _ rfl
  · exact .refl _

/-- What a message does to the history of a session on which no Logon was authenticated yet. -/
theorem MeetsGate.gated_iff {opens : Bool} (h : MeetsGate opens i srv srv')
    (hgrown : (start.sessions i).trace <+: (srv.sessions i).trace)
    (hgated : Gated (since (start.sessions i) (srv.sessions i)))
    (hno : ¬ AuthenticatedSince start srv i) :
    Gated (since (start.sessions i) (srv'.sessions i)) ↔ opens = false := by
  cases opens with
  | true =>
    rw [MeetsGate, if_pos rfl] at h
    obtain ⟨o, os, hos, ho⟩ := h
    refine iff_of_false (fun hafter => ?_) Bool.noConfusion
    rw [since_append hgrown hos, gated_append_iff] at hafter
    exact not_gated_cons ho os (hafter.2.resolve_left hno)
  | false =>
    rw [MeetsGate, if_neg Bool.false_ne_true] at h
    refine iff_of_true ?_ rfl
    rcases h with ⟨os, hos⟩ | hsteps
    · rw [since_append hgrown hos, gated_append_iff]
      exact ⟨hgated, .inr (gated_authenticated os)⟩
    · exact (hsteps.quiet (fun _ _ h => h) i).gated hgrown hgated

/-- Where the gate stays closed, the session is not live behind the message either, unless the
message is a Logon that was authenticated. -/
theorem MeetsGate.closed (h : MeetsGate false i srv srv')
    (hgrown : (start.sessions i).trace <+: (srv.sessions i).trace)
    (hlive : isStateLive (srv.sessions i).state = false) :
    AuthenticatedSince start srv' i ∨ isStateLive (srv'.sessions i).state = false := by
  rw [MeetsGate, if_neg Bool.false_ne_true] at h
  rcases h with ⟨os, hos⟩ | hsteps
  · rw [AuthenticatedSince, since_append hgrown hos]
    exact .inl (List.mem_append_right _ List.mem_cons_self)
  · exact .inr ((hsteps.quiet (fun _ _ h => h) i).notLive hlive)

/-- An authenticated Logon stays in the history. -/
theorem AuthenticatedSince.grows (h : AuthenticatedSince start srv i)
    (hgrown : (start.sessions i).trace <+: (srv.sessions i).trace) {os : List Output}
    (hos : (srv'.sessions i).trace = (srv.sessions i).trace ++ os) :
    AuthenticatedSince start srv' i := by
  rw [AuthenticatedSince, since_append hgrown hos]
  exact List.mem_append_left _ h

/-- The server behind the look-up of the session. -/
structure Targeted (start : FixServer) (l : RxLoop) (srv : FixServer) (i : Nat) : Prop where
  quiet : ∀ j, Quiet (l.server.sessions j) (srv.sessions j)
  authenticated : AuthenticatedSince start srv i ↔ AuthenticatedSince start l.server i
  closed : Gated (since (start.sessions i) (l.server.sessions i)) →
    AuthenticatedSince start l.server i ∨ isStateLive (srv.sessions i).state = false

theorem RxLoop.Watched.targeted {l : RxLoop} (h : l.Watched start p)
    {e : RxMessage × ServerRxEnv} (htarget : l.target p e = (srv, some i)) :
    Targeted start l srv i := by
  rcases target_some htarget with ⟨hsession, rfl⟩ | ⟨hsession, _, rfl⟩
  · exact ⟨fun j => .refl _, Iff.rfl, h.closed i hsession⟩
  · have haccepted := acceptedSession_trace e.1.message (l.server.sessions i)
    refine ⟨fun j => ?_, ?_, fun _ => .inr ?_⟩
    · by_cases hj : j = i
      · rw [hj, modifySession_sessions_self]
        exact ⟨⟨_, haccepted, fun o ho => by rw [List.mem_singleton.mp ho]; rfl⟩, fun _ => rfl⟩
      · rw [modifySession_sessions_ne _ hj]
        exact .refl _
    · rw [AuthenticatedSince, modifySession_sessions_self, since_append (h.grown i) haccepted,
        List.mem_append]
      refine or_iff_left fun hmem => ?_
      cases List.mem_singleton.mp hmem
    · rw [modifySession_sessions_self]
      rfl

end Gate

section Loop

variable {start : FixServer} {p : Nat} {l : RxLoop}

/-- The history of every session goes on. -/
theorem rxStep_grows (haligned : l.Aligned p) (e : RxMessage × ServerRxEnv) (j : Nat) :
    ∃ os, ((rxStep p l e).server.sessions j).trace = (l.server.sessions j).trace ++ os := by
  cases hreturned : l.returned with
  | true =>
    rw [rxStep, if_pos hreturned]
    exact ⟨[], (List.append_nil _).symm⟩
  | false =>
    rcases htarget : l.target p e with ⟨srv, _ | i⟩
    · obtain ⟨-, -, rfl⟩ := target_none htarget
      rw [rxStep_none hreturned htarget]
      obtain ⟨os, hos, -⟩ := (onClientDisconnected_quiet l.server p j).history
      exact ⟨os, hos⟩
    · obtain ⟨os, hos⟩ := (handleMessage_steps (target_serves haligned htarget) e.1 e.2).grows j
      rw [rxStep_some hreturned htarget, hos]
      rcases target_some htarget with ⟨-, rfl⟩ | ⟨-, -, rfl⟩
      · exact ⟨os, rfl⟩
      · by_cases hj : j = i
        · rw [hj, modifySession_sessions_self, acceptedSession_trace, List.append_assoc]
          exact ⟨_, rfl⟩
        · rw [modifySession_sessions_ne _ hj]
          exact ⟨os, rfl⟩

theorem RxLoop.Watched.gated_before (h : l.Watched start p) (e : RxMessage × ServerRxEnv) {j : Nat}
    (hafter : Gated (since (start.sessions j) ((rxStep p l e).server.sessions j))) :
    Gated (since (start.sessions j) (l.server.sessions j)) := by
  obtain ⟨os, hos⟩ := rxStep_grows h.aligned e j
  rw [since_append (h.grown j) hos, gated_append_iff] at hafter
  exact hafter.1

/-- A message keeps the gate closed exactly as `KeepsGate` says. -/
theorem rxStep_gatedSince_iff (h : l.Watched start p) (hgated : GatedSince start l.server)
    (e : RxMessage × ServerRxEnv) :
    GatedSince start (rxStep p l e).server ↔ l.KeepsGate start p e := by
  cases hreturned : l.returned with
  | true =>
    rw [rxStep, if_pos hreturned]
    refine iff_of_true hgated fun hgoes => ?_
    rw [hreturned] at hgoes
    cases hgoes
  | false =>
    rcases htarget : l.target p e with ⟨srv, _ | i⟩
    · obtain ⟨-, -, rfl⟩ := target_none htarget
      rw [rxStep_none hreturned htarget]
      refine iff_of_true (hgated.quiet h.grown (onClientDisconnected_quiet l.server p)) ?_
      intro _ i hi
      rw [htarget] at hi
      cases hi
    · have ht := h.targeted htarget
      have hgrown : ∀ j, (start.sessions j).trace <+: (srv.sessions j).trace := fun j => by
        obtain ⟨os, hos, -⟩ := (ht.quiet j).history
        exact (h.grown j).trans ⟨os, hos.symm⟩
      have hsteps := handleMessage_steps (target_serves h.aligned htarget) e.1 e.2
      have hguard : l.KeepsGate start p e ↔
          (AuthenticatedSince start l.server i ∨ opensGate (srv.sessions i) e.1 e.2 = false) := by
        constructor
        · intro hkeeps
          have hi := hkeeps hreturned i
          rw [htarget] at hi
          exact hi rfl
        · intro hi _ j hj
          rw [htarget] at hj ⊢
          obtain rfl := Option.some.inj hj
          exact hi
      -- Only session `i` gets entries in its history, so the gate of the others stays as it was.
      have hothers : GatedSince start (srv.handleMessage i p e.1 e.2) ↔
          Gated (since (start.sessions i) ((srv.handleMessage i p e.1 e.2).sessions i)) := by
        refine ⟨fun hall => hall i, fun hi j => ?_⟩
        by_cases hj : j = i
        · rw [hj]
          exact hi
        · exact (hsteps.quiet_of_ne hj).gated (hgrown j) ((ht.quiet j).gated (h.grown j) (hgated j))
      rw [rxStep_some hreturned htarget, hguard, hothers]
      by_cases hauthenticated : AuthenticatedSince start l.server i
      · obtain ⟨os, hos⟩ := hsteps.grows i
        refine iff_of_true ?_ (.inl hauthenticated)
        rw [since_append (hgrown i) hos, gated_append_iff]
        exact ⟨(ht.quiet i).gated (h.grown i) (hgated i), .inl (ht.authenticated.mpr hauthenticated)⟩
      · rw [or_iff_right hauthenticated]
        have hlive := (ht.closed (hgated i)).resolve_left hauthenticated
        exact (handleMessage_gate srv i p e.2 e.1 hlive (target_serves h.aligned htarget)).gated_iff
          (hgrown i) ((ht.quiet i).gated (h.grown i) (hgated i))
          (mt ht.authenticated.mp hauthenticated)

theorem rxStep_watched (h : l.Watched start p) (e : RxMessage × ServerRxEnv) :
    (rxStep p l e).Watched start p := by
  refine ⟨rxStep_aligned h.aligned e, fun j => ?_, fun i hi hafter => ?_⟩
  · obtain ⟨os, hos⟩ := rxStep_grows h.aligned e j
    exact (h.grown j).trans ⟨os, hos.symm⟩
  · have hbefore := h.gated_before e hafter
    cases hreturned : l.returned with
    | true =>
      rw [rxStep, if_pos hreturned] at hi ⊢
      exact h.closed i hi hbefore
    | false =>
      rcases htarget : l.target p e with ⟨srv, _ | i'⟩
      · simp [rxStep, hreturned, htarget] at hi
      · obtain rfl : i' = i := by
          simpa [rxStep, hreturned, htarget] using hi
        have ht := h.targeted htarget
        obtain ⟨os, hos, -⟩ := (ht.quiet i').history
        have hgrown : (start.sessions i').trace <+: (srv.sessions i').trace :=
          (h.grown i').trans ⟨os, hos.symm⟩
        rw [rxStep_some hreturned htarget] at hafter ⊢
        rcases ht.closed hbefore with hauthenticated | hlive
        · obtain ⟨os', hos'⟩ :=
            (handleMessage_steps (target_serves h.aligned htarget) e.1 e.2).grows i'
          exact .inl ((ht.authenticated.mpr hauthenticated).grows hgrown hos')
        · by_cases hauthenticated : AuthenticatedSince start srv i'
          · obtain ⟨os', hos'⟩ :=
              (handleMessage_steps (target_serves h.aligned htarget) e.1 e.2).grows i'
            exact .inl (hauthenticated.grows hgrown hos')
          · have hmeets := handleMessage_gate srv i' p e.2 e.1 hlive
              (target_serves h.aligned htarget)
            have hopens := (hmeets.gated_iff hgrown ((ht.quiet i').gated (h.grown i') hbefore)
              hauthenticated).mp hafter
            rw [hopens] at hmeets
            exact hmeets.closed hgrown hlive

end Loop

section Reads

variable {start : FixServer} {p : Nat}

/-- A read of connection `p`, as the reactor does it while the connection is open. -/
def readConnection (p : Nat) (srv : FixServer) (messages : List (RxMessage × ServerRxEnv)) :
    FixServer :=
  srv.step (.receive p messages)

/-- No message of the read opens the gate. -/
def ReadKeepsGate (start : FixServer) (p : Nat) (srv : FixServer)
    (messages : List (RxMessage × ServerRxEnv)) : Prop :=
  srv.connected p = true →
    Guarded (rxStep p) (RxLoop.KeepsGate start p)
      { server := srv, session := srv.connectors.getSession p } messages

/-- Between two reads the session of the connection is what it is between two messages. -/
def Watched (start : FixServer) (p : Nat) (srv : FixServer) : Prop :=
  RxLoop.Watched start p { server := srv, session := srv.connectors.getSession p }

theorem RxLoop.Watched.onClientDisconnected {l : RxLoop} (h : l.Watched start p) :
    FixServer.Watched start p (l.server.onClientDisconnected p) := by
  refine ⟨processRxBuffer_aligned _ p, fun j => ?_, fun i hi => ?_⟩
  · obtain ⟨os, hos, -⟩ := (onClientDisconnected_quiet l.server p j).history
    exact (h.grown j).trans ⟨os, hos.symm⟩
  · rw [onClientDisconnected_getSession_self] at hi
    cases hi

theorem RxLoop.Watched.between {l : RxLoop} (h : l.Watched start p) :
    FixServer.Watched start p l.server :=
  ⟨processRxBuffer_aligned _ p, h.grown, fun i hi => h.closed i (h.aligned i hi)⟩

theorem readConnection_watched {srv : FixServer} (h : Watched start p srv)
    (messages : List (RxMessage × ServerRxEnv)) :
    Watched start p (readConnection p srv messages) := by
  rw [readConnection, step]
  split
  · have hend := run_invariant (I := RxLoop.Watched start p)
      (fun _ e hl => rxStep_watched hl e) messages h
    unfold FixServer.onDataReady
    dsimp only
    split
    · exact hend.between
    · exact hend.onClientDisconnected
  · exact h

/-- The disconnection behind a read neither opens nor closes the gate. -/
theorem gatedSince_onClientDisconnected_iff {srv : FixServer}
    (hgrown : ∀ j, (start.sessions j).trace <+: (srv.sessions j).trace) :
    GatedSince start (srv.onClientDisconnected p) ↔ GatedSince start srv := by
  refine ⟨fun h j => ?_, fun h => h.quiet hgrown (onClientDisconnected_quiet srv p)⟩
  obtain ⟨os, hos, -⟩ := (onClientDisconnected_quiet srv p j).history
  have hj := h j
  rw [since_append (hgrown j) hos, gated_append_iff] at hj
  exact hj.1

theorem readConnection_gatedSince {srv : FixServer} (h : Watched start p srv)
    (messages : List (RxMessage × ServerRxEnv)) :
    GatedSince start (readConnection p srv messages) ↔
      if srv.connected p then GatedSince start (run (rxStep p)
        { server := srv, session := srv.connectors.getSession p } messages).server
      else GatedSince start srv := by
  rw [readConnection, step]
  split
  · have hend := run_invariant (I := RxLoop.Watched start p)
      (fun _ e hl => rxStep_watched hl e) messages h
    unfold FixServer.onDataReady
    dsimp only
    split
    · exact Iff.rfl
    · exact gatedSince_onClientDisconnected_iff hend.grown
  · exact Iff.rfl

theorem loop_gatedSince_back {l : RxLoop} (h : l.Watched start p) (e : RxMessage × ServerRxEnv)
    (hafter : GatedSince start (rxStep p l e).server) : GatedSince start l.server :=
  fun j => h.gated_before e (hafter j)

/-- A read keeps the gate closed exactly when each of its messages does. -/
theorem readConnection_gatedSince_iff {srv : FixServer} (h : Watched start p srv)
    (hgated : GatedSince start srv) (messages : List (RxMessage × ServerRxEnv)) :
    GatedSince start (readConnection p srv messages) ↔ ReadKeepsGate start p srv messages := by
  rw [readConnection_gatedSince h messages, ReadKeepsGate]
  split
  · next hconnected =>
    rw [imp_iff_right hconnected]
    exact holds_run_iff (RxLoop.Watched start p) (P := fun l => GatedSince start l.server)
      (fun _ e hl => rxStep_watched hl e) (fun _ e hl => loop_gatedSince_back hl e)
      (fun _ e hl hg => rxStep_gatedSince_iff hl hg e) messages h hgated
  · next hconnected => exact iff_of_true hgated fun hyes => absurd hyes hconnected

theorem readConnection_gatedSince_back {srv : FixServer} (h : Watched start p srv)
    (messages : List (RxMessage × ServerRxEnv))
    (hafter : GatedSince start (readConnection p srv messages)) : GatedSince start srv := by
  rw [readConnection_gatedSince h messages] at hafter
  split at hafter
  · -- the loop goes back to its start message by message
    induction messages using List.reverseRecOn with
    | nil => exact hafter
    | append_singleton messages e ih =>
      rw [run_append] at hafter
      have hend := run_invariant (I := RxLoop.Watched start p)
        (fun _ e hl => rxStep_watched hl e) messages h
      exact ih (loop_gatedSince_back hend e hafter)
  · exact hafter

end Reads

/-- On a connection without a session, nothing of what is received reaches the application and no
session becomes live ahead of an authenticated Logon exactly when no message for a session without
one opens the gate. -/
theorem authenticationGate_iff {srv : FixServer} {p : Nat}
    (hnew : srv.connectors.getSession p = none)
    (reads : List (List (RxMessage × ServerRxEnv))) :
    GatedSince srv (run (readConnection p) srv reads) ↔
      Guarded (readConnection p) (ReadKeepsGate srv p) srv reads := by
  have hwatched : Watched srv p srv := by
    refine ⟨processRxBuffer_aligned srv p, fun j => List.prefix_refl _, fun i hi => ?_⟩
    rw [hnew] at hi
    cases hi
  have hgated : GatedSince srv srv := fun j => by
    rw [since, List.drop_length]
    exact gated_nil
  exact holds_run_iff (Watched srv p) (P := GatedSince srv)
    (fun _ messages h => readConnection_watched h messages)
    (fun _ messages h => readConnection_gatedSince_back h messages)
    (fun _ messages h hg => readConnection_gatedSince_iff h hg messages) reads hwatched hgated

/-- What the peer of the example server sends, with the number that is expected. -/
def receivedMessage (length msgType : String) (fields : List (Tag × Bytes)) (checksum : String) :
    RxMessage :=
  let tags : List (Tag × Bytes) :=
    [(tagBeginString, text "FIX.4.4"), (tagBodyLength, text length), (tagMsgType, text msgType),
      (tagMsgSeqNum, text "8"), (tagSenderCompId, text "PEER"), (tagTargetCompId, text "LLFIX"),
      (tagSendingTime, text "20260101-00:00:00")] ++ fields ++ [(tagChecksum, text checksum)]
  { message := { tags := tags }, buffer := tags.flatMap encodeField, parserRejectCode := none }

/-- A Logon whose checksum is wrong. -/
def spoiledLogon : RxMessage × ServerRxEnv :=
  (receivedMessage "60" "A" [(tagEncryptMethod, text "0"), (tagHeartBtInt, text "30")] "203", {})

/-- A Heartbeat behind such a Logon keeps the gate closed. -/
theorem authenticationGate_heartbeat :
    exampleServer.connectors.getSession 0 = none ∧
      GatedSince exampleServer (run (readConnection 0) exampleServer
        [[spoiledLogon, (peerMessage exampleSettings msgTypeHeartbeat 8 [], {})]]) := by
  have hnew : exampleServer.connectors.getSession 0 = none := rfl
  refine ⟨hnew, (authenticationGate_iff hnew _).mpr ⟨fun _ => ⟨fun _ i hi => .inr ?_,
    fun _ i hi => .inr ?_, trivial⟩, trivial⟩⟩
  · have hzero : some 0 = some i := Eq.trans (by decide +kernel) hi
    obtain rfl := Option.some.inj hzero
    decide +kernel
  · have hzero : some 0 = some i := Eq.trans (by decide +kernel) hi
    obtain rfl := Option.some.inj hzero
    decide +kernel

/-- A message of the type `AB`, which starts like a Logon. -/
def mistakenLogon : RxMessage × ServerRxEnv := (receivedMessage "49" "AB" [] "252", {})

/-- An order that follows the Logon. -/
def earlyOrder : RxMessage × ServerRxEnv := (peerMessage exampleSettings msgTypeNewOrder 8 [], {})

/-- A message of the type `AB` is handed to the application, and so is an order behind a Logon that
the validation dropped. -/
theorem authenticationGate_fails :
    exampleServer.connectors.getSession 0 = none ∧
      (exampleServer.sessions 0).settings.validationsEnabled = true ∧
      ¬ GatedSince exampleServer (run (readConnection 0) exampleServer [[mistakenLogon]]) ∧
      ¬ GatedSince exampleServer (run (readConnection 0) exampleServer
        [[spoiledLogon], [earlyOrder]]) := by
  have hno : ∀ c m, isApplicationCallback c = true →
      ¬ Gated [.state .pendingLogon, .callback c m] := by
    intro c m hc h
    have hmem := h [.state .pendingLogon] (.callback c m) [] rfl hc
    cases List.mem_singleton.mp hmem
  refine ⟨rfl, rfl, fun h => ?_, fun h => ?_⟩
  · have hsince : since (exampleServer.sessions 0)
        ((run (readConnection 0) exampleServer [[mistakenLogon]]).sessions 0) =
        [.state .pendingLogon, .callback .onCustomMessage (some mistakenLogon.1.message)] := by
      decide +kernel
    exact hno _ _ rfl (hsince ▸ h 0)
  · have hsince : since (exampleServer.sessions 0)
        ((run (readConnection 0) exampleServer [[spoiledLogon], [earlyOrder]]).sessions 0) =
        [.state .pendingLogon, .callback .onNewOrder (some earlyOrder.1.message)] := by
      decide +kernel
    exact hno _ _ rfl (hsince ▸ h 0)

end FixServer

end Llfix
