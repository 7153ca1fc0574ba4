import Llfix.Client.Retransmission
import Llfix.ConnectionWatch
import Llfix.Server.LiveConnections

/-!
# Live clients and their connections

The client enters a live state in six places: the Logon response, an accepted SequenceReset, a
ResendRequest, the end of a retransmission, and behind the sends of a ResendRequest and of the
answer to one. None of them looks at the connection.

Results:
1. `handleMessage_links`: a message keeps live states on connections that are logged on exactly
   when it meets `KeepsLogon`.
2. `doShutdown_links`, `processLive_links`: the same of a shutdown and of the live steps.
3. `liveLoggedOn_iff`: of a whole run.
-/

namespace Llfix

open FixSession GuardedRun

namespace FixClient

/-- How far the connection of the client has come. -/
def link (c : FixClient) : Link := (watch c.session.trace).link

/-- The history is sound so far and agrees with the state; the socket of a connection that is up is
open. -/
structure InLine (c : FixClient) : Prop where
  sound : LiveLoggedOn c.session.trace
  live : (watch c.session.trace).live = isStateLive c.session.state
  socket : c.link ≠ .down → c.socketOpen = true

/-- A live client is logged on. -/
theorem InLine.loggedOn {c : FixClient} (h : c.InLine)
    (hlive : isStateLive c.session.state = true) : c.link = .loggedOn :=
  h.sound _ (List.prefix_refl _) (h.live.trans hlive)

theorem InLine.notLive {c : FixClient} (h : c.InLine) (hdown : c.link = .down) :
    isStateLive c.session.state = false := by
  cases hlive : isStateLive c.session.state with
  | false => rfl
  | true =>
    have hlogged := h.loggedOn hlive
    rw [hdown] at hlogged
    cases hlogged

/-! ## Steps -/

/-- A step that leaves the client in line if the condition holds, and an unsound history if it does
not. It does not bring up a connection. -/
structure Links (P : Prop) (c c' : FixClient) : Prop where
  grows : c.session.trace <+: c'.session.trace
  down : c.link = .down → c'.link = .down
  settles : c.InLine → P ∧ c'.InLine ∨ ¬ P ∧ ¬ LiveLoggedOn c'.session.trace

namespace Links

variable {P Q : Prop} {c c' c'' : FixClient}

theorem congr (h : Links P c c') (hiff : c.InLine → (P ↔ Q)) : Links Q c c' where
  grows := h.grows
  down := h.down
  settles hc := by
    rw [← hiff hc]
    exact h.settles hc

theorem trans (h : Links P c c') (h' : Links Q c' c'') : Links (P ∧ Q) c c'' where
  grows := h.grows.trans h'.grows
  down hdown := h'.down (h.down hdown)
  settles hc := by
    rcases h.settles hc with ⟨hP, hc'⟩ | ⟨hP, hunsound⟩
    · rcases h'.settles hc' with ⟨hQ, hc''⟩ | ⟨hQ, hunsound⟩
      · exact .inl ⟨⟨hP, hQ⟩, hc''⟩
      · exact .inr ⟨fun hboth => hQ hboth.2, hunsound⟩
    · exact .inr ⟨fun hboth => hP hboth.1, fun hsound => hunsound (hsound.initial h'.grows)⟩

/-- A second step whose condition holds when the first one leaves the client in line. -/
theorem follow (h : Links P c c') (h' : Links Q c' c'') (hQ : c'.InLine → Q) : Links P c c'' where
  grows := h.grows.trans h'.grows
  down hdown := h'.down (h.down hdown)
  settles hc := by
    rcases h.settles hc with ⟨hP, hc'⟩ | ⟨hP, hunsound⟩
    · rcases h'.settles hc' with ⟨-, hc''⟩ | ⟨hnot, -⟩
      · exact .inl ⟨hP, hc''⟩
      · exact absurd (hQ hc') hnot
    · exact .inr ⟨hP, fun hsound => hunsound (hsound.initial h'.grows)⟩

theorem always (h : Links P c c') (hP : c.InLine → P) : Links True c c' :=
  h.congr fun hc => iff_of_true (hP hc) trivial

theorem then_always (h : Links P c c') (h' : Links True c' c'') : Links P c c'' :=
  h.follow h' fun _ => trivial

theorem silent (htrace : c'.session.trace = c.session.trace)
    (hstate : c'.session.state = c.session.state) (hsocket : c'.socketOpen = c.socketOpen) :
    Links True c c' where
  grows := htrace ▸ List.prefix_rfl
  down hdown := by rwa [link, htrace]
  settles hc := by
    refine .inl ⟨trivial, ?_, ?_, ?_⟩
    · rw [htrace]
      exact hc.sound
    · rw [htrace, hstate]
      exact hc.live
    · rw [link, htrace, hsocket]
      exact hc.socket

theorem refl (c : FixClient) : Links True c c := silent rfl rfl rfl

/-- One entry of the history. -/
theorem entry {o : Output} (htrace : c'.session.trace = c.session.trace ++ [o])
    (hdown : Link.after .down o = .down)
    (hlive : c.InLine → ((watch c.session.trace).after o).live = isStateLive c'.session.state)
    (hsocket : c.InLine → c.link.after o ≠ .down → c'.socketOpen = true) :
    Links ((watch c.session.trace).after o).Sound c c' where
  grows := htrace ▸ List.prefix_append _ _
  down h := by
    rw [link, htrace, watch_snoc]
    show c.link.after o = .down
    rw [h, hdown]
  settles hc := by
    by_cases hsound : ((watch c.session.trace).after o).Sound
    · refine .inl ⟨hsound, ?_, ?_, ?_⟩
      · rw [htrace]
        exact liveLoggedOn_snoc.mpr ⟨hc.sound, hsound⟩
      · rw [htrace, watch_snoc]
        exact hlive hc
      · rw [link, htrace, watch_snoc]
        exact hsocket hc
    · refine .inr ⟨hsound, fun h => hsound ?_⟩
      rw [htrace] at h
      exact (liveLoggedOn_snoc.mp h).2

/-- `set_state`, among other updates of the session. -/
theorem enters {st : SessionState} (htrace : c'.session.trace = c.session.trace ++ [.state st])
    (hstate : c'.session.state = st) (hsocket : c'.socketOpen = c.socketOpen) :
    Links (isStateLive st = true → c.link = .loggedOn) c c' := by
  have hlink : ∀ link : Link, link.after (.state st) = link := fun link => by cases link <;> rfl
  refine (entry htrace rfl (fun _ => ?_) fun hc hup => ?_).congr fun _ => ?_
  · rw [hstate]
    rfl
  · rw [hlink] at hup
    rw [hsocket]
    exact hc.socket hup
  · show (isStateLive st = true → c.link.after (.state st) = .loggedOn) ↔ _
    rw [hlink]

/-- A state that is not live is entered at any time. -/
theorem leaves {st : SessionState} (htrace : c'.session.trace = c.session.trace ++ [.state st])
    (hstate : c'.session.state = st) (hsocket : c'.socketOpen = c.socketOpen)
    (hst : isStateLive st = false) : Links True c c' :=
  (enters htrace hstate hsocket).always fun _ hlive => by
    rw [hst] at hlive
    cases hlive

/-- A live state is entered on a connection that is logged on. -/
theorem goesLive {st : SessionState} (htrace : c'.session.trace = c.session.trace ++ [.state st])
    (hstate : c'.session.state = st) (hsocket : c'.socketOpen = c.socketOpen)
    (hst : isStateLive st = true) : Links (c.link = .loggedOn) c c' :=
  (enters htrace hstate hsocket).congr fun _ => ⟨fun h => h hst, fun h _ => h⟩

/-- An entry that says nothing of the state. -/
theorem noted {o : Output} (htrace : c'.session.trace = c.session.trace ++ [o])
    (ho : ∀ st, o ≠ .state st) (hstate : c'.session.state = c.session.state)
    (hup : ∀ link : Link, link = .down → link.after o = .down)
    (hsocket : c.link.after o ≠ .down → c'.socketOpen = c.socketOpen) :
    Links (isStateLive c.session.state = true → c.link.after o = .loggedOn) c c' := by
  have hsame : ((watch c.session.trace).after o).live = (watch c.session.trace).live := by
    unfold Watch.after
    cases o with
    | state st => exact absurd rfl (ho st)
    | _ => rfl
  refine (entry htrace (hup _ rfl) (fun hc => ?_) fun hc hafter => ?_).congr fun hc => ?_
  · rw [hsame, hstate]
    exact hc.live
  · rw [hsocket hafter]
    exact hc.socket fun hdown => hafter (hup _ hdown)
  · rw [Watch.Sound, hsame, hc.live]
    rfl

end Links

section Steps

variable (c : FixClient)

/-- An entry that is not about the connection. -/
theorem record_links {o : Output} (ho : ∀ st, o ≠ .state st)
    (hlink : ∀ link : Link, link.after o = link) :
    Links True c (c.modifySession (·.record o)) := by
  have hnoted : Links (isStateLive c.session.state = true → c.link.after o = .loggedOn) c
      (c.modifySession (·.record o)) :=
    .noted rfl ho rfl (fun link h => by rw [hlink, h]) fun _ => rfl
  refine hnoted.always fun hc hlive => ?_
  rw [hlink]
  exact hc.loggedOn hlive

theorem callback_links (cb : Callback) (m : Option IncomingFixMessage) :
    Links True c (c.callback cb m) :=
  c.record_links (fun _ => Output.noConfusion) fun link => by cases link <;> rfl

theorem sent_links (t : Transmission) (n : UInt32) (ok : Bool) :
    Links True c (c.modifySession (·.record (.sent t n ok))) :=
  c.record_links (fun _ => Output.noConfusion) fun link => by cases link <;> rfl

/-- The end of a connection is for a client that is not live. -/
theorem down_links {o : Output} {c' : FixClient}
    (htrace : c'.session.trace = c.session.trace ++ [o]) (ho : ∀ st, o ≠ .state st)
    (hstate : c'.session.state = c.session.state) (hdown : ∀ link : Link, link.after o = .down) :
    Links (isStateLive c.session.state = false) c c' := by
  refine (Links.noted htrace ho hstate (fun link _ => hdown link) fun hup => ?_).congr fun _ => ?_
  · exact absurd (hdown _) hup
  · rw [hdown]
    exact ⟨fun h => eq_false_of_ne_true fun hlive => Link.noConfusion (h hlive),
      fun h hlive => Bool.noConfusion (h.symm.trans hlive)⟩

theorem onConnectionLost_links : Links True c c.onConnectionLost := by
  have hleft : Links True c (c.modifySession (·.setState .disconnected)) :=
    .leaves rfl rfl rfl rfl
  have hlost : Links (isStateLive (c.session.setState .disconnected).state = false)
      (c.modifySession (·.setState .disconnected))
      (c.modifySession fun s => (s.setState .disconnected).record .connectionLost) :=
    down_links (c.modifySession (·.setState .disconnected)) (o := .connectionLost) rfl
      (fun _ => Output.noConfusion) rfl fun link => by cases link <;> rfl
  exact (hleft.follow hlost fun _ => rfl).then_always (callback_links _ _ _)

theorem onConnectionLost_link : c.onConnectionLost.link = .down := by
  rw [link, onConnectionLost_session, record_trace, record_trace, watch_snoc, watch_snoc]
  cases (watch (c.session.setState .disconnected).trace).link <;> rfl

theorem close_links : Links (isStateLive c.session.state = false) c c.close :=
  c.down_links rfl (fun _ => Output.noConfusion) rfl fun link => by cases link <;> rfl

/-- The end of every shutdown. -/
theorem closed_links :
    Links (isStateLive c.session.state = false) c
      (c.close.modifySession (·.setState .disconnected)) :=
  c.close_links.then_always (.leaves rfl rfl rfl rfl)

theorem doShutdownNow_links : Links True c c.doShutdownNow :=
  c.onConnectionLost_links.follow (closed_links _) fun _ => rfl

theorem sendBytes_links (t : Transmission) (o : SendOutcome) : Links True c (c.sendBytes t o) := by
  have hnoted : ∀ (c : FixClient) ok, Links True c
      (c.modifySession (·.afterSend t.incrementOutgoingSeqNo ok o.timestamp)) := fun c ok =>
    .silent (afterSend_trace _ _ _ _) (afterSend_state _ _ _ _) rfl
  cases hopen : c.socketOpen with
  | false =>
    rw [sendBytes_closed c t hopen]
    exact hnoted c false
  | true =>
    by_cases ho : o.result = .connectionLost
    · rw [sendBytes_lost c t hopen ho]
      exact ((c.sent_links t _ false).then_always (onConnectionLost_links _)).then_always
        (hnoted _ false)
    · rw [sendBytes_held c t hopen ho]
      exact (c.sent_links t _ (o.result = .ok)).then_always (hnoted _ (o.result = .ok))

theorem sendOutgoingMessage_links (m : OutgoingFixMessage) (o : SendOutcome) :
    Links True c (c.sendOutgoingMessage m o) :=
  c.sendBytes_links _ o

/-- A send ends the connection when it loses it. -/
theorem sendBytes_link (t : Transmission) (o : SendOutcome) :
    (c.sendBytes t o).link =
      if c.socketOpen && o.result = .connectionLost then .down else c.link := by
  have hsent : ∀ ok, (watch (c.session.record
      (.sent t c.session.sequenceStore.incomingSeqNo ok)).trace).link = c.link := by
    intro ok
    rw [record_trace, watch_snoc]
    show c.link.after (.sent t c.session.sequenceStore.incomingSeqNo ok) = c.link
    cases c.link <;> rfl
  cases hopen : c.socketOpen with
  | false =>
    rw [sendBytes_closed c t hopen, link, modifySession_session, afterSend_trace]
    rfl
  | true =>
    by_cases ho : o.result = .connectionLost
    · rw [sendBytes_lost c t hopen ho, link, modifySession_session, afterSend_trace]
      simp only [ho, decide_true, Bool.and_self, if_true]
      exact onConnectionLost_link _
    · rw [sendBytes_held c t hopen ho, link, modifySession_session, afterSend_trace]
      simp only [ho, decide_false, Bool.and_false, Bool.false_eq_true, if_false]
      exact hsent _

end Steps

/-! ## One message -/

/-- The condition on a message: one that sets a live state is handled on a connection that is
logged on, and a Logon response on one that has not been lost. -/
structure KeepsLogon (c : FixClient) (e : RxMessage × ClientRxEnv) : Prop where
  logon : (passesChecks c.session e.1 e.2 && e.1.msgType = [msgTypeLogon]) = true → c.link ≠ .down
  others : (passesChecks c.session e.1 e.2 && FixServer.setsLiveState c.session e.1) = true →
    c.link = .loggedOn

section Message

variable (c : FixClient) (rx : RxMessage) (env : ClientRxEnv)

/-- A Logon response logs on a connection that is up. -/
theorem processLogonResponse_links (m : IncomingFixMessage) :
    Links (c.link ≠ .down) c (c.processLogonResponse m) := by
  have hresponse : Links (isStateLive c.session.state = true →
      c.link.after .logonResponse = .loggedOn) c (c.modifySession (·.record .logonResponse)) :=
    .noted rfl (fun _ => Output.noConfusion) rfl (fun link h => by rw [h]; rfl) fun _ => rfl
  have hrecorded : Links True c (c.modifySession (·.record .logonResponse)) :=
    hresponse.always fun hc hlive => by rw [hc.loggedOn hlive]; rfl
  have hlive : Links ((c.modifySession (·.record .logonResponse)).link = .loggedOn)
      (c.modifySession (·.record .logonResponse))
      (c.modifySession fun s => (s.record .logonResponse).setState .loggedOn) :=
    .goesLive rfl rfl rfl rfl
  refine ((hrecorded.trans hlive).then_always (callback_links _ _ _)).congr fun _ => ?_
  have hafter : (c.modifySession (·.record .logonResponse)).link = c.link.after .logonResponse := by
    rw [link, modifySession_session, record_trace, watch_snoc]
    rfl
  rw [hafter, true_and]
  cases c.link with
  | down => exact iff_of_false Link.noConfusion fun h => h rfl
  | established => exact iff_of_true rfl Link.noConfusion
  | loggedOn => exact iff_of_true rfl Link.noConfusion

theorem processLogonReject_links (m : IncomingFixMessage) :
    Links True c (c.processLogonReject m) := by
  have hleft : Links True c (c.modifySession (·.setState .logonRejected)) :=
    .leaves rfl rfl rfl rfl
  exact hleft.then_always (callback_links _ _ _)

theorem processLogoutResponse_links (m : IncomingFixMessage) :
    Links True c (c.processLogoutResponse m) := by
  unfold processLogoutResponse
  split
  · exact c.processLogonReject_links m
  · have hleft : Links True c
        (c.modifySession fun s => (s.setReceivedLogoutResponse true).setState .loggedOut) :=
      .leaves rfl rfl rfl rfl
    exact hleft.then_always (callback_links _ _ _)

theorem processSequenceReset_links (m : IncomingFixMessage) :
    Links (acceptsSequenceReset c.session.sequenceStore.incomingSeqNo m = true →
      c.link = .loggedOn) c (c.processSequenceReset m env) := by
  unfold processSequenceReset
  cases h : acceptsSequenceReset c.session.sequenceStore.incomingSeqNo m with
  | true =>
    rw [processIncomingSequenceResetMessage_accepted h]
    refine Links.congr (.goesLive rfl rfl rfl rfl) fun _ => ?_
    exact ⟨fun hlink _ => hlink, fun hlink => hlink rfl⟩
  | false =>
    rw [processIncomingSequenceResetMessage_refused h]
    refine Links.congr (P := True) ?_ fun _ => iff_of_true trivial fun h => Bool.noConfusion h
    dsimp only
    split
    · exact sendBytes_links _ _ _
    · exact .refl c

theorem processResendRequest_links (m : IncomingFixMessage) :
    Links (takesResendRequest m = true → c.link = .loggedOn) c
      (c.modifySession (·.processResendRequest m)) := by
  cases h : takesResendRequest m with
  | true =>
    have hentered : (c.session.processResendRequest m).trace =
        c.session.trace ++ [.state .inRetransmissionInitiatedByPeer] := by
      rw [processResendRequest_taken h]
      rfl
    have hstate : (c.session.processResendRequest m).state = .inRetransmissionInitiatedByPeer := by
      rw [processResendRequest_taken h]
      rfl
    refine Links.congr (P := c.link = .loggedOn) (.goesLive hentered hstate rfl rfl) fun _ => ?_
    exact ⟨fun hlink _ => hlink, fun hlink => hlink rfl⟩
  | false =>
    refine Links.congr (P := True) ?_ fun _ => iff_of_true trivial fun h => Bool.noConfusion h
    refine .silent ?_ ?_ rfl
    · rw [modifySession_session, processResendRequest_ignored h]
    · rw [modifySession_session, processResendRequest_ignored h]

/-- What the `switch` asks of the connection: the Logon response, SequenceReset and ResendRequest
set a live state. -/
structure DispatchKeeps : Prop where
  logon : rx.msgType = [msgTypeLogon] → c.link ≠ .down
  resend : rx.msgType = [msgTypeResendRequest] → takesResendRequest rx.message = true →
    c.link = .loggedOn
  reset : rx.msgType = [msgTypeSequenceReset] →
    acceptsSequenceReset c.session.sequenceStore.incomingSeqNo rx.message = true →
      c.link = .loggedOn

theorem dispatch_links : Links (DispatchKeeps c rx) c (c.dispatch rx.message env) := by
  have htypes : ∀ {a b : Bytes}, a ≠ b → rx.msgType = a → rx.msgType ≠ b := by
    rintro a b hne rfl
    exact hne
  have hquiet : rx.msgType ≠ [msgTypeLogon] → rx.msgType ≠ [msgTypeResendRequest] →
      rx.msgType ≠ [msgTypeSequenceReset] → ∀ {c'}, Links True c c' →
        Links (DispatchKeeps c rx) c c' := by
    intro hlogon hresend hreset c' h
    exact h.congr fun _ => iff_of_true trivial ⟨fun htype => absurd htype hlogon,
      fun htype => absurd htype hresend, fun htype => absurd htype hreset⟩
  rcases dispatch_cases c rx.message env with
    ⟨htype, h⟩ | ⟨htype, h⟩ | ⟨htype, h⟩ | ⟨htype, h⟩ | ⟨htype, h⟩ | ⟨cb, _, h, htype⟩ |
      ⟨htype, cb, m', _, h⟩
  · rw [h]
    refine (c.processLogonResponse_links rx.message).congr fun _ => ⟨fun hlink => ⟨fun _ => hlink,
      fun hresend => ?_, fun hreset => ?_⟩, fun hkeeps => hkeeps.logon htype⟩
    · exact absurd hresend (htypes (by decide) htype)
    · exact absurd hreset (htypes (by decide) htype)
  · rw [h]
    exact hquiet (htypes (by decide) htype) (htypes (by decide) htype)
      (htypes (by decide) htype) (c.processLogoutResponse_links rx.message)
  · rw [h]
    refine (c.processSequenceReset_links env rx.message).congr fun _ => ⟨fun hlink =>
      ⟨fun hlogon => ?_, fun hresend => ?_, fun _ => hlink⟩, fun hkeeps => hkeeps.reset htype⟩
    · exact absurd hlogon (htypes (by decide) htype)
    · exact absurd hresend (htypes (by decide) htype)
  · rw [h]
    refine ((c.processResendRequest_links rx.message).then_always
      (callback_links _ _ _)).congr fun _ => ⟨fun hlink =>
        ⟨fun hlogon => ?_, fun _ => hlink, fun hreset => ?_⟩, fun hkeeps => hkeeps.resend htype⟩
    · exact absurd hlogon (htypes (by decide) htype)
    · exact absurd hreset (htypes (by decide) htype)
  · rw [h]
    have htest : Links True c (c.modifySession (·.processTestRequestMessage rx.message)) :=
      .silent (processTestRequestMessage_trace _ _) (processTestRequestMessage_state _ _) rfl
    exact hquiet (htypes (by decide) htype) (htypes (by decide) htype)
      (htypes (by decide) htype) (htest.then_always (callback_links _ _ _))
  · rw [h]
    have hreject : Links True c (c.processReject cb rx.message) := by
      unfold processReject
      split
      · exact c.processLogonReject_links rx.message
      · exact c.callback_links cb _
    rcases htype with htype | htype <;>
      exact hquiet (htypes (by decide) htype) (htypes (by decide) htype)
        (htypes (by decide) htype) hreject
  · rw [h]
    have hother : ∀ b ∈ sessionMsgTypes, rx.msgType ≠ b := by
      rintro b hb rfl
      exact htype hb
    exact hquiet (hother _ (by decide)) (hother _ (by decide)) (hother _ (by decide))
      (c.callback_links cb m')

theorem link_of_state {c c' : FixClient} {st : SessionState}
    (h : c'.session.trace = c.session.trace ++ [.state st]) : c'.link = c.link := by
  rw [link, h, watch_snoc]
  show c.link.after (.state st) = c.link
  cases c.link <;> rfl

theorem satisfied_link (s : FixSession) (htrace : s.trace = c.session.trace) :
    (c.modifySession fun _ => s.satisfied rx).link = c.link := by
  unfold satisfied
  split
  · have hentered : (c.modifySession fun _ => s.setState .loggedOn).session.trace =
        c.session.trace ++ [.state .loggedOn] := by
      rw [modifySession_session, setState_trace, htrace]
    exact link_of_state hentered
  · rw [link, modifySession_session, htrace]
    rfl

/-- A retransmission that ends keeps a client live that is live. -/
theorem satisfied_links (s : FixSession) (hs : s.state = c.session.state)
    (htrace : s.trace = c.session.trace) :
    Links True c (c.modifySession fun _ => s.satisfied rx) := by
  unfold satisfied
  split
  · next hsatisfied =>
    rw [resendRequestSatisfied, Bool.and_eq_true, decide_eq_true_eq, hs] at hsatisfied
    have hentered : (s.setState .loggedOn).trace = c.session.trace ++ [.state .loggedOn] := by
      rw [setState_trace, htrace]
    have hlive : Links (c.link = .loggedOn) c (c.modifySession fun _ => s.setState .loggedOn) :=
      .goesLive hentered rfl rfl rfl
    refine hlive.always fun hc => hc.loggedOn ?_
    rw [hsatisfied.1]
    rfl
  · exact .silent htrace hs rfl

/-- One message. -/
theorem handleMessage_links : Links (KeepsLogon c (rx, env)) c (c.handleMessage rx env) := by
  have hstopped : passesChecks c.session rx env = false → ∀ {c'}, Links True c c' →
      Links (KeepsLogon c (rx, env)) c c' := by
    intro hstop c' h
    refine h.congr fun _ => iff_of_true trivial ⟨fun hpass => ?_, fun hpass => ?_⟩
    · rw [hstop] at hpass
      cases hpass
    · rw [hstop] at hpass
      cases hpass
  -- Only a message that passes all checks can set a live state; the other four cases are stopped.
  rcases handleMessage_cases c rx env with
    ⟨code, errorTag, hv, h⟩ | ⟨hv, h⟩ | ⟨_, habove, h⟩ | ⟨_, hbelow, h⟩ | ⟨hpass, h⟩
  · rw [h]
    have hparsed : Links True c (c.modifySession fun s =>
        (s.received rx env.nowNanoseconds).setLastErrorTag errorTag) := .silent rfl rfl rfl
    exact hstopped (by simp [passesChecks, hv]) (hparsed.then_always (sendBytes_links _ _ _))
  · rw [h]
    exact hstopped (by simp [passesChecks, hv]) (.silent rfl rfl rfl)
  · rw [h]
    exact hstopped (by simp [passesChecks, habove]) (.silent rfl rfl rfl)
  · rw [h]
    have hundone : Links True c (c.modifySession fun s =>
        (s.counted rx env.nowNanoseconds).setIncomingSeqNo s.sequenceStore.incomingSeqNo) :=
      .silent rfl rfl rfl
    exact hstopped (by simp [passesChecks, hbelow])
      (hundone.then_always (doShutdownNow_links _))
  · rw [h]
    have hsatisfied : Links True c (c.modifySession fun s =>
        (s.counted rx env.nowNanoseconds).satisfied rx) :=
      c.satisfied_links rx (c.session.counted rx env.nowNanoseconds) rfl rfl
    have hlink : (c.modifySession fun s =>
        (s.counted rx env.nowNanoseconds).satisfied rx).link = c.link :=
      c.satisfied_link rx (c.session.counted rx env.nowNanoseconds) rfl
    refine (hsatisfied.trans (dispatch_links _ rx env)).congr fun _ => ?_
    rw [true_and]
    constructor
    · rintro ⟨hlogon, hresend, hreset⟩
      rw [hlink] at hlogon hresend hreset
      rw [modifySession_session, satisfied_sequenceStore, counted_incomingSeqNo] at hreset
      refine ⟨fun h => hlogon ?_, fun h => ?_⟩
      · rw [Bool.and_eq_true, decide_eq_true_eq] at h
        exact h.2
      · rw [FixServer.setsLiveState, hpass, Bool.true_and, Bool.or_eq_true, Bool.and_eq_true,
          Bool.and_eq_true, decide_eq_true_eq, decide_eq_true_eq] at h
        exact h.elim (fun hr => hresend hr.1 hr.2) fun hr => hreset hr.1 hr.2
    · rintro ⟨hlogon, hothers⟩
      rw [FixServer.setsLiveState, hpass, Bool.true_and, Bool.or_eq_true, Bool.and_eq_true,
        Bool.and_eq_true, decide_eq_true_eq, decide_eq_true_eq] at hothers
      rw [hpass, Bool.true_and, decide_eq_true_eq] at hlogon
      refine ⟨fun htype => ?_, fun htype htakes => ?_, fun htype haccepts => ?_⟩
      · rw [hlink]
        exact hlogon htype
      · rw [hlink]
        exact hothers (.inl ⟨htype, htakes⟩)
      · rw [modifySession_session, satisfied_sequenceStore, counted_incomingSeqNo] at haccepts
        rw [hlink]
        exact hothers (.inr ⟨htype, haccepts⟩)

end Message

/-! ## Reads and shutdowns -/

theorem rxSteps_links (l : RxLoop) (messages : List (RxMessage × ClientRxEnv)) :
    Links (Guarded rxStep (fun l e => l.returned = false → KeepsLogon l.client e) l messages)
      l.client (messages.foldl rxStep l).client := by
  induction messages generalizing l with
  | nil => exact .refl l.client
  | cons e messages ih =>
    have hstep : Links (l.returned = false → KeepsLogon l.client e) l.client
        (rxStep l e).client := by
      unfold rxStep
      cases hreturned : l.returned with
      | true =>
        rw [if_pos rfl]
        exact (Links.refl l.client).congr fun _ => iff_of_true trivial fun h => Bool.noConfusion h
      | false =>
        rw [if_neg Bool.false_ne_true]
        exact (handleMessage_links l.client e.1 e.2).congr fun _ =>
          ⟨fun hkeeps _ => hkeeps, fun hkeeps => hkeeps rfl⟩
    exact hstep.trans (ih (rxStep l e))

section Reads

variable (c : FixClient)

theorem processRxBuffer_links (messages : List (RxMessage × ClientRxEnv)) :
    Links (EachOfBuffer KeepsLogon c messages) c (c.processRxBuffer messages) :=
  rxSteps_links { client := c } messages

theorem processIncomingMessages_links (read : ReadOutcome) :
    Links (EachOfRead KeepsLogon c read) c (c.processIncomingMessages read) := by
  unfold processIncomingMessages
  cases hopen : c.socketOpen with
  | false =>
    rw [if_neg Bool.false_ne_true]
    refine (Links.refl c).congr fun _ => iff_of_true trivial ?_
    cases read with
    | nothing => trivial
    | lost => trivial
    | data messages lostAfter =>
      intro h
      rw [hopen] at h
      cases h
  | true =>
    rw [if_pos rfl]
    cases read with
    | nothing => exact .refl c
    | lost => exact c.onConnectionLost_links
    | data messages lostAfter =>
      have hread := (c.processRxBuffer_links messages).congr fun _ =>
        (⟨fun h _ => h, fun h => h hopen⟩ :
          EachOfBuffer KeepsLogon c messages ↔
            (c.socketOpen = true → EachOfBuffer KeepsLogon c messages))
      dsimp only
      split
      · exact hread.then_always (onConnectionLost_links _)
      · exact hread

theorem shutdownLoop_links (reads : List ReadOutcome) :
    Links (EachOfShutdownLoop KeepsLogon c reads) c (c.shutdownLoop reads) := by
  induction reads generalizing c with
  | nil => exact .refl c
  | cons read reads ih =>
    have hread := c.processIncomingMessages_links read
    have hlast : ∀ {c'}, c' = c.processIncomingMessages read →
        (c'.session.receivedLogoutResponse = true ∨ c'.session.state = .disconnected) →
          Links (EachOfShutdownLoop KeepsLogon c (read :: reads)) c c' := by
      rintro c' rfl hend
      refine hread.congr fun _ => ⟨fun h => ⟨h, fun hlogout hstate => ?_⟩, fun h => h.1⟩
      rcases hend with hend | hend
      · rw [hend] at hlogout
        cases hlogout
      · exact absurd hend hstate
    rw [shutdownLoop]
    split
    · next hlogout => exact hlast rfl (.inl hlogout)
    · next hlogout =>
      split
      · next hstate => exact hlast rfl (.inr hstate)
      · next hstate =>
        refine (hread.trans (ih _)).congr fun _ => ?_
        exact ⟨fun h => ⟨h.1, fun _ _ => h.2⟩,
          fun h => ⟨h.1, h.2 (eq_false_of_ne_true hlogout) hstate⟩⟩

theorem awaitLogout_links (o : SendOutcome) :
    Links True c.onConnectionLost (c.awaitLogout o) := by
  have hflag : Links True c.onConnectionLost
      (c.onConnectionLost.modifySession (·.setReceivedLogoutResponse false)) := .silent rfl rfl rfl
  have hsent := hflag.then_always (sendOutgoingMessage_links _ (buildLogoutMessage []) o)
  exact hsent.then_always (.leaves rfl rfl rfl rfl)

theorem doShutdown_links (graceful : Bool) (env : ShutdownEnv) :
    Links (EachOfShutdown KeepsLogon c graceful env) c (c.doShutdown graceful env) := by
  rw [doShutdown_eq]
  split
  · next hwaits =>
    rw [Bool.and_eq_true, decide_eq_true_eq] at hwaits
    have hawaits := c.awaitLogout_links env.logoutSend
    have hreads := (c.awaitLogout env.logoutSend).shutdownLoop_links env.reads
    have hloop := (c.onConnectionLost_links.then_always hawaits).trans hreads
    -- nothing brings the connection up again while the client waits for the logout
    have hdown : ((c.awaitLogout env.logoutSend).shutdownLoop env.reads).link = .down :=
      hreads.down (hawaits.down c.onConnectionLost_link)
    refine (hloop.follow (closed_links _) fun hc => hc.notLive hdown).congr fun _ => ?_
    rw [true_and]
    exact ⟨fun h _ _ => h, fun h => h hwaits.1 hwaits.2⟩
  · next hwaits =>
    have hclosed := c.onConnectionLost_links.follow (closed_links _) fun _ => rfl
    refine hclosed.congr fun _ => iff_of_true trivial fun hgraceful hstate => ?_
    exact absurd (by rw [hgraceful, hstate]; rfl) hwaits

end Reads

/-! ## A pass of `process` -/

/-- A live state behind one send: the connection is logged on, and the send does not lose it. -/
theorem sendLive_links (c : FixClient) (t : Transmission) (o : SendOutcome)
    {f : FixSession → FixSession} {st : SessionState} (hst : isStateLive st = true)
    (htrace : ∀ s, (f s).trace = s.trace ++ [.state st]) (hstate : ∀ s, (f s).state = st) :
    Links (c.link = .loggedOn ∧ o.result ≠ .connectionLost) c
      ((c.sendBytes t o).modifySession f) := by
  have hlive : Links ((c.sendBytes t o).link = .loggedOn) (c.sendBytes t o)
      ((c.sendBytes t o).modifySession f) := .goesLive (htrace _) (hstate _) rfl hst
  refine ((c.sendBytes_links t o).trans hlive).congr fun hc => ?_
  rw [true_and, sendBytes_link]
  constructor
  · intro h
    split at h
    · cases h
    · next hkept =>
      refine ⟨h, fun ho => hkept ?_⟩
      have hopen := hc.socket (by rw [h]; exact Link.noConfusion)
      rw [hopen, ho]
      rfl
  · rintro ⟨hlink, ho⟩
    rw [if_neg (by simp [ho]), hlink]

section Turn

variable (c : FixClient) (env : ClientProcessEnv)

theorem processOutgoingResendRequest_links :
    Links (c.session.state ≠ .inRetransmissionInitiatedBySelf →
      c.session.needsToSendResendRequest = true →
        c.link = .loggedOn ∧ env.resendRequestSend.result ≠ .connectionLost) c
      (c.processOutgoingResendRequestIfNecessary env) := by
  unfold processOutgoingResendRequestIfNecessary
  dsimp only
  split_ifs with hwaits hexpired hneeds
  · exact (c.doShutdown_links false {}).congr fun _ =>
      iff_of_true (fun hgraceful => Bool.noConfusion hgraceful) fun h => absurd hwaits h
  · exact (Links.refl c).congr fun _ => iff_of_true trivial fun h => absurd hwaits h
  · refine (c.sendLive_links _ env.resendRequestSend (f := (·.resendRequestSent
      env.resendRequestTimestamp)) rfl (fun _ => rfl) fun _ => rfl).congr fun _ => ?_
    exact ⟨fun h _ _ => h, fun h => h hwaits hneeds⟩
  · exact (Links.refl c).congr fun _ => iff_of_true trivial fun _ h => absurd h hneeds

theorem processOutgoingTestRequest_links :
    Links True c (c.processOutgoingTestRequestIfNecessary env) := by
  unfold processOutgoingTestRequestIfNecessary
  dsimp only
  split_ifs
  · have hbuilt : Links True c (c.modifySession fun _ => c.session.buildTestRequestMessage.1) :=
      .silent rfl rfl rfl
    exact (hbuilt.then_always (sendOutgoingMessage_links _ _ _)).then_always (.silent rfl rfl rfl)
  · exact .refl c
  · have hflag : Links True c
        (c.modifySession (·.setExpectingResponseForOutgoingTestRequest false)) :=
      .silent rfl rfl rfl
    exact hflag.follow (doShutdown_links _ false {}) fun _ hgraceful => Bool.noConfusion hgraceful
  · exact .refl c

/-- A replay keeps the connection while none of its sends loses it. -/
theorem resendMessages_link (hopen : c.link ≠ .down → c.socketOpen = true) (beginNo endNo : UInt32)
    (o : UInt32 → SendOutcome) :
    (c.resendMessagesToServer beginNo endNo o).link = .loggedOn ↔
      c.link = .loggedOn ∧
        ∀ n ∈ replayRange beginNo endNo, (o n).result ≠ .connectionLost := by
  unfold resendMessagesToServer
  induction replayRange beginNo endNo generalizing c with
  | nil => exact ⟨fun h => ⟨h, fun _ hn => absurd hn List.not_mem_nil⟩, fun h => h.1⟩
  | cons n ns ih =>
    rw [List.foldl_cons, ih, sendBytes_link, List.forall_mem_cons]
    · split
      · next hlost =>
        rw [Bool.and_eq_true, decide_eq_true_eq] at hlost
        exact iff_of_false (fun h => Link.noConfusion h.1) fun h => h.2.1 hlost.2
      · next hkept =>
        constructor
        · rintro ⟨hlink, hns⟩
          refine ⟨hlink, fun ho => hkept ?_, hns⟩
          rw [hopen (by rw [hlink]; exact Link.noConfusion), ho]
          rfl
        · exact fun h => ⟨h.1, h.2.2⟩
    · rw [sendBytes_link, sendBytes_socketOpen]
      split
      · exact fun h => absurd rfl h
      · exact hopen

theorem resendMessages_links (beginNo endNo : UInt32) (o : UInt32 → SendOutcome) :
    Links True c (c.resendMessagesToServer beginNo endNo o) := by
  unfold resendMessagesToServer
  induction replayRange beginNo endNo generalizing c with
  | nil => exact .refl c
  | cons n ns ih => exact (c.sendBytes_links (.replay n) (o n)).then_always (ih _)

theorem respondToResendRequest_links :
    Links (c.session.needsRespondingToIncomingResendRequest = true →
      c.link = .loggedOn ∧ FixServer.answerSucceeds c.session env.toProcessEnv) c
      (c.respondToResendRequestIfNecessary env) := by
  unfold respondToResendRequestIfNecessary
  dsimp only
  split_ifs with hneeds hreplays
  · have hlive : Links ((c.resendMessagesToServer c.session.incomingResendRequestBeginNo
        c.session.sequenceStore.outgoingSeqNo env.replaySend).link = .loggedOn)
        (c.resendMessagesToServer c.session.incomingResendRequestBeginNo
          c.session.sequenceStore.outgoingSeqNo env.replaySend)
        ((c.resendMessagesToServer c.session.incomingResendRequestBeginNo
          c.session.sequenceStore.outgoingSeqNo env.replaySend).modifySession
            (·.resendRequestAnswered)) := .goesLive rfl rfl rfl rfl
    refine ((c.resendMessages_links _ _ env.replaySend).trans hlive).congr fun hc => ?_
    rw [true_and, c.resendMessages_link hc.socket, FixServer.answerSucceeds, if_pos hreplays]
    exact ⟨fun h _ => h, fun h => h hneeds⟩
  · refine (c.sendLive_links _ env.gapFillSend (f := (·.resendRequestAnswered)) rfl
      (fun _ => rfl) fun _ => rfl).congr fun _ => ?_
    rw [FixServer.answerSucceeds, if_neg hreplays]
    exact ⟨fun h _ => h, fun h => h hneeds⟩
  · exact (Links.refl c).congr fun _ => iff_of_true trivial fun h => absurd h hneeds

theorem respondToTestRequest_links : Links True c (c.respondToTestRequestIfNecessary env) := by
  unfold respondToTestRequestIfNecessary
  dsimp only
  split_ifs
  · exact (c.sendOutgoingMessage_links _ _).then_always (.silent rfl rfl rfl)
  · exact .refl c

theorem sendClientHeartbeat_links : Links True c (c.sendClientHeartbeatIfNecessary env) := by
  unfold sendClientHeartbeatIfNecessary
  split_ifs
  · exact c.sendOutgoingMessage_links _ _
  · exact .refl c

theorem processScheduleValidator_links :
    Links (env.scheduleValid = false → EachOfShutdown KeepsLogon c true env.scheduleShutdown) c
      (c.processScheduleValidator env) := by
  unfold processScheduleValidator
  split_ifs with hinvalid
  · exact (c.doShutdown_links true env.scheduleShutdown).congr fun _ =>
      ⟨fun h _ => h, fun h => h hinvalid⟩
  · exact (Links.refl c).congr fun _ => iff_of_true trivial fun h => absurd h hinvalid

theorem processOutgoingLogonRequest_links : Links True c (c.processOutgoingLogonRequest env) := by
  unfold processOutgoingLogonRequest
  split_ifs
  · exact .leaves rfl rfl rfl rfl
  · exact .refl c

theorem disableSession_links (senv : ShutdownEnv) :
    Links (EachOfDisabling KeepsLogon c senv) c (c.disableSession senv) := by
  have hdisabled : ∀ c' : FixClient, Links True c' (c'.modifySession (·.setState .disabled)) :=
    fun _ => .leaves rfl rfl rfl rfl
  unfold disableSession
  dsimp only
  split
  · next hlive =>
    refine ((c.doShutdown_links true senv).then_always (hdisabled _)).congr fun _ => ?_
    exact ⟨fun h _ => h, fun h => h hlive⟩
  · next hnot =>
    exact (hdisabled c).congr fun _ => iff_of_true trivial fun hlive => absurd hlive hnot

theorem enableSession_links (records : List UInt32) : Links True c (c.enableSession records) := by
  unfold enableSession
  split
  · have hleft : Links True c (c.modifySession (·.setState .disconnected)) :=
      .leaves rfl rfl rfl rfl
    dsimp only
    split
    · refine hleft.then_always (.silent ?_ ?_ rfl)
      · rw [modifySession_session, reinitialiseOutgoingSerialiser]
        split <;> rfl
      · rw [modifySession_session, reinitialiseOutgoingSerialiser]
        split <;> rfl
    · exact hleft
  · exact .refl c

theorem processAdminCommand_links (command : ModifyingAdminCommand) :
    Links (EachOfAdminCommand KeepsLogon c command env) c (c.processAdminCommand command env) := by
  unfold processAdminCommand EachOfAdminCommand
  cases command.type with
  | setIncomingSequenceNumber => exact .silent rfl rfl rfl
  | setOutgoingSequenceNumber => exact .silent rfl rfl rfl
  | sendSequenceReset =>
    dsimp only
    split
    · have hset : Links True c (c.modifySession (·.setOutgoingSeqNo command.arg)) :=
        .silent rfl rfl rfl
      exact hset.then_always (sendBytes_links _ _ _)
    · exact .refl c
  | disableSession => exact c.disableSession_links env.adminShutdown
  | enableSession =>
    dsimp only
    split
    · exact c.enableSession_links _
    · exact .refl c
  | setIsHaPrimaryInstance =>
    have hset : Links True c { c with isHaPrimary := command.arg = 1 } := .silent rfl rfl rfl
    dsimp only
    split
    · next harg =>
      refine (hset.then_always (enableSession_links _ _)).congr fun _ => ?_
      exact iff_of_true trivial fun hother => absurd harg hother
    · next harg =>
      refine (hset.trans (disableSession_links _ env.adminShutdown)).congr fun _ => ?_
      exact ⟨fun h _ => h.2, fun h => ⟨trivial, h harg⟩⟩

theorem processAdminCommands_links :
    Links (EachOfAdminCommands KeepsLogon c env) c (c.processAdminCommands env) := by
  unfold processAdminCommands EachOfAdminCommands
  cases hpop : c.session.tryPopAdminCommand with
  | none => exact .refl c
  | some popped =>
    have hpopped : Links True c (c.modifySession fun _ => popped.2) := by
      unfold tryPopAdminCommand at hpop
      split at hpop
      · cases hpop
      · obtain rfl := Option.some.inj hpop
        exact .silent rfl rfl rfl
    exact (hpopped.trans (processAdminCommand_links _ env popped.1)).congr fun _ =>
      iff_of_eq (true_and _)

theorem processReads_links :
    Links (SessionState.disconnected.rank < c.session.state.rank →
      EachOfRead KeepsLogon c env.read) c (c.processReads env) := by
  unfold processReads
  split
  · next hrank =>
    exact (c.processIncomingMessages_links env.read).congr fun _ => ⟨fun h _ => h, fun h => h hrank⟩
  · next hrank =>
    exact (Links.refl c).congr fun _ => iff_of_true trivial fun h => absurd h hrank

end Turn

/-- One of the functions that `process` calls for a live snapshot, with its condition. -/
structure TurnStep where
  run : FixClient → FixClient
  Keeps : FixClient → Prop

/-- The steps of `processLive`: what assigns a live state behind a send does so on a connection that
is logged on, and the send does not lose it. -/
def turnSteps (env : ClientProcessEnv) : List TurnStep :=
  [ { run := fun c => c.processOutgoingResendRequestIfNecessary env
      Keeps := fun c => c.session.state ≠ .inRetransmissionInitiatedBySelf →
        c.session.needsToSendResendRequest = true →
          c.link = .loggedOn ∧ env.resendRequestSend.result ≠ .connectionLost },
    { run := fun c => c.processOutgoingTestRequestIfNecessary env, Keeps := fun _ => True },
    { run := fun c => c.respondToResendRequestIfNecessary env
      Keeps := fun c => c.session.needsRespondingToIncomingResendRequest = true →
        c.link = .loggedOn ∧ FixServer.answerSucceeds c.session env.toProcessEnv },
    { run := fun c => c.respondToTestRequestIfNecessary env, Keeps := fun _ => True },
    { run := fun c => c.sendClientHeartbeatIfNecessary env, Keeps := fun _ => True },
    { run := fun c => c.processScheduleValidator env
      Keeps := fun c => env.scheduleValid = false →
        EachOfShutdown KeepsLogon c true env.scheduleShutdown } ]

theorem processLive_links (c : FixClient) (env : ClientProcessEnv) :
    Links (Guarded (fun c (s : TurnStep) => s.run c) (fun c s => s.Keeps c) c (turnSteps env)) c
      (c.processLive env) :=
  (c.processOutgoingResendRequest_links env).trans
    ((processOutgoingTestRequest_links _ env).trans
      ((respondToResendRequest_links _ env).trans
        ((respondToTestRequest_links _ env).trans
          ((sendClientHeartbeat_links _ env).trans
            ((processScheduleValidator_links _ env).trans (.refl _))))))

theorem processAfterAdmin_links (c : FixClient) (sessionState : SessionState)
    (env : ClientProcessEnv) :
    Links (isStateLive sessionState = true →
      Guarded (fun c (s : TurnStep) => s.run c) (fun c s => s.Keeps c) c (turnSteps env)) c
      (c.processAfterAdmin sessionState env) := by
  unfold processAfterAdmin
  split_ifs with hlive hpending
  · exact (c.processLive_links env).congr fun _ => ⟨fun h _ => h, fun h => h hlive⟩
  · exact (c.processOutgoingLogonRequest_links env).congr fun _ =>
      iff_of_true trivial fun h => absurd h hlive
  · exact (Links.refl c).congr fun _ => iff_of_true trivial fun h => absurd h hlive

/-! ## Runs -/

/-- The condition on an event: on each of its messages, and on each function that `process` calls
for a live snapshot. -/
def StepKeepsLogon (c : FixClient) : Event → Prop
  | .connect _ => True
  | .process env =>
    (SessionState.disconnected.rank < c.session.state.rank → EachOfRead KeepsLogon c env.read) ∧
      EachOfAdminCommands KeepsLogon (c.processReads env) env ∧
      (isStateLive c.session.state = true →
        Guarded (fun c (s : TurnStep) => s.run c) (fun c s => s.Keeps c)
          ((c.processReads env).processAdminCommands env) (turnSteps env))
  | .shutdown graceful env => EachOfShutdown KeepsLogon c graceful env
  | .pushAdminCommand _ => True

theorem process_links (c : FixClient) (env : ClientProcessEnv) :
    Links (c.StepKeepsLogon (.process env)) c (c.process env) :=
  (c.processReads_links env).trans ((processAdminCommands_links _ env).trans
    (processAfterAdmin_links _ c.session.state env)) |>.congr fun _ => Iff.rfl

theorem Links.inLine {c c' : FixClient} (h : Links True c c') (hc : c.InLine) : c'.InLine :=
  ((h.settles hc).resolve_right fun hno => hno.1 trivial).2

/-- A new connection is for a client that is not live. -/
theorem InLine.connected {c : FixClient} (h : c.InLine)
    (hlive : isStateLive c.session.state = false) :
    ({ c with socketOpen := true }.modifySession (·.record .connected)).InLine where
  sound := by
    refine liveLoggedOn_snoc.mpr ⟨h.sound, fun hafter => ?_⟩
    have hsame : (watch c.session.trace).live = true := hafter
    rw [h.live, hlive] at hsame
    cases hsame
  live := by
    rw [modifySession_session, record_trace, watch_snoc]
    exact h.live
  socket _ := rfl

section Connect

variable (c : FixClient) (env : ConnectEnv)

theorem sendLogonRequest_links (o : SendOutcome) : Links True c (c.sendLogonRequest o) := by
  have hrequest : Links True c (c.modifySession fun _ => (logonRequest c.session).1) := by
    have hcases : (logonRequest c.session).1 = c.session ∨
        (logonRequest c.session).1 = c.session.resetNumbers := by
      unfold logonRequest
      cases hreset : c.session.settings.logonResetSequenceNumbers with
      | true => exact .inr (by simp only [hreset, if_true])
      | false => exact .inl (by simp only [hreset, Bool.false_eq_true, if_false])
    rcases hcases with h | h
    · exact .silent (by rw [h]; rfl) (by rw [h]; rfl) rfl
    · exact .silent (by rw [h]; rfl) (by rw [h]; rfl) rfl
  exact hrequest.then_always (sendOutgoingMessage_links _ _ o)

/-- The rest of `connect` on a new connection. -/
theorem awaitLogon_links (now : UInt64) (o : SendOutcome) :
    Links True (c.modifySession (·.record .connected))
      (({ c.modifySession fun s => ((s.record .connected).setLastReceivedMessageTimestampNanoseconds
        now).setState .pendingLogon with
          lastLogonAttemptTimestamp := now }.callback .onConnection none).sendLogonRequest o) := by
  have hwaits : Links True (c.modifySession (·.record .connected)) (c.modifySession fun s =>
      ((s.record .connected).setLastReceivedMessageTimestampNanoseconds
        now).setState .pendingLogon) :=
    .leaves rfl rfl rfl rfl
  have htimed : Links True _ { c.modifySession fun s =>
      ((s.record .connected).setLastReceivedMessageTimestampNanoseconds
        now).setState .pendingLogon with
          lastLogonAttemptTimestamp := now } := hwaits.then_always (.silent rfl rfl rfl)
  exact (htimed.then_always (callback_links _ _ _)).then_always (sendLogonRequest_links _ o)

/-- The client that `connect` calls the transport with. -/
theorem pending_links : Links True c
    (c.modifySession fun s => (s.setState .pendingConnection).resetFlags).close := by
  have hpending : Links True c
      (c.modifySession fun s => (s.setState .pendingConnection).resetFlags) :=
    .leaves rfl rfl rfl rfl
  exact hpending.follow (close_links _) fun _ => rfl

theorem failed_links : Links True c (c.modifySession (·.setState .disconnected)) :=
  .leaves rfl rfl rfl rfl

theorem connect_inLine (h : c.InLine) : (c.connect env).InLine := by
  unfold connect
  split_ifs
  · exact h
  · exact h
  · have hconnected := (c.pending_links.inLine h).connected rfl
    exact (awaitLogon_links _ env.nowNanoseconds env.logonSend).inLine hconnected
  · exact (c.pending_links.then_always (failed_links _)).inLine h

theorem connect_grows : c.session.trace <+: (c.connect env).session.trace := by
  unfold connect
  split_ifs
  · exact List.prefix_rfl
  · exact List.prefix_rfl
  · have hconnected := c.pending_links.grows.trans (List.prefix_append _ [Output.connected])
    exact hconnected.trans (awaitLogon_links { (c.modifySession fun s =>
      (s.setState .pendingConnection).resetFlags).close with socketOpen := true }
        env.nowNanoseconds env.logonSend).grows
  · exact (c.pending_links.then_always (failed_links _)).grows

end Connect

/-- No connection was ever given to the client. -/
structure AtStart (c : FixClient) : Prop where
  history : c.session.trace = []
  notLive : isStateLive c.session.state = false

theorem AtStart.inLine {c : FixClient} (h : c.AtStart) : c.InLine where
  sound := h.history ▸ liveLoggedOn_nil
  live := by
    rw [h.history, h.notLive]
    rfl
  socket hup := by
    rw [link, h.history] at hup
    exact absurd rfl hup

/-- An event is in line exactly when it meets its condition. -/
theorem step_settles {c : FixClient} (h : c.InLine) (event : Event) :
    c.StepKeepsLogon event ∧ (c.step event).InLine ∨
      ¬ c.StepKeepsLogon event ∧ ¬ LiveLoggedOn (c.step event).session.trace := by
  cases event with
  | connect env => exact .inl ⟨trivial, c.connect_inLine env h⟩
  | process env => exact (c.process_links env).settles h
  | shutdown graceful env => exact (c.doShutdown_links graceful env).settles h
  | pushAdminCommand command =>
    have hpushed : Links True c (c.modifySession (·.pushAdminCommand command)) :=
      .silent rfl rfl rfl
    exact .inl ⟨trivial, hpushed.inLine h⟩

theorem step_grows (c : FixClient) (event : Event) :
    c.session.trace <+: (c.step event).session.trace := by
  cases event with
  | connect env => exact c.connect_grows env
  | process env => exact (c.process_links env).grows
  | shutdown graceful env => exact (c.doShutdown_links graceful env).grows
  | pushAdminCommand command => exact List.prefix_rfl

/-- Whenever the client is live a Logon response has arrived on its connection, which has not been
lost since, exactly when every event meets its condition. -/
theorem liveLoggedOn_iff {c : FixClient} (hstart : c.AtStart) (events : List Event) :
    LiveLoggedOn (run step c events).session.trace ↔ Guarded step StepKeepsLogon c events := by
  refine holds_at_end_iff InLine (fun c => LiveLoggedOn c.session.trace)
    (fun c event h => h.initial (c.step_grows event)) (fun c event h hsound => ?_)
    (fun c event h _ => ?_) events hstart.inLine hstart.inLine.sound
  · exact ((step_settles h event).resolve_right fun hno => hno.2 hsound).2
  · rcases step_settles h event with ⟨hkeeps, hline⟩ | ⟨hnot, hunsound⟩
    · exact iff_of_true hline.sound hkeeps
    · exact iff_of_false hunsound hnot

/-- A client that has not connected yet. -/
def exampleNewClient : FixClient :=
  { session := { sequenceStore := { incomingSeqNo := 5 }, settings := exampleSettings } }

/-- It connects, and reads a message. -/
def exampleConnecting (rx : RxMessage) : List Event :=
  [.connect {}, .process { read := .data [(rx, {})] false }]

theorem exampleNewClient_atStart : exampleNewClient.AtStart := ⟨rfl, rfl⟩

/-- The Logon response logs the client on. -/
theorem liveLoggedOn_iff_response :
    LiveLoggedOn (run step exampleNewClient
      (exampleConnecting (peerMessage exampleSettings msgTypeLogon 6 []))).session.trace := by
  have hread : KeepsLogon (exampleNewClient.connect {})
      (peerMessage exampleSettings msgTypeLogon 6 [], {}) :=
    ⟨fun _ => by decide +kernel, fun h => absurd h (by decide +kernel)⟩
  have hpass : (exampleNewClient.connect {}).StepKeepsLogon (.process
      { read := .data [(peerMessage exampleSettings msgTypeLogon 6 [], {})] false }) := by
    refine ⟨fun _ _ => ⟨fun _ => hread, trivial⟩, ?_, fun hlive => absurd hlive (by decide +kernel)⟩
    have hnone : ((exampleNewClient.connect {}).processReads
        { read := .data [(peerMessage exampleSettings msgTypeLogon 6 [], {})] false
          }).session.tryPopAdminCommand = none := by decide +kernel
    rw [EachOfAdminCommands, hnone]
    trivial
  exact (liveLoggedOn_iff exampleNewClient_atStart _).mpr ⟨trivial, hpass, trivial⟩

/-- A pass that reads a message above the expected one and loses the connection with the
ResendRequest. -/
def exampleGapEnv : ClientProcessEnv :=
  { read := .data [(peerMessage exampleSettings msgTypeExecutionReport 9 [], {})] false
    resendRequestSend := { result := .connectionLost } }

/-- A SequenceReset instead of the Logon response makes the client live. So does the ResendRequest
for a gap whose send loses the connection. -/
theorem liveLoggedOn_fails :
    exampleNewClient.AtStart ∧
      ¬ LiveLoggedOn (run step exampleNewClient (exampleConnecting (peerMessage exampleSettings
        msgTypeSequenceReset 6 [(tagNewSeqNo, text "9")]))).session.trace ∧
      ¬ LiveLoggedOn (run step exampleNewClient
        (exampleConnecting (peerMessage exampleSettings msgTypeLogon 6 []) ++
          [.process exampleGapEnv])).session.trace := by
  have hunsound : ∀ trace : List Output, (watch trace).live = true →
      (watch trace).link ≠ .loggedOn → ¬ LiveLoggedOn trace :=
    fun trace hlive hlink h => hlink (h trace (List.prefix_refl _) hlive)
  refine ⟨⟨rfl, rfl⟩, hunsound _ ?_ ?_, hunsound _ ?_ ?_⟩
  · decide +kernel
  · decide +kernel
  · decide +kernel
  · decide +kernel

end FixClient

end Llfix
