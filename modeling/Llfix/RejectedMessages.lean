import Llfix.Client.DeliveryOrder
import Llfix.Server.Turns

/-!
# A message that is rejected again and again

`validate_fix_message` comes before the count of the incoming number, and a Reject returns between
the two. So the message that was rejected is still the expected one: every later message of the
peer is a gap, and the answer to the ResendRequest brings the rejected message back.

Results:
1. `validateFixMessage_rejected_mono`: a message that is rejected is rejected at any later time.
2. `HeldAt.handleMessage`: neither that message nor a later one moves the incoming number.
3. `rejected_never_counted`: whatever the peer goes on to send, the number never moves.
-/

namespace Llfix

open GuardedRun

/-! ## The validation -/

/-- `validate_fix_message` asks for a Reject. -/
def FixSession.Verdict.isRejected : FixSession.Verdict → Bool
  | .rejected _ _ => true
  | _ => false

namespace FixSession

/-- Behind a check that is made in the same way the later verdict decides. -/
theorem isRejected_ite {c : Prop} [Decidable c] {v w w' : Verdict}
    (h : w.isRejected = true → w'.isRejected = true) :
    (if c then v else w).isRejected = true → (if c then v else w').isRejected = true := by
  split
  · exact id
  · exact h

/-- Only the age of a message depends on the clock, and it grows. -/
theorem validateFixMessage_rejected_mono {settings : FixSessionSettings} {rx : RxMessage}
    {now later : Int} (hle : now ≤ later) :
    (validateFixMessage settings rx now).isRejected = true →
      (validateFixMessage settings rx later).isRejected = true := by
  unfold validateFixMessage
  dsimp only
  refine isRejected_ite (isRejected_ite ?_)
  cases rx.parserRejectCode with
  | some code => exact id
  | none =>
    -- BeginString, the two CompIDs, the checksum and tag 52.
    refine isRejected_ite (isRejected_ite (isRejected_ite (isRejected_ite (isRejected_ite
      (isRejected_ite (isRejected_ite (isRejected_ite (isRejected_ite ?_))))))))
    split
    · refine isRejected_ite ?_
      split
      · next hstale =>
        rw [if_pos (isUtcTimestampStale_mono hstale hle)]
        exact id
      · exact fun h => nomatch h
    · exact id

theorem verdict_rejected_mono {s : FixSession} {rx : RxMessage} {now later : Int}
    (hle : now ≤ later) :
    (s.verdict rx now).isRejected = true → (s.verdict rx later).isRejected = true := by
  unfold verdict
  split
  · exact validateFixMessage_rejected_mono hle
  · exact id

/-! ## What keeps the session where it is -/

/-- The session judges messages in the same way, and has no command that it did not have. -/
structure Alike (s s' : FixSession) : Prop where
  verdict : ∀ rx utcNow, s'.verdict rx utcNow = s.verdict rx utcNow
  commands : s'.adminCommands ⊆ s.adminCommands

/-- It expects the same number, too. -/
structure Rests (s s' : FixSession) : Prop extends Alike s s' where
  incoming : s'.sequenceStore.incomingSeqNo = s.sequenceStore.incomingSeqNo

section Alike

variable {s s' s'' : FixSession}

theorem Alike.of_settings (hsettings : s'.settings = s.settings)
    (hcommands : s'.adminCommands = s.adminCommands) : Alike s s' where
  verdict rx utcNow := by
    unfold FixSession.verdict
    rw [hsettings]
  commands := fun _ hmem => hcommands ▸ hmem

theorem Alike.refl (s : FixSession) : Alike s s := .of_settings rfl rfl

theorem Alike.trans (h : Alike s s') (h' : Alike s' s'') : Alike s s'' where
  verdict rx utcNow := (h'.verdict rx utcNow).trans (h.verdict rx utcNow)
  commands := fun _ hmem => h.commands (h'.commands hmem)

theorem Alike.of_core (h : s'.core = s.core) : Alike s s' :=
  .of_settings (settings_of_core h)
    (show s'.core.adminCommands = s.core.adminCommands by rw [h])

theorem Rests.of_core (h : s'.core = s.core) : Rests s s' := ⟨.of_core h, incomingSeqNo_of_core h⟩

theorem Rests.refl (s : FixSession) : Rests s s := .of_core rfl

theorem Rests.of_settings (hsettings : s'.settings = s.settings)
    (hcommands : s'.adminCommands = s.adminCommands)
    (hincoming : s'.sequenceStore.incomingSeqNo = s.sequenceStore.incomingSeqNo) : Rests s s' :=
  ⟨.of_settings hsettings hcommands, hincoming⟩

theorem Rests.of_admin (h : AdminUpdate s s') : Rests s s' := by
  cases h with
  | popped hcommands =>
    refine ⟨⟨fun _ _ => rfl, ?_⟩, rfl⟩
    rw [hcommands]
    exact List.subset_cons_self _ _
  | setOutgoingSeqNo n => exact .of_settings rfl rfl rfl
  | disabled => exact .of_settings rfl rfl rfl
  | disconnected => exact .of_settings rfl rfl rfl
  | reinitialised records =>
    unfold reinitialiseOutgoingSerialiser
    split
    · exact .of_settings rfl rfl rfl
    · exact .refl s

theorem Rests.of_timer (h : TimerUpdate s s') : Rests s s' := by
  cases h with
  | testRequestBuilt => exact .of_settings rfl rfl rfl
  | testRequestSent timestamp => exact .of_settings rfl rfl rfl
  | testRequestExpired => exact .of_settings rfl rfl rfl
  | resendRequestAnswered => exact .of_settings rfl rfl rfl
  | testRequestAnswered => exact .of_settings rfl rfl rfl

theorem Rests.of_turn (h : TurnUpdate s s') : Rests s s' := by
  cases h with
  | admin hadmin => exact .of_admin hadmin
  | timer htimer => exact .of_timer htimer
  | resendRequestSent timestamp => exact .of_settings rfl rfl rfl

end Alike

/-- The session expects the number behind `k`, rejects the message `m` from `now` on, and nothing
will set its number. -/
structure HeldAt (k : UInt32) (m : RxMessage) (now : Int) (s : FixSession) : Prop where
  incoming : s.sequenceStore.incomingSeqNo = k
  rejects : (s.verdict m now).isRejected = true
  noSetting : ∀ command ∈ s.adminCommands, command.type ≠ .setIncomingSequenceNumber

theorem HeldAt.rests {k : UInt32} {m : RxMessage} {now : Int} {s s' : FixSession}
    (h : HeldAt k m now s) (hrests : Rests s s') : HeldAt k m now s' where
  incoming := hrests.incoming.trans h.incoming
  rejects := by rw [hrests.verdict]; exact h.rejects
  noSetting command hmem := h.noSetting command (hrests.commands hmem)

/-! ## The peer -/

/-- What the peer sends from `m` on, whose number is `k + 1`: that message itself, at first and in
its answers to ResendRequests, and the messages of later numbers. -/
def FromPeer (k : UInt32) (m : RxMessage) (now : Int) (rx : RxMessage) (utcNow : Int) : Prop :=
  rx = m ∧ now ≤ utcNow ∨
    k + 1 < rx.seqNum ∧ isAHardSequenceResetMessage rx.message = false

/-- Such a message is rejected, or it is above a gap. -/
theorem HeldAt.unexpected {k : UInt32} {m rx : RxMessage} {now utcNow : Int} {s : FixSession}
    (h : HeldAt k m now s) (hfrom : FromPeer k m now rx utcNow) :
    (s.verdict rx utcNow).isRejected = true ∨ s.aboveExpected rx = true := by
  rcases hfrom with ⟨rfl, hle⟩ | ⟨habove, hhard⟩
  · exact .inl (verdict_rejected_mono hle h.rejects)
  · right
    rw [← h.incoming] at habove
    rw [aboveExpected, decide_eq_true habove, hhard]
    rfl

end FixSession

namespace FixServer

open FixSession

/-! ## The server -/

section Alike

variable (srv : FixServer) (i p : Nat) (m : IncomingFixMessage) (rx : RxMessage) (env : ServerRxEnv)

theorem sendOutgoingMessage_alike (message : OutgoingFixMessage) (o : SendOutcome) :
    Alike (srv.sessions i) ((srv.sendOutgoingMessage i message o).sessions i) :=
  .of_core ((sendOutgoingMessage_steps srv i message o).core i)

theorem callback_alike (cb : Callback) (message : Option IncomingFixMessage) :
    Alike (srv.sessions i) ((srv.callback i cb message).sessions i) := by
  rw [callback, modifySession_sessions_self]
  exact .of_core (core_record _ _)

theorem modifySession_alike (f : FixSession → FixSession)
    (h : Alike (srv.sessions i) (f (srv.sessions i))) :
    Alike (srv.sessions i) ((srv.modifySession i f).sessions i) := by
  rw [modifySession_sessions_self]
  exact h

/-- The intervals that a Logon sets take no part in the validation. -/
theorem authenticated_alike (s : FixSession) : Alike s (authenticated s m) := by
  have hintervals : ∀ heartbeat testRequest : UInt64, Alike s ((s.setSettings { s.settings with
      heartbeatIntervalInNanoseconds := heartbeat
      outgoingTestRequestIntervalInNanoseconds := testRequest }).record .authenticated) :=
    fun _ _ => ⟨fun _ _ => rfl, List.Subset.refl _⟩
  exact hintervals _ _

theorem loggedOn_alike (s : FixSession) : Alike s (loggedOn s) := by
  unfold loggedOn doPostLogonSequenceNumberCheck
  dsimp only
  split_ifs
  · exact .of_settings rfl rfl
  · exact .of_settings rfl rfl
  · exact .of_settings rfl rfl
  · exact .of_settings rfl rfl

theorem processLogonRequest_alike :
    Alike (srv.sessions i) ((srv.processLogonRequest i p m env).sessions i) := by
  cases h : validateLogonRequest m && env.authenticated with
  | false =>
    rw [processLogonRequest_refused srv i p m env h]
    exact .of_core (closeConnection_core srv i (some p))
  | true =>
    rw [processLogonRequest_authenticated srv i p m env h]
    have hauthenticated := modifySession_alike srv i (authenticated · m) (authenticated_alike m _)
    have hresponse : Alike (srv.sessions i)
        (((srv.modifySession i (authenticated · m)).sendLogonResponse i env.send).sessions i) :=
      hauthenticated.trans (sendOutgoingMessage_alike _ i _ env.send)
    have hloggedOn := hresponse.trans (modifySession_alike _ i loggedOn (loggedOn_alike _))
    exact hloggedOn.trans (callback_alike _ i _ _)

theorem processSequenceReset_alike :
    Alike (srv.sessions i) ((srv.processSequenceReset i m env).sessions i) := by
  have hreset : Alike (srv.sessions i)
      ((srv.sessions i).processIncomingSequenceResetMessage m).1 := by
    cases haccepts : acceptsSequenceReset (srv.sessions i).sequenceStore.incomingSeqNo m with
    | true =>
      rw [processIncomingSequenceResetMessage_accepted haccepts]
      exact .of_settings rfl rfl
    | false =>
      rw [processIncomingSequenceResetMessage_refused haccepts]
      exact .refl _
  unfold processSequenceReset
  dsimp only
  split
  · exact (modifySession_alike srv i _ hreset).trans (sendOutgoingMessage_alike _ i _ _)
  · exact modifySession_alike srv i _ hreset

theorem dispatch_alike : Alike (srv.sessions i) ((srv.dispatch i p m env).sessions i) := by
  rcases dispatch_cases srv i p m env with
    ⟨_, h⟩ | ⟨_, h⟩ | ⟨_, h⟩ | ⟨_, h⟩ | ⟨_, h⟩ | ⟨_, h⟩ | ⟨_, cb, _, h⟩
  · rw [h]
    exact processLogonRequest_alike srv i p m env
  · rw [h, processLogoutRequest]
    have hlogout := sendOutgoingMessage_alike srv i (buildLogoutMessage []) env.send
    have hstate := hlogout.trans
      (modifySession_alike _ i (·.setState .loggedOut) (.of_settings rfl rfl))
    exact hstate.trans (callback_alike _ i _ _)
  · rw [h]
    exact processSequenceReset_alike srv i m env
  · rw [h]
    refine (modifySession_alike srv i (·.processResendRequest m) ?_).trans (callback_alike _ i _ _)
    cases htakes : takesResendRequest m with
    | true =>
      rw [processResendRequest_taken htakes]
      exact .of_settings rfl rfl
    | false =>
      rw [processResendRequest_ignored htakes]
      exact .refl _
  · rw [h]
    obtain ⟨hsettings, hcommands⟩ :=
      FixClient.processTestRequestMessage_frame (srv.sessions i) m
    exact (modifySession_alike srv i (·.processTestRequestMessage m)
      (.of_settings hsettings hcommands)).trans (callback_alike _ i _ _)
  · rw [h]
    exact callback_alike srv i _ _
  · rw [h]
    exact callback_alike srv i _ _

theorem passed_alike (s : FixSession) (b : Bool) : Alike s (s.passed rx b) := by
  have hsatisfied : Alike s (s.satisfied rx) := .of_core (core_satisfied s rx)
  unfold passed
  split
  · exact hsatisfied.trans (.of_settings rfl rfl)
  · exact hsatisfied

theorem processInSequence_alike :
    Alike (srv.sessions i) ((srv.processInSequence i p rx env).sessions i) := by
  have hpassed := modifySession_alike srv i (·.passed rx env.throttlerReachedLimit)
    (passed_alike rx _ env.throttlerReachedLimit)
  rcases processInSequence_cases srv i p rx env with ⟨_, ⟨_, h⟩ | h⟩ | ⟨_, h⟩
  · rw [h]
    exact hpassed.trans (.of_core (processConnectionClosure_core _ i _ _ _ _))
  · rw [h]
    exact hpassed.trans (sendOutgoingMessage_alike _ i _ _)
  · rw [h]
    exact hpassed.trans (dispatch_alike _ i p _ env)

/-- A message leaves the rules by which the session judges messages as they are. -/
theorem handleMessage_alike :
    Alike (srv.sessions i) ((srv.handleMessage i p rx env).sessions i) := by
  rcases handleMessage_cases srv i p rx env with
    ⟨code, errorTag, _, h⟩ | ⟨_, h⟩ | ⟨_, _, _, h⟩ | ⟨_, _, sendLogout, reason, h⟩ | ⟨_, h⟩
  · rw [h]
    exact (modifySession_alike srv i _ (.of_settings rfl rfl)).trans
      (sendOutgoingMessage_alike _ i _ _)
  · rw [h]
    exact modifySession_alike srv i _ (.of_settings rfl rfl)
  · rw [h]
    exact modifySession_alike srv i _ (.of_settings rfl rfl)
  · rw [h]
    exact (modifySession_alike srv i _ (.of_settings rfl rfl)).trans
      (.of_core (processConnectionClosure_core _ i _ _ _ _))
  · rw [h]
    exact (modifySession_alike srv i _ (.of_settings rfl rfl)).trans
      (processInSequence_alike _ i p rx env)

end Alike

/-- A message of the peer, for the session as it is when the message is handled. While the session
waits for its logon, a message behind the checks is a Logon that is accepted. -/
def PeerMessage (k : UInt32) (m : RxMessage) (now : Int) (s : FixSession)
    (e : RxMessage × ServerRxEnv) : Prop :=
  FromPeer k m now e.1 e.2.utcNow ∧
    (s.state = .pendingLogon → passesChecks s e.1 e.2 = true → undoneLogon s e.1 e.2 = true)

section Run

variable {k : UInt32} {m : RxMessage} {now : Int} {srv : FixServer} {i : Nat}

theorem handleMessage_heldAt (p : Nat) {e : RxMessage × ServerRxEnv}
    (h : HeldAt k m now (srv.sessions i)) (hpeer : PeerMessage k m now (srv.sessions i) e) :
    HeldAt k m now ((srv.handleMessage i p e.1 e.2).sessions i) := by
  refine h.rests ⟨handleMessage_alike srv i p e.1 e.2, ?_⟩
  rw [handleMessage_incomingSeqNo, numberAfter]
  cases hpass : passesChecks (srv.sessions i) e.1 e.2 with
  | false => exact if_pos rfl
  | true =>
    -- Only a session that waits for its logon lets a message above the gap through.
    have hvalid := verdict_of_passesChecks hpass
    have habove : (srv.sessions i).aboveExpected e.1 = true := by
      rcases h.unexpected hpeer.1 with hrejected | habove
      · rw [hvalid] at hrejected
        cases hrejected
      · exact habove
    have hwaits : (srv.sessions i).state = .pendingLogon := by
      simp only [passesChecks, habove, Bool.and_eq_true, Bool.not_eq_true', Bool.true_and,
        decide_eq_false_iff_not, not_not] at hpass
      exact hpass.1.2
    have hundone := hpeer.2 hwaits hpass
    have hreaches : reachesDispatch (srv.sessions i) e.1 e.2 = true := by
      simp only [undoneLogon, Bool.and_eq_true] at hundone
      exact hundone.1.1
    simp only [reachesDispatch, Bool.and_eq_true, Bool.not_eq_true'] at hreaches
    rw [if_neg Bool.true_eq_false.mp, hreaches.2, if_neg Bool.false_ne_true,
      numberAfterDispatch_undone hundone]

/-- The server may do this to a session that is held. -/
def Holds (k : UInt32) (m : RxMessage) (now : Int) (i : Nat) (srv srv' : FixServer) : Prop :=
  HeldAt k m now (srv.sessions i) → HeldAt k m now (srv'.sessions i)

theorem holds_respects (j : Nat) : Respects j TurnUpdate (Holds k m now i) where
  refl _ := id
  trans h h' := fun hheld => h' (h hheld)
  sendBytes srv j t o := fun hheld => hheld.rests (.of_core ((sendBytes_steps srv j t o).core i))
  closeConnection srv peer := fun hheld => hheld.rests (.of_core (closeConnection_core srv i peer))
  modify srv f hf := fun hheld => by
    by_cases hi : i = j
    · subst hi
      rw [modifySession_sessions_self]
      exact hheld.rests (.of_turn hf)
    · rw [modifySession_sessions_ne _ hi]
      exact hheld

theorem processTurn_holds (srv : FixServer) (j : Nat) (env : ProcessEnv) :
    Holds k m now i srv (srv.processTurn j env) := by
  intro hheld
  refine processTurn_related (holds_respects j) (fun _ _ => id) srv env ?_ hheld
  intro command hmem htype srv' hheld'
  by_cases hi : i = j
  · subst hi
    exact absurd htype (hheld.noSetting command hmem)
  · rw [modifySession_sessions_ne _ hi]
    exact hheld'

theorem process_holds (srv : FixServer) (env : Nat → ProcessEnv) :
    Holds k m now i srv (srv.process env) := by
  have hturns : ∀ (js : List Nat) (srv : FixServer),
      Holds k m now i srv (js.foldl (fun srv j => srv.processTurn j (env j)) srv) := by
    intro js
    induction js with
    | nil => exact fun _ => id
    | cons j js ih => exact fun srv hheld => ih _ (processTurn_holds srv j (env j) hheld)
  unfold process
  split
  · exact hturns _ srv
  · exact sendLogoutMessages_related (fun j => (holds_respects j).mono fun _ _ => .admin) srv env

/-- The messages of a read that are for session `i` come from its peer, and none of them is a Logon
that has the numbers reset. -/
def ReadFromPeer (k : UInt32) (m : RxMessage) (now : Int) (i p : Nat) (l : RxLoop)
    (e : RxMessage × ServerRxEnv) : Prop :=
  l.returned = false → ∀ srv, l.target p e = (srv, some i) →
    (l.session = none → resetsSequenceNumbers e.1.message = false) ∧
      PeerMessage k m now (srv.sessions i) e

/-- What goes on behind the message that was rejected: session `i` gets messages from its peer, and
nobody sets its incoming number. -/
def Continues (k : UInt32) (m : RxMessage) (now : Int) (i : Nat) (srv : FixServer) : Event → Prop
  | .receive p messages => srv.connected p = true →
      Guarded (rxStep p) (ReadFromPeer k m now i p)
        { server := srv, session := srv.connectors.getSession p } messages
  | .pushAdminCommand j command => j = i → command.type ≠ .setIncomingSequenceNumber
  | _ => True

theorem acceptedSession_rests {message : IncomingFixMessage} (s : FixSession)
    (hreset : resetsSequenceNumbers message = false) : Rests s (acceptedSession message s) := by
  unfold acceptedSession
  rw [hreset]
  exact .of_settings rfl rfl rfl

theorem rxStep_heldAt {p : Nat} {l : RxLoop} {e : RxMessage × ServerRxEnv}
    (h : HeldAt k m now (l.server.sessions i)) (hread : ReadFromPeer k m now i p l e) :
    HeldAt k m now ((rxStep p l e).server.sessions i) := by
  unfold rxStep
  split
  · exact h
  · next hreturned =>
    split
    · next srv htarget =>
      obtain ⟨-, -, rfl⟩ := target_none htarget
      exact h.rests (.of_core (closeConnection_core l.server i (some p)))
    · next srv j htarget =>
      dsimp only
      by_cases hi : i = j
      · subst hi
        obtain ⟨hreset, hpeer⟩ := hread (Bool.eq_false_iff.mpr hreturned) srv htarget
        refine handleMessage_heldAt p ?_ hpeer
        rcases target_some htarget with ⟨-, rfl⟩ | ⟨hnone, -, rfl⟩
        · exact h
        · rw [modifySession_sessions_self]
          exact h.rests (acceptedSession_rests _ (hreset hnone))
      · have htargeted : srv.sessions i = l.server.sessions i := by
          rcases target_some htarget with ⟨-, rfl⟩ | ⟨-, -, rfl⟩
          · rfl
          · exact modifySession_sessions_ne _ hi _
        rw [← htargeted] at h
        exact h.rests (.of_core (handleMessage_core_of_ne srv hi p e.1 e.2))

theorem step_heldAt {event : Event} (h : HeldAt k m now (srv.sessions i))
    (hcontinues : Continues k m now i srv event) :
    HeldAt k m now ((srv.step event).sessions i) := by
  cases event with
  | connect p => exact h
  | process env => exact process_holds srv env h
  | disconnect p =>
    unfold step
    dsimp only
    split
    · exact h.rests (.of_core (closeConnection_core srv i (some p)))
    · exact h
  | pushAdminCommand j command =>
    unfold step
    dsimp only
    by_cases hi : i = j
    · subst hi
      rw [modifySession_sessions_self]
      refine ⟨h.incoming, h.rejects, fun command' hmem => ?_⟩
      rcases List.mem_append.mp hmem with hmem | hmem
      · exact h.noSetting command' hmem
      · obtain rfl := List.mem_singleton.mp hmem
        exact hcontinues rfl
    · rw [modifySession_sessions_ne _ hi]
      exact h
  | receive p messages =>
    unfold step
    dsimp only
    split
    · next hconnected =>
      have hread : HeldAt k m now ((srv.processRxBuffer p messages).server.sessions i) :=
        Guarded.invariant (I := fun l : RxLoop => HeldAt k m now (l.server.sessions i))
          (fun _ _ hl hok => rxStep_heldAt hl hok) h (hcontinues hconnected)
      unfold onDataReady
      dsimp only
      split
      · exact hread
      · exact hread.rests (.of_core (closeConnection_core _ i (some p)))
    · exact h

end Run

end FixServer

namespace FixClient

open FixSession

/-! ## The client -/

/-- What goes on behind the message that was rejected: every message comes from the peer, and nobody
sets the incoming number. -/
def Continues (k : UInt32) (m : RxMessage) (now : Int) (c : FixClient) (event : Event) : Prop :=
  EachOfEvent (fun _ e => FromPeer k m now e.1 e.2.utcNow) c event ∧
    ∀ command, event = .pushAdminCommand command → command.type ≠ .setIncomingSequenceNumber

/-- The session is held, and has delivered no more than the messages `ns`. -/
structure HeldBehind (k : UInt32) (m : RxMessage) (now : Int) (ns : List UInt32)
    (s : FixSession) : Prop extends HeldAt k m now s where
  noLogonReset : s.settings.logonResetSequenceNumbers = false
  delivered : delivered s = ns

section Run

variable {k : UInt32} {m : RxMessage} {now : Int} {ns : List UInt32}

theorem HeldBehind.quiet {s s' : FixSession} (h : HeldBehind k m now ns s) (hquiet : Quiet s s') :
    HeldBehind k m now ns s' where
  incoming := hquiet.incoming.trans h.incoming
  rejects := by
    have hverdict : s'.verdict m now = s.verdict m now := by rw [verdict, verdict, hquiet.settings]
    rw [hverdict]
    exact h.rejects
  noSetting command hmem := h.noSetting command (hquiet.commands hmem)
  noLogonReset := by rw [hquiet.settings]; exact h.noLogonReset
  delivered := hquiet.delivered.trans h.delivered

theorem HeldBehind.handleMessage {c : FixClient} {e : RxMessage × ClientRxEnv}
    (h : HeldBehind k m now ns c.session) (hfrom : FromPeer k m now e.1 e.2.utcNow) :
    HeldBehind k m now ns (c.handleMessage e.1 e.2).session := by
  refine h.quiet ?_
  rcases handleMessage_cases c e.1 e.2 with
    ⟨code, errorTag, _, hc⟩ | ⟨_, hc⟩ | ⟨_, _, hc⟩ | ⟨_, _, hc⟩ | ⟨hpass, _⟩
  · have hreceived : Quiet c.session ((c.session.received e.1 e.2.nowNanoseconds).setLastErrorTag
        errorTag) := ⟨rfl, rfl, List.Subset.refl _, rfl⟩
    rw [hc]
    exact hreceived.trans (sendRejectMessage_quiet (c.modifySession fun s =>
      (s.received e.1 e.2.nowNanoseconds).setLastErrorTag errorTag) code errorTag e.2.send)
  · rw [hc]
    exact ⟨rfl, rfl, List.Subset.refl _, rfl⟩
  · -- The increment is undone when the ResendRequest is queued.
    have hundone : c.session.sequenceStore.incomingSeqNo + 1 - 1 =
        c.session.sequenceStore.incomingSeqNo := by grind
    rw [hc]
    exact ⟨hundone, rfl, List.Subset.refl _, rfl⟩
  · have hreset : Quiet c.session ((c.session.counted e.1 e.2.nowNanoseconds).setIncomingSeqNo
        c.session.sequenceStore.incomingSeqNo) := ⟨rfl, rfl, List.Subset.refl _, rfl⟩
    rw [hc]
    exact hreset.trans (doShutdownNow_quiet (c.modifySession fun s =>
      (s.counted e.1 e.2.nowNanoseconds).setIncomingSeqNo s.sequenceStore.incomingSeqNo))
  · simp only [passesChecks, Bool.and_eq_true, Bool.not_eq_true', decide_eq_true_eq] at hpass
    obtain ⟨⟨hvalid, habove⟩, -⟩ := hpass
    rcases h.toHeldAt.unexpected hfrom with hrejected | habove'
    · rw [hvalid] at hrejected
      cases hrejected
    · rw [habove] at habove'
      cases habove'

theorem heldBehind_kept :
    Kept (fun _ e => FromPeer k m now e.1 e.2.utcNow) (HeldBehind k m now ns) where
  quiet := HeldBehind.quiet
  message := HeldBehind.handleMessage
  noLogonReset := HeldBehind.noLogonReset
  noSetting h := h.noSetting

theorem step_heldBehind {c : FixClient} {event : Event} (h : HeldBehind k m now ns c.session)
    (hcontinues : Continues k m now c event) : HeldBehind k m now ns (c.step event).session := by
  refine heldBehind_kept.step h hcontinues.1 fun command hpush => ?_
  refine ⟨⟨h.incoming, h.rejects, fun command' hmem => ?_⟩, h.noLogonReset, h.delivered⟩
  rcases List.mem_append.mp hmem with hmem | hmem
  · exact h.noSetting command' hmem
  · obtain rfl := List.mem_singleton.mp hmem
    exact hcontinues.2 _ hpush

end Run

end FixClient

/-! ## Both engines -/

/-- Once a message with the expected number has been rejected, no continuation in which its peer
goes on with later messages and answers every ResendRequest moves the number, on the client over any
number of connections, on the server whatever the other sessions do. The client delivers nothing. -/
theorem rejected_never_counted (k : UInt32) (m : RxMessage) (now : Int) :
    (∀ (c : FixClient) (events : List FixClient.Event), c.session.HeldAt k m now →
      c.session.settings.logonResetSequenceNumbers = false →
      Guarded FixClient.step (FixClient.Continues k m now) c events →
      (run FixClient.step c events).session.sequenceStore.incomingSeqNo = k ∧
        FixClient.delivered (run FixClient.step c events).session =
          FixClient.delivered c.session) ∧
    (∀ (srv : FixServer) (i : Nat) (events : List FixServer.Event),
      (srv.sessions i).HeldAt k m now →
      Guarded FixServer.step (FixServer.Continues k m now i) srv events →
      ((run FixServer.step srv events).sessions i).sequenceStore.incomingSeqNo = k) := by
  constructor
  · intro c events hheld hreset hcontinues
    have hend : FixClient.HeldBehind k m now (FixClient.delivered c.session)
        (run FixClient.step c events).session :=
      hcontinues.invariant
        (I := fun c' => FixClient.HeldBehind k m now (FixClient.delivered c.session) c'.session)
        (fun _ _ h hok => FixClient.step_heldBehind h hok) ⟨hheld, hreset, rfl⟩
    exact ⟨hend.incoming, hend.delivered⟩
  · intro srv i events hheld hcontinues
    have hend : ((run FixServer.step srv events).sessions i).HeldAt k m now :=
      hcontinues.invariant (I := fun srv => (srv.sessions i).HeldAt k m now)
        (fun _ _ h hok => FixServer.step_heldAt h hok) hheld
    exact hend.incoming

/-- An execution report 6 that carries the CompID of somebody else. -/
def exampleStranger : RxMessage :=
  peerMessage { exampleSettings with targetCompId := text "OTHER" } msgTypeExecutionReport 6 []

/-- A `process` that reads that report and the one behind it. -/
def exampleStrangerEnv : ClientProcessEnv :=
  { read := .data [(exampleStranger, {}),
      (peerMessage exampleSettings msgTypeExecutionReport 7 [], {})] false }

/-- A logged-on server session that expects number 6, on connection 0. -/
def exampleHeldServer : FixServer :=
  { sessions := fun _ =>
      { state := .loggedOn, sequenceStore := { incomingSeqNo := 5 }, settings := exampleSettings }
    sessionCount := 1
    connectors := FixServerConnectors.update {} 0 0
    connected := fun p => p = 0 }

/-- Every `process` reads the report again, as the peer sends it once more. -/
theorem rejected_never_counted_stranger :
    (run FixClient.step FixClient.exampleReceiver [.process exampleStrangerEnv,
        .process exampleStrangerEnv]).session.sequenceStore.incomingSeqNo = 5 ∧
      ((run FixServer.step exampleHeldServer [.receive 0 [(exampleStranger, {})]]).sessions
        0).sequenceStore.incomingSeqNo = 5 := by
  have hagain : FixSession.FromPeer 5 exampleStranger 0 exampleStranger 0 :=
    .inl ⟨rfl, Int.le_refl 0⟩
  have hlater : FixSession.FromPeer 5 exampleStranger 0
      (peerMessage exampleSettings msgTypeExecutionReport 7 []) 0 := .inr (by decide +kernel)
  have hcontinues : ∀ c : FixClient,
      (c.processReads exampleStrangerEnv).session.adminCommands = [] →
      FixClient.Continues 5 exampleStranger 0 c (.process exampleStrangerEnv) := by
    intro c hcommands
    refine ⟨⟨fun _ _ => ⟨fun _ => hagain, fun _ => hlater, trivial⟩, ?_, ?_⟩, fun _ h => nomatch h⟩
    · unfold FixClient.EachOfAdminCommands FixSession.tryPopAdminCommand
      rw [hcommands]
      trivial
    · exact fun _ hvalid => absurd hvalid Bool.true_eq_false.mp
  have hnoCommand : ∀ command ∈ ([] : List ModifyingAdminCommand),
      command.type ≠ .setIncomingSequenceNumber := fun _ hmem => absurd hmem List.not_mem_nil
  obtain ⟨hclient, hserver⟩ := rejected_never_counted 5 exampleStranger 0
  constructor
  · refine (hclient FixClient.exampleReceiver _ ⟨rfl, by decide +kernel, hnoCommand⟩ rfl ?_).1
    exact ⟨hcontinues _ (by decide +kernel), hcontinues _ (by decide +kernel), trivial⟩
  · refine hserver exampleHeldServer 0 _ ⟨rfl, by decide +kernel, hnoCommand⟩
      ⟨fun _ => ⟨?_, trivial⟩, trivial⟩
    intro _ srv htarget
    obtain ⟨rfl, -⟩ := Prod.mk.inj htarget
    exact ⟨(fun h => nomatch h), hagain, fun h => nomatch h⟩

end Llfix
