import Llfix.Server.NewMessages

/-!
# What the other sessions of the server do

Session `i` has its connection. What the server does for its other sessions, in their turns and on
the messages of their peers, leaves it as it is, and so does a Logon on another connection.

Results:
1. `processTurn_spares`: the turn of another session.
2. `handleMessage_spares`: a message of another session.
3. `onDataReady_spares`: a read of another connection, while the session is live.
-/

namespace Llfix

namespace FixServer

open FixSession

variable {i p : Nat} {srv srv' srv'' : FixServer}

/-- Session `i` keeps its connection and everything else. -/
def Spares (i p : Nat) (srv srv' : FixServer) : Prop :=
  srv.Holding i p → srv.connected p = true →
    srv'.Holding i p ∧ srv'.connected p = true ∧ srv'.sessions i = srv.sessions i

theorem Spares.refl (srv : FixServer) : Spares i p srv srv := fun h hp => ⟨h, hp, rfl⟩

theorem Spares.trans (h : Spares i p srv srv') (h' : Spares i p srv' srv'') :
    Spares i p srv srv'' := by
  intro hholding hp
  obtain ⟨hholding', hp', hsame⟩ := h hholding hp
  obtain ⟨hholding'', hp'', hsame'⟩ := h' hholding' hp'
  exact ⟨hholding'', hp'', hsame'.trans hsame⟩

theorem Spares.modify {j : Nat} (hj : j ≠ i) (srv : FixServer) (f : FixSession → FixSession) :
    Spares i p srv (srv.modifySession j f) := fun h hp =>
  ⟨(Moves.modify_other hj srv f).holding h, hp, modifySession_sessions_ne srv (Ne.symm hj) f⟩

theorem Spares.onSlot (srv : FixServer) (operation : SlotOperation) :
    Spares i p srv (srv.onSlot operation) := fun h hp => ⟨h.aside rfl rfl rfl, hp, rfl⟩

/-- The connection of another session goes. -/
theorem Spares.disconnect {q : Nat} (hq : q ≠ p) (srv : FixServer) :
    Spares i p srv (srv.onClientDisconnected q) := by
  intro h hp
  obtain ⟨hserved, hsame⟩ := (h hp).disconnect hq
  refine ⟨fun _ => hserved, ?_, hsame⟩
  rw [onClientDisconnected_connected, Function.update_of_ne (Ne.symm hq)]
  exact hp

/-- The connection of another session is another one. -/
theorem Holding.peer_ne (h : srv.Holding i p) (hp : srv.connected p = true) {j q : Nat}
    (hj : j ≠ i) (hq : srv.connectors.getPeerIndex j = some q) : q ≠ p := by
  rintro rfl
  exact hj ((h hp).own j hq)

theorem sendBytes_spares {j : Nat} (hj : j ≠ i) (srv : FixServer) (t : Transmission)
    (o : SendOutcome) : Spares i p srv (srv.sendBytes j t o) := by
  cases hpeer : srv.connectors.getPeerIndex j with
  | none =>
    rw [sendBytes_unmapped srv j hpeer]
    exact .refl srv
  | some q =>
    intro h hp
    have hq : q ≠ p := h.peer_ne hp hj hpeer
    have hslot : Spares i p srv (srv.onSlot (.sent q)) := .onSlot srv _
    by_cases ho : o.result = .connectionLost
    · rw [sendBytes_lost srv j hpeer t ho]
      exact (((hslot.trans (.modify hj _ _)).trans (.disconnect hq _)).trans (.modify hj _ _)) h hp
    · rw [sendBytes_held srv j hpeer t ho]
      exact (hslot.trans (.modify hj _ _)) h hp

/-- Another connection is closed. -/
theorem closure_spares {peer : Option Nat} (hpeer : ∀ q, peer = some q → q ≠ p) (srv : FixServer)
    (sendLogout : Bool) (reason : Bytes) (o : SendOutcome) :
    Spares i p srv (srv.processConnectionClosure peer sendLogout reason o) := by
  intro h hp
  have hclose : ∀ srv', Spares i p srv' (srv'.closeConnection peer) := by
    intro srv'
    cases hq : peer with
    | none => exact fun h hp => ⟨h.aside rfl rfl rfl, hp, rfl⟩
    | some q => exact .disconnect (hpeer q hq) srv'
  unfold processConnectionClosure
  cases sendLogout with
  | false => exact hclose srv h hp
  | true =>
    dsimp only
    rw [if_pos rfl]
    split
    · next k hk =>
      -- The Logout goes to another session, since the connection is another one.
      obtain ⟨q, hq, hserved⟩ := Option.bind_eq_some_iff.mp hk
      have hk : k ≠ i := by
        rintro rfl
        exact hpeer q hq ((h hp).sole q hserved)
      have hsend : Spares i p srv (srv.sendLogoutMessage k reason o) :=
        sendBytes_spares hk srv _ o
      exact (hsend.trans (hclose _)) h hp
    · exact hclose srv h hp

/-- Another session closes its connection. -/
theorem closeOwn_spares {j : Nat} (hj : j ≠ i) {srv srv' : FixServer} (sendLogout : Bool)
    (reason : Bytes) (o : SendOutcome)
    (hsame : srv'.connectors.getPeerIndex j = srv.connectors.getPeerIndex j) :
    Spares i p srv' (srv'.processConnectionClosure (srv.connectors.getPeerIndex j) sendLogout
      reason o) := fun h hp =>
  closure_spares (fun _ hq => h.peer_ne hp hj (hsame.trans hq)) srv' sendLogout reason o h hp

/-- The turn of another session. -/
theorem processTurn_spares {j : Nat} (hj : j ≠ i) (srv : FixServer) (env : ProcessEnv) :
    Spares i p srv (srv.processTurn j env) := by
  have hrespects : RespectsTurn j TurnUpdate (Spares i p) :=
    ⟨.refl, .trans, sendBytes_spares hj,
      fun _ sendLogout reason o => closeOwn_spares hj sendLogout reason o rfl,
      fun srv f _ => .modify hj srv f⟩
  exact hrespects.processTurn srv env (fun _ _ h hp => ⟨h.aside rfl rfl rfl, hp, rfl⟩)
    fun _ _ _ srv' => .modify hj srv' _

/-! ## Messages -/

section Message

variable {j q : Nat} {rx : RxMessage} {env : ServerRxEnv}

theorem processLogonRequest_spares (hj : j ≠ i) (hq : q ≠ p) (srv : FixServer)
    (m : IncomingFixMessage) : Spares i p srv (srv.processLogonRequest j q m env) := by
  cases h : validateLogonRequest m && env.authenticated with
  | false =>
    rw [processLogonRequest_refused srv j q m env h]
    exact .disconnect hq srv
  | true =>
    have hsent : Spares i p srv ((srv.modifySession j (authenticated · m)).sendLogonResponse j
        env.send) := (Spares.modify hj srv _).trans (sendBytes_spares hj _ _ _)
    rw [processLogonRequest_authenticated srv j q m env h]
    exact (hsent.trans (.modify hj _ _)).trans (.modify hj _ _)

theorem processLogoutRequest_spares (hj : j ≠ i) (srv : FixServer) (m : IncomingFixMessage) :
    Spares i p srv (srv.processLogoutRequest j m env) := by
  have hsent : Spares i p srv (srv.sendLogoutMessage j [] env.send) := sendBytes_spares hj srv _ _
  unfold processLogoutRequest
  exact (hsent.trans (.modify hj _ _)).trans (.modify hj _ _)

theorem processSequenceReset_spares (hj : j ≠ i) (srv : FixServer) (m : IncomingFixMessage) :
    Spares i p srv (srv.processSequenceReset j m env) := by
  unfold processSequenceReset
  dsimp only
  split
  · exact (Spares.modify hj srv _).trans (sendBytes_spares hj _ _ _)
  · exact .modify hj srv _

theorem dispatch_spares (hj : j ≠ i) (hq : q ≠ p) (srv : FixServer) (m : IncomingFixMessage) :
    Spares i p srv (srv.dispatch j q m env) := by
  rcases dispatch_cases srv j q m env with
    ⟨_, h⟩ | ⟨_, h⟩ | ⟨_, h⟩ | ⟨_, h⟩ | ⟨_, h⟩ | ⟨_, h⟩ | ⟨_, cb, _, h⟩
  · rw [h]
    exact processLogonRequest_spares hj hq srv m
  · rw [h]
    exact processLogoutRequest_spares hj srv m
  · rw [h]
    exact processSequenceReset_spares hj srv m
  · rw [h]
    exact (Spares.modify hj srv _).trans (.modify hj _ _)
  · rw [h]
    exact (Spares.modify hj srv _).trans (.modify hj _ _)
  · rw [h]
    exact .modify hj srv _
  · rw [h]
    exact .modify hj srv _

theorem processInSequence_spares (hj : j ≠ i) (hq : q ≠ p) (srv : FixServer) :
    Spares i p srv (srv.processInSequence j q rx env) := by
  have hpassed : Spares i p srv (srv.modifySession j (·.passed rx env.throttlerReachedLimit)) :=
    .modify hj srv _
  rcases processInSequence_cases srv j q rx env with ⟨_, ⟨_, h⟩ | h⟩ | ⟨_, h⟩
  · rw [h]
    exact hpassed.trans (closeOwn_spares hj _ _ _ rfl)
  · rw [h]
    exact hpassed.trans (sendBytes_spares hj _ _ _)
  · rw [h]
    exact hpassed.trans (dispatch_spares hj hq _ _)

/-- A message of another session, on another connection. -/
theorem handleMessage_spares (hj : j ≠ i) (hq : q ≠ p) (srv : FixServer) :
    Spares i p srv (srv.handleMessage j q rx env) := by
  rcases handleMessage_cases srv j q rx env with
    ⟨code, errorTag, _, h⟩ | ⟨_, h⟩ | ⟨_, _, _, h⟩ | ⟨_, _, sendLogout, reason, h⟩ | ⟨_, h⟩
  · rw [h]
    exact (Spares.modify hj srv _).trans (sendBytes_spares hj _ _ _)
  · rw [h]
    exact .modify hj srv _
  · rw [h]
    exact .modify hj srv _
  · have hother : ∀ q', some q = some q' → q' ≠ p := fun _ hsome => Option.some.inj hsome ▸ hq
    rw [h]
    exact (Spares.modify hj srv _).trans (closure_spares hother _ _ _ _)
  · rw [h]
    exact (Spares.modify hj srv _).trans (processInSequence_spares hj hq _)

/-- A Logon gives another connection to another session. -/
theorem accept_spares (hj : j ≠ i) (hq : q ≠ p) (srv : FixServer) (f : FixSession → FixSession) :
    Spares i p srv
      (({ srv with connectors := srv.connectors.update q j } : FixServer).modifySession j f) := by
  intro h hp
  have hsame := modifySession_sessions_ne
    { srv with connectors := srv.connectors.update q j } (Ne.symm hj) f
  -- Connection `p` is not the one that session `j` had before.
  have hbefore : srv.connectors.getPeerIndex j ≠ some p := fun hmapped =>
    hj ((h hp).own j hmapped)
  refine ⟨fun _ => ⟨?_, ?_, fun q' hq' => ?_, fun j' hj' => ?_, ?_⟩, hp, hsame⟩
  · rw [modifySession_connectors, update_getSession, if_neg (Ne.symm hq), if_neg hbefore]
    exact (h hp).session
  · rw [modifySession_connectors, update_getPeerIndex, if_neg (Ne.symm hj)]
    exact (h hp).peer
  · rw [modifySession_connectors, update_getSession] at hq'
    split at hq'
    · exact absurd (Option.some.inj hq') hj
    · split at hq'
      · cases hq'
      · exact (h hp).sole q' hq'
  · rw [modifySession_connectors, update_getPeerIndex] at hj'
    split at hj'
    · exact absurd (Option.some.inj hj') hq
    · exact (h hp).own j' hj'
  · rw [hsame]
    exact (h hp).known

/-- The loop over the messages of another connection. A Logon for the session itself is refused
while the session is live. -/
theorem foldl_rxStep_spares (hq : q ≠ p) {messages : List (RxMessage × ServerRxEnv)} {l : RxLoop}
    (hlive : isStateLive (l.server.sessions i).state = true) (hsession : l.session ≠ some i)
    (hholding : l.server.Holding i p) (hp : l.server.connected p = true) :
    (messages.foldl (rxStep q) l).server.Holding i p ∧
      (messages.foldl (rxStep q) l).server.connected p = true ∧
        (messages.foldl (rxStep q) l).server.sessions i = l.server.sessions i := by
  induction messages generalizing l with
  | nil => exact ⟨hholding, hp, rfl⟩
  | cons e messages ih =>
    rw [List.foldl_cons]
    have hstep : (rxStep q l e).session ≠ some i ∧
        Spares i p l.server (rxStep q l e).server := by
      unfold rxStep
      split
      · exact ⟨hsession, .refl _⟩
      · split
        · next srv htarget =>
          obtain ⟨-, -, rfl⟩ := target_none htarget
          exact ⟨fun hnone => (nomatch hnone), .disconnect hq _⟩
        · next srv j htarget =>
          have hother : j ≠ i ∧ Spares i p l.server srv := by
            rcases target_some htarget with ⟨hmapped, rfl⟩ | ⟨-, hfound, rfl⟩
            · exact ⟨fun heq => hsession (heq ▸ hmapped), .refl _⟩
            · have hj : j ≠ i := by
                rintro rfl
                rw [(findLogonSession_state hfound).1] at hlive
                cases hlive
              exact ⟨hj, accept_spares hj hq _ _⟩
          exact ⟨fun heq => hother.1 (Option.some.inj heq),
            hother.2.trans (handleMessage_spares hother.1 hq _)⟩
    obtain ⟨hsession', hspares⟩ := hstep
    obtain ⟨hholding', hp', hsame⟩ := hspares hholding hp
    obtain ⟨hholding'', hp'', hsame'⟩ := ih (hsame ▸ hlive) hsession' hholding' hp'
    exact ⟨hholding'', hp'', hsame'.trans hsame⟩

/-- A read of another connection, while the session is live. -/
theorem onDataReady_spares (hq : q ≠ p) (messages : List (RxMessage × ServerRxEnv))
    (hlive : isStateLive (srv.sessions i).state = true) :
    Spares i p srv (srv.onDataReady q messages) := by
  intro h hp
  have hsession : srv.connectors.getSession q ≠ some i := fun hmapped =>
    hq ((h hp).sole q hmapped)
  have hbuffer : Spares i p srv (srv.processRxBuffer q messages).server := fun h hp =>
    foldl_rxStep_spares (l := { server := srv, session := srv.connectors.getSession q }) hq hlive
      hsession h hp
  unfold onDataReady
  dsimp only
  split
  · exact hbuffer h hp
  · exact (hbuffer.trans (.disconnect hq _)) h hp

end Message

end FixServer

end Llfix
