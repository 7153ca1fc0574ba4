import Llfix.FixServer

/-!
# What a turn of `process` consists of

A turn sends, closes connections, and updates its session in a few ways: an `AdminUpdate` for a
command, a `TimerUpdate` around a send or a timer, and the wait behind a ResendRequest. A relation
between servers that each of these keeps is kept by the whole turn.

Results:
1. `RespectsTurn.processAdminCommands`, `RespectsTurn.processLive`: the two halves of a turn.
2. `RespectsTurn.processTurn`: the whole turn.
-/

namespace Llfix

namespace FixSession

/-- What a command does to its session, the setting of the incoming number aside. -/
inductive AdminUpdate : FixSession → FixSession → Prop
  | popped (s : FixSession) {command : ModifyingAdminCommand} {rest : List ModifyingAdminCommand} :
      s.adminCommands = command :: rest → AdminUpdate s { s with adminCommands := rest }
  | setOutgoingSeqNo (s : FixSession) (n : UInt32) : AdminUpdate s (s.setOutgoingSeqNo n)
  | disabled (s : FixSession) : AdminUpdate s (s.setState .disabled)
  | disconnected (s : FixSession) : AdminUpdate s (s.setState .disconnected)
  | reinitialised (s : FixSession) (recordsOnDisc : List UInt32) :
      AdminUpdate s (s.reinitialiseOutgoingSerialiser recordsOnDisc)

/-- What the steps of a live session do to it around their sends, those of a ResendRequest aside. -/
inductive TimerUpdate : FixSession → FixSession → Prop
  | testRequestBuilt (s : FixSession) : TimerUpdate s s.buildTestRequestMessage.1
  | testRequestSent (s : FixSession) (timestamp : UInt64) :
      TimerUpdate s (s.testRequestSent timestamp)
  | testRequestExpired (s : FixSession) :
      TimerUpdate s (s.setExpectingResponseForOutgoingTestRequest false)
  | resendRequestAnswered (s : FixSession) : TimerUpdate s s.resendRequestAnswered
  | testRequestAnswered (s : FixSession) : TimerUpdate s s.testRequestAnswered

/-- An update in a turn. -/
inductive TurnUpdate : FixSession → FixSession → Prop
  | admin {s s' : FixSession} : AdminUpdate s s' → TurnUpdate s s'
  | timer {s s' : FixSession} : TimerUpdate s s' → TurnUpdate s s'
  | resendRequestSent (s : FixSession) (timestamp : UInt64) :
      TurnUpdate s (s.resendRequestSent timestamp)

end FixSession

namespace FixServer

open FixSession

/-- What keeps the relation: doing nothing, one thing after another, sends and closures of any
session, and the updates `U` of session `i`. -/
structure Respects (i : Nat) (U : FixSession → FixSession → Prop)
    (R : FixServer → FixServer → Prop) : Prop where
  refl : ∀ srv, R srv srv
  trans : ∀ {srv srv' srv''}, R srv srv' → R srv' srv'' → R srv srv''
  sendBytes : ∀ srv j t o, R srv (srv.sendBytes j t o)
  closeConnection : ∀ srv peer, R srv (srv.closeConnection peer)
  modify : ∀ srv f, U (srv.sessions i) (f (srv.sessions i)) → R srv (srv.modifySession i f)

theorem Respects.processConnectionClosure {i : Nat} {U : FixSession → FixSession → Prop}
    {R : FixServer → FixServer → Prop} (h : Respects i U R) (srv : FixServer) (peer : Option Nat)
    (sendLogout : Bool) (reason : Bytes) (o : SendOutcome) :
    R srv (srv.processConnectionClosure peer sendLogout reason o) := by
  unfold FixServer.processConnectionClosure
  cases sendLogout with
  | false => exact h.closeConnection srv peer
  | true =>
    cases peer.bind srv.connectors.getSession with
    | none => exact h.closeConnection srv peer
    | some j => exact h.trans (h.sendBytes srv j _ o) (h.closeConnection _ peer)

/-- What keeps the relation in a turn of session `i`: of the single messages and of the closures
only those of the session itself. -/
structure RespectsTurn (i : Nat) (U : FixSession → FixSession → Prop)
    (R : FixServer → FixServer → Prop) : Prop where
  refl : ∀ srv, R srv srv
  trans : ∀ {srv srv' srv''}, R srv srv' → R srv' srv'' → R srv srv''
  sendBytes : ∀ srv t o, R srv (srv.sendBytes i t o)
  closure : ∀ srv sendLogout reason o, R srv
    (srv.processConnectionClosure (srv.connectors.getPeerIndex i) sendLogout reason o)
  modify : ∀ srv f, U (srv.sessions i) (f (srv.sessions i)) → R srv (srv.modifySession i f)

namespace RespectsTurn

variable {i : Nat} {U U' : FixSession → FixSession → Prop} {R : FixServer → FixServer → Prop}

theorem mono (h : RespectsTurn i U R) (hU : ∀ s s', U' s s' → U s s') : RespectsTurn i U' R :=
  ⟨h.refl, h.trans, h.sendBytes, h.closure, fun srv f hf => h.modify srv f (hU _ _ hf)⟩

theorem resendMessagesToClient (h : RespectsTurn i U R) (srv : FixServer)
    (beginSeqNo endSeqNo : UInt32) (o : UInt32 → SendOutcome) :
    R srv (srv.resendMessagesToClient i beginSeqNo endSeqNo o) := by
  unfold FixServer.resendMessagesToClient
  induction replayRange beginSeqNo endSeqNo generalizing srv with
  | nil => exact h.refl srv
  | cons n ns ih => exact h.trans (h.sendBytes srv (.replay n) (o n)) (ih _)

/-! ## Commands -/

section Admin

variable {R : FixServer → FixServer → Prop} (h : RespectsTurn i AdminUpdate R)
  (hrole : ∀ srv b, R srv { srv with isHaPrimary := b }) (srv : FixServer)

include h

theorem disableSession (o : SendOutcome) : R srv (srv.disableSession i o) := by
  unfold FixServer.disableSession
  refine h.trans ?_ (h.modify _ _ (.disabled _))
  split
  · exact h.closure srv _ _ _
  · exact h.refl srv

theorem enableSession (recordsOnDisc : List UInt32) :
    R srv (srv.enableSession i recordsOnDisc) := by
  have henabled := h.modify srv (·.setState .disconnected) (.disconnected _)
  unfold FixServer.enableSession
  split
  · dsimp only
    split
    · exact h.trans henabled (h.modify _ _ (.reinitialised _ _))
    · exact henabled
  · exact h.refl srv

include hrole

/-- One command, when the relation allows the number that it may set. -/
theorem processAdminCommand (command : ModifyingAdminCommand) (env : ProcessEnv)
    (hset : command.type = .setIncomingSequenceNumber →
      R srv (srv.modifySession i (·.setIncomingSeqNo command.arg))) :
    R srv (srv.processAdminCommand i command env) := by
  unfold FixServer.processAdminCommand
  cases htype : command.type with
  | setIncomingSequenceNumber => exact hset htype
  | setOutgoingSequenceNumber => exact h.modify srv _ (.setOutgoingSeqNo _ _)
  | sendSequenceReset =>
    dsimp only
    split
    · have hnumber := h.modify srv (fun _ => (srv.sessions i).setOutgoingSeqNo command.arg)
        (.setOutgoingSeqNo _ _)
      exact h.trans hnumber (h.sendBytes _ _ _)
    · exact h.refl srv
  | disableSession => exact h.disableSession srv _
  | enableSession =>
    dsimp only
    split
    · exact h.enableSession srv _
    · exact h.refl srv
  | setIsHaPrimaryInstance =>
    dsimp only
    split
    · exact h.trans (hrole srv _) (h.enableSession _ _)
    · exact h.trans (hrole srv _) (h.disableSession _ _)

theorem processAdminCommands (env : ProcessEnv)
    (hset : ∀ command ∈ (srv.sessions i).adminCommands,
      command.type = .setIncomingSequenceNumber →
        ∀ srv', R srv' (srv'.modifySession i (·.setIncomingSeqNo command.arg))) :
    R srv (srv.processAdminCommands i env) := by
  unfold FixServer.processAdminCommands tryPopAdminCommand
  cases hcommands : (srv.sessions i).adminCommands with
  | nil => exact h.refl srv
  | cons command rest =>
    have hmem : command ∈ (srv.sessions i).adminCommands := by
      rw [hcommands]
      exact List.mem_cons_self
    have hpopped := h.modify srv (fun _ => { srv.sessions i with adminCommands := rest })
      (.popped _ hcommands)
    exact h.trans hpopped (h.processAdminCommand hrole _ command env fun htype =>
      hset command hmem htype _)

end Admin

/-! ## Timers and answers -/

section Live

variable {R : FixServer → FixServer → Prop} (h : RespectsTurn i TimerUpdate R) (srv : FixServer)
  (env : ProcessEnv)

include h

theorem processOutgoingTestRequest : R srv (srv.processOutgoingTestRequestIfNecessary i env) := by
  unfold processOutgoingTestRequestIfNecessary
  dsimp only
  split_ifs
  · have hbuilt := h.modify srv (fun _ => (srv.sessions i).buildTestRequestMessage.1)
      (.testRequestBuilt _)
    exact h.trans (h.trans hbuilt (h.sendBytes _ _ _)) (h.modify _ _ (.testRequestSent _ _))
  · exact h.refl srv
  · exact h.trans (h.modify srv _ (.testRequestExpired _)) (h.closure _ _ _ _)
  · exact h.refl srv

theorem respondToResendRequest : R srv (srv.respondToResendRequestIfNecessary i env) := by
  unfold respondToResendRequestIfNecessary
  dsimp only
  split_ifs
  · exact h.trans (h.resendMessagesToClient srv _ _ _) (h.modify _ _ (.resendRequestAnswered _))
  · exact h.trans (h.sendBytes srv _ _) (h.modify _ _ (.resendRequestAnswered _))
  · exact h.refl srv

theorem respondToTestRequest : R srv (srv.respondToTestRequestIfNecessary i env) := by
  unfold respondToTestRequestIfNecessary
  dsimp only
  split_ifs
  · exact h.trans (h.sendBytes srv _ _) (h.modify _ _ (.testRequestAnswered _))
  · exact h.refl srv

theorem sendHeartbeat : R srv (srv.sendHeartbeatIfNecessary i env) := by
  unfold sendHeartbeatIfNecessary
  split
  · exact h.sendBytes srv _ _
  · exact h.refl srv

theorem processScheduleValidator : R srv (srv.processScheduleValidator i env) := by
  unfold FixServer.processScheduleValidator
  split
  · exact h.closure srv _ _ _
  · exact h.refl srv

end Live

/-! ## `process` -/

section Turn

variable {R : FixServer → FixServer → Prop} (h : RespectsTurn i TurnUpdate R) (srv : FixServer)
  (env : ProcessEnv)

include h

theorem processOutgoingResendRequest :
    R srv (srv.processOutgoingResendRequestIfNecessary i env) := by
  unfold processOutgoingResendRequestIfNecessary
  dsimp only
  split_ifs
  · exact h.closure srv _ _ _
  · exact h.refl srv
  · exact h.trans (h.sendBytes srv _ _) (h.modify _ _ (.resendRequestSent _ _))
  · exact h.refl srv

theorem processLive : R srv (srv.processLive i env) := by
  have htimer : RespectsTurn i TimerUpdate R := h.mono fun _ _ => .timer
  exact h.trans (h.processOutgoingResendRequest srv env)
    (h.trans (htimer.processOutgoingTestRequest _ env)
      (h.trans (htimer.respondToResendRequest _ env)
        (h.trans (htimer.respondToTestRequest _ env)
          (h.trans (htimer.sendHeartbeat _ env) (htimer.processScheduleValidator _ env)))))

theorem processTurn (hrole : ∀ srv b, R srv { srv with isHaPrimary := b })
    (hset : ∀ command ∈ (srv.sessions i).adminCommands,
      command.type = .setIncomingSequenceNumber →
        ∀ srv', R srv' (srv'.modifySession i (·.setIncomingSeqNo command.arg))) :
    R srv (srv.processTurn i env) := by
  have hadmin := (h.mono fun _ _ => .admin).processAdminCommands hrole srv env hset
  unfold FixServer.processTurn
  dsimp only
  split
  · exact h.trans hadmin (h.processLive _ env)
  · exact hadmin

end Turn

end RespectsTurn

/-! ### Relations that allow any send -/

namespace Respects

variable {i : Nat} {U U' : FixSession → FixSession → Prop} {R : FixServer → FixServer → Prop}

theorem mono (h : Respects i U R) (hU : ∀ s s', U' s s' → U s s') : Respects i U' R :=
  ⟨h.refl, h.trans, h.sendBytes, h.closeConnection, fun srv f hf => h.modify srv f (hU _ _ hf)⟩

theorem turn (h : Respects i U R) : RespectsTurn i U R :=
  ⟨h.refl, h.trans, fun srv => h.sendBytes srv i,
    fun srv => h.processConnectionClosure srv (srv.connectors.getPeerIndex i), h.modify⟩

end Respects

theorem processAdminCommands_related {i : Nat} {R : FixServer → FixServer → Prop}
    (h : Respects i AdminUpdate R) (hrole : ∀ srv b, R srv { srv with isHaPrimary := b })
    (srv : FixServer) (env : ProcessEnv)
    (hset : ∀ command ∈ (srv.sessions i).adminCommands,
      command.type = .setIncomingSequenceNumber →
        ∀ srv', R srv' (srv'.modifySession i (·.setIncomingSeqNo command.arg))) :
    R srv (srv.processAdminCommands i env) :=
  h.turn.processAdminCommands hrole srv env hset

section Live

variable {i : Nat} {R : FixServer → FixServer → Prop} (h : Respects i TimerUpdate R)
  (srv : FixServer) (env : ProcessEnv)

include h

theorem processOutgoingTestRequest_related :
    R srv (srv.processOutgoingTestRequestIfNecessary i env) :=
  h.turn.processOutgoingTestRequest srv env

theorem respondToResendRequest_related :
    R srv (srv.respondToResendRequestIfNecessary i env) :=
  h.turn.respondToResendRequest srv env

theorem respondToTestRequest_related : R srv (srv.respondToTestRequestIfNecessary i env) :=
  h.turn.respondToTestRequest srv env

theorem sendHeartbeat_related : R srv (srv.sendHeartbeatIfNecessary i env) :=
  h.turn.sendHeartbeat srv env

theorem processScheduleValidator_related : R srv (srv.processScheduleValidator i env) :=
  h.turn.processScheduleValidator srv env

end Live

section Process

variable {R : FixServer → FixServer → Prop}

theorem processTurn_related {i : Nat} (h : Respects i TurnUpdate R)
    (hrole : ∀ srv b, R srv { srv with isHaPrimary := b }) (srv : FixServer) (env : ProcessEnv)
    (hset : ∀ command ∈ (srv.sessions i).adminCommands,
      command.type = .setIncomingSequenceNumber →
        ∀ srv', R srv' (srv'.modifySession i (·.setIncomingSeqNo command.arg))) :
    R srv (srv.processTurn i env) :=
  h.turn.processTurn srv env hrole hset

theorem sendLogoutMessages_related (h : ∀ i, Respects i AdminUpdate R) (srv : FixServer)
    (env : Nat → ProcessEnv) : R srv (srv.sendLogoutMessagesToAllSessions env) := by
  unfold sendLogoutMessagesToAllSessions
  induction List.range srv.sessionCount generalizing srv with
  | nil => exact (h 0).refl srv
  | cons j js ih =>
    rw [List.foldl_cons]
    refine (h j).trans ?_ (ih _)
    split
    · exact (h j).trans ((h j).sendBytes srv j _ _) ((h j).modify _ _ (.disconnected _))
    · exact (h j).refl srv

end Process

end FixServer

end Llfix
