import Llfix.Retransmission
import Llfix.Server.RefusedLogons
import Llfix.Server.SlotIsolation

/-!
# Disabled sessions of the server

`disable_session` closes the connection of a session that is live. A session in another state,
such as `PENDING_LOGON` or `LOGGED_OUT`, keeps its connection, and with it the ways out of
`DISABLED`: the connection may send a Logon, or be lost.

Results:
1. `Leaves.trans`, `processTurn_leaves`, `onDataReady_leaves`: what is done for other sessions
   leaves a session without a connection alone.
2. `act_parked`: a disabled session without a connection remains as it is until it is enabled.
3. `staysDisabled_iff`: a session stays disabled exactly when the command leaves it without a
   connection.
-/

namespace Llfix

open FixSession GuardedRun

/-! ## Commands -/

/-- `DISABLE_SESSION`, or `SET_IS_HA_PRIMARY_INSTANCE` for a secondary instance. -/
def ModifyingAdminCommand.disables (command : ModifyingAdminCommand) : Bool :=
  command.type = .disableSession || command.type = .setIsHaPrimaryInstance && command.arg ≠ 1

/-- `ENABLE_SESSION` on a primary instance, or `SET_IS_HA_PRIMARY_INSTANCE` for a primary one. -/
def ModifyingAdminCommand.enables (isHaPrimary : Bool) (command : ModifyingAdminCommand) : Bool :=
  command.type = .enableSession && isHaPrimary ||
    command.type = .setIsHaPrimaryInstance && command.arg = 1

namespace FixSession

/-- The command that `process_admin_commands` takes next. -/
def nextCommand (s : FixSession) (P : ModifyingAdminCommand → Bool) : Bool :=
  s.adminCommands.head?.any P

theorem tryPopAdminCommand_none {s : FixSession} (h : s.adminCommands = []) :
    s.tryPopAdminCommand = none := by
  rw [tryPopAdminCommand, h]

theorem tryPopAdminCommand_cons {s : FixSession} {command : ModifyingAdminCommand}
    {rest : List ModifyingAdminCommand} (h : s.adminCommands = command :: rest) :
    s.tryPopAdminCommand = some (command, { s with adminCommands := rest }) := by
  rw [tryPopAdminCommand, h]

/-- Since `s` the session enters no state but `DISABLED`, sends nothing and calls nothing. -/
structure RemainsDisabled (s s' : FixSession) : Prop where
  state : s'.state = .disabled
  history : Extends (· = .state .disabled) s s'

namespace RemainsDisabled

variable {s s' s'' : FixSession}

theorem refl (h : s.state = .disabled) : RemainsDisabled s s := ⟨h, .refl _ s⟩

theorem trans (h : RemainsDisabled s s') (h' : RemainsDisabled s' s'') : RemainsDisabled s s'' :=
  ⟨h'.state, h.history.trans h'.history⟩

theorem of_eq (h : s.state = .disabled) (hstate : s'.state = s.state) (htrace : s'.trace = s.trace) :
    RemainsDisabled s s' :=
  ⟨hstate.trans h, .of_trace_eq htrace⟩

theorem setState (s : FixSession) : RemainsDisabled s (s.setState .disabled) :=
  ⟨rfl, .setState s rfl⟩

end RemainsDisabled

end FixSession

namespace FixServer

/-! ## Sessions without a connection -/

theorem Effects.isStopping {srv srv' : FixServer} (h : Effects srv srv') :
    srv'.isStopping = srv.isStopping := by
  induction h with
  | refl => rfl
  | modify i f _ ih => exact ih
  | send i p _ _ ih => exact ih
  | @disconnect srv' p _ ih =>
    cases hp : srv'.connectors.getSession p with
    | none => rw [onClientDisconnected_unmapped _ p hp]; exact ih
    | some i => rw [onClientDisconnected_mapped _ p hp]; exact ih
  | closeInvalid _ ih => exact ih
  | setRole b _ ih => exact ih

theorem Effects.inverse {srv srv' : FixServer} (h : Effects srv srv') (hs : srv.TablesInverse) :
    srv'.TablesInverse := by
  induction h with
  | refl => exact hs
  | modify i f _ ih => exact ih
  | send i p _ _ ih => exact ih
  | disconnect p _ ih => exact ih.onClientDisconnected p
  | closeInvalid _ ih => exact ih
  | setRole b _ ih => exact ih

theorem Effects.mappedConnected {srv srv' : FixServer} (h : Effects srv srv')
    (hs : srv.MappedConnected) : srv'.MappedConnected := by
  induction h with
  | refl => exact hs
  | modify i f _ ih => exact ih
  | send i p _ _ ih => exact ih
  | disconnect p _ ih => exact ih.onClientDisconnected p
  | closeInvalid _ ih => exact ih
  | setRole b _ ih => exact ih

/-- A session that no connection is mapped to is left alone. -/
structure Leaves (k : Nat) (srv srv' : FixServer) : Prop where
  inverse : srv.TablesInverse → srv'.TablesInverse
  unmapped : Unmapped k srv → Unmapped k srv'
  session : srv.TablesInverse → Unmapped k srv → srv'.sessions k = srv.sessions k

namespace Leaves

variable {k i : Nat} {srv srv' srv'' : FixServer}

theorem refl (srv : FixServer) : Leaves k srv srv := ⟨id, id, fun _ _ => rfl⟩

theorem trans (h : Leaves k srv srv') (h' : Leaves k srv' srv'') : Leaves k srv srv'' where
  inverse := h'.inverse ∘ h.inverse
  unmapped := h'.unmapped ∘ h.unmapped
  session hinv hun :=
    (h'.session (h.inverse hinv) (h.unmapped hun)).trans (h.session hinv hun)

theorem of_steps {R : FixSession → FixSession → Prop} (hi : i ≠ k) (h : Steps i R srv srv') :
    Leaves k srv srv' :=
  ⟨h.tablesInverse, h.unmapped, h.leaves (Ne.symm hi)⟩

theorem modify (hi : i ≠ k) (f : FixSession → FixSession) :
    Leaves k srv (srv.modifySession i f) :=
  ⟨id, id, fun _ _ => modifySession_sessions_ne srv (Ne.symm hi) f⟩

theorem setRole (b : Bool) : Leaves k srv { srv with isHaPrimary := b } := ⟨id, id, fun _ _ => rfl⟩

/-- Sends for a session without a connection do nothing. -/
theorem sendBytes (srv : FixServer) (i : Nat) (t : Transmission) (o : SendOutcome) :
    Leaves k srv (srv.sendBytes i t o) where
  inverse := (sendBytes_steps srv i t o).tablesInverse
  unmapped := (sendBytes_steps srv i t o).unmapped
  session hinv hun := by
    by_cases hi : k = i
    · subst hi
      rw [sendBytes_unmapped srv k hun]
    · exact (sendBytes_steps srv i t o).leaves hi hinv hun

theorem closeConnection (srv : FixServer) (peer : Option Nat) :
    Leaves k srv (srv.closeConnection peer) :=
  .of_steps (Nat.succ_ne_self k) (closeConnection_steps srv (k + 1) SendUpdate peer)

theorem processConnectionClosure (srv : FixServer) (peer : Option Nat) (sendLogout : Bool)
    (reason : Bytes) (o : SendOutcome) :
    Leaves k srv (srv.processConnectionClosure peer sendLogout reason o) := by
  unfold FixServer.processConnectionClosure
  cases sendLogout with
  | false => exact .closeConnection srv peer
  | true =>
    cases peer.bind srv.connectors.getSession with
    | none => exact .closeConnection srv peer
    | some j => exact (Leaves.sendBytes srv j _ o).trans (.closeConnection _ peer)

end Leaves

/-- The turn of another session. -/
theorem processTurn_leaves {k i : Nat} (srv : FixServer) (hi : i ≠ k) (env : ProcessEnv) :
    Leaves k srv (srv.processTurn i env) := by
  have hrespects : Respects i TurnUpdate (Leaves k) :=
    ⟨.refl, .trans, .sendBytes, .closeConnection, fun _ f _ => .modify hi f⟩
  exact processTurn_related hrespects (fun _ => .setRole) srv env fun _ _ _ _ => .modify hi _

/-! ## A disabled session without a connection -/

/-- The session is disabled, and no connection is mapped to it. -/
structure Parked (k : Nat) (srv : FixServer) : Prop where
  inverse : srv.TablesInverse
  unmapped : Unmapped k srv
  state : (srv.sessions k).state = .disabled

/-- The session stays parked and remains disabled. -/
structure StaysParked (k : Nat) (srv srv' : FixServer) : Prop where
  parked : Parked k srv'
  remains : RemainsDisabled (srv.sessions k) (srv'.sessions k)

section Parked

variable {k : Nat} {srv srv' srv'' : FixServer}

theorem Parked.refl (h : Parked k srv) : StaysParked k srv srv := ⟨h, .refl h.state⟩

theorem StaysParked.trans (h : StaysParked k srv srv') (h' : StaysParked k srv' srv'') :
    StaysParked k srv srv'' :=
  ⟨h'.parked, h.remains.trans h'.remains⟩

theorem Leaves.parked (h : Leaves k srv srv') (hp : Parked k srv) : StaysParked k srv srv' := by
  have hsession := h.session hp.inverse hp.unmapped
  have hstate : (srv'.sessions k).state = .disabled := by rw [hsession, hp.state]
  refine ⟨⟨h.inverse hp.inverse, h.unmapped hp.unmapped, hstate⟩, ?_⟩
  exact .of_eq hp.state (by rw [hsession]) (by rw [hsession])

/-- An update of the session itself. -/
theorem Parked.modify (h : Parked k srv) {f : FixSession → FixSession}
    (hf : RemainsDisabled (srv.sessions k) (f (srv.sessions k))) :
    StaysParked k srv (srv.modifySession k f) := by
  have hself : (srv.modifySession k f).sessions k = f (srv.sessions k) :=
    modifySession_sessions_self srv k f
  refine ⟨⟨h.inverse, h.unmapped, ?_⟩, ?_⟩
  · rw [hself]
    exact hf.state
  · rw [hself]
    exact hf

theorem Parked.onClientDisconnected (h : Parked k srv) (p : Nat) :
    StaysParked k srv (srv.onClientDisconnected p) :=
  Leaves.parked (.closeConnection srv (some p)) h

/-- A disabled session is not live. -/
theorem Parked.notLive (h : Parked k srv) : isStateLive (srv.sessions k).state = false := by
  rw [h.state]
  rfl

theorem Parked.disableSession (h : Parked k srv) (o : SendOutcome) :
    StaysParked k srv (srv.disableSession k o) := by
  unfold FixServer.disableSession
  rw [h.notLive, if_neg Bool.false_ne_true]
  exact h.modify (.setState _)

/-- A command that does not enable the session. -/
theorem Parked.processAdminCommand (h : Parked k srv) {command : ModifyingAdminCommand}
    (hnot : command.enables srv.isHaPrimary = false) (env : ProcessEnv) :
    StaysParked k srv (srv.processAdminCommand k command env) := by
  unfold FixServer.processAdminCommand
  cases htype : command.type with
  | setIncomingSequenceNumber => exact h.modify (.of_eq h.state rfl rfl)
  | setOutgoingSequenceNumber => exact h.modify (.of_eq h.state rfl rfl)
  | sendSequenceReset =>
    dsimp only
    rw [h.state, if_neg (by decide)]
    exact h.refl
  | disableSession => exact h.disableSession _
  | enableSession =>
    have hsecondary : srv.isHaPrimary = false := by
      simpa [ModifyingAdminCommand.enables, htype] using hnot
    dsimp only
    rw [hsecondary, if_neg Bool.false_ne_true]
    exact h.refl
  | setIsHaPrimaryInstance =>
    have harg : command.arg ≠ 1 := by
      simpa [ModifyingAdminCommand.enables, htype] using hnot
    dsimp only
    rw [if_neg harg]
    have hrole : StaysParked k srv { srv with isHaPrimary := command.arg = 1 } :=
      Leaves.parked (.setRole _) h
    exact hrole.trans (hrole.parked.disableSession _)

/-- The turn does not enable the session. -/
def TurnEnablesNot (k : Nat) (srv : FixServer) (i : Nat) : Prop :=
  i = k → (srv.sessions k).nextCommand (·.enables srv.isHaPrimary) = false

theorem Parked.processTurn (h : Parked k srv) {i : Nat} (hnot : TurnEnablesNot k srv i)
    (env : ProcessEnv) : StaysParked k srv (srv.processTurn i env) := by
  by_cases hi : i = k
  · subst hi
    have hadmin : StaysParked i srv (srv.processAdminCommands i env) := by
      unfold FixServer.processAdminCommands
      cases hcommands : (srv.sessions i).adminCommands with
      | nil =>
        rw [tryPopAdminCommand_none hcommands]
        exact h.refl
      | cons command rest =>
        rw [tryPopAdminCommand_cons hcommands]
        have hpopped : StaysParked i srv (srv.modifySession i fun _ =>
            { srv.sessions i with adminCommands := rest }) := h.modify (.of_eq h.state rfl rfl)
        have hcommand := hnot rfl
        rw [nextCommand, hcommands] at hcommand
        exact hpopped.trans (hpopped.parked.processAdminCommand hcommand env)
    unfold FixServer.processTurn
    dsimp only
    rw [hadmin.parked.notLive, if_neg Bool.false_ne_true]
    exact hadmin
  · exact (processTurn_leaves srv hi env).parked h

/-! ### Reads -/

/-- The session that the loop reads for is not the parked one. -/
structure RxLoop.Apart (k p : Nat) (start : FixServer) (l : RxLoop) : Prop where
  aligned : l.Aligned p
  stays : StaysParked k start l.server
  other : l.session ≠ some k

theorem rxStep_apart {p : Nat} {start : FixServer} {l : RxLoop} (h : l.Apart k p start)
    (e : RxMessage × ServerRxEnv) : (rxStep p l e).Apart k p start := by
  refine ⟨rxStep_aligned h.aligned e, ?_, ?_⟩
  · cases hreturned : l.returned with
    | true =>
      rw [rxStep, if_pos hreturned]
      exact h.stays
    | false =>
      rcases htarget : l.target p e with ⟨srv, _ | i⟩
      · obtain ⟨-, -, rfl⟩ := target_none htarget
        rw [rxStep_none hreturned htarget]
        exact h.stays.trans (h.stays.parked.onClientDisconnected p)
      · rw [rxStep_some hreturned htarget]
        have hsteps := handleMessage_steps (target_serves h.aligned htarget) e.1 e.2
        rcases target_some htarget with ⟨hsession, rfl⟩ | ⟨hsession, hfind, rfl⟩
        · have hi : i ≠ k := fun hik => h.other (hik ▸ hsession)
          exact h.stays.trans ((Leaves.of_steps hi hsteps).parked h.stays.parked)
        · have hi : i ≠ k := fun hik => by
            subst hik
            exact (findLogonSession_state hfind).2 h.stays.parked.state
          have hfree : l.server.connectors.getSession p = none := by
            cases hp : l.server.connectors.getSession p with
            | none => rfl
            | some j =>
              have hj := h.aligned j hp
              rw [hsession] at hj
              cases hj
          have haccepted : Leaves k l.server ({ l.server with
              connectors := l.server.connectors.update p i }.modifySession i
                (acceptedSession e.1.message)) := by
            refine Leaves.trans ⟨fun hinv => hinv.update hfree i, fun hun => ?_, fun _ _ => rfl⟩
              (.modify hi _)
            rw [Unmapped, update_getPeerIndex, if_neg (Ne.symm hi)]
            exact hun
          have hparked := h.stays.trans (haccepted.parked h.stays.parked)
          exact hparked.trans ((Leaves.of_steps hi hsteps).parked hparked.parked)
  · cases hreturned : l.returned with
    | true =>
      rw [rxStep, if_pos hreturned]
      exact h.other
    | false =>
      rcases htarget : l.target p e with ⟨srv, _ | i⟩
      · simp [rxStep, hreturned, htarget]
      · intro hk
        have hik : i = k := by simpa [rxStep, hreturned, htarget] using hk
        subst hik
        rcases target_some htarget with ⟨hsession, -⟩ | ⟨-, hfind, -⟩
        · exact h.other hsession
        · exact (findLogonSession_state hfind).2 h.stays.parked.state

theorem Parked.onDataReady (h : Parked k srv) (p : Nat)
    (messages : List (RxMessage × ServerRxEnv)) : StaysParked k srv (srv.onDataReady p messages) := by
  have hother : srv.connectors.getSession p ≠ some k := fun hp => by
    have hpeer := (h.inverse p k).mp hp
    rw [h.unmapped] at hpeer
    cases hpeer
  have hend := run_invariant (I := RxLoop.Apart k p srv) (fun _ e hl => rxStep_apart hl e)
    messages ⟨processRxBuffer_aligned srv p, h.refl, hother⟩
  unfold FixServer.onDataReady
  dsimp only
  split
  · exact hend.stays
  · exact hend.stays.trans (hend.stays.parked.onClientDisconnected p)

end Parked

/-! ## Runs -/

/-- What happens next: an event of the reactor, or the turn of a session in a pass of `process`
that is under way. -/
inductive Activity
  | event (e : Event)
  | turn (i : Nat) (env : ProcessEnv)

def act (srv : FixServer) : Activity → FixServer
  | .event e => srv.step e
  | .turn i env => srv.processTurn i env

/-- The session is not enabled meanwhile. -/
def EnablesNot (k : Nat) (srv : FixServer) : Activity → Prop
  | .event (.process env) => Guarded (fun srv i => srv.processTurn i (env i)) (TurnEnablesNot k) srv
      (List.range srv.sessionCount)
  | .event _ => True
  | .turn i _ => TurnEnablesNot k srv i

/-- Until the session is enabled it remains as it was left by the command. -/
def StaysDisabled (k : Nat) (s : FixSession) (srv : FixServer) : Prop :=
  ∀ activities, Guarded act (EnablesNot k) srv activities →
    RemainsDisabled s ((run act srv activities).sessions k)

section Runs

variable {k : Nat} {srv : FixServer}

theorem rxStep_isStopping (p : Nat) (l : RxLoop) (e : RxMessage × ServerRxEnv) :
    (rxStep p l e).server.isStopping = l.server.isStopping := by
  cases hreturned : l.returned with
  | true => rw [rxStep, if_pos hreturned]
  | false =>
    rcases htarget : l.target p e with ⟨srv, _ | i⟩
    · obtain ⟨-, -, rfl⟩ := target_none htarget
      rw [rxStep_none hreturned htarget]
      exact (closeConnection_effects l.server (some p)).isStopping
    · rw [rxStep_some hreturned htarget, (handleMessage_effects srv i p e.1 e.2).isStopping]
      rcases target_some htarget with ⟨-, rfl⟩ | ⟨-, -, rfl⟩
      · rfl
      · rfl

theorem onDataReady_isStopping (srv : FixServer) (p : Nat)
    (messages : List (RxMessage × ServerRxEnv)) :
    (srv.onDataReady p messages).isStopping = srv.isStopping := by
  have hend := run_invariant (I := fun l : RxLoop => l.server.isStopping = srv.isStopping)
    (fun l e hl => (rxStep_isStopping p l e).trans hl) messages
    (show ({ server := srv, session := srv.connectors.getSession p } : RxLoop).server.isStopping =
      srv.isStopping from rfl)
  unfold onDataReady
  dsimp only
  split
  · exact hend
  · exact (closeConnection_effects _ (some p)).isStopping.trans hend

/-- Nothing that the reactor thread does stops the server. -/
theorem act_isStopping (srv : FixServer) (activity : Activity) :
    (srv.act activity).isStopping = srv.isStopping := by
  cases activity with
  | turn i env => exact (processTurn_effects srv i env).isStopping
  | event e =>
    cases e with
    | connect p => rfl
    | receive p messages =>
      rw [act, step]
      split
      · exact onDataReady_isStopping srv p messages
      · rfl
    | disconnect p =>
      rw [act, step]
      split
      · exact (closeConnection_effects srv (some p)).isStopping
      · rfl
    | process env => exact (process_effects srv env).isStopping
    | pushAdminCommand i command => rfl

/-- A disabled session without a connection remains as it is until it is enabled. -/
theorem act_parked (h : Parked k srv) (hrunning : srv.isStopping = false) (activity : Activity)
    (hnot : EnablesNot k srv activity) : StaysParked k srv (srv.act activity) := by
  cases activity with
  | turn i env => exact h.processTurn hnot env
  | event e =>
    cases e with
    | connect p =>
      refine Leaves.parked ⟨id, id, fun _ _ => rfl⟩ h
    | receive p messages =>
      rw [act, step]
      split
      · exact h.onDataReady p messages
      · exact h.refl
    | disconnect p =>
      rw [act, step]
      split
      · exact h.onClientDisconnected p
      · exact h.refl
    | process env =>
      rw [act, step, process, if_pos hrunning]
      exact Guarded.invariant (I := StaysParked k srv)
        (fun _ i hturn hturnNot => hturn.trans (hturn.parked.processTurn hturnNot (env i)))
        h.refl hnot
    | pushAdminCommand i command =>
      show StaysParked k srv (srv.modifySession i (·.pushAdminCommand command))
      by_cases hi : i = k
      · subst hi
        exact h.modify (.of_eq h.state rfl rfl)
      · exact (Leaves.modify hi _).parked h

/-- The command that disables the session leaves it without a connection exactly when the session
is live or has none. -/
theorem disableSession_unmapped_iff (h : srv.TablesInverse) (o : SendOutcome) :
    Unmapped k (srv.disableSession k o) ↔
      isStateLive (srv.sessions k).state = true ∨ Unmapped k srv := by
  unfold disableSession
  cases hlive : isStateLive (srv.sessions k).state with
  | false =>
    rw [if_neg Bool.false_ne_true, or_iff_right Bool.false_ne_true]
    exact Iff.rfl
  | true =>
    refine iff_of_true ?_ (.inl rfl)
    rw [if_pos rfl]
    show Unmapped k (srv.processConnectionClosure (srv.connectors.getPeerIndex k) true [] o)
    cases hpeer : srv.connectors.getPeerIndex k with
    | none =>
      exact (Leaves.processConnectionClosure (k := k) srv none true [] o).unmapped hpeer
    | some p =>
      have hserves : srv.connectors.getSession p = some k := (h p k).mpr hpeer
      unfold processConnectionClosure
      rw [if_pos rfl, Option.bind_some, hserves]
      have hsent := (sendOutgoingMessage_steps srv k (buildLogoutMessage []) o).tablesInverse h
      -- the logout may have lost the connection already
      cases hafter : (srv.sendLogoutMessage k [] o).connectors.getPeerIndex k with
      | none => exact Unmapped.onClientDisconnected hafter p
      | some q =>
        have hq : srv.connectors.getPeerIndex k = some q := by
          have hback := sendBytes_getPeerIndex srv k h
            (.original (buildLogoutMessage []) ((srv.sessions k).sequenceStore.outgoingSeqNo + 1)) o
          split at hback
          · rw [sendLogoutMessage, sendOutgoingMessage, hback] at hafter
            cases hafter
          · rw [← hback]
            exact hafter
        have hqp : q = p := Option.some.inj (hq.symm.trans hpeer)
        rw [hqp] at hafter
        exact onClientDisconnected_unmaps _ p ((hsent p k).mpr hafter)

/-- The command that disables the session is taken off the queue, and sets the role first where it
is the one of the instance. -/
theorem processAdminCommands_disables
    (hnext : (srv.sessions k).nextCommand (·.disables) = true) (env : ProcessEnv) :
    ∃ srv₀ : FixServer, srv.processAdminCommands k env = srv₀.disableSession k env.adminSend ∧
      srv₀.connectors = srv.connectors ∧ srv₀.connected = srv.connected ∧
      (srv₀.sessions k).state = (srv.sessions k).state := by
  unfold processAdminCommands
  rw [nextCommand] at hnext
  cases hcommands : (srv.sessions k).adminCommands with
  | nil =>
    rw [hcommands] at hnext
    cases hnext
  | cons command rest =>
    rw [hcommands] at hnext
    rw [tryPopAdminCommand_cons hcommands]
    have hstate : ((srv.modifySession k fun _ =>
        { srv.sessions k with adminCommands := rest }).sessions k).state =
        (srv.sessions k).state := by
      rw [modifySession_sessions_self]
    have hdisables : command.disables = true := hnext
    rw [ModifyingAdminCommand.disables, Bool.or_eq_true, Bool.and_eq_true] at hdisables
    rcases hdisables with htype | ⟨htype, harg⟩
    · refine ⟨srv.modifySession k fun _ => { srv.sessions k with adminCommands := rest }, ?_, rfl,
        rfl, hstate⟩
      dsimp only
      rw [processAdminCommand, of_decide_eq_true htype]
    · refine ⟨{ srv.modifySession k fun _ => { srv.sessions k with adminCommands := rest } with
        isHaPrimary := command.arg = 1 }, ?_, rfl, rfl, hstate⟩
      dsimp only
      rw [processAdminCommand, of_decide_eq_true htype]
      dsimp only
      rw [if_neg (of_decide_eq_true harg)]

/-- Whatever comes behind the command, the session stays disabled until it is enabled, exactly when
it was live, and is disconnected for it, or had no connection. -/
theorem staysDisabled_iff (hinverse : srv.TablesInverse) (hmapped : srv.MappedConnected)
    (hrunning : srv.isStopping = false)
    (hnext : (srv.sessions k).nextCommand (·.disables) = true) (env : ProcessEnv) :
    StaysDisabled k ((srv.processAdminCommands k env).sessions k) (srv.processTurn k env) ↔
      isStateLive (srv.sessions k).state = true ∨ Unmapped k srv := by
  obtain ⟨srv₀, hadmin, hconnectors, hconnected, hstate⟩ := processAdminCommands_disables hnext env
  have hinverse₀ : srv₀.TablesInverse := fun p i => by
    rw [hconnectors]
    exact hinverse p i
  have hdisabled : ((srv.processAdminCommands k env).sessions k).state = .disabled := by
    rw [hadmin, disableSession, modifySession_sessions_self]
    rfl
  have hturn : srv.processTurn k env = srv.processAdminCommands k env := by
    rw [processTurn, hdisabled]
    exact if_neg (by decide)
  have hunmapped : Unmapped k (srv.processAdminCommands k env) ↔
      isStateLive (srv.sessions k).state = true ∨ Unmapped k srv := by
    rw [hadmin, disableSession_unmapped_iff hinverse₀, hstate, Unmapped, Unmapped, hconnectors]
  rw [hturn, ← hunmapped]
  constructor
  · intro hstays
    cases hpeer : (srv.processAdminCommands k env).connectors.getPeerIndex k with
    | none => exact hpeer
    | some p =>
      -- the session keeps its connection, and the connection is lost
      have hserves := ((processAdminCommands_effects srv k env).mappedConnected hmapped) p k
        (((processAdminCommands_effects srv k env).inverse hinverse p k).mpr hpeer)
      have hlost := hstays [.event (.disconnect p)] ⟨trivial, trivial⟩
      have hafter : (((srv.processAdminCommands k env).step (.disconnect p)).sessions k).state =
          .disconnected := by
        rw [step, if_pos hserves, onClientDisconnected_sessions, if_pos
          (((processAdminCommands_effects srv k env).inverse hinverse p k).mpr hpeer)]
        rfl
      have hstate' := hlost.state.symm.trans hafter
      cases hstate'
  · intro hun activities hnot
    have hparked : Parked k (srv.processAdminCommands k env) :=
      ⟨(processAdminCommands_effects srv k env).inverse hinverse, hun, hdisabled⟩
    have hstopped : (srv.processAdminCommands k env).isStopping = false := by
      rw [(processAdminCommands_effects srv k env).isStopping, hrunning]
    have hend := Guarded.invariant
      (I := fun srv' => StaysParked k (srv.processAdminCommands k env) srv' ∧
        srv'.isStopping = false)
      (fun srv' activity h hactivity =>
        ⟨h.1.trans (act_parked h.1.parked h.2 activity hactivity),
          (act_isStopping srv' activity).trans h.2⟩) ⟨hparked.refl, hstopped⟩ hnot
    exact hend.1.remains

end Runs

end FixServer

end Llfix
