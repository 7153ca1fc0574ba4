import Llfix.Server.Messages
import Llfix.Server.Turns

/-!
# What the server does with its connections

`Effects` forgets which session the server works for: what is left are updates of sessions, sends
over mapped connections, disconnections, and calls of `close_connection` with no index. Everything
that `process` does is a list of these, and so is the processing of a message.

Results:
1. `handleMessage_effects`, `process_effects`: the functions of the server are such lists.
2. `Effects.tables`, `Effects.slots`: the list keeps the connector tables and the slots in order.
3. `Effects.connectorAt`: a slot is left as it is, or closed.
-/

namespace Llfix

namespace FixServer

/-- The server changes by updates of sessions, by sends over connections that are mapped to a
session, by disconnections, and by calls of `close_connection` without an index. -/
inductive Effects : FixServer → FixServer → Prop
  | refl (srv : FixServer) : Effects srv srv
  | modify {srv srv' : FixServer} (i : Nat) (f : FixSession → FixSession) :
      Effects srv srv' → Effects srv (srv'.modifySession i f)
  | send {srv srv' : FixServer} (i p : Nat) :
      Effects srv srv' → srv'.connectors.getPeerIndex i = some p →
      Effects srv (srv'.onSlot (.sent p))
  | disconnect {srv srv' : FixServer} (p : Nat) :
      Effects srv srv' → Effects srv (srv'.onClientDisconnected p)
  | closeInvalid {srv srv' : FixServer} :
      Effects srv srv' → Effects srv { srv' with closedInvalidPeer := true }
  | setRole {srv srv' : FixServer} (isHaPrimary : Bool) :
      Effects srv srv' → Effects srv { srv' with isHaPrimary := isHaPrimary }

theorem Effects.trans {srv srv' srv'' : FixServer} (h : Effects srv srv')
    (h' : Effects srv' srv'') : Effects srv srv'' := by
  induction h' with
  | refl => exact h
  | modify i f _ ih => exact ih.modify i f
  | send i p _ hp ih => exact ih.send i p hp
  | disconnect p _ ih => exact ih.disconnect p
  | closeInvalid _ ih => exact ih.closeInvalid
  | setRole b _ ih => exact ih.setRole b

theorem Effects.one (srv : FixServer) (i : Nat) (f : FixSession → FixSession) :
    Effects srv (srv.modifySession i f) :=
  (refl srv).modify i f

theorem Steps.effects {i : Nat} {R : FixSession → FixSession → Prop} {srv srv' : FixServer}
    (h : Steps i R srv srv') : Effects srv srv' := by
  induction h with
  | refl => exact .refl _
  | modify f _ _ ih => exact ih.modify i f
  | send p _ hp ih => exact ih.send i p hp
  | disconnect p _ ih => exact ih.disconnect p
  | closeInvalid _ ih => exact ih.closeInvalid

/-! ## The functions of the server -/

section Functions

variable (srv : FixServer) (i : Nat)

theorem sendBytes_effects (t : Transmission) (o : SendOutcome) :
    Effects srv (srv.sendBytes i t o) :=
  (sendBytes_steps srv i t o).effects

theorem sendOutgoingMessage_effects (m : OutgoingFixMessage) (o : SendOutcome) :
    Effects srv (srv.sendOutgoingMessage i m o) :=
  sendBytes_effects srv i _ o

theorem closeConnection_effects (peer : Option Nat) : Effects srv (srv.closeConnection peer) := by
  cases peer with
  | none => exact (Effects.refl srv).closeInvalid
  | some p => exact (Effects.refl srv).disconnect p

/-- Any update of a session is among the effects. -/
theorem effects_respects (U : FixSession → FixSession → Prop) : Respects i U Effects where
  refl := .refl
  trans := .trans
  sendBytes := sendBytes_effects
  closeConnection := closeConnection_effects
  modify srv f _ := .one srv i f

theorem processConnectionClosure_effects (peer : Option Nat) (sendLogout : Bool) (reason : Bytes)
    (o : SendOutcome) : Effects srv (srv.processConnectionClosure peer sendLogout reason o) :=
  (effects_respects 0 FixSession.AdminUpdate).processConnectionClosure srv peer sendLogout reason o

theorem handleMessage_effects (p : Nat) (rx : RxMessage) (env : ServerRxEnv) :
    Effects srv (srv.handleMessage i p rx env) := by
  rcases handleMessage_cases srv i p rx env with
    ⟨code, errorTag, _, h⟩ | ⟨_, h⟩ | ⟨_, _, _, h⟩ | ⟨_, _, sendLogout, reason, h⟩ | ⟨_, h⟩
  · rw [h]
    exact (Effects.one srv i _).trans (sendOutgoingMessage_effects _ i _ _)
  · rw [h]
    exact .one srv i _
  · rw [h]
    exact .one srv i _
  · rw [h]
    exact (Effects.one srv i _).trans (processConnectionClosure_effects _ _ _ _ _)
  · rw [h]
    exact (Effects.one srv i _).trans (processInSequence_steps p rx env).effects

/-! ### A turn of `process` -/

theorem setRole_effects (b : Bool) : Effects srv { srv with isHaPrimary := b } :=
  (Effects.refl srv).setRole b

theorem processAdminCommands_effects (env : ProcessEnv) :
    Effects srv (srv.processAdminCommands i env) :=
  processAdminCommands_related (effects_respects i _) setRole_effects srv env
    fun _ _ _ srv' => .one srv' i _

theorem processTurn_effects (env : ProcessEnv) : Effects srv (srv.processTurn i env) :=
  processTurn_related (effects_respects i _) setRole_effects srv env fun _ _ _ srv' =>
    .one srv' i _

theorem sendLogoutMessagesToAllSessions_effects (env : Nat → ProcessEnv) :
    Effects srv (srv.sendLogoutMessagesToAllSessions env) :=
  sendLogoutMessages_related (fun i => effects_respects i _) srv env

theorem process_effects (env : Nat → ProcessEnv) : Effects srv (srv.process env) := by
  have hturns : ∀ (js : List Nat) (srv : FixServer),
      Effects srv (js.foldl (fun srv i => srv.processTurn i (env i)) srv) := by
    intro js
    induction js with
    | nil => exact fun srv => .refl srv
    | cons j js ih => exact fun srv => (processTurn_effects srv j (env j)).trans (ih _)
  unfold process
  split
  · exact hturns _ srv
  · exact sendLogoutMessagesToAllSessions_effects srv env

end Functions

/-! ## Slots -/

theorem onClientDisconnected_slotOperations (srv : FixServer) (p : Nat) :
    (srv.onClientDisconnected p).slotOperations = srv.slotOperations ++ [.recycled p] := by
  cases hp : srv.connectors.getSession p with
  | none => rw [onClientDisconnected_unmapped srv p hp, onSlot_slotOperations]
  | some i => rw [onClientDisconnected_mapped srv p hp, onSlot_slotOperations]

theorem onClientDisconnected_connected (srv : FixServer) (p : Nat) :
    (srv.onClientDisconnected p).connected = Function.update srv.connected p false := by
  cases hp : srv.connectors.getSession p with
  | none => rw [onClientDisconnected_unmapped srv p hp, onSlot_connected]
  | some i => rw [onClientDisconnected_mapped srv p hp, onSlot_connected]

/-- The connector tables are inverse to each other, only slots that are connected are mapped, and
the server knows which slots are connected. -/
structure TablesInOrder (srv : FixServer) : Prop where
  inverse : srv.TablesInverse
  mapped : srv.MappedConnected
  connected : ∀ p, srv.connected p = (connectorAt srv.slotOperations p).connected

namespace TablesInOrder

variable {srv : FixServer} (h : srv.TablesInOrder)

include h

theorem onClientDisconnected (p : Nat) : (srv.onClientDisconnected p).TablesInOrder where
  inverse := h.inverse.onClientDisconnected p
  mapped := h.mapped.onClientDisconnected p
  connected q := by
    rw [onClientDisconnected_connected, onClientDisconnected_slotOperations,
      connectorAt_recycled]
    by_cases hq : p = q
    · subst hq
      rw [Function.update_self, if_pos rfl]
    · rw [Function.update_of_ne (Ne.symm hq), if_neg hq, h.connected q]

/-- An operation that does not change which slots are connected. -/
theorem onSlot {operation : SlotOperation}
    (hsame : ∀ c p, (Connector.after p c operation).connected = c.connected) :
    (srv.onSlot operation).TablesInOrder where
  inverse := h.inverse
  mapped := h.mapped
  connected p := by
    rw [onSlot_connected, onSlot_slotOperations, connectorAt_snoc, hsame, h.connected p]

/-- The slot of a session is connected. -/
theorem connected_of_getPeerIndex {i p : Nat} (hp : srv.connectors.getPeerIndex i = some p) :
    (connectorAt srv.slotOperations p).connected = true := by
  rw [← h.connected p]
  exact h.mapped p i ((h.inverse p i).mpr hp)

end TablesInOrder

theorem Effects.tables {srv srv' : FixServer} (h : Effects srv srv') (hs : srv.TablesInOrder) :
    srv'.TablesInOrder := by
  induction h with
  | refl => exact hs
  | modify i f _ ih => exact ⟨ih.inverse, ih.mapped, ih.connected⟩
  | send i p _ _ ih => exact ih.onSlot fun _ _ => rfl
  | disconnect p _ ih => exact ih.onClientDisconnected p
  | closeInvalid _ ih => exact ⟨ih.inverse, ih.mapped, ih.connected⟩
  | setRole b _ ih => exact ⟨ih.inverse, ih.mapped, ih.connected⟩

/-- The slots stay in order: a send finds the slot of its session connected. -/
theorem Effects.slots {srv srv' : FixServer} (h : Effects srv srv') (hs : srv.TablesInOrder)
    (hslots : InOrder srv.slotOperations) : InOrder srv'.slotOperations := by
  induction h with
  | refl => exact hslots
  | modify i f _ ih => exact ih
  | @send srv' i p heffects hp ih =>
    exact ih.sent ((heffects.tables hs).connected_of_getPeerIndex hp)
  | disconnect p _ ih =>
    rw [onClientDisconnected_slotOperations]
    exact ih.recycled p
  | closeInvalid _ ih => exact ih
  | setRole b _ ih => exact ih

/-- A slot is left as it is, or closed. -/
theorem Effects.connectorAt {srv srv' : FixServer} (h : Effects srv srv') (p : Nat) :
    Llfix.connectorAt srv'.slotOperations p = Llfix.connectorAt srv.slotOperations p ∨
      Llfix.connectorAt srv'.slotOperations p = {} := by
  induction h with
  | refl => exact .inl rfl
  | modify i f _ ih => exact ih
  | send i q _ _ ih =>
    rw [onSlot_slotOperations, connectorAt_snoc]
    exact ih
  | disconnect q _ ih =>
    rw [onClientDisconnected_slotOperations, connectorAt_recycled]
    split
    · exact .inr rfl
    · exact ih
  | closeInvalid _ ih => exact ih
  | setRole b _ ih => exact ih

/-- Nothing is received meanwhile. -/
theorem Effects.receivedOn {srv srv' : FixServer} (h : Effects srv srv') (p : Nat) :
    Llfix.receivedOn srv'.slotOperations p = Llfix.receivedOn srv.slotOperations p := by
  induction h with
  | refl => rfl
  | modify i f _ ih => exact ih
  | send i q _ _ ih =>
    rw [onSlot_slotOperations, receivedOn_snoc]
    exact ih
  | disconnect q _ ih =>
    rw [onClientDisconnected_slotOperations, receivedOn_snoc]
    exact ih
  | closeInvalid _ ih => exact ih
  | setRole b _ ih => exact ih

/-- The operations go on. -/
theorem Effects.slotOperations {srv srv' : FixServer} (h : Effects srv srv') :
    srv.slotOperations <+: srv'.slotOperations := by
  induction h with
  | refl => exact List.prefix_refl _
  | modify i f _ ih => exact ih
  | send i q _ _ ih => exact ih.trans (List.prefix_append _ _)
  | disconnect q _ ih =>
    rw [onClientDisconnected_slotOperations]
    exact ih.trans (List.prefix_append _ _)
  | closeInvalid _ ih => exact ih
  | setRole b _ ih => exact ih

end FixServer

end Llfix
