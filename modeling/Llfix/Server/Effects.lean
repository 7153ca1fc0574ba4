import Llfix.FixServer
import Llfix.SessionEffects

/-!
# What one session's processing does to the server

Whatever the server does on behalf of session `i` is a list of three things: an update of session
`i`, the teardown of a connection, and a call of `close_connection` with no index. `Steps i R`
is that list with updates from `R`; each function of the server is shown to be one, and the
frame conditions are proved once, for the list.

Results:
1. `Steps.relates`: a relation kept by the updates and by a disconnection holds of every session.
2. `Steps.tablesInverse`, `Steps.connected`: the connector tables stay inverse to each other and
   mapped connections stay connected.
3. `Steps.leaves`: a session that no connection is mapped to is not touched by the others.
-/

namespace Llfix

namespace FixServer

open FixSession

/-! ## Updates of one session -/

@[simp] theorem modifySession_sessions_self (srv : FixServer) (i : Nat)
    (f : FixSession → FixSession) :
    (srv.modifySession i f).sessions i = f (srv.sessions i) := by
  simp [modifySession]

theorem modifySession_sessions_ne (srv : FixServer) {i j : Nat} (h : j ≠ i)
    (f : FixSession → FixSession) :
    (srv.modifySession i f).sessions j = srv.sessions j := by
  simp [modifySession, h]

@[simp] theorem modifySession_connectors (srv : FixServer) (i : Nat)
    (f : FixSession → FixSession) : (srv.modifySession i f).connectors = srv.connectors := rfl

@[simp] theorem modifySession_connected (srv : FixServer) (i : Nat)
    (f : FixSession → FixSession) : (srv.modifySession i f).connected = srv.connected := rfl

@[simp] theorem modifySession_isHaPrimary (srv : FixServer) (i : Nat)
    (f : FixSession → FixSession) : (srv.modifySession i f).isHaPrimary = srv.isHaPrimary := rfl

@[simp] theorem modifySession_closedInvalidPeer (srv : FixServer) (i : Nat)
    (f : FixSession → FixSession) :
    (srv.modifySession i f).closedInvalidPeer = srv.closedInvalidPeer := rfl

@[simp] theorem modifySession_slotOperations (srv : FixServer) (i : Nat)
    (f : FixSession → FixSession) :
    (srv.modifySession i f).slotOperations = srv.slotOperations := rfl

@[simp] theorem modifySession_modifySession (srv : FixServer) (i : Nat)
    (f g : FixSession → FixSession) :
    (srv.modifySession i f).modifySession i g = srv.modifySession i fun s => g (f s) := by
  simp [modifySession]

/-! ## Slot operations -/

section OnSlot

variable (srv : FixServer) (operation : SlotOperation)

@[simp] theorem onSlot_sessions : (srv.onSlot operation).sessions = srv.sessions := rfl

@[simp] theorem onSlot_connectors : (srv.onSlot operation).connectors = srv.connectors := rfl

@[simp] theorem onSlot_connected : (srv.onSlot operation).connected = srv.connected := rfl

@[simp] theorem onSlot_isHaPrimary : (srv.onSlot operation).isHaPrimary = srv.isHaPrimary := rfl

@[simp] theorem onSlot_closedInvalidPeer :
    (srv.onSlot operation).closedInvalidPeer = srv.closedInvalidPeer := rfl

@[simp] theorem onSlot_slotOperations :
    (srv.onSlot operation).slotOperations = srv.slotOperations ++ [operation] := rfl

end OnSlot

/-! ## Connector tables -/

/-- The two tables of the connectors are inverse to each other. -/
def TablesInverse (srv : FixServer) : Prop :=
  ∀ p i, srv.connectors.getSession p = some i ↔ srv.connectors.getPeerIndex i = some p

/-- Only slots that are connected are mapped. -/
def MappedConnected (srv : FixServer) : Prop :=
  ∀ p i, srv.connectors.getSession p = some i → srv.connected p = true

/-- No connection is mapped to the session. -/
def Unmapped (i : Nat) (srv : FixServer) : Prop := srv.connectors.getPeerIndex i = none

instance (i : Nat) (srv : FixServer) : Decidable (Unmapped i srv) :=
  inferInstanceAs (Decidable (_ = none))

theorem TablesInverse.remove {srv : FixServer} (h : srv.TablesInverse) {p i : Nat}
    (hp : srv.connectors.getSession p = some i) (q j : Nat) :
    (srv.connectors.remove p i).getSession q = some j ↔
      (srv.connectors.remove p i).getPeerIndex j = some q := by
  have hpi := (h p i).mp hp
  have hqj := h q j
  simp only [FixServerConnectors.remove, FixServerConnectors.getSession,
    FixServerConnectors.getPeerIndex, Function.update_apply] at *
  by_cases hq : q = p <;> by_cases hj : j = i
  · simp [hq, hj]
  · subst hq
    have hne : srv.connectors.sessionPeerIndexTable j ≠ some q := fun hc =>
      hj (Option.some.inj ((hqj.mpr hc).symm.trans hp))
    simp [hj, hne]
  · subst hj
    have hne : srv.connectors.peerIndexSessionTable q ≠ some j := fun hc =>
      hq (Option.some.inj ((hqj.mp hc).symm.trans hpi))
    simp [hq, hne]
  · simp [hq, hj, hqj]

/-! ## Disconnection -/

section Disconnect

variable (srv : FixServer) (p : Nat)

theorem onClientDisconnected_unmapped (h : srv.connectors.getSession p = none) :
    srv.onClientDisconnected p =
      { srv with connected := Function.update srv.connected p false }.onSlot (.recycled p) := by
  simp [onClientDisconnected, h]

theorem onClientDisconnected_mapped {i : Nat} (h : srv.connectors.getSession p = some i) :
    srv.onClientDisconnected p =
      { srv with
        connected := Function.update srv.connected p false
        sessions := Function.update srv.sessions i ((srv.sessions i).setState .disconnected)
        connectors := srv.connectors.remove p i }.onSlot (.recycled p) := by
  simp [onClientDisconnected, h, modifySession, onSlot]

theorem onClientDisconnected_sessions (j : Nat) :
    (srv.onClientDisconnected p).sessions j =
      if srv.connectors.getSession p = some j then (srv.sessions j).setState .disconnected
      else srv.sessions j := by
  cases h : srv.connectors.getSession p with
  | none => simp [onClientDisconnected_unmapped srv p h]
  | some i =>
    rw [onClientDisconnected_mapped srv p h]
    by_cases hj : j = i
    · simp [hj]
    · simp [hj, Ne.symm hj]

@[simp] theorem onClientDisconnected_closedInvalidPeer :
    (srv.onClientDisconnected p).closedInvalidPeer = srv.closedInvalidPeer := by
  cases h : srv.connectors.getSession p with
  | none => simp [onClientDisconnected_unmapped srv p h]
  | some i => simp [onClientDisconnected_mapped srv p h]

@[simp] theorem onClientDisconnected_isHaPrimary :
    (srv.onClientDisconnected p).isHaPrimary = srv.isHaPrimary := by
  cases h : srv.connectors.getSession p with
  | none => simp [onClientDisconnected_unmapped srv p h]
  | some i => simp [onClientDisconnected_mapped srv p h]

@[simp] theorem onClientDisconnected_connected_self :
    (srv.onClientDisconnected p).connected p = false := by
  cases h : srv.connectors.getSession p with
  | none => simp [onClientDisconnected_unmapped srv p h]
  | some i => simp [onClientDisconnected_mapped srv p h]

@[simp] theorem onClientDisconnected_getSession_self :
    (srv.onClientDisconnected p).connectors.getSession p = none := by
  cases h : srv.connectors.getSession p with
  | none => simp [onClientDisconnected_unmapped srv p h, h]
  | some i =>
    simp [onClientDisconnected_mapped srv p h, FixServerConnectors.remove,
      FixServerConnectors.getSession]

/-- A disconnection only removes entries. -/
theorem onClientDisconnected_getPeerIndex {i q : Nat}
    (h : (srv.onClientDisconnected p).connectors.getPeerIndex i = some q) :
    srv.connectors.getPeerIndex i = some q := by
  cases hp : srv.connectors.getSession p with
  | none => simpa [onClientDisconnected_unmapped srv p hp] using h
  | some j =>
    rw [onClientDisconnected_mapped srv p hp] at h
    by_cases hij : i = j
    · simp [FixServerConnectors.getPeerIndex, FixServerConnectors.remove, hij] at h
    · simpa [FixServerConnectors.getPeerIndex, FixServerConnectors.remove, hij] using h

theorem onClientDisconnected_getSession {i q : Nat}
    (h : (srv.onClientDisconnected p).connectors.getSession q = some i) :
    q ≠ p ∧ srv.connectors.getSession q = some i := by
  have hq : q ≠ p := by
    rintro rfl
    simp at h
  refine ⟨hq, ?_⟩
  cases hp : srv.connectors.getSession p with
  | none => simpa [onClientDisconnected_unmapped srv p hp] using h
  | some j =>
    rw [onClientDisconnected_mapped srv p hp] at h
    simpa [FixServerConnectors.getSession, FixServerConnectors.remove, hq] using h

/-- The session of a lost connection has lost its entry. -/
theorem onClientDisconnected_unmaps {i : Nat} (h : srv.connectors.getSession p = some i) :
    Unmapped i (srv.onClientDisconnected p) := by
  simp [Unmapped, onClientDisconnected_mapped srv p h, FixServerConnectors.remove,
    FixServerConnectors.getPeerIndex]

end Disconnect

theorem TablesInverse.onClientDisconnected {srv : FixServer} (h : srv.TablesInverse) (p : Nat) :
    (srv.onClientDisconnected p).TablesInverse := by
  cases hp : srv.connectors.getSession p with
  | none => simpa [onClientDisconnected_unmapped srv p hp, TablesInverse] using h
  | some i =>
    rw [onClientDisconnected_mapped srv p hp]
    exact h.remove hp

theorem MappedConnected.onClientDisconnected {srv : FixServer} (h : srv.MappedConnected)
    (p : Nat) : (srv.onClientDisconnected p).MappedConnected := by
  intro q i hq
  obtain ⟨hne, hq⟩ := onClientDisconnected_getSession srv p hq
  have hconn := h q i hq
  cases hp : srv.connectors.getSession p with
  | none => simpa [onClientDisconnected_unmapped srv p hp, hne] using hconn
  | some j => simpa [onClientDisconnected_mapped srv p hp, hne] using hconn

theorem Unmapped.onClientDisconnected {i : Nat} {srv : FixServer} (h : Unmapped i srv) (p : Nat) :
    Unmapped i (srv.onClientDisconnected p) := by
  cases hp : (srv.onClientDisconnected p).connectors.getPeerIndex i with
  | none => exact hp
  | some q =>
    have hq := onClientDisconnected_getPeerIndex srv p hp
    rw [Unmapped] at h
    rw [h] at hq
    cases hq

/-! ## Lists of updates -/

/-- The server changes by updates of session `i` that satisfy `R`, by sends over its connection, by
disconnections, and by calls of `close_connection` without an index. -/
inductive Steps (i : Nat) (R : FixSession → FixSession → Prop) : FixServer → FixServer → Prop
  | refl (srv : FixServer) : Steps i R srv srv
  | modify {srv srv' : FixServer} (f : FixSession → FixSession) :
      Steps i R srv srv' → R (srv'.sessions i) (f (srv'.sessions i)) →
      Steps i R srv (srv'.modifySession i f)
  | send {srv srv' : FixServer} (p : Nat) :
      Steps i R srv srv' → srv'.connectors.getPeerIndex i = some p →
      Steps i R srv (srv'.onSlot (.sent p))
  | disconnect {srv srv' : FixServer} (p : Nat) :
      Steps i R srv srv' → Steps i R srv (srv'.onClientDisconnected p)
  | closeInvalid {srv srv' : FixServer} :
      Steps i R srv srv' → Steps i R srv { srv' with closedInvalidPeer := true }

namespace Steps

variable {i : Nat} {R R' : FixSession → FixSession → Prop} {srv srv' srv'' : FixServer}

theorem trans (h : Steps i R srv srv') (h' : Steps i R srv' srv'') : Steps i R srv srv'' := by
  induction h' with
  | refl => exact h
  | modify f _ hf ih => exact ih.modify f hf
  | send p _ hp ih => exact ih.send p hp
  | disconnect p _ ih => exact ih.disconnect p
  | closeInvalid _ ih => exact ih.closeInvalid

theorem mono (himp : ∀ s s', R s s' → R' s s') (h : Steps i R srv srv') :
    Steps i R' srv srv' := by
  induction h with
  | refl => exact .refl _
  | modify f _ hf ih => exact ih.modify f (himp _ _ hf)
  | send p _ hp ih => exact ih.send p hp
  | disconnect p _ ih => exact ih.disconnect p
  | closeInvalid _ ih => exact ih.closeInvalid

theorem one (f : FixSession → FixSession) (h : R (srv.sessions i) (f (srv.sessions i))) :
    Steps i R srv (srv.modifySession i f) :=
  (refl srv).modify f h

/-- A relation that holds across each update and across a disconnection holds of every session
across the whole. -/
theorem relates (S : FixSession → FixSession → Prop) (hrefl : ∀ s, S s s)
    (htrans : ∀ s s' s'', S s s' → S s' s'' → S s s'')
    (hdisc : ∀ s, S s (s.setState .disconnected)) (hR : ∀ s s', R s s' → S s s')
    (h : Steps i R srv srv') (j : Nat) : S (srv.sessions j) (srv'.sessions j) := by
  induction h with
  | refl => exact hrefl _
  | @modify srv' f _ hf ih =>
    by_cases hj : j = i
    · subst hj
      rw [modifySession_sessions_self]
      exact htrans _ _ _ ih (hR _ _ hf)
    · rwa [modifySession_sessions_ne _ hj]
  | send _ _ _ ih => exact ih
  | @disconnect srv' p _ ih =>
    rw [onClientDisconnected_sessions]
    split
    · exact htrans _ _ _ ih (hdisc _)
    · exact ih
  | closeInvalid _ ih => exact ih

theorem tablesInverse (h : Steps i R srv srv') (hs : srv.TablesInverse) :
    srv'.TablesInverse := by
  induction h with
  | refl => exact hs
  | modify f _ _ ih => exact ih
  | send _ _ _ ih => exact ih
  | disconnect p _ ih => exact ih.onClientDisconnected p
  | closeInvalid _ ih => exact ih

theorem unmapped {j : Nat} (h : Steps i R srv srv') (hs : Unmapped j srv) : Unmapped j srv' := by
  induction h with
  | refl => exact hs
  | modify f _ _ ih => exact ih
  | send _ _ _ ih => exact ih
  | disconnect p _ ih => exact ih.onClientDisconnected p
  | closeInvalid _ ih => exact ih

/-- The frame condition. -/
theorem leaves {j : Nat} (h : Steps i R srv srv') (hj : j ≠ i) (hs : srv.TablesInverse)
    (hu : Unmapped j srv) : srv'.sessions j = srv.sessions j := by
  induction h with
  | refl => rfl
  | modify f _ _ ih => rw [modifySession_sessions_ne _ hj, ih]
  | send _ _ _ ih => exact ih
  | @disconnect srv' p hsteps ih =>
    have hp : srv'.connectors.getSession p ≠ some j := fun hc => by
      have hpeer := (hsteps.tablesInverse hs p j).mp hc
      rw [hsteps.unmapped hu] at hpeer
      cases hpeer
    rw [onClientDisconnected_sessions, if_neg hp, ih]
  | closeInvalid _ ih => exact ih

/-- Sends and disconnections leave the core of every session alone. -/
theorem core (h : Steps i SendUpdate srv srv') (j : Nat) :
    (srv'.sessions j).core = (srv.sessions j).core :=
  h.relates (fun s s' => s'.core = s.core) (fun _ => rfl)
    (fun _ _ _ h h' => h'.trans h) (fun _ => rfl) (fun _ _ h => h.core) j

/-- Whatever is done for session `i`, the other sessions keep their core. -/
theorem core_of_ne {j : Nat} (h : Steps i R srv srv') (hj : j ≠ i) :
    (srv'.sessions j).core = (srv.sessions j).core := by
  induction h with
  | refl => rfl
  | modify f _ _ ih => rw [modifySession_sessions_ne _ hj, ih]
  | send _ _ _ ih => exact ih
  | disconnect p _ ih =>
    rw [onClientDisconnected_sessions]
    split
    · rw [core_setState, ih]
    · exact ih
  | closeInvalid _ ih => exact ih

end Steps

/-! ## Sends and closures -/

section Sends

variable (srv : FixServer) (i : Nat)

theorem sendBytes_unmapped (h : Unmapped i srv) (t : Transmission) (o : SendOutcome) :
    srv.sendBytes i t o = srv := by
  rw [Unmapped] at h
  simp [sendBytes, h]

/-- A send over a connection that holds. -/
theorem sendBytes_held {p : Nat} (h : srv.connectors.getPeerIndex i = some p) (t : Transmission)
    {o : SendOutcome} (ho : o.result ≠ .connectionLost) :
    srv.sendBytes i t o = (srv.onSlot (.sent p)).modifySession i fun s =>
      (s.record (.sent t s.sequenceStore.incomingSeqNo (o.result = .ok))).afterSend
        t.incrementOutgoingSeqNo (o.result = .ok) o.timestamp := by
  simp [sendBytes, h, transportSend, ho, modifySession, onSlot]

/-- A send over a connection that is lost meanwhile. -/
theorem sendBytes_lost {p : Nat} (h : srv.connectors.getPeerIndex i = some p) (t : Transmission)
    {o : SendOutcome} (ho : o.result = .connectionLost) :
    srv.sendBytes i t o =
      (((srv.onSlot (.sent p)).modifySession i fun s =>
        s.record (.sent t s.sequenceStore.incomingSeqNo false)).onClientDisconnected
          p).modifySession i (·.afterSend t.incrementOutgoingSeqNo false o.timestamp) := by
  simp [sendBytes, h, transportSend, ho, modifySession, onSlot]

theorem sendBytes_steps (t : Transmission) (o : SendOutcome) :
    Steps i SendUpdate srv (srv.sendBytes i t o) := by
  cases h : srv.connectors.getPeerIndex i with
  | none =>
    rw [sendBytes_unmapped srv i h]
    exact .refl _
  | some p =>
    by_cases ho : o.result = .connectionLost
    · rw [sendBytes_lost srv i h t ho]
      have hsent : Steps i SendUpdate srv (srv.onSlot (.sent p)) := (Steps.refl srv).send p h
      exact ((hsent.modify _ (.handedOver _ t)).disconnect p).modify _ (.noted _ _ _)
    · rw [sendBytes_held srv i h t ho]
      exact ((Steps.refl srv).send p h).modify _ (.whole _ t _ _)

/-- After a send the session is mapped exactly when it was and the connection held. -/
theorem sendBytes_getPeerIndex (hinv : srv.TablesInverse) (t : Transmission) (o : SendOutcome) :
    (srv.sendBytes i t o).connectors.getPeerIndex i =
      if o.result = .connectionLost then none else srv.connectors.getPeerIndex i := by
  cases h : srv.connectors.getPeerIndex i with
  | none =>
    rw [sendBytes_unmapped srv i h, h]
    simp
  | some p =>
    by_cases ho : o.result = .connectionLost
    · rw [sendBytes_lost srv i h t ho, if_pos ho]
      exact onClientDisconnected_unmaps _ p ((hinv p i).mpr h)
    · rw [sendBytes_held srv i h t ho, if_neg ho]
      exact h

theorem sendOutgoingMessage_steps (m : OutgoingFixMessage) (o : SendOutcome) :
    Steps i SendUpdate srv (srv.sendOutgoingMessage i m o) :=
  sendBytes_steps srv i _ o

theorem closeConnection_steps (R : FixSession → FixSession → Prop) (peer : Option Nat) :
    Steps i R srv (srv.closeConnection peer) := by
  cases peer with
  | none => exact (Steps.refl srv).closeInvalid
  | some p => exact (Steps.refl srv).disconnect p

end Sends

end FixServer

end Llfix
