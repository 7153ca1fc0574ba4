import Llfix.Server.SlotIsolation

/-!
# The tables of the connectors

`FixServerConnectors` keeps the session of each peer and the peer of each session. A session that
is taken over by a new connection loses its old one in `update`; the old connection is still open
and its disconnection finds no session.

Results:
1. `Inverse.update`, `Inverse.disconnect`: both calls keep the tables inverse to each other.
2. `peerTables_inverse`: so does every sequence of them, and a disconnection leaves the connections
   of other peers alone.
-/

namespace Llfix

open GuardedRun

/-- A call that edits the tables: the one of `accept_session`, or `on_client_disconnected`. -/
inductive ConnectorCall
  | update (peerIndex session : Nat)
  | disconnect (peerIndex : Nat)
deriving DecidableEq, Repr

namespace FixServerConnectors

/-- The part of `on_client_disconnected` that edits the tables. -/
def disconnect (c : FixServerConnectors) (peerIndex : Nat) : FixServerConnectors :=
  if c.hasPeer peerIndex = false then c
  else
    match c.getSession peerIndex with
    | none => c
    | some session => c.remove peerIndex session

def call (c : FixServerConnectors) : ConnectorCall → FixServerConnectors
  | .update peerIndex session => c.update peerIndex session
  | .disconnect peerIndex => c.disconnect peerIndex

/-- A peer that is given to a session is not mapped to another one. -/
def Allows (c : FixServerConnectors) : ConnectorCall → Prop
  | .update peerIndex session => ∀ s, c.getSession peerIndex = some s → s = session
  | .disconnect _ => True

/-- The two tables are inverse to each other. -/
def Inverse (c : FixServerConnectors) : Prop :=
  ∀ p s, c.getSession p = some s ↔ c.getPeerIndex s = some p

theorem disconnect_none {c : FixServerConnectors} {p : Nat} (h : c.getSession p = none) :
    c.disconnect p = c := by
  rw [disconnect, h]
  exact ite_self c

theorem disconnect_some {c : FixServerConnectors} {p s : Nat} (h : c.getSession p = some s) :
    c.disconnect p = c.remove p s := by
  have hpeer : c.hasPeer p = true := by
    rw [hasPeer]
    exact Option.isSome_of_eq_some h
  rw [disconnect, hpeer, h]
  rfl

/-- A server with the tables, to use what is known of them. -/
def holder (c : FixServerConnectors) : FixServer :=
  { sessions := fun _ => {}, sessionCount := 0, connectors := c }

namespace Inverse

variable {c : FixServerConnectors} (h : c.Inverse) {p s : Nat}

include h

theorem remove (hp : c.getSession p = some s) : (c.remove p s).Inverse := by
  have hheld : c.holder.TablesInverse := h
  exact hheld.remove hp

theorem update (hp : ∀ s', c.getSession p = some s' → s' = s) : (c.update p s).Inverse := by
  cases hsession : c.getSession p with
  | none =>
    have hheld : c.holder.TablesInverse := h
    exact hheld.update hsession s
  | some s' =>
    -- the peer has the session already, and both tables stay as they are
    obtain rfl := hp s' hsession
    have hpeer := (h p s').mp hsession
    intro q t
    have hqt := h q t
    rw [FixServer.update_getSession, FixServer.update_getPeerIndex]
    split
    · next hq =>
      rw [hq, ← hsession, ← hq, hqt]
      split
      · next ht => rw [ht, hpeer, hq]
      · exact Iff.rfl
    · next hq =>
      have hother : c.getPeerIndex s' ≠ some q := by
        rw [hpeer]
        exact fun hc => hq (Option.some.inj hc).symm
      rw [if_neg hother, hqt]
      split
      · next ht =>
        rw [ht, hpeer]
      · exact Iff.rfl

theorem disconnect (p : Nat) : (c.disconnect p).Inverse := by
  cases hsession : c.getSession p with
  | none =>
    rw [disconnect_none hsession]
    exact h
  | some s =>
    rw [disconnect_some hsession]
    exact h.remove hsession

theorem call {call : ConnectorCall} (hallows : c.Allows call) : (c.call call).Inverse := by
  cases call with
  | update p s => exact h.update hallows
  | disconnect p => exact h.disconnect p

/-- No session is reachable from two peers. -/
theorem peer_unique {q : Nat} (hp : c.getSession p = some s) (hq : c.getSession q = some s) :
    p = q :=
  Option.some.inj (((h p s).mp hp).symm.trans ((h q s).mp hq))

/-- The disconnection of another peer leaves the connection of a session alone. -/
theorem disconnect_other {q : Nat} (hs : c.getPeerIndex s = some p) (hq : q ≠ p) :
    (c.disconnect q).getPeerIndex s = some p ∧ (c.disconnect q).getSession p = some s := by
  have hp := (h p s).mpr hs
  cases hsession : c.getSession q with
  | none =>
    rw [disconnect_none hsession]
    exact ⟨hs, hp⟩
  | some t =>
    have ht : s ≠ t := by
      rintro rfl
      exact hq (h.peer_unique hsession hp)
    rw [disconnect_some hsession]
    have hpeer : (c.remove q t).getPeerIndex s = c.getPeerIndex s := by
      rw [getPeerIndex, FixServerConnectors.remove]
      exact Function.update_of_ne ht none c.sessionPeerIndexTable
    have hserves : (c.remove q t).getSession p = c.getSession p := by
      rw [getSession, FixServerConnectors.remove]
      exact Function.update_of_ne (Ne.symm hq) none c.peerIndexSessionTable
    exact ⟨hpeer.trans hs, hserves.trans hp⟩

end Inverse

end FixServerConnectors

/-- `on_client_disconnected` edits the tables of the server by `disconnect`. -/
theorem FixServer.onClientDisconnected_connectors (srv : FixServer) (p : Nat) :
    (srv.onClientDisconnected p).connectors = srv.connectors.disconnect p := by
  cases h : srv.connectors.getSession p with
  | none =>
    rw [onClientDisconnected_unmapped srv p h, FixServerConnectors.disconnect_none h]
    rfl
  | some s =>
    rw [onClientDisconnected_mapped srv p h, FixServerConnectors.disconnect_some h]
    rfl

/-- `accept_session` edits them by `update` or, when it refuses the Logon, by `disconnect`. -/
theorem FixServer.acceptSession_connectors (srv : FixServer) (p : Nat) (rx : RxMessage)
    (scheduleValid : Bool) :
    (srv.acceptSession p rx scheduleValid).1.connectors =
      match srv.findLogonSession rx scheduleValid with
      | none => srv.connectors.disconnect p
      | some s => srv.connectors.update p s := by
  unfold acceptSession
  cases srv.findLogonSession rx scheduleValid with
  | none => exact onClientDisconnected_connectors srv p
  | some s => rfl

/-- Whatever connections take over sessions and are lost in between, the tables are inverse to each
other, no session is reachable from two peers, and a disconnection leaves a session that has another
peer on it. -/
theorem peerTables_inverse (calls : List ConnectorCall)
    (hallows : Guarded FixServerConnectors.call FixServerConnectors.Allows {} calls) :
    let c := run FixServerConnectors.call {} calls
    (∀ p s, c.getSession p = some s ↔ c.getPeerIndex s = some p) ∧
      (∀ p q s, c.getSession p = some s → c.getSession q = some s → p = q) ∧
      (∀ p q s, c.getPeerIndex s = some p → q ≠ p →
        (c.disconnect q).getPeerIndex s = some p ∧ (c.disconnect q).getSession p = some s) := by
  have hempty : FixServerConnectors.Inverse {} :=
    fun p s => iff_of_false (Option.some_ne_none s).symm (Option.some_ne_none p).symm
  have hinverse : (run FixServerConnectors.call {} calls).Inverse :=
    Guarded.invariant (I := FixServerConnectors.Inverse)
      (fun _ _ h hallowed => h.call hallowed) hempty hallows
  exact ⟨hinverse, fun _ _ _ => hinverse.peer_unique, fun _ _ _ => hinverse.disconnect_other⟩

/-- Session 0 is taken over by peer 2 while peer 1 is still open; then peer 1 is lost. -/
theorem peerTables_inverse_takeover :
    let calls : List ConnectorCall := [.update 1 0, .update 2 0, .disconnect 1]
    Guarded FixServerConnectors.call FixServerConnectors.Allows {} calls ∧
      (∀ p s, (run FixServerConnectors.call {} calls).getSession p = some s ↔
        (run FixServerConnectors.call {} calls).getPeerIndex s = some p) ∧
      (run FixServerConnectors.call {} calls).getSession 2 = some 0 := by
  have hallows : Guarded FixServerConnectors.call FixServerConnectors.Allows {}
      [.update 1 0, .update 2 0, .disconnect 1] := by
    refine ⟨fun s hs => ?_, fun s hs => ?_, trivial, trivial⟩
    · cases hs
    · cases hs
  exact ⟨hallows, (peerTables_inverse _ hallows).1, by decide⟩

end Llfix
