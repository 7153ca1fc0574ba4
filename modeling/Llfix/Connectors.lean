import Llfix.Constants
import Llfix.Lib.GuardedRun

/-!
# The connector slots

`Connector` and `Connectors` of `connectors.h`, with the slot side of `TcpReactor`. A slot outlives
its connections: when it is recycled, `add_connector` gives it to the next one. What a server does
with its slots is a list of operations, and a connector is what these have made of the slot.

`Isolated` is what the connections of one slot owe to each other.
-/

namespace Llfix

/-- An operation on a connector slot. -/
inductive SlotOperation
  /-- `add_connector` gives the slot to a new connection. -/
  | given (slot : Nat)
  /-- `receive`: the bytes that the socket has delivered. -/
  | received (slot : Nat) (bytes : Bytes)
  /-- `process_rx_buffer` goes on reading at these bytes of the buffer of the slot. A handler that
  looks at its own message again reads nothing new and is no such operation. -/
  | read (slot : Nat) (bytes : Bytes)
  /-- `set_incomplete_buffer`. -/
  | retained (slot : Nat) (bytes : Bytes)
  /-- `reset_incomplete_buffer`. -/
  | reset (slot : Nat)
  /-- `send`. -/
  | sent (slot : Nat)
  /-- `recycle_connector`. -/
  | recycled (slot : Nat)
deriving DecidableEq, Repr

/-- `Connector`, without its socket. -/
structure Connector where
  connected : Bool := false
  /-- The first `m_last_receive_result` bytes of the receive buffer. -/
  lastReceived : Bytes := []
  /-- The first `m_incomplete_buffer_size` bytes of the incomplete buffer. -/
  incomplete : Bytes := []
deriving DecidableEq, Repr

namespace Connector

/-- `initialise` on a slot that has its buffers. They are filled with zeros, but what counts as
their content keeps its size. -/
def initialise (c : Connector) : Connector :=
  { c with
    lastReceived := c.lastReceived.map fun _ => 0
    incomplete := c.incomplete.map fun _ => 0 }

/-- `close`. -/
def close (c : Connector) : Connector :=
  { c with connected := false, lastReceived := [], incomplete := [] }

/-- `get_rx_buffer`, as far as its content goes. -/
def getRxBuffer (c : Connector) : Bytes := c.incomplete ++ c.lastReceived

/-- What an operation makes of the connector of the slot `p`. -/
def after (p : Nat) (c : Connector) : SlotOperation → Connector
  | .given q => if q = p then { c.initialise with connected := true } else c
  | .received q bytes => if q = p then { c with lastReceived := bytes } else c
  | .retained q bytes => if q = p then { c with incomplete := bytes } else c
  | .reset q => if q = p then { c with incomplete := [] } else c
  | .recycled q => if q = p then c.close else c
  | .read _ _ | .sent _ => c

theorem after_retained_connected (p q : Nat) (bytes : Bytes) (c : Connector) :
    (c.after p (.retained q bytes)).connected = c.connected := by
  rw [after]
  split <;> rfl

theorem after_reset_connected (p q : Nat) (c : Connector) :
    (c.after p (.reset q)).connected = c.connected := by
  rw [after]
  split <;> rfl

end Connector

/-- The connector of the slot `p` behind the operations. -/
def connectorAt (operations : List SlotOperation) (p : Nat) : Connector :=
  operations.foldl (Connector.after p) {}

/-- What a slot has received since it was given away. -/
def receivedOn (operations : List SlotOperation) (p : Nat) : Bytes :=
  operations.foldl
    (fun received operation =>
      match operation with
      | .given q => if q = p then [] else received
      | .received q bytes => if q = p then received ++ bytes else received
      | _ => received) []

/-- What an operation behind the others owes to the connections of its slot: a new connection
finds nothing retained; only a slot in use is read from, retained into or sent on; and what is
read was received on the same connection. -/
def IsolatedOperation (done : List SlotOperation) : SlotOperation → Prop
  | .given p => (connectorAt done p).incomplete = []
  | .received p _ | .retained p _ | .sent p => (connectorAt done p).connected = true
  | .read p bytes => (connectorAt done p).connected = true ∧ bytes.Sublist (receivedOn done p)
  | .reset _ | .recycled _ => True

instance (done : List SlotOperation) :
    ∀ operation, Decidable (IsolatedOperation done operation)
  | .given p => inferInstanceAs (Decidable ((connectorAt done p).incomplete = []))
  | .received p _ => inferInstanceAs (Decidable ((connectorAt done p).connected = true))
  | .retained p _ => inferInstanceAs (Decidable ((connectorAt done p).connected = true))
  | .sent p => inferInstanceAs (Decidable ((connectorAt done p).connected = true))
  | .read p bytes =>
    inferInstanceAs (Decidable ((connectorAt done p).connected = true ∧
      bytes.Sublist (receivedOn done p)))
  | .reset _ => inferInstanceAs (Decidable True)
  | .recycled _ => inferInstanceAs (Decidable True)

/-- Every operation owes nothing to the connections before. -/
def Isolated (operations : List SlotOperation) : Prop :=
  GuardedRun.Guarded (fun done operation => done ++ [operation]) IsolatedOperation [] operations

instance (operations : List SlotOperation) : Decidable (Isolated operations) :=
  inferInstanceAs (Decidable (GuardedRun.Guarded _ _ _ _))

/-! ## Operation by operation -/

section

variable (operations : List SlotOperation) (operation : SlotOperation) (p : Nat)

theorem connectorAt_snoc :
    connectorAt (operations ++ [operation]) p =
      (connectorAt operations p).after p operation := by
  rw [connectorAt, List.foldl_append]
  rfl

/-- What an operation adds to the bytes received by the connection of the slot. -/
theorem receivedOn_snoc :
    receivedOn (operations ++ [operation]) p =
      match operation with
      | .given q => if q = p then [] else receivedOn operations p
      | .received q bytes =>
        if q = p then receivedOn operations p ++ bytes else receivedOn operations p
      | _ => receivedOn operations p := by
  rw [receivedOn, List.foldl_append]
  rfl

theorem connectorAt_recycled (q : Nat) :
    connectorAt (operations ++ [.recycled q]) p =
      if q = p then {} else connectorAt operations p := by
  rw [connectorAt_snoc, Connector.after]
  split <;> rfl

theorem isolated_snoc :
    Isolated (operations ++ [operation]) ↔
      Isolated operations ∧ IsolatedOperation operations operation := by
  have hrun : ∀ done, GuardedRun.run (fun done operation => done ++ [operation]) done operations =
      done ++ operations := by
    induction operations with
    | nil => exact fun done => (List.append_nil done).symm
    | cons operation operations ih =>
      intro done
      rw [GuardedRun.run_cons, ih, List.append_assoc]
      rfl
  rw [Isolated, GuardedRun.guarded_append, hrun, GuardedRun.guarded_cons]
  simp [Isolated]

end

/-- What is isolated was so all along. -/
theorem Isolated.of_prefix {done operations : List SlotOperation} (h : Isolated operations)
    (hdone : done <+: operations) : Isolated done :=
  GuardedRun.Guarded.initial h hdone

/-- The slots are isolated so far; a slot that is free has nothing retained; and what is retained
was received on the connection that has the slot. -/
structure InOrder (operations : List SlotOperation) : Prop where
  isolated : Isolated operations
  free : ∀ p, (connectorAt operations p).connected = false →
    (connectorAt operations p).incomplete = []
  retained : ∀ p, (connectorAt operations p).incomplete.Sublist (receivedOn operations p)

theorem inOrder_nil : InOrder [] := ⟨trivial, fun _ _ => rfl, fun _ => List.Sublist.refl _⟩

namespace InOrder

variable {operations : List SlotOperation} (h : InOrder operations)

include h

theorem given {p : Nat} (hfree : (connectorAt operations p).connected = false) :
    InOrder (operations ++ [.given p]) where
  isolated := (isolated_snoc _ _).mpr ⟨h.isolated, h.free p hfree⟩
  free q hq := by
    rw [connectorAt_snoc, Connector.after] at hq ⊢
    split at hq
    · cases hq
    · next hne => rw [if_neg hne, h.free q hq]
  retained q := by
    rw [connectorAt_snoc, receivedOn_snoc, Connector.after]
    dsimp only
    split
    · next heq =>
      subst heq
      rw [Connector.initialise, h.free p hfree]
      exact List.Sublist.refl _
    · exact h.retained q

theorem received {p : Nat} (hconnected : (connectorAt operations p).connected = true)
    (bytes : Bytes) : InOrder (operations ++ [.received p bytes]) where
  isolated := (isolated_snoc _ _).mpr ⟨h.isolated, hconnected⟩
  free q hq := by
    rw [connectorAt_snoc, Connector.after] at hq ⊢
    split
    · next heq =>
      rw [if_pos heq] at hq
      exact h.free q hq
    · next hne =>
      rw [if_neg hne] at hq
      exact h.free q hq
  retained q := by
    rw [connectorAt_snoc, receivedOn_snoc, Connector.after]
    dsimp only
    split
    · exact (h.retained q).trans (List.sublist_append_left _ _)
    · exact h.retained q

/-- Reading and sending change nothing in a slot. -/
theorem passive {operation : SlotOperation}
    (hsame : ∀ c p, Connector.after p c operation = c)
    (hreceived : ∀ p, receivedOn (operations ++ [operation]) p = receivedOn operations p)
    (hisolated : IsolatedOperation operations operation) : InOrder (operations ++ [operation]) where
  isolated := (isolated_snoc _ _).mpr ⟨h.isolated, hisolated⟩
  free q hq := by
    rw [connectorAt_snoc, hsame] at hq ⊢
    exact h.free q hq
  retained q := by
    rw [connectorAt_snoc, hsame, hreceived]
    exact h.retained q

theorem sent {p : Nat} (hconnected : (connectorAt operations p).connected = true) :
    InOrder (operations ++ [.sent p]) :=
  h.passive (fun _ _ => rfl) (fun _ => receivedOn_snoc _ _ _) hconnected

theorem read {p : Nat} (hconnected : (connectorAt operations p).connected = true) {bytes : Bytes}
    (hbytes : bytes.Sublist (receivedOn operations p)) : InOrder (operations ++ [.read p bytes]) :=
  h.passive (fun _ _ => rfl) (fun _ => receivedOn_snoc _ _ _) ⟨hconnected, hbytes⟩

theorem retain {p : Nat} (hconnected : (connectorAt operations p).connected = true)
    {bytes : Bytes} (hbytes : bytes.Sublist (receivedOn operations p)) :
    InOrder (operations ++ [.retained p bytes]) where
  isolated := (isolated_snoc _ _).mpr ⟨h.isolated, hconnected⟩
  free q hq := by
    rw [connectorAt_snoc, Connector.after] at hq ⊢
    split at hq
    · next heq =>
      subst heq
      rw [hconnected] at hq
      cases hq
    · next hne => rw [if_neg hne, h.free q hq]
  retained q := by
    rw [connectorAt_snoc, receivedOn_snoc, Connector.after]
    dsimp only
    split
    · next heq =>
      subst heq
      exact hbytes
    · exact h.retained q

theorem reset (p : Nat) : InOrder (operations ++ [.reset p]) where
  isolated := (isolated_snoc _ _).mpr ⟨h.isolated, trivial⟩
  free q hq := by
    rw [connectorAt_snoc, Connector.after] at hq ⊢
    split
    · rfl
    · next hne =>
      rw [if_neg hne] at hq
      exact h.free q hq
  retained q := by
    rw [connectorAt_snoc, receivedOn_snoc, Connector.after]
    dsimp only
    split
    · exact List.nil_sublist _
    · exact h.retained q

theorem recycled (p : Nat) : InOrder (operations ++ [.recycled p]) where
  isolated := (isolated_snoc _ _).mpr ⟨h.isolated, trivial⟩
  free q hq := by
    rw [connectorAt_recycled] at hq ⊢
    split
    · rfl
    · next hne =>
      rw [if_neg hne] at hq
      exact h.free q hq
  retained q := by
    rw [connectorAt_recycled, receivedOn_snoc]
    dsimp only
    split
    · exact List.nil_sublist _
    · exact h.retained q

end InOrder

end Llfix
