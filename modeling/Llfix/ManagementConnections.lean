import Llfix.AdminUtility
import Llfix.Connectors
import Llfix.RxBuffer

/-!
# The connections of the management server

`ManagementServer` of `management_server.h` on the single-threaded `TcpReactor`: `process_rx_buffer`
on the bytes of a read, the response to every command, and what is retained. The responses and the
results of their sends are inputs.

Results:
1. `remainder_eq`: the commands and the rest are those that the loop over the bytes finds.
2. `step_isolated_iff`: a read isolates the slots exactly when a response that is lost is the last
   thing in its buffer.
-/

namespace Llfix

namespace ManagementServer

open GuardedRun

/-! ## `process_rx_buffer` -/

/-- The response to a command, and what became of it. -/
structure CommandOutcome where
  response : Bytes := []
  send : SendResult := .ok
deriving DecidableEq, Repr

/-- `TcpReactor::send`: a lost connection is torn down inside. -/
def send (operations : List SlotOperation) (p : Nat) (result : SendResult) : List SlotOperation :=
  if result = .connectionLost then operations ++ [.sent p] ++ [.recycled p]
  else operations ++ [.sent p]

/-- `on_command`, and `on_invalid_command` for a command that it does not know. The copy of that
command for the log is no further read: its bytes were read with the buffer. -/
def onCommand (operations : List SlotOperation) (p : Nat) (o : CommandOutcome) :
    List SlotOperation :=
  if 0 < o.response.length then send operations p o.send else operations

/-- What stands behind each of the commands in the bytes. -/
def behindCommands : Bytes → List Bytes
  | [] => []
  | b :: rest => if b = commandDelimiter then rest :: behindCommands rest else behindCommands rest

/-- What stands behind the last command. -/
def remainder (buffer : Bytes) : Bytes := (behindCommands buffer).getLast?.getD buffer

/-- The loop of `process_rx_buffer` from a command on, with what stands behind it and the commands
after it. -/
def commandTurns (p : Nat) (outcome : Nat → CommandOutcome) :
    List Bytes → Nat → List SlotOperation → List SlotOperation
  | [], _, operations => operations
  | rest :: more, k, operations =>
    let operations := onCommand operations p (outcome k)
    commandTurns p outcome more (k + 1)
      (if rest = [] then operations else operations ++ [.read p rest])

/-- `process_rx_buffer`. -/
def processRxBytes (operations : List SlotOperation) (p : Nat) (buffer : Bytes)
    (outcome : Nat → CommandOutcome) : List SlotOperation :=
  let operations := operations ++ [.read p buffer]
  let operations := commandTurns p outcome (behindCommands buffer) 0 operations
  if 0 < (remainder buffer).length then operations ++ [.retained p (remainder buffer)]
  else operations ++ [.reset p]

/-! ## Events of the reactor -/

/-- `on_client_disconnected`. -/
def onClientDisconnected (operations : List SlotOperation) (p : Nat) : List SlotOperation :=
  operations ++ [.recycled p]

/-- `receive_done` takes a slot that was closed meanwhile for a closed connection. -/
def receiveDone (operations : List SlotOperation) (p : Nat) : List SlotOperation :=
  if (connectorAt operations p).lastReceived = [] then onClientDisconnected operations p
  else operations

/-- `on_data_ready`. -/
def onBytesReady (rxBufferCapacity : Nat) (operations : List SlotOperation) (p : Nat)
    (received : Bytes) (outcome : Nat → CommandOutcome) : List SlotOperation :=
  let operations := operations ++ [.received p received]
  receiveDone
    (if 0 < received.length && received.length ≤ rxBufferCapacity then
      processRxBytes operations p (connectorAt operations p).getRxBuffer outcome
    else operations) p

/-- What the reactor thread does next. -/
inductive ReactorEvent
  | connect (p : Nat)
  | readable (p : Nat) (received : Bytes) (outcome : Nat → CommandOutcome)
  | connectionLost (p : Nat)

/-- One event of the reactor. -/
def step (rxBufferCapacity : Nat) (operations : List SlotOperation) :
    ReactorEvent → List SlotOperation
  | .connect p =>
    if (connectorAt operations p).connected then operations else operations ++ [.given p]
  | .readable p received outcome =>
    if (connectorAt operations p).connected then
      onBytesReady rxBufferCapacity operations p received outcome
    else operations
  | .connectionLost p =>
    if (connectorAt operations p).connected then onClientDisconnected operations p else operations

/-! ## The commands of a buffer -/

/-- The loop over the bytes finds these commands and this rest. -/
theorem commandLoop_behindCommands (buffer rest : Bytes) (offset commandStart : Nat)
    (h : buffer.drop offset = rest) :
    (commandLoop buffer rest offset commandStart).1.length = (behindCommands rest).length ∧
      buffer.drop (commandLoop buffer rest offset commandStart).2 =
        (behindCommands rest).getLast?.getD (buffer.drop commandStart) := by
  induction rest generalizing offset commandStart with
  | nil => exact ⟨rfl, rfl⟩
  | cons b rest ih =>
    have hnext : buffer.drop (offset + 1) = rest := by
      rw [← List.tail_drop, h]
      rfl
    unfold commandLoop behindCommands
    split
    · obtain ⟨hlength, hrest⟩ := ih (offset + 1) (offset + 1) hnext
      refine ⟨congrArg (· + 1) hlength, hrest.trans ?_⟩
      rw [hnext, List.getLast?_cons]
      cases (behindCommands rest).getLast? <;> rfl
    · exact ih (offset + 1) commandStart hnext

theorem remainder_eq (buffer : Bytes) :
    buffer.drop (commandLoop buffer buffer 0 0).2 = remainder buffer :=
  (commandLoop_behindCommands buffer buffer 0 0 rfl).2

theorem behindCommands_cons {buffer rest : Bytes} {more : List Bytes}
    (h : behindCommands buffer = rest :: more) :
    more = behindCommands rest ∧ rest.Sublist buffer := by
  induction buffer with
  | nil => cases h
  | cons b buffer ih =>
    unfold behindCommands at h
    split at h
    · obtain ⟨rfl, rfl⟩ := List.cons.inj h
      exact ⟨rfl, List.sublist_cons_self _ _⟩
    · obtain ⟨hmore, hsublist⟩ := ih h
      exact ⟨hmore, hsublist.trans (List.sublist_cons_self _ _)⟩

theorem remainder_cons {buffer rest : Bytes} {more : List Bytes}
    (h : behindCommands buffer = rest :: more) : remainder buffer = remainder rest := by
  rw [remainder, remainder, h, (behindCommands_cons h).1, List.getLast?_cons]
  rfl

/-- The send of a response loses the connection. -/
def losesResponse (o : CommandOutcome) : Bool :=
  0 < o.response.length && o.send = .connectionLost

/-- A response that is lost is the last thing in its buffer. -/
def KeepsIsolation (buffer : Bytes) (outcome : Nat → CommandOutcome) : Prop :=
  ∀ k rest, (behindCommands buffer)[k]? = some rest → losesResponse (outcome k) = true → rest = []

section

variable {operations : List SlotOperation} {p : Nat}

theorem onCommand_extends (operations : List SlotOperation) (p : Nat) (o : CommandOutcome) :
    operations <+: onCommand operations p o := by
  unfold onCommand send
  split_ifs
  · exact (List.prefix_append _ _).trans (List.prefix_append _ _)
  · exact List.prefix_append _ _
  · exact List.prefix_refl _

theorem commandTurns_extends (outcome : Nat → CommandOutcome) (rests : List Bytes) (k : Nat)
    (operations : List SlotOperation) :
    operations <+: commandTurns p outcome rests k operations := by
  induction rests generalizing k operations with
  | nil => exact List.prefix_refl _
  | cons rest more ih =>
    refine List.IsPrefix.trans ?_ (ih _ _)
    split
    · exact onCommand_extends _ _ _
    · exact (onCommand_extends _ _ _).trans (List.prefix_append _ _)

/-- A command leaves its slot open unless its response is lost. -/
theorem onCommand_slots (hslots : InOrder operations)
    (hconnected : (connectorAt operations p).connected = true) (o : CommandOutcome) :
    InOrder (onCommand operations p o) ∧
      receivedOn (onCommand operations p o) p = receivedOn operations p ∧
      (connectorAt (onCommand operations p o) p).connected = !losesResponse o := by
  unfold onCommand losesResponse send
  by_cases hresponse : 0 < o.response.length
  · rw [if_pos hresponse, decide_eq_true hresponse, Bool.true_and]
    by_cases hlost : o.send = .connectionLost
    · rw [if_pos hlost, decide_eq_true hlost, receivedOn_snoc, receivedOn_snoc,
        connectorAt_recycled, if_pos rfl]
      exact ⟨(hslots.sent hconnected).recycled p, rfl, rfl⟩
    · rw [if_neg hlost, decide_eq_false hlost, receivedOn_snoc, connectorAt_snoc]
      exact ⟨hslots.sent hconnected, rfl, hconnected⟩
  · rw [if_neg hresponse, decide_eq_false hresponse, Bool.false_and]
    exact ⟨hslots, rfl, hconnected⟩

/-- The commands of the bytes, from one of them on. -/
theorem commandTurns_open {buffer : Bytes} (hslots : InOrder operations)
    (hconnected : (connectorAt operations p).connected = true)
    (hbuffer : buffer.Sublist (receivedOn operations p)) (outcome : Nat → CommandOutcome) (k : Nat)
    (hkeeps : ∀ n rest, (behindCommands buffer)[n]? = some rest →
      losesResponse (outcome (k + n)) = true → rest = []) :
    InOrder (commandTurns p outcome (behindCommands buffer) k operations) ∧
      receivedOn (commandTurns p outcome (behindCommands buffer) k operations) p =
        receivedOn operations p ∧
      (remainder buffer ≠ [] →
        (connectorAt (commandTurns p outcome (behindCommands buffer) k operations) p).connected =
          true) := by
  induction hrests : behindCommands buffer generalizing buffer k operations with
  | nil => exact ⟨hslots, rfl, fun _ => hconnected⟩
  | cons rest more ih =>
    obtain ⟨hmore, hsublist⟩ := behindCommands_cons hrests
    obtain ⟨hslots', hreceived, hconnected'⟩ := onCommand_slots hslots hconnected (outcome k)
    rw [commandTurns, remainder_cons hrests]
    by_cases hrest : rest = []
    · -- the last command stands at the end of the buffer
      subst hrest
      rw [hmore, if_pos rfl]
      exact ⟨hslots', hreceived, fun hno => absurd rfl hno⟩
    · have hkept : losesResponse (outcome k) = false := by
        refine Bool.eq_false_iff.mpr fun hlost => hrest (hkeeps 0 rest ?_ hlost)
        rw [hrests]
        rfl
      rw [hkept, Bool.not_false] at hconnected'
      have hread : rest.Sublist (receivedOn (onCommand operations p (outcome k)) p) := by
        rw [hreceived]
        exact hsublist.trans hbuffer
      rw [if_neg hrest]
      have hnext := ih (hslots'.read hconnected' hread)
        (by rw [connectorAt_snoc]; exact hconnected')
        (by rw [receivedOn_snoc]; exact hread) (k + 1) (fun n rest' hn hlost => ?_) hmore.symm
      · rw [receivedOn_snoc] at hnext
        rw [← hreceived]
        exact hnext
      · refine hkeeps (n + 1) rest' ?_ ?_
        · rw [hrests, hmore]
          exact hn
        · rw [← Nat.add_assoc, Nat.add_right_comm]
          exact hlost

/-- Behind a lost response the bytes that follow are read from a slot that is free. -/
theorem keepsIsolation_of_isolated {buffer : Bytes} (hslots : InOrder operations)
    (hconnected : (connectorAt operations p).connected = true)
    (hbuffer : buffer.Sublist (receivedOn operations p)) {outcome : Nat → CommandOutcome} {k : Nat}
    (hisolated : Isolated (commandTurns p outcome (behindCommands buffer) k operations)) :
    ∀ n rest, (behindCommands buffer)[n]? = some rest →
      losesResponse (outcome (k + n)) = true → rest = [] := by
  induction hrests : behindCommands buffer generalizing buffer k operations with
  | nil => exact fun n rest hn => by cases hn
  | cons rest more ih =>
    obtain ⟨hmore, hsublist⟩ := behindCommands_cons hrests
    obtain ⟨hslots', hreceived, hconnected'⟩ := onCommand_slots hslots hconnected (outcome k)
    rw [hrests, commandTurns] at hisolated
    by_cases hrest : rest = []
    · subst hrest
      rw [hmore]
      intro n rest' hn _
      cases n with
      | zero => exact (Option.some.inj hn).symm
      | succ n => cases hn
    · rw [if_neg hrest] at hisolated
      have hstill : (connectorAt (onCommand operations p (outcome k)) p).connected = true :=
        ((isolated_snoc _ _).mp (hisolated.of_prefix (commandTurns_extends _ _ _ _))).2.1
      have hread : rest.Sublist (receivedOn (onCommand operations p (outcome k)) p) := by
        rw [hreceived]
        exact hsublist.trans hbuffer
      intro n rest' hn hlost
      cases n with
      | zero =>
        rw [hstill] at hconnected'
        rw [Nat.add_zero] at hlost
        rw [hlost] at hconnected'
        cases hconnected'
      | succ n =>
        have hlost' : losesResponse (outcome (k + 1 + n)) = true := by
          rw [Nat.add_right_comm, Nat.add_assoc]
          exact hlost
        rw [hmore] at hisolated
        exact ih (hslots'.read hstill hread) (by rw [connectorAt_snoc]; exact hstill)
          (by rw [receivedOn_snoc]; exact hread) hisolated hmore.symm n rest' hn hlost'

/-! ## Reads and runs -/

theorem processRxBytes_extends (operations : List SlotOperation) (p : Nat) (buffer : Bytes)
    (outcome : Nat → CommandOutcome) :
    operations <+: processRxBytes operations p buffer outcome := by
  have hcommands : operations <+: commandTurns p outcome (behindCommands buffer) 0
      (operations ++ [.read p buffer]) :=
    (List.prefix_append _ _).trans (commandTurns_extends _ _ _ _)
  unfold processRxBytes
  dsimp only
  split
  · exact hcommands.trans (List.prefix_append _ _)
  · exact hcommands.trans (List.prefix_append _ _)

theorem processRxBytes_isolated_iff {buffer : Bytes} (hslots : InOrder operations)
    (hconnected : (connectorAt operations p).connected = true)
    (hbuffer : buffer.Sublist (receivedOn operations p)) (outcome : Nat → CommandOutcome) :
    (KeepsIsolation buffer outcome → InOrder (processRxBytes operations p buffer outcome)) ∧
    (Isolated (processRxBytes operations p buffer outcome) → KeepsIsolation buffer outcome) := by
  have hread := hslots.read hconnected hbuffer
  have hconnected' : (connectorAt (operations ++ [.read p buffer]) p).connected = true := by
    rw [connectorAt_snoc]
    exact hconnected
  have hbuffer' : buffer.Sublist (receivedOn (operations ++ [.read p buffer]) p) := by
    rw [receivedOn_snoc]
    exact hbuffer
  unfold KeepsIsolation
  constructor
  · intro hkeeps
    obtain ⟨hend, hreceived, hstill⟩ := commandTurns_open hread hconnected' hbuffer' outcome 0
      fun n rest hn hlost => hkeeps n rest hn (Nat.zero_add n ▸ hlost)
    unfold processRxBytes
    dsimp only
    split
    · next hrest =>
      refine hend.retain (hstill (List.ne_nil_of_length_pos hrest)) ?_
      rw [hreceived, ← remainder_eq]
      exact (List.drop_sublist _ _).trans hbuffer'
    · exact hend.reset p
  · intro hisolated n rest hn hlost
    refine keepsIsolation_of_isolated hread hconnected' hbuffer' (k := 0) ?_ n rest hn
      ((Nat.zero_add n).symm ▸ hlost)
    refine hisolated.of_prefix ?_
    unfold processRxBytes
    dsimp only
    split
    · exact List.prefix_append _ _
    · exact List.prefix_append _ _

/-- The bytes of a read behind what was retained. -/
def rxBufferOf (operations : List SlotOperation) (p : Nat) (received : Bytes) : Bytes :=
  (connectorAt (operations ++ [.received p received]) p).getRxBuffer

/-- When the connection is lost while a response is sent, its command is the last in its buffer,
with nothing behind it. -/
def EventKeepsIsolation (rxBufferCapacity : Nat) (operations : List SlotOperation) :
    ReactorEvent → Prop
  | .readable p received outcome =>
    (connectorAt operations p).connected = true → 0 < received.length →
      received.length ≤ rxBufferCapacity → KeepsIsolation (rxBufferOf operations p received) outcome
  | _ => True

theorem receiveDone_extends (operations : List SlotOperation) (p : Nat) :
    operations <+: receiveDone operations p := by
  unfold receiveDone
  split
  · exact List.prefix_append _ _
  · exact List.prefix_refl _

theorem receiveDone_slots (hslots : InOrder operations) (p : Nat) :
    InOrder (receiveDone operations p) := by
  unfold receiveDone
  split
  · exact hslots.recycled p
  · exact hslots

theorem step_extends (rxBufferCapacity : Nat) (operations : List SlotOperation)
    (e : ReactorEvent) : operations <+: step rxBufferCapacity operations e := by
  cases e with
  | connect p =>
    simp only [step]
    split
    · exact List.prefix_refl _
    · exact List.prefix_append _ _
  | readable p received outcome =>
    simp only [step]
    split
    · refine List.IsPrefix.trans ?_ (receiveDone_extends _ p)
      split
      · exact (List.prefix_append _ _).trans (processRxBytes_extends _ _ _ _)
      · exact List.prefix_append _ _
    · exact List.prefix_refl _
  | connectionLost p =>
    simp only [step]
    split
    · exact List.prefix_append _ _
    · exact List.prefix_refl _

/-- An event keeps the slots in order, or they are not isolated behind it. -/
theorem step_isolated_iff {rxBufferCapacity : Nat} (hslots : InOrder operations)
    (e : ReactorEvent) :
    (EventKeepsIsolation rxBufferCapacity operations e →
      InOrder (step rxBufferCapacity operations e)) ∧
    (Isolated (step rxBufferCapacity operations e) →
      EventKeepsIsolation rxBufferCapacity operations e) := by
  cases e with
  | connect p =>
    refine ⟨fun _ => ?_, fun _ => trivial⟩
    simp only [step]
    split
    · exact hslots
    · next hfree => exact hslots.given (Bool.not_eq_true _ ▸ hfree)
  | readable p received outcome =>
    simp only [step, EventKeepsIsolation]
    cases hconnected : (connectorAt operations p).connected with
    | false => exact ⟨fun _ => hslots, fun _ hno => by cases hno⟩
    | true =>
      have hreceived := hslots.received hconnected received
      have hconnected' : (connectorAt (operations ++ [.received p received]) p).connected =
          true := by
        rw [connectorAt_snoc, Connector.after, if_pos rfl]
        exact hconnected
      have hbuffer : (rxBufferOf operations p received).Sublist
          (receivedOn (operations ++ [.received p received]) p) := by
        rw [rxBufferOf, connectorAt_snoc, receivedOn_snoc, Connector.after, if_pos rfl]
        dsimp only
        rw [if_pos rfl]
        exact (hslots.retained p).append (List.Sublist.refl received)
      -- The buffer holds only bytes that the connection has received, in their order.
      obtain ⟨hkept, hkeeps⟩ := processRxBytes_isolated_iff hreceived hconnected' hbuffer outcome
      rw [if_pos rfl, onBytesReady]
      cases hread : (0 < received.length && received.length ≤ rxBufferCapacity : Bool) with
      | false =>
        refine ⟨fun _ => receiveDone_slots hreceived p, fun _ _ hpos hle => ?_⟩
        rw [decide_eq_true hpos, decide_eq_true hle] at hread
        cases hread
      | true =>
        obtain ⟨hpos, hle⟩ := Bool.and_eq_true_iff.mp hread
        constructor
        · intro hevent
          exact receiveDone_slots
            (hkept (hevent rfl (of_decide_eq_true hpos) (of_decide_eq_true hle))) p
        · intro hisolated _ _ _
          exact hkeeps (hisolated.of_prefix (receiveDone_extends _ p))
  | connectionLost p =>
    refine ⟨fun _ => ?_, fun _ => trivial⟩
    simp only [step]
    split
    · exact hslots.recycled p
    · exact hslots

/-- A run isolates the slots exactly when no response is lost before further bytes. -/
theorem run_step_isolated_iff {rxBufferCapacity : Nat} (hslots : InOrder operations)
    (events : List ReactorEvent) :
    Isolated (run (step rxBufferCapacity) operations events) ↔
      Guarded (step rxBufferCapacity) (EventKeepsIsolation rxBufferCapacity) operations
        events := by
  refine holds_at_end_iff InOrder Isolated (fun operations e hafter => ?_)
    (fun operations e h hafter => ?_) (fun operations e h _ => ?_) events hslots hslots.isolated
  · exact hafter.of_prefix (step_extends _ operations e)
  · exact (step_isolated_iff h e).1 ((step_isolated_iff h e).2 hafter)
  · exact ⟨(step_isolated_iff h e).2, fun hevent => ((step_isolated_iff h e).1 hevent).isolated⟩

end

end ManagementServer

end Llfix
