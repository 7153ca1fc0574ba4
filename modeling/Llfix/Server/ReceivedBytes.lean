import Llfix.Parser
import Llfix.RxRemainder
import Llfix.Server.Connections

/-!
# The server on the bytes of its connections

`on_data_ready` and `process_rx_buffer` of `FixServer` from the bytes of a read on: which messages
are found, what is done for them, and what is retained in the connector slot. The events are those
of the reactor thread.

Results:
1. `run_rxTurn_returned`: the turns that `process_rx_buffer` is given are enough for its buffer.
-/

namespace Llfix

namespace FixServer

/-! ## `process_rx_buffer` -/

/-- The loop of `process_rx_buffer`, with the index that the next message is looked for from. -/
structure RxTurn where
  loop : RxLoop
  bufferReadIndex : Nat := 0

/-- The function is left with an operation on the slot. -/
def RxLoop.leave (l : RxLoop) (operation : SlotOperation) : RxLoop :=
  { l with server := l.server.onSlot operation, returned := true }

/-- What the loop does behind a message. -/
def behindMessage (p : Nat) (buffer : Bytes) (finalTag10DelimiterIndex : Nat) (l : RxLoop)
    (bufferReadIndex : Nat) : RxTurn :=
  let rest := buffer.drop bufferReadIndex
  if l.returned then { loop := l, bufferReadIndex }
  else if bufferReadIndex = buffer.length then { loop := l.leave (.reset p), bufferReadIndex }
  else if finalTag10DelimiterIndex < bufferReadIndex then
    { loop := l.leave (.retained p rest), bufferReadIndex }
  else { loop := { l with server := l.server.onSlot (.read p rest) }, bufferReadIndex }

/-- One message of the loop. -/
def rxTurn (specs : RepeatingGroupSpecs) (p : Nat) (buffer : Bytes) (finalTag10DelimiterIndex : Nat)
    (t : RxTurn) (env : ServerRxEnv) : RxTurn :=
  if t.loop.returned then t
  else
    match findBeginStringPosition (buffer.drop t.bufferReadIndex) with
    | none => { t with loop := { t.loop with returned := true } }
    | some offset =>
      let readIndex := t.bufferReadIndex + offset
      match parseMessage specs (buffer.drop readIndex) with
      | none => { t with loop := t.loop.leave (.retained p (buffer.drop readIndex)) }
      | some (_, rx) =>
        behindMessage p buffer finalTag10DelimiterIndex (rxStep p t.loop (rx, env))
          (readIndex + rx.buffer.length)

/-- The loop before the first message. -/
def firstTurn (srv : FixServer) (p : Nat) : RxTurn :=
  { loop := { server := srv, session := srv.connectors.getSession p } }

/-- A turn reads at least one byte, so that there are no more turns than bytes. -/
def environments (buffer : Bytes) (env : Nat → ServerRxEnv) : List ServerRxEnv :=
  (List.range buffer.length).map env

theorem rxTurn_progress {specs : RepeatingGroupSpecs} {p : Nat} {buffer : Bytes} {final : Nat}
    {t : RxTurn} {env : ServerRxEnv}
    (h : (rxTurn specs p buffer final t env).loop.returned = false) :
    t.loop.returned = false ∧
      t.bufferReadIndex < (rxTurn specs p buffer final t env).bufferReadIndex ∧
      (rxTurn specs p buffer final t env).bufferReadIndex < buffer.length := by
  cases hreturned : t.loop.returned with
  | true =>
    rw [rxTurn, if_pos hreturned, hreturned] at h
    cases h
  | false =>
    unfold rxTurn at h ⊢
    rw [if_neg (by rw [hreturned]; exact Bool.false_ne_true)] at h ⊢
    cases hbegin : findBeginStringPosition (buffer.drop t.bufferReadIndex) with
    | none =>
      rw [hbegin] at h
      cases h
    | some offset =>
      simp only [hbegin] at h ⊢
      cases hparse : parseMessage specs (buffer.drop (t.bufferReadIndex + offset)) with
      | none =>
        rw [hparse] at h
        cases h
      | some parsed =>
        simp only [hparse] at h ⊢
        obtain ⟨hpos, hle⟩ := parseMessage_length hparse
        rw [List.length_drop] at hle
        unfold behindMessage at h ⊢
        dsimp only at h ⊢
        split_ifs at h ⊢ with hleft hatEnd hremainder
        · rw [hleft] at h
          cases h
        · cases h
        · cases h
        · refine ⟨trivial, ?_, ?_⟩
          · dsimp only
            omega
          · dsimp only
            omega

/-- The loop has returned behind the turns that it is given. -/
theorem run_rxTurn_returned (specs : RepeatingGroupSpecs) (p : Nat) {buffer : Bytes} (final : Nat)
    (t : RxTurn) {envs : List ServerRxEnv} (hbuffer : 0 < buffer.length)
    (henvs : buffer.length ≤ envs.length) :
    (GuardedRun.run (rxTurn specs p buffer final) t envs).loop.returned = true := by
  refine GuardedRun.final_of_progress (fun t : RxTurn => t.loop.returned = true)
    RxTurn.bufferReadIndex (fun t env h => ?_) hbuffer t henvs
  have hprogress := rxTurn_progress (Bool.eq_false_iff.mpr h)
  exact ⟨Bool.eq_false_iff.mp hprogress.1, hprogress.2⟩

/-- `process_rx_buffer`. -/
def processRxBytes (specs : RepeatingGroupSpecs) (srv : FixServer) (p : Nat) (buffer : Bytes)
    (env : Nat → ServerRxEnv) : FixServer :=
  let srv := srv.onSlot (.read p buffer)
  match finalTag10DelimiterIndex buffer with
  | none => srv.onSlot (.retained p buffer)
  | some final =>
    (GuardedRun.run (rxTurn specs p buffer final) (srv.firstTurn p)
      (environments buffer env)).loop.server

/-! ## Events of the reactor -/

/-- The messages of a read. -/
def processRead (specs : RepeatingGroupSpecs) (rxBufferCapacity : Nat) (srv : FixServer) (p : Nat)
    (received : Bytes) (env : Nat → ServerRxEnv) : FixServer :=
  let srv := srv.onSlot (.received p received)
  if 0 < received.length && received.length ≤ rxBufferCapacity then
    srv.processRxBytes specs p (connectorAt srv.slotOperations p).getRxBuffer env
  else srv

/-- `receive_done`. A slot that was closed meanwhile has no result of a read any more, which is
taken for a closed connection. -/
def receiveDone (srv : FixServer) (p : Nat) : FixServer :=
  if (connectorAt srv.slotOperations p).lastReceived = [] then srv.onClientDisconnected p else srv

/-- `on_data_ready`. -/
def onBytesReady (specs : RepeatingGroupSpecs) (rxBufferCapacity : Nat) (srv : FixServer) (p : Nat)
    (received : Bytes) (env : Nat → ServerRxEnv) : FixServer :=
  (srv.processRead specs rxBufferCapacity p received env).receiveDone p

/-- What the reactor thread does next. A read that delivers nothing finds the connection closed;
`connectionLost` is a read that fails. -/
inductive ReactorEvent
  | connect (p : Nat)
  | readable (p : Nat) (received : Bytes) (env : Nat → ServerRxEnv)
  | connectionLost (p : Nat)
  | process (env : Nat → ProcessEnv)
  | pushAdminCommand (i : Nat) (command : ModifyingAdminCommand)

/-- One event of the reactor. `add_connector` takes a slot that is not connected. -/
def reactorStep (specs : RepeatingGroupSpecs) (rxBufferCapacity : Nat) (srv : FixServer) :
    ReactorEvent → FixServer
  | .connect p => if srv.connected p then srv else srv.step (.connect p)
  | .readable p received env =>
    if srv.connected p then srv.onBytesReady specs rxBufferCapacity p received env else srv
  | .connectionLost p => srv.step (.disconnect p)
  | .process env => srv.step (.process env)
  | .pushAdminCommand i command => srv.step (.pushAdminCommand i command)

end FixServer

end Llfix
