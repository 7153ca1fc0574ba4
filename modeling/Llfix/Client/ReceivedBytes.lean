import Llfix.FixClient
import Llfix.Lib.GuardedRun
import Llfix.Parser

/-!
# The client on the bytes of its connection

`process_rx_buffer` of `FixClient` from the bytes of a read on, with what it retains in the
incomplete buffer of `TCPConnector`.

Results:
1. `run_rxTurn_returned`: the turns that `process_rx_buffer` is given are enough for its buffer.
-/

namespace Llfix

namespace FixClient

/-- The loop of `process_rx_buffer`, with the index that the next message is looked for from. -/
structure RxTurn where
  loop : RxLoop
  connection : RxConnection
  bufferReadIndex : Nat := 0

/-- The function is left with the bytes from the index on retained. -/
def RxTurn.retain (t : RxTurn) (buffer : RxBuffer) (offset : Nat) : RxTurn :=
  { t with
    loop := { t.loop with returned := true }
    connection := t.connection.setIncompleteBuffer buffer offset }

/-- What the loop does behind a message. -/
def RxTurn.behindMessage (buffer : RxBuffer) (finalTag10DelimiterIndex : Nat) (t : RxTurn) :
    RxTurn :=
  if t.loop.returned then t
  else if t.bufferReadIndex = buffer.bytes.length then
    { t with
      loop := { t.loop with returned := true }
      connection := t.connection.resetIncompleteBuffer }
  else if finalTag10DelimiterIndex < t.bufferReadIndex then t.retain buffer t.bufferReadIndex
  else t

/-- One message of the loop. -/
def rxTurn (specs : RepeatingGroupSpecs) (buffer : RxBuffer) (finalTag10DelimiterIndex : Nat)
    (t : RxTurn) (env : ClientRxEnv) : RxTurn :=
  if t.loop.returned then t
  else
    match findBeginStringPosition (buffer.bytes.drop t.bufferReadIndex) with
    | none => { t with loop := { t.loop with returned := true } }
    | some offset =>
      let readIndex := t.bufferReadIndex + offset
      match parseMessage specs (buffer.bytes.drop readIndex) with
      | none => t.retain buffer readIndex
      | some (_, rx) =>
        RxTurn.behindMessage buffer finalTag10DelimiterIndex
          { t with
            loop := rxStep t.loop (rx, env)
            bufferReadIndex := readIndex + rx.buffer.length }

/-- A turn reads at least one byte, so that there are no more turns than bytes. -/
def environments (buffer : RxBuffer) (env : Nat → ClientRxEnv) : List ClientRxEnv :=
  (List.range buffer.bytes.length).map env

/-- `process_rx_buffer`: the client and the receive side of its connection. -/
def processRxBytes (specs : RepeatingGroupSpecs) (c : FixClient) (connection : RxConnection)
    (buffer : RxBuffer) (env : Nat → ClientRxEnv) : FixClient × RxConnection :=
  match finalTag10DelimiterIndex buffer.bytes with
  | none => (c, connection.setIncompleteBuffer buffer 0)
  | some final =>
    let t := GuardedRun.run (rxTurn specs buffer final) { loop := { client := c }, connection }
      (environments buffer env)
    (t.loop.client, t.connection)

/-! ## The turns are enough -/

theorem RxTurn.behindMessage_progress {buffer : RxBuffer} {final : Nat} {t : RxTurn}
    (hindex : t.bufferReadIndex ≤ buffer.bytes.length)
    (h : ¬ (t.behindMessage buffer final).loop.returned = true) :
    (t.behindMessage buffer final).bufferReadIndex = t.bufferReadIndex ∧
      t.bufferReadIndex < buffer.bytes.length := by
  unfold behindMessage at h ⊢
  split at h
  next hleft => exact absurd hleft h
  next hleft =>
    rw [if_neg hleft]
    split at h
    · exact absurd rfl h
    next hatEnd =>
      rw [if_neg hatEnd]
      split at h
      · exact absurd rfl h
      next hremainder =>
        rw [if_neg hremainder]
        exact ⟨rfl, Nat.lt_of_le_of_ne hindex hatEnd⟩

theorem rxTurn_progress {specs : RepeatingGroupSpecs} {buffer : RxBuffer} {final : Nat}
    {t : RxTurn} {env : ClientRxEnv}
    (h : ¬ (rxTurn specs buffer final t env).loop.returned = true) :
    ¬ t.loop.returned = true ∧
      t.bufferReadIndex < (rxTurn specs buffer final t env).bufferReadIndex ∧
      (rxTurn specs buffer final t env).bufferReadIndex < buffer.bytes.length := by
  unfold rxTurn at h ⊢
  split at h
  next hreturned => exact absurd hreturned h
  next hreturned =>
    rw [if_neg hreturned]
    refine ⟨hreturned, ?_⟩
    cases hbegin : findBeginStringPosition (buffer.bytes.drop t.bufferReadIndex) with
    | none =>
      rw [hbegin] at h
      exact absurd rfl h
    | some offset =>
      simp only [hbegin] at h ⊢
      cases hparse : parseMessage specs (buffer.bytes.drop (t.bufferReadIndex + offset)) with
      | none =>
        rw [hparse] at h
        exact absurd rfl h
      | some parsed =>
        simp only [hparse] at h ⊢
        obtain ⟨hpos, hle⟩ := parseMessage_length hparse
        rw [List.length_drop] at hle
        obtain ⟨heq, hbelow⟩ := RxTurn.behindMessage_progress (by dsimp only; omega) h
        rw [heq]
        exact ⟨by dsimp only; omega, hbelow⟩

/-- The loop has returned behind the turns that it is given. -/
theorem run_rxTurn_returned (specs : RepeatingGroupSpecs) {buffer : RxBuffer} (final : Nat)
    (t : RxTurn) {envs : List ClientRxEnv} (hbuffer : 0 < buffer.bytes.length)
    (henvs : buffer.bytes.length ≤ envs.length) :
    (GuardedRun.run (rxTurn specs buffer final) t envs).loop.returned = true :=
  GuardedRun.final_of_progress (fun t : RxTurn => t.loop.returned = true) RxTurn.bufferReadIndex
    (fun _ _ h => rxTurn_progress h) hbuffer t henvs

end FixClient

end Llfix
