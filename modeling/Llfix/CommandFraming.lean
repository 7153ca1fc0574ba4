import Llfix.Lib.Framing
import Llfix.ManagementConnections

/-!
# The commands of a management connection

`process_rx_buffer` of `ManagementServer` by the indices that it keeps, and the calls of
`on_command` that a connection has got, whatever the other connections do meanwhile.

Results:
1. `receivedCommands_framed`: the loop calls `on_command` with the frames of its buffer.
2. `serve_inFrames`: an event keeps the commands and the rest in line with the bytes received.
3. `commandFraming`: so does a run.
-/

namespace Llfix

open Framing

namespace ManagementServer

open GuardedRun

/-! ## The loop of `process_rx_buffer` -/

/-- The variables of the loop, and the commands that `on_command` was called with. The pointer to
the current command is set only in front of the call, to what `currentCommandStart` says. -/
structure CommandLoop where
  offset : Nat := 0
  currentCommandStart : Nat := 0
  bufferReadIndex : Nat := 0
  commands : List Bytes := []

theorem take_succ_getD {buffer : Bytes} {index : Nat} (hindex : index < buffer.length) :
    buffer.take (index + 1) = buffer.take index ++ [buffer.getD index 0] := by
  have hslice := slice_succ buffer (Nat.zero_le _) hindex
  rwa [List.drop_zero, Nat.sub_zero, Nat.sub_zero] at hslice

namespace CommandLoop

variable (buffer : Bytes)

/-- The bytes from the start of the current command up to the offset. -/
def currentCommand (v : CommandLoop) : Bytes :=
  (buffer.drop v.currentCommandStart).take (v.offset - v.currentCommandStart)

/-- One turn of the loop. -/
def turn (v : CommandLoop) : CommandLoop :=
  let v :=
    if buffer.getD v.offset 0 = commandDelimiter then
      { v with
        commands := v.commands ++ [v.currentCommand buffer]
        currentCommandStart := v.offset + 1
        bufferReadIndex := v.offset + 1 }
    else v
  { v with offset := v.offset + 1 }

/-- The `while (true)`, one turn per unit of fuel. -/
def loop : Nat → CommandLoop → CommandLoop
  | 0, v => v
  | fuel + 1, v =>
    let v := v.turn buffer
    if buffer.length - 1 < v.offset then v else loop fuel v

/-- What the variables say of the bytes in front of the offset. -/
structure InFrames (v : CommandLoop) : Prop where
  framed : HasFrames commandDelimiter (buffer.take v.offset) v.commands (v.currentCommand buffer)
  start : v.currentCommandStart ≤ v.offset
  readIndex : v.bufferReadIndex = v.currentCommandStart

variable {buffer} {v : CommandLoop}

theorem turn_offset (v : CommandLoop) : (v.turn buffer).offset = v.offset + 1 := by
  unfold turn
  split <;> rfl

theorem turn_inFrames (h : v.InFrames buffer) (hoffset : v.offset < buffer.length) :
    (v.turn buffer).InFrames buffer := by
  have htake := take_succ_getD hoffset
  unfold turn
  by_cases hdelimiter : buffer.getD v.offset 0 = commandDelimiter
  · rw [if_pos hdelimiter]
    refine ⟨?_, Nat.le_refl _, rfl⟩
    have hended := h.framed.snoc_delimiter
    rw [← hdelimiter, ← htake, hdelimiter] at hended
    unfold currentCommand
    dsimp only
    rw [Nat.sub_self, List.take_zero]
    exact hended
  · rw [if_neg hdelimiter]
    refine ⟨?_, Nat.le_succ_of_le h.start, h.readIndex⟩
    have hlonger := h.framed.snoc hdelimiter
    rw [← htake] at hlonger
    unfold currentCommand at hlonger ⊢
    dsimp only
    rw [slice_succ buffer h.start hoffset]
    exact hlonger

/-- The fuel is the bytes that are left. -/
theorem loop_inFrames (fuel : Nat) (h : v.InFrames buffer)
    (hfuel : v.offset + fuel = buffer.length) :
    (loop buffer fuel v).InFrames buffer ∧ (loop buffer fuel v).offset = buffer.length := by
  induction fuel generalizing v with
  | zero => exact ⟨h, hfuel⟩
  | succ fuel ih =>
    have hoffset : v.offset < buffer.length := by
      rw [← hfuel]
      exact Nat.lt_add_of_pos_right (Nat.succ_pos fuel)
    have hturn := turn_inFrames h hoffset
    unfold loop
    dsimp only
    rw [turn_offset]
    split
    next hlast =>
      refine ⟨hturn, ?_⟩
      rw [turn_offset]
      omega
    next =>
      refine ih hturn ?_
      rw [turn_offset, Nat.add_assoc, Nat.add_comm 1]
      exact hfuel

end CommandLoop

/-- The variables behind the loop. -/
def receivedCommands (buffer : Bytes) : CommandLoop := CommandLoop.loop buffer buffer.length {}

/-- The loop calls `on_command` with the frames of the buffer, and reads up to the open one. -/
theorem receivedCommands_framed (buffer : Bytes) :
    HasFrames commandDelimiter buffer (receivedCommands buffer).commands
      (buffer.drop (receivedCommands buffer).bufferReadIndex) := by
  have hfirst : CommandLoop.InFrames buffer {} := ⟨framed_nil, Nat.le_refl _, rfl⟩
  obtain ⟨h, hoffset⟩ := CommandLoop.loop_inFrames buffer.length hfirst (Nat.zero_add _)
  have hframed := h.framed
  rw [CommandLoop.currentCommand, hoffset, List.take_length, ← h.readIndex,
    List.take_of_length_le (by rw [List.length_drop])] at hframed
  exact hframed

/-- The loop over the bytes takes the same commands. -/
theorem commandLoop_framed {buffer rest : Bytes} {offset commandStart : Nat}
    (hrest : buffer.drop offset = rest) (hstart : commandStart ≤ offset) {frames : List Bytes}
    (h : HasFrames commandDelimiter (buffer.take offset) frames
      ((buffer.drop commandStart).take (offset - commandStart))) :
    HasFrames commandDelimiter buffer (frames ++ (commandLoop buffer rest offset commandStart).1)
      (buffer.drop (commandLoop buffer rest offset commandStart).2) := by
  induction rest generalizing offset commandStart frames with
  | nil =>
    have hend : buffer.length ≤ offset := List.drop_eq_nil_iff.mp hrest
    have hlast : (buffer.drop commandStart).length ≤ offset - commandStart := by
      rw [List.length_drop]
      exact Nat.sub_le_sub_right hend commandStart
    rw [List.take_of_length_le hend, List.take_of_length_le hlast] at h
    rw [commandLoop, List.append_nil]
    exact h
  | cons b rest ih =>
    have hoffset : offset < buffer.length := by
      refine Nat.lt_of_not_le fun hend => ?_
      rw [List.drop_eq_nil_of_le hend] at hrest
      cases hrest
    have hb : buffer.getD offset 0 = b := by
      have hhead := congrArg (·.getD 0 0) hrest
      simpa [List.getD_eq_getElem?_getD, List.getElem?_drop] using hhead
    have hnext : buffer.drop (offset + 1) = rest := by
      rw [← List.tail_drop, hrest]
      rfl
    have htake := take_succ_getD hoffset
    rw [hb] at htake
    unfold commandLoop
    split
    next hdelimiter =>
      have hended := h.snoc_delimiter
      rw [← hdelimiter, ← htake, hdelimiter] at hended
      dsimp only
      rw [List.append_cons]
      refine ih hnext (Nat.le_refl _) ?_
      rw [Nat.sub_self, List.take_zero]
      exact hended
    next hdelimiter =>
      have hlonger := h.snoc hdelimiter
      rw [← htake, ← hb, ← slice_succ buffer hstart hoffset] at hlonger
      exact ih hnext (Nat.le_succ_of_le hstart) hlonger

/-- Both models of the loop leave the same bytes. -/
theorem remainder_framed (buffer : Bytes) :
    HasFrames commandDelimiter buffer (receivedCommands buffer).commands (remainder buffer) := by
  have hframed := commandLoop_framed (List.drop_zero (l := buffer)) (Nat.le_refl 0) framed_nil
  rw [remainder_eq] at hframed
  have hcommands := receivedCommands_framed buffer
  rw [(hcommands.unique hframed).1]
  exact hframed

/-! ## The commands of a connection -/

/-- The slots of the server, and the commands of the connection that each was given to last. -/
structure Serving where
  operations : List SlotOperation := []
  /-- History: the calls of `on_command`. -/
  commands : Nat → List Bytes := fun _ => []

/-- One event of the reactor. -/
def serve (rxBufferCapacity : Nat) (s : Serving) (e : ReactorEvent) : Serving where
  operations := step rxBufferCapacity s.operations e
  commands :=
    match e with
    | .connect p =>
      if (connectorAt s.operations p).connected then s.commands
      else Function.update s.commands p []
    | .readable p received _ =>
      if (connectorAt s.operations p).connected &&
          (0 < received.length && received.length ≤ rxBufferCapacity) then
        Function.update s.commands p
          (s.commands p ++ (receivedCommands (rxBufferOf s.operations p received)).commands)
      else s.commands
    | .connectionLost _ => s.commands

/-- A read delivers a chunk that fits the buffers, and the responses are sent. -/
def Delivers (rxBufferCapacity : Nat) (s : Serving) : ReactorEvent → Prop
  | .readable p received outcome =>
    (0 < received.length ∧ received.length ≤ rxBufferCapacity) ∧
      (connectorAt s.operations p).incomplete.length + received.length ≤ 2 * rxBufferCapacity ∧
        ∀ k, (outcome k).send = .ok
  | _ => True

/-- The commands of a connection are the frames of what it has received, and what is retained is
the open frame. A slot that is free retains nothing. -/
structure ConnectorInFrames (c : Connector) (received : Bytes) (commands : List Bytes) : Prop where
  connected : c.connected = true → HasFrames commandDelimiter received commands c.incomplete
  free : c.connected = false → c.incomplete = []

def Serving.InFrames (s : Serving) : Prop :=
  ∀ p, ConnectorInFrames (connectorAt s.operations p) (receivedOn s.operations p) (s.commands p)

section

variable (operations : List SlotOperation) (p : Nat) {outcome : Nat → CommandOutcome}

/-- Commands whose responses are sent leave the slots as they are. -/
theorem commandTurns_sent (hsent : ∀ k, (outcome k).send = .ok) (rests : List Bytes) (k q : Nat) :
    connectorAt (commandTurns p outcome rests k operations) q = connectorAt operations q ∧
      receivedOn (commandTurns p outcome rests k operations) q = receivedOn operations q := by
  have hcommand : ∀ operations k,
      connectorAt (onCommand operations p (outcome k)) q = connectorAt operations q ∧
        receivedOn (onCommand operations p (outcome k)) q = receivedOn operations q := by
    intro operations k
    unfold onCommand send
    rw [hsent k, if_neg (by decide : SendResult.ok ≠ SendResult.connectionLost)]
    split
    · exact ⟨connectorAt_snoc .., receivedOn_snoc ..⟩
    · exact ⟨rfl, rfl⟩
  induction rests generalizing k operations with
  | nil => exact ⟨rfl, rfl⟩
  | cons rest more ih =>
    rw [commandTurns]
    obtain ⟨hconnector, hreceived⟩ := hcommand operations k
    split
    · obtain ⟨hrest, hrest'⟩ := ih (onCommand operations p (outcome k)) (k + 1)
      exact ⟨hrest.trans hconnector, hrest'.trans hreceived⟩
    · obtain ⟨hrest, hrest'⟩ :=
        ih (onCommand operations p (outcome k) ++ [.read p rest]) (k + 1)
      exact ⟨(hrest.trans (connectorAt_snoc ..)).trans hconnector,
        (hrest'.trans (receivedOn_snoc ..)).trans hreceived⟩

/-- What is behind the last command is retained on its own slot. -/
theorem processRxBytes_sent (hsent : ∀ k, (outcome k).send = .ok) (buffer : Bytes) (q : Nat) :
    connectorAt (processRxBytes operations p buffer outcome) q =
        (if p = q then { connectorAt operations q with incomplete := remainder buffer }
          else connectorAt operations q) ∧
      receivedOn (processRxBytes operations p buffer outcome) q = receivedOn operations q := by
  obtain ⟨hconnector, hreceived⟩ :=
    commandTurns_sent (operations ++ [.read p buffer]) p hsent (behindCommands buffer) 0 q
  rw [connectorAt_snoc, Connector.after] at hconnector
  rw [receivedOn_snoc] at hreceived
  unfold processRxBytes
  dsimp only
  split
  · rw [connectorAt_snoc, receivedOn_snoc, hconnector]
    exact ⟨rfl, hreceived⟩
  next hnone =>
    have hempty : remainder buffer = [] := List.length_eq_zero_iff.mp (Nat.eq_zero_of_not_pos hnone)
    rw [connectorAt_snoc, receivedOn_snoc, hconnector, hempty]
    exact ⟨rfl, hreceived⟩

/-- The connector of a slot behind a read, and what the connection has received. -/
theorem onBytesReady_sent {rxBufferCapacity : Nat} {received : Bytes}
    (hsent : ∀ k, (outcome k).send = .ok) (hpos : 0 < received.length)
    (hle : received.length ≤ rxBufferCapacity) (q : Nat) :
    connectorAt (onBytesReady rxBufferCapacity operations p received outcome) q =
        (if p = q then
          { connectorAt operations q with
            lastReceived := received
            incomplete := remainder (rxBufferOf operations p received) }
        else connectorAt operations q) ∧
      receivedOn (onBytesReady rxBufferCapacity operations p received outcome) q =
        (if p = q then receivedOn operations q ++ received else receivedOn operations q) := by
  have hread := fun q => processRxBytes_sent (operations ++ [.received p received]) p hsent
    (rxBufferOf operations p received) q
  have hopen : (connectorAt (processRxBytes (operations ++ [.received p received]) p
      (rxBufferOf operations p received) outcome) p).lastReceived ≠ [] := by
    rw [(hread p).1, if_pos rfl, connectorAt_snoc, Connector.after]
    dsimp only
    rw [if_pos rfl]
    exact List.ne_nil_of_length_pos hpos
  unfold onBytesReady
  dsimp only
  rw [decide_eq_true hpos, decide_eq_true hle, Bool.true_and, if_pos rfl, receiveDone, ← rxBufferOf,
    if_neg hopen, (hread q).1, (hread q).2, connectorAt_snoc, receivedOn_snoc, Connector.after]
  dsimp only
  split
  · exact ⟨rfl, rfl⟩
  · exact ⟨rfl, rfl⟩

end

/-- An event keeps every connection in line: a new one starts with nothing, a read goes on where
the last one has stopped. -/
theorem serve_inFrames {rxBufferCapacity : Nat} {s : Serving} (h : s.InFrames) {e : ReactorEvent}
    (hdelivers : Delivers rxBufferCapacity s e) : (serve rxBufferCapacity s e).InFrames := by
  intro q
  have hq := h q
  cases e with
  | connect p =>
    simp only [serve, step]
    cases hconnected : (connectorAt s.operations p).connected with
    | true => exact hq
    | false =>
      simp only [Bool.false_eq_true, if_false]
      rw [connectorAt_snoc, receivedOn_snoc, Connector.after]
      dsimp only
      -- A slot that is given out has been recycled, so it holds no bytes of an earlier connection.
      by_cases hpq : p = q
      · subst hpq
        rw [if_pos rfl, if_pos rfl, Function.update_self, Connector.initialise, hq.free hconnected]
        exact ⟨fun _ => framed_nil, fun _ => rfl⟩
      · rw [if_neg hpq, if_neg hpq, Function.update_of_ne (Ne.symm hpq)]
        exact hq
  | readable p received outcome =>
    obtain ⟨⟨hpos, hle⟩, -, hsent⟩ := hdelivers
    simp only [serve, step]
    cases hconnected : (connectorAt s.operations p).connected with
    | false => exact hq
    | true =>
      rw [if_pos rfl, Bool.true_and, decide_eq_true hpos, decide_eq_true hle, Bool.true_and,
        if_pos rfl, (onBytesReady_sent s.operations p hsent hpos hle q).1,
        (onBytesReady_sent s.operations p hsent hpos hle q).2]
      by_cases hpq : p = q
      · subst hpq
        rw [if_pos rfl, if_pos rfl, Function.update_self]
        have hbuffer : rxBufferOf s.operations p received =
            (connectorAt s.operations p).incomplete ++ received := by
          rw [rxBufferOf, connectorAt_snoc, Connector.after, if_pos rfl]
          rfl
        have hcommands := remainder_framed (rxBufferOf s.operations p received)
        rw [hbuffer] at hcommands ⊢
        refine ⟨fun _ => (hq.connected hconnected).append hcommands, fun hfree => ?_⟩
        cases hconnected.symm.trans hfree
      · rw [if_neg hpq, if_neg hpq, Function.update_of_ne (Ne.symm hpq)]
        exact hq
  | connectionLost p =>
    simp only [serve, step]
    split
    · rw [onClientDisconnected, connectorAt_recycled, receivedOn_snoc]
      by_cases hpq : p = q
      · rw [if_pos hpq]
        exact ⟨fun hconnected => (by cases hconnected), fun _ => rfl⟩
      · rw [if_neg hpq]
        exact hq
    · exact hq

theorem serving_inFrames : Serving.InFrames {} := fun _ =>
  ⟨fun hconnected => (by cases hconnected), fun _ => rfl⟩

theorem serve_operations (rxBufferCapacity : Nat) (s : Serving) (events : List ReactorEvent) :
    (run (serve rxBufferCapacity) s events).operations =
      run (step rxBufferCapacity) s.operations events := by
  induction events generalizing s with
  | nil => rfl
  | cons e events ih => exact ih (serve rxBufferCapacity s e)

/-- A connection stays open while its chunks are delivered, and has received all of them. -/
theorem serve_chunks {rxBufferCapacity : Nat} {s : Serving} {p : Nat}
    {outcome : Nat → CommandOutcome} {chunks : List Bytes}
    (hconnected : (connectorAt s.operations p).connected = true)
    (h : Guarded (serve rxBufferCapacity) (Delivers rxBufferCapacity) s
      (chunks.map (.readable p · outcome))) :
    let t := run (serve rxBufferCapacity) s (chunks.map (.readable p · outcome))
    (connectorAt t.operations p).connected = true ∧
      receivedOn t.operations p = receivedOn s.operations p ++ chunks.flatten := by
  induction chunks generalizing s with
  | nil => exact ⟨hconnected, (List.append_nil _).symm⟩
  | cons chunk chunks ih =>
    obtain ⟨⟨⟨hpos, hle⟩, -, hsent⟩, hrest⟩ := h
    have hread := onBytesReady_sent s.operations p hsent hpos hle p
    rw [if_pos rfl, if_pos rfl] at hread
    have hserved : (serve rxBufferCapacity s (.readable p chunk outcome)).operations =
        onBytesReady rxBufferCapacity s.operations p chunk outcome := by
      simp only [serve, step]
      rw [if_pos hconnected]
    obtain ⟨hopen, hreceived⟩ := ih (by rw [hserved, hread.1]; exact hconnected) hrest
    refine ⟨hopen, hreceived.trans ?_⟩
    rw [hserved, hread.2, List.flatten_cons, List.append_assoc]

/-- However a stream is cut into chunks, a connection gets the same commands of it. -/
theorem commands_chunks {rxBufferCapacity : Nat} {p : Nat} {outcome : Nat → CommandOutcome}
    {chunks : List Bytes}
    (h : Guarded (serve rxBufferCapacity) (Delivers rxBufferCapacity)
      (serve rxBufferCapacity {} (.connect p)) (chunks.map (.readable p · outcome))) :
    let s := run (serve rxBufferCapacity) {} (.connect p :: chunks.map (.readable p · outcome))
    chunks.flatten.splitOn commandDelimiter =
      s.commands p ++ [(connectorAt s.operations p).incomplete] := by
  have hgiven : (serve rxBufferCapacity {} (.connect p)).operations = [.given p] := rfl
  have hconnector : (connectorAt [SlotOperation.given p] p).connected = true := by
    rw [← List.nil_append [SlotOperation.given p], connectorAt_snoc, Connector.after, if_pos rfl]
  have hreceived : receivedOn [SlotOperation.given p] p = [] := by
    rw [← List.nil_append [SlotOperation.given p], receivedOn_snoc]
    exact if_pos rfl
  obtain ⟨hopen, hstream⟩ := serve_chunks (hgiven ▸ hconnector) h
  rw [hgiven, hreceived, List.nil_append] at hstream
  have hconnect : Delivers rxBufferCapacity {} (.connect p) := trivial
  have hframes := h.invariant (I := Serving.InFrames)
    (fun _ _ hs hdelivers => serve_inFrames hs hdelivers)
    (serve_inFrames serving_inFrames hconnect) p
  rw [← hstream]
  exact hframes.connected hopen

/-- In every run in which the chunks fit and the responses are sent, each connection has got the
commands between the delimiters of what it has received, in order and each once. What stands behind
the last delimiter is retained, and is where the next chunk goes on. -/
theorem commandFraming (rxBufferCapacity : Nat) (events : List ReactorEvent)
    (h : Guarded (serve rxBufferCapacity) (Delivers rxBufferCapacity) {} events) (p : Nat) :
    let s := run (serve rxBufferCapacity) {} events
    s.operations = run (step rxBufferCapacity) [] events ∧
      ((connectorAt s.operations p).connected = true →
        (receivedOn s.operations p).splitOn commandDelimiter =
          s.commands p ++ [(connectorAt s.operations p).incomplete]) := by
  have hframes : (run (serve rxBufferCapacity) {} events).InFrames :=
    h.invariant (I := Serving.InFrames) (fun _ _ hs hdelivers => serve_inFrames hs hdelivers)
      serving_inFrames
  exact ⟨serve_operations rxBufferCapacity {} events, (hframes p).connected⟩

/-- Two connections, a command that is cut in two, and one without text. -/
def exampleEvents : List ReactorEvent :=
  [.connect 0, .readable 0 (text "get x|se") fun _ => {}, .connect 1,
    .readable 1 (text "a|b") fun _ => { response := text "ok" },
    .readable 0 (text "t y||z") fun _ => {}]

theorem commandFraming_example :
    let s := run (serve 64) {} exampleEvents
    s.commands 0 = [text "get x", text "set y", []] ∧
      (receivedOn s.operations 0).splitOn commandDelimiter =
        s.commands 0 ++ [(connectorAt s.operations 0).incomplete] := by
  have hdelivers : Guarded (serve 64) (Delivers 64) {} exampleEvents :=
    ⟨trivial, ⟨by decide, by decide, fun _ => rfl⟩, trivial, ⟨by decide, by decide, fun _ => rfl⟩,
      ⟨by decide, by decide, fun _ => rfl⟩, trivial⟩
  exact ⟨by decide, (commandFraming 64 exampleEvents hdelivers 0).2 (by decide)⟩

end ManagementServer

end Llfix
