import Llfix.Converters

/-!
# The receive path from the socket to the message

`get_rx_buffer`, `set_incomplete_buffer` and `reset_incomplete_buffer` of `TCPConnector` and
`TcpReactor`, and the loops of `process_rx_buffer` that find the messages in a buffer. The loops
of `FixClient` and of `FixServer` are the same text as far as the bytes go; which tags they record
has no influence on where a message ends. `ManagementServer` looks for the delimiters of its
commands instead.

The incomplete buffer is the list of the bytes retained in it. A history records every copy into
it; a copy that misses the buffer has no effect of its own.
-/

namespace Llfix

/-! ## The connection -/

/-- A `memcpy` into the incomplete buffer: where to, how many bytes, and from which place of the
incomplete buffer itself (`none` for the receive buffer). -/
structure BufferCopy where
  destination : Nat
  length : Nat
  source : Option Nat
deriving DecidableEq, Repr

/-- The receive side of a connection. -/
structure RxConnection where
  rxBufferCapacity : Nat
  isOpen : Bool := true
  /-- The first `m_incomplete_buffer_size` bytes of the incomplete buffer. -/
  incomplete : Bytes := []
  copies : List BufferCopy := []
deriving DecidableEq, Repr

/-- What `process_rx_buffer` is given: the bytes, and whether they stand in the incomplete buffer
or in the receive buffer. -/
structure RxBuffer where
  bytes : Bytes
  inIncomplete : Bool
deriving DecidableEq, Repr

namespace RxConnection

/-- `get_rx_buffer` after a read that delivered `received`. -/
def getRxBuffer (c : RxConnection) (received : Bytes) : RxConnection × RxBuffer :=
  if c.incomplete.length = 0 then (c, { bytes := received, inIncomplete := false })
  else
    ({ c with copies := c.copies ++ [⟨c.incomplete.length, received.length, none⟩] },
      { bytes := c.incomplete ++ received, inIncomplete := true })

/-- `set_incomplete_buffer(buffer + offset, size - offset)`. -/
def setIncompleteBuffer (c : RxConnection) (buffer : RxBuffer) (offset : Nat) : RxConnection :=
  let retained := buffer.bytes.drop offset
  { c with
    incomplete := retained
    copies :=
      if buffer.inIncomplete && offset = 0 then c.copies
      else
        c.copies ++ [⟨0, retained.length, if buffer.inIncomplete then some offset else none⟩] }

/-- `reset_incomplete_buffer`. -/
def resetIncompleteBuffer (c : RxConnection) : RxConnection := { c with incomplete := [] }

end RxConnection

/-! ## Searches in the buffer -/

/-- A slice that ends at the index, when the index is advanced. -/
theorem slice_succ (buffer : Bytes) {start index : Nat} (hstart : start ≤ index)
    (hindex : index < buffer.length) :
    (buffer.drop start).take (index + 1 - start) =
      (buffer.drop start).take (index - start) ++ [buffer.getD index 0] := by
  have hlength : index - start < (buffer.drop start).length := by
    rw [List.length_drop]
    exact Nat.sub_lt_sub_right hstart hindex
  have hbyte : (buffer.drop start)[index - start] = buffer.getD index 0 := by
    rw [List.getElem_drop, List.getD_eq_getElem?_getD, List.getElem?_eq_getElem hindex,
      Option.getD_some]
    congr 1
    exact Nat.add_sub_cancel' hstart
  rw [Nat.sub_add_comm hstart, List.take_succ_eq_append_getElem hlength, hbyte]

/-- `FixUtilities::find_delimiter_from_end`. -/
def findDelimiterFromEnd (buffer : Bytes) : Option Nat :=
  (buffer.reverse.findIdx? (· = fixDelimiter)).map (buffer.length - 1 - ·)

/-- The text `10=`. -/
def tag10Text : Bytes := ['1'.toUInt8, '0'.toUInt8, fixEquals]

/-- The first delimiter from `index` on. -/
def delimiterFrom (buffer : Bytes) (index : Nat) : Option Nat :=
  ((buffer.drop index).findIdx? (· = fixDelimiter)).map (index + ·)

/-- The loop of `find_tag10_start_from_end`, which goes down from `index`: the delimiter behind
the last `10=`. -/
def tag10SearchFrom (buffer : Bytes) : Nat → Option Nat
  | 0 => if buffer.take 3 = tag10Text then delimiterFrom buffer 2 else none
  | index + 1 =>
    if (buffer.drop (index + 1)).take 3 = tag10Text then delimiterFrom buffer (index + 3)
    else tag10SearchFrom buffer index

/-- `FixUtilities::find_tag10_start_from_end`. -/
def findTag10StartFromEnd (buffer : Bytes) (index : Nat) : Option Nat :=
  if buffer.length < 3 then none else tag10SearchFrom buffer (min index (buffer.length - 3))

/-- `FixUtilities::find_begin_string_position`. -/
def findBeginStringPosition : Bytes → Option Nat
  | c :: c' :: rest =>
    if c = '8'.toUInt8 && c' = fixEquals then some 0
    else (findBeginStringPosition (c' :: rest)).map (· + 1)
  | _ => none

/-- The parser reads the tag as tag 10: `validate_tag_format`, then the conversion. -/
def readsAsChecksumTag (tag : Bytes) : Bool :=
  0 < tag.length && tag.length ≤ 10 && tag.all isDigit && charsToUnsignedInt tag = tagChecksum

/-- The inner loop of `process_rx_buffer`: the number of bytes up to the delimiter of tag 10. The
state is the text since `current_tag_start` and whether `=` has been seen. -/
def messageEnd (tag : Bytes) (lookingForEquals : Bool) : Bytes → Option Nat
  | [] => none
  | c :: rest =>
    if lookingForEquals then
      if c = fixEquals then (messageEnd tag false rest).map (· + 1)
      else if c = fixDelimiter then (messageEnd [] true rest).map (· + 1)
      else (messageEnd (tag ++ [c]) true rest).map (· + 1)
    else if c = fixDelimiter then
      if readsAsChecksumTag tag then some 1 else (messageEnd [] true rest).map (· + 1)
    else (messageEnd tag false rest).map (· + 1)

theorem messageEnd_le {tag : Bytes} {lookingForEquals : Bool} {text : Bytes} {length : Nat}
    (h : messageEnd tag lookingForEquals text = some length) :
    0 < length ∧ length ≤ text.length := by
  induction text generalizing tag lookingForEquals length with
  | nil => simp [messageEnd] at h
  | cons c rest ih =>
    have step : ∀ {tag : Bytes} {b : Bool},
        (messageEnd tag b rest).map (· + 1) = some length → 0 < length ∧
          length ≤ (c :: rest).length := by
      intro tag b hmap
      obtain ⟨l, hl, rfl⟩ := Option.map_eq_some_iff.mp hmap
      exact ⟨Nat.succ_pos l, Nat.succ_le_succ (ih hl).2⟩
    unfold messageEnd at h
    split_ifs at h
    · exact step h
    · exact step h
    · exact step h
    · obtain rfl : 1 = length := Option.some.inj h
      exact ⟨Nat.one_pos, by simp⟩
    · exact step h
    · exact step h

/-! ## `process_rx_buffer` -/

/-- How the loop of `process_rx_buffer` is left. -/
inductive RxExit
  /-- There is no begin string in the rest. -/
  | noBeginString
  /-- The message that starts at the offset is incomplete. -/
  | incompleteMessage (offset : Nat)
  /-- The processing of the message has disconnected. -/
  | disconnected
  /-- The last message ends with the buffer. -/
  | atEnd
  /-- What follows the last message, from the offset on, holds no further one. -/
  | remainder (offset : Nat)
deriving DecidableEq, Repr

/-- `MINIMUM_REQUIRED_INITIAL_BUFFER_FOR_PARSING`. -/
def minimumRequiredInitialBufferForParsing : Nat := 4

/-- The loop of `process_rx_buffer` from `readIndex` on, one message per unit of fuel.
`disconnects` says of the messages processed so far whether the last of them has led to
`DISCONNECTED`. -/
def parseLoop (disconnects : List Bytes → Bool) (buffer : Bytes) (finalTag10DelimiterIndex : Nat) :
    Nat → List Bytes → Nat → List Bytes × RxExit
  | 0, processed, _ => (processed, .noBeginString)
  | fuel + 1, processed, readIndex =>
    match findBeginStringPosition (buffer.drop readIndex) with
    | none => (processed, .noBeginString)
    | some offset =>
      let readIndex := readIndex + offset
      match messageEnd [] true (buffer.drop readIndex) with
      | none => (processed, .incompleteMessage readIndex)
      | some length =>
        let processed := processed ++ [(buffer.drop readIndex).take length]
        let readIndex := readIndex + length
        if disconnects processed then (processed, .disconnected)
        else if readIndex = buffer.length then (processed, .atEnd)
        else if finalTag10DelimiterIndex < readIndex then (processed, .remainder readIndex)
        else parseLoop disconnects buffer finalTag10DelimiterIndex fuel processed readIndex

section

variable {disconnects : List Bytes → Bool} {buffer : Bytes} {final fuel readIndex offset : Nat}
  {processed : List Bytes}

theorem parseLoop_noBeginString (h : findBeginStringPosition (buffer.drop readIndex) = none) :
    parseLoop disconnects buffer final (fuel + 1) processed readIndex =
      (processed, .noBeginString) := by
  rw [parseLoop, h]

theorem parseLoop_incomplete (h : findBeginStringPosition (buffer.drop readIndex) = some offset)
    (hend : messageEnd [] true (buffer.drop (readIndex + offset)) = none) :
    parseLoop disconnects buffer final (fuel + 1) processed readIndex =
      (processed, .incompleteMessage (readIndex + offset)) := by
  rw [parseLoop, h]
  simp only [hend]

theorem parseLoop_message {length : Nat}
    (h : findBeginStringPosition (buffer.drop readIndex) = some offset)
    (hend : messageEnd [] true (buffer.drop (readIndex + offset)) = some length) :
    parseLoop disconnects buffer final (fuel + 1) processed readIndex =
      let processed := processed ++ [(buffer.drop (readIndex + offset)).take length]
      let readIndex := readIndex + offset + length
      if disconnects processed then (processed, .disconnected)
      else if readIndex = buffer.length then (processed, .atEnd)
      else if final < readIndex then (processed, .remainder readIndex)
      else parseLoop disconnects buffer final fuel processed readIndex := by
  rw [parseLoop, h]
  simp only [hend]

end

/-- The checks before the loop: the delimiter behind the last `10=`, when there may be a complete
message. -/
def finalTag10DelimiterIndex (buffer : Bytes) : Option Nat :=
  if buffer.length < minimumRequiredInitialBufferForParsing then none
  else (findDelimiterFromEnd buffer).bind (findTag10StartFromEnd buffer)

namespace RxConnection

/-- What an exit retains. The exit for a missing begin string leaves the connection as it is. -/
def leave (c : RxConnection) (buffer : RxBuffer) : RxExit → RxConnection
  | .noBeginString => c
  | .incompleteMessage offset => c.setIncompleteBuffer buffer offset
  | .disconnected => { c with isOpen := false }
  | .atEnd => c.resetIncompleteBuffer
  | .remainder offset => c.setIncompleteBuffer buffer offset

/-- `process_rx_buffer` of the FIX engines: the connection, the messages that were processed and
how the function was left. -/
def processRxBuffer (c : RxConnection) (disconnects : List Bytes → Bool) (buffer : RxBuffer) :
    RxConnection × List Bytes × RxExit :=
  match finalTag10DelimiterIndex buffer.bytes with
  | none => (c.setIncompleteBuffer buffer 0, [], .remainder 0)
  | some final =>
    let (processed, exit) := parseLoop disconnects buffer.bytes final buffer.bytes.length [] 0
    (c.leave buffer exit, processed, exit)

/-- A read that delivered `received`, and `process_rx_buffer` on what `get_rx_buffer` gives. -/
def receive (c : RxConnection) (disconnects : List Bytes → Bool) (received : Bytes) :
    RxConnection × List Bytes × RxExit :=
  let (c, buffer) := c.getRxBuffer received
  c.processRxBuffer disconnects buffer

/-- The reads that `on_data_ready` processes: those that delivered something, and no more than
the receive buffer holds. A connection that was closed is not read any more. -/
def reads (c : RxConnection) (received : Bytes) : Bool :=
  c.isOpen && 0 < received.length && received.length ≤ c.rxBufferCapacity

/-- `on_data_ready` of the FIX engines: the connection and the messages that were processed. -/
def onDataReady (c : RxConnection) (disconnects : List Bytes → Bool) (received : Bytes) :
    RxConnection × List Bytes :=
  if c.reads received then
    let (c, processed, _) := c.receive disconnects received
    (c, processed)
  else (c, [])

end RxConnection

/-! ## `ManagementServer` -/

namespace ManagementServer

/-- `Commands::COMMAND_DELIMITER`. -/
def commandDelimiter : UInt8 := '|'.toUInt8

/-- The loop of `process_rx_buffer` over the bytes from `offset` on: the commands, and the index
behind the last of them. -/
def commandLoop (buffer : Bytes) : Bytes → Nat → Nat → List Bytes × Nat
  | [], _, commandStart => ([], commandStart)
  | b :: rest, offset, commandStart =>
    if b = commandDelimiter then
      let (commands, readIndex) := commandLoop buffer rest (offset + 1) (offset + 1)
      ((buffer.drop commandStart).take (offset - commandStart) :: commands, readIndex)
    else commandLoop buffer rest (offset + 1) commandStart

/-- `process_rx_buffer`: the connection and the commands. -/
def processRxBuffer (c : RxConnection) (buffer : RxBuffer) : RxConnection × List Bytes :=
  let (commands, readIndex) := commandLoop buffer.bytes buffer.bytes 0 0
  if 0 < buffer.bytes.length - readIndex then (c.setIncompleteBuffer buffer readIndex, commands)
  else (c.resetIncompleteBuffer, commands)

/-- `on_data_ready`. -/
def onDataReady (c : RxConnection) (received : Bytes) : RxConnection × List Bytes :=
  if c.reads received then
    let (c, buffer) := c.getRxBuffer received
    processRxBuffer c buffer
  else (c, [])

end ManagementServer

end Llfix
