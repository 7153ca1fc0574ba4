import Llfix.BinaryFields

/-!
# The four receive loops

`process_rx_buffer` of `FixClient` and of `FixServer`, each in the build with binary fields and in
the one without. The loops go through the buffer by its indices. The server is one whose connection
has a session, and no handler disconnects.

Results:
1. `innerLoop_parse`, `parse_shift`: the loop by the indices parses each message by itself.
2. `clientProcessRxBuffer_eq`: the messages and the remainder of the loop over the bytes.
3. `turnBinary_eq`: without a binary field specification, the two builds take the same turns.
4. `outerLoop_simulates`: two transports that follow each other are left alike.
5. `receiveLoops_agree`: the four loops receive the same messages and retain the same bytes.
-/

namespace Llfix

/-! ## The inner loop -/

/-- The variables of the inner loop. -/
structure LoopVariables where
  currentIndex : Nat
  lookingForEquals : Bool := true
  currentTagStart : Nat
  currentTagLen : Nat := 0
  currentValueStart : Nat
  currentTag10DelimiterIndex : Option Nat := none
  binaryField : BinaryField := {}
  parser : MessageParser := {}

namespace LoopVariables

/-- The variables at the begin string of a message. -/
def atBeginString (bufferReadIndex : Nat) : LoopVariables where
  currentIndex := bufferReadIndex
  currentTagStart := bufferReadIndex
  currentValueStart := bufferReadIndex

section

variable (specs : RepeatingGroupSpecs) (binary : IncomingFixBinaryFieldSpecs) (buffer : Bytes)
  (v : LoopVariables)

def currentTag : Bytes := (buffer.drop v.currentTagStart).take v.currentTagLen

def currentValue : Bytes :=
  (buffer.drop v.currentValueStart).take (v.currentIndex - v.currentValueStart)

/-- The branch `looking_for_equals`. -/
def lookForEquals (currentChar : UInt8) : LoopVariables :=
  if currentChar = fixEquals then
    { v with
      currentTagLen := v.currentIndex - v.currentTagStart
      currentValueStart := v.currentIndex + 1
      lookingForEquals := false }
  else if currentChar = fixDelimiter then
    { v with currentTagStart := v.currentIndex + 1, parser := v.parser.reject noEqualsSign }
  else v

/-- The branch for the delimiter behind a value, up to the assignments at its end. -/
def endOfValue : LoopVariables :=
  let parser := v.parser.endOfValue specs v.currentTagStart (v.currentTag buffer)
    (v.currentValue buffer)
  if parser.reachedChecksum then
    { v with parser := parser, currentTag10DelimiterIndex := some v.currentIndex }
  else
    { v with parser := parser, currentTagStart := v.currentIndex + 1, lookingForEquals := true }

/-- What the loop does with a byte without binary fields: an `else if` behind the branch
`looking_for_equals`. -/
def turn : LoopVariables :=
  let currentChar := buffer.getD v.currentIndex 0
  if v.lookingForEquals then v.lookForEquals currentChar
  else if currentChar = fixDelimiter then v.endOfValue specs buffer
  else v

/-- With binary fields, the branch `looking_for_equals` has an `else` of its own. -/
def lookOrCount (currentChar : UInt8) : LoopVariables :=
  if v.lookingForEquals then v.lookForEquals currentChar
  else { v with binaryField := v.binaryField.count }

/-- The branch for a delimiter behind `=` with binary fields. -/
def endOfBinaryValue : LoopVariables :=
  let reachedValueEnd := !v.binaryField.isOpen
  if reachedValueEnd then
    let binaryField := v.parser.lengthBehind binary (v.currentTag buffer) (v.currentValue buffer)
      v.binaryField.close
    { v.endOfValue specs buffer with binaryField := binaryField }
  else v

/-- What the loop does with a byte with binary fields: two `if`s, one behind the other. -/
def turnBinary : LoopVariables :=
  let currentChar := buffer.getD v.currentIndex 0
  let v := v.lookOrCount currentChar
  if v.lookingForEquals = false ∧ currentChar = fixDelimiter then
    v.endOfBinaryValue specs binary buffer
  else v

end

/-- The inner `while (true)` on a buffer of so many bytes, one byte per unit of fuel. `none` is a
message that is incomplete. -/
def innerLoop (turn : LoopVariables → LoopVariables) (bufferSize : Nat) :
    Nat → LoopVariables → Option LoopVariables
  | 0, _ => none
  | fuel + 1, v =>
    let v := turn v
    if v.currentTag10DelimiterIndex.isSome then some v
    else if bufferSize - 1 ≤ v.currentIndex then none
    else innerLoop turn bufferSize fuel { v with currentIndex := v.currentIndex + 1 }

end LoopVariables

/-! ## The outer loop -/

/-- What `process_incoming_fix_message` is called with. -/
structure ReceivedMessage where
  bytes : Bytes
  tags : List (Tag × Bytes)
  repeatingGroups : List (Tag × Bytes)
  parserRejectCode : Option UInt32
deriving DecidableEq, Repr

/-- The message of so many bytes that the variables are left with. -/
def LoopVariables.received (v : LoopVariables) (buffer : Bytes)
    (bufferReadIndex currentMessageLength : Nat) : ReceivedMessage where
  bytes := (buffer.drop bufferReadIndex).take currentMessageLength
  tags := v.parser.message.tags
  repeatingGroups := v.parser.repeatingGroups
  parserRejectCode := v.parser.parserRejectCode

/-- The receive side of the engine that runs the loop. -/
structure RxTransport (σ : Type) where
  setIncompleteBuffer : σ → RxBuffer → Nat → σ
  resetIncompleteBuffer : σ → σ

namespace RxTransport

variable {σ : Type} (transport : RxTransport σ)

/-- The outer `while (true)`, one message per unit of fuel. -/
def outerLoop (turn : Bytes → LoopVariables → LoopVariables) (buffer : RxBuffer)
    (finalTag10DelimiterIndex : Nat) :
    Nat → σ → List ReceivedMessage → Nat → σ × List ReceivedMessage
  | 0, t, received, _ => (t, received)
  | fuel + 1, t, received, bufferReadIndex =>
    match findBeginStringPosition (buffer.bytes.drop bufferReadIndex) with
    | none => (t, received)
    | some offset =>
      let bufferReadIndex := bufferReadIndex + offset
      match LoopVariables.innerLoop (turn buffer.bytes) buffer.bytes.length buffer.bytes.length
          (.atBeginString bufferReadIndex) with
      | none => (transport.setIncompleteBuffer t buffer bufferReadIndex, received)
      | some v =>
        let delimiterIndex := v.currentTag10DelimiterIndex.getD 0
        let currentMessageLength := delimiterIndex + 1 - bufferReadIndex
        let received := received ++ [v.received buffer.bytes bufferReadIndex currentMessageLength]
        let bufferReadIndex := delimiterIndex + 1
        if delimiterIndex = buffer.bytes.length - 1 then
          (transport.resetIncompleteBuffer t, received)
        else if finalTag10DelimiterIndex < bufferReadIndex then
          (transport.setIncompleteBuffer t buffer bufferReadIndex, received)
        else
          outerLoop turn buffer finalTag10DelimiterIndex fuel t received bufferReadIndex

/-- `process_rx_buffer`: what is retained, and the messages that are processed. -/
def processRxBuffer (turn : Bytes → LoopVariables → LoopVariables) (t : σ) (buffer : RxBuffer) :
    σ × List ReceivedMessage :=
  match finalTag10DelimiterIndex buffer.bytes with
  | none => (transport.setIncompleteBuffer t buffer 0, [])
  | some final => transport.outerLoop turn buffer final buffer.bytes.length t [] 0

end RxTransport

/-- `TCPConnector`. -/
def tcpConnector : RxTransport RxConnection where
  setIncompleteBuffer := RxConnection.setIncompleteBuffer
  resetIncompleteBuffer := RxConnection.resetIncompleteBuffer

/-- `TcpReactor`, which has the connections by their indices. -/
def tcpReactor (peerIndex : Nat) : RxTransport (Nat → RxConnection) where
  setIncompleteBuffer connectors buffer offset :=
    Function.update connectors peerIndex
      ((connectors peerIndex).setIncompleteBuffer buffer offset)
  resetIncompleteBuffer connectors :=
    Function.update connectors peerIndex (connectors peerIndex).resetIncompleteBuffer

section

variable (specs : RepeatingGroupSpecs) (binary : IncomingFixBinaryFieldSpecs)

/-- `FixClient::process_rx_buffer`. -/
def clientProcessRxBuffer : RxConnection → RxBuffer → RxConnection × List ReceivedMessage :=
  tcpConnector.processRxBuffer (LoopVariables.turn specs)

/-- `FixClient::process_rx_buffer` with `LLFIX_ENABLE_BINARY_FIELDS`. -/
def clientProcessRxBufferBinary : RxConnection → RxBuffer → RxConnection × List ReceivedMessage :=
  tcpConnector.processRxBuffer (LoopVariables.turnBinary specs binary)

/-- `FixServer::process_rx_buffer`. -/
def serverProcessRxBuffer (peerIndex : Nat) :
    (Nat → RxConnection) → RxBuffer → (Nat → RxConnection) × List ReceivedMessage :=
  (tcpReactor peerIndex).processRxBuffer (LoopVariables.turn specs)

/-- `FixServer::process_rx_buffer` with `LLFIX_ENABLE_BINARY_FIELDS`. -/
def serverProcessRxBufferBinary (peerIndex : Nat) :
    (Nat → RxConnection) → RxBuffer → (Nat → RxConnection) × List ReceivedMessage :=
  (tcpReactor peerIndex).processRxBuffer (LoopVariables.turnBinary specs binary)

end

/-! ## The loop over the bytes -/

namespace LoopVariables

variable (specs : RepeatingGroupSpecs) (buffer : Bytes)

theorem drop_index {index : Nat} (hindex : index < buffer.length) :
    buffer.drop index = buffer.getD index 0 :: buffer.drop (index + 1) := by
  rw [List.getD_eq_getElem _ _ hindex]
  exact List.drop_eq_getElem_cons hindex

/-- The text of the tag, as far as it has been read. -/
def tagRead (v : LoopVariables) : Bytes :=
  if v.lookingForEquals then
    (buffer.drop v.currentTagStart).take (v.currentIndex - v.currentTagStart)
  else v.currentTag buffer

/-- The text of the value, once the loop is behind `=`. -/
def valueRead (v : LoopVariables) : Option Bytes :=
  if v.lookingForEquals then none else some (v.currentValue buffer)

/-- The current field starts before the index. -/
def InOrder (v : LoopVariables) : Prop :=
  v.currentTagStart ≤ v.currentIndex ∧
    (v.lookingForEquals = false → v.currentValueStart ≤ v.currentIndex)

def advance (v : LoopVariables) : LoopVariables := { v with currentIndex := v.currentIndex + 1 }

/-- What the loop over the bytes reads from the variables on. -/
def parseFrom (v : LoopVariables) : Option (MessageParser × Nat) :=
  v.parser.parse specs v.currentIndex v.currentTagStart (v.tagRead buffer) (v.valueRead buffer)
    (buffer.drop v.currentIndex)

/-- What a turn leads to: the end of the message, or the next byte. -/
inductive Continues (v w : LoopVariables) : Prop
  | ends (hdelimiter : w.currentTag10DelimiterIndex = some v.currentIndex)
      (hread : v.parseFrom specs buffer = some (w.parser, v.currentIndex + 1))
  | goesOn (hnone : w.currentTag10DelimiterIndex = none)
      (hindex : w.currentIndex = v.currentIndex) (horder : w.advance.InOrder)
      (hread : v.parseFrom specs buffer = w.advance.parseFrom specs buffer)

/-- The branch `looking_for_equals`. -/
theorem lookForEquals_continues {v : LoopVariables} (hlooking : v.lookingForEquals = true)
    (hnone : v.currentTag10DelimiterIndex = none) (horder : v.InOrder)
    (hindex : v.currentIndex < buffer.length) :
    v.Continues specs buffer (v.lookForEquals (buffer.getD v.currentIndex 0)) := by
  have hread : v.parseFrom specs buffer =
      v.parser.parse specs v.currentIndex v.currentTagStart
        ((buffer.drop v.currentTagStart).take (v.currentIndex - v.currentTagStart)) none
        (buffer.getD v.currentIndex 0 :: buffer.drop (v.currentIndex + 1)) := by
    unfold parseFrom tagRead valueRead
    rw [if_pos hlooking, if_pos hlooking, drop_index buffer hindex]
  rw [MessageParser.parse] at hread
  by_cases hequals : buffer.getD v.currentIndex 0 = fixEquals
  · rw [if_pos hequals] at hread
    rw [lookForEquals, if_pos hequals]
    refine .goesOn hnone rfl ⟨Nat.le_succ_of_le horder.1, fun _ => Nat.le_refl _⟩ ?_
    rw [hread]
    show _ = MessageParser.parse specs v.parser (v.currentIndex + 1) v.currentTagStart _
      (some ((buffer.drop (v.currentIndex + 1)).take (v.currentIndex + 1 - (v.currentIndex + 1)))) _
    rw [Nat.sub_self, List.take_zero]
    rfl
  · rw [if_neg hequals] at hread
    rw [lookForEquals, if_neg hequals]
    by_cases hdelimiter : buffer.getD v.currentIndex 0 = fixDelimiter
    · rw [if_pos hdelimiter] at hread
      rw [if_pos hdelimiter]
      refine .goesOn hnone rfl ⟨Nat.le_refl _, fun hfound => ?_⟩ ?_
      · exact absurd (hlooking.symm.trans hfound) Bool.true_eq_false_eq_False
      rw [hread]
      unfold parseFrom tagRead valueRead advance
      dsimp only
      rw [if_pos hlooking, if_pos hlooking, Nat.sub_self, List.take_zero]
    · rw [if_neg hdelimiter] at hread
      rw [if_neg hdelimiter]
      refine .goesOn hnone rfl ⟨Nat.le_succ_of_le horder.1, fun hfound => ?_⟩ ?_
      · exact absurd (hlooking.symm.trans hfound) Bool.noConfusion
      rw [hread]
      unfold parseFrom tagRead valueRead advance
      dsimp only
      rw [if_pos hlooking, if_pos hlooking, slice_succ buffer horder.1 hindex]

/-- The branch for a byte behind `=`. -/
theorem value_continues {v : LoopVariables} (hlooking : v.lookingForEquals = false)
    (hnone : v.currentTag10DelimiterIndex = none) (horder : v.InOrder)
    (hindex : v.currentIndex < buffer.length) :
    v.Continues specs buffer
      (if buffer.getD v.currentIndex 0 = fixDelimiter then v.endOfValue specs buffer else v) := by
  have hnot : ¬ v.lookingForEquals = true := Bool.eq_false_iff.mp hlooking
  have hread : v.parseFrom specs buffer =
      v.parser.parse specs v.currentIndex v.currentTagStart (v.currentTag buffer)
        (some (v.currentValue buffer))
        (buffer.getD v.currentIndex 0 :: buffer.drop (v.currentIndex + 1)) := by
    unfold parseFrom tagRead valueRead
    rw [if_neg hnot, if_neg hnot, drop_index buffer hindex]
  rw [MessageParser.parse] at hread
  by_cases hdelimiter : buffer.getD v.currentIndex 0 = fixDelimiter
  · rw [if_pos hdelimiter] at hread
    rw [if_pos hdelimiter]
    unfold endOfValue
    dsimp only at hread ⊢
    split
    next hend =>
      rw [if_pos hend] at hread
      exact .ends rfl hread
    next hend =>
      rw [if_neg hend] at hread
      refine .goesOn hnone rfl ⟨Nat.le_refl _, fun hfound => Bool.noConfusion hfound⟩ ?_
      rw [hread]
      unfold parseFrom tagRead valueRead advance
      dsimp only
      rw [if_pos rfl, if_pos rfl, Nat.sub_self, List.take_zero]
  · rw [if_neg hdelimiter] at hread
    rw [if_neg hdelimiter]
    refine .goesOn hnone rfl
      ⟨Nat.le_succ_of_le horder.1, fun hfound => Nat.le_succ_of_le (horder.2 hfound)⟩ ?_
    rw [hread]
    unfold parseFrom tagRead valueRead advance currentTag currentValue
    dsimp only
    rw [if_neg hnot, if_neg hnot, slice_succ buffer (horder.2 hlooking) hindex]

theorem turn_continues {v : LoopVariables} (hnone : v.currentTag10DelimiterIndex = none)
    (horder : v.InOrder) (hindex : v.currentIndex < buffer.length) :
    v.Continues specs buffer (v.turn specs buffer) := by
  unfold turn
  dsimp only
  cases hlooking : v.lookingForEquals with
  | true =>
    rw [if_pos rfl]
    exact lookForEquals_continues specs buffer hlooking hnone horder hindex
  | false =>
    rw [if_neg Bool.false_ne_true]
    exact value_continues specs buffer hlooking hnone horder hindex

theorem innerLoop_succ (turn : LoopVariables → LoopVariables) (bufferSize fuel : Nat)
    (v : LoopVariables) :
    innerLoop turn bufferSize (fuel + 1) v =
      if (turn v).currentTag10DelimiterIndex.isSome then some (turn v)
      else if bufferSize - 1 ≤ (turn v).currentIndex then none
      else innerLoop turn bufferSize fuel (turn v).advance :=
  rfl

/-- The loop by the indices is the loop over the bytes. -/
theorem innerLoop_parse (fuel : Nat) {v : LoopVariables}
    (hnone : v.currentTag10DelimiterIndex = none) (horder : v.InOrder)
    (hindex : v.currentIndex < buffer.length) (hfuel : buffer.length ≤ v.currentIndex + fuel) :
    (innerLoop (turn specs buffer) buffer.length fuel v).map
        (fun w => (w.parser, w.currentTag10DelimiterIndex)) =
      (v.parseFrom specs buffer).map fun result => (result.1, some (result.2 - 1)) := by
  induction fuel generalizing v with
  | zero => exact absurd hfuel (Nat.not_le_of_lt hindex)
  | succ fuel ih =>
    rw [innerLoop_succ]
    cases turn_continues specs buffer hnone horder hindex with
    | ends hdelimiter hread =>
      rw [if_pos (by rw [hdelimiter]; rfl), hread, Option.map_some, Option.map_some, hdelimiter]
      rfl
    | goesOn hnone' hindex' horder' hread =>
      have hnext : (v.turn specs buffer).advance.currentIndex = v.currentIndex + 1 :=
        congrArg (· + 1) hindex'
      rw [if_neg (by rw [hnone']; exact Bool.false_ne_true), hindex', hread]
      split
      next hlast =>
        unfold parseFrom
        rw [hnext, List.drop_eq_nil_of_le (Nat.le_add_of_sub_le hlast), MessageParser.parse]
        rfl
      next hmore =>
        exact ih hnone' horder' (hnext ▸ Nat.add_lt_of_lt_sub (Nat.lt_of_not_le hmore))
          (by rw [hnext]; omega)

end LoopVariables

/-! ## A message of its own -/

namespace MessageParser

variable (specs : RepeatingGroupSpecs)

/-- The parser of a message that starts so many bytes later. -/
def shift (k : Nat) (p : MessageParser) : MessageParser :=
  { p with currentTag35TagStartIndex := p.currentTag35TagStartIndex.map (k + ·) }

variable (k : Nat) (p : MessageParser)

theorem shift_rejectIf (condition : Bool) (code : UInt32) :
    (p.shift k).rejectIf condition code = (p.rejectIf condition code).shift k := by
  unfold rejectIf
  split <;> rfl

theorem shift_updateRepeatingGroup (tag : Tag) :
    (p.shift k).updateRepeatingGroup specs tag = (p.updateRepeatingGroup specs tag).shift k := by
  unfold updateRepeatingGroup
  show (if p.encodedCurrentMessageType ≠ noMessageType then _ else _) = _
  split
  · show (if p.inARepeatingGroup = false then _ else _) = _
    split
    · show (if specs.isARepeatingGroupCountTag p.encodedCurrentMessageType tag then _ else _) = _
      split <;> rfl
    · show (if specs.isARepeatingGroupTag p.encodedCurrentMessageType p.currentRgCountTag tag =
        false then _ else _) = _
      split <;> rfl
  · rfl

theorem shift_setTag (tag : Tag) (value : Bytes) :
    (p.shift k).setTag tag value = (p.setTag tag value).shift k := by
  unfold setTag
  show (if p.inARepeatingGroup = false then _ else _) = _
  split
  · show (if p.message.hasTag tag = false then _ else _) = _
    split <;> rfl
  · rfl

/-- Only the difference of two positions is compared. -/
theorem shift_validateTag9AndTag35 (start : Nat) :
    (p.shift k).validateTag9AndTag35 (k + start) = (p.validateTag9AndTag35 start).shift k := by
  unfold validateTag9AndTag35
  have hstart : (p.shift k).currentTag35TagStartIndex =
      p.currentTag35TagStartIndex.map (k + ·) := rfl
  rw [hstart]
  cases p.currentTag35TagStartIndex with
  | none => rfl
  | some tag35StartIndex =>
    have hdifference : Int32.ofNat (k + start) - Int32.ofNat (k + tag35StartIndex) =
        Int32.ofNat start - Int32.ofNat tag35StartIndex := by
      rw [Int32.ofNat_add, Int32.ofNat_add]
      grind
    show (if p.message.hasTag tagBodyLength then _ else _) = _
    split
    · show (if p.message.isTagValueNumeric tagBodyLength then _ else _) = _
      split
      · show (p.shift k).rejectIf
          ((p.message.getTagValueAsUInt32 tagBodyLength).toInt32 ≠
            Int32.ofNat (k + start) - Int32.ofNat (k + tag35StartIndex)) wrongBodyLength = _
        rw [hdifference]
        exact p.shift_rejectIf k _ _
      · rfl
    · rfl

theorem shift_afterTag (start : Nat) (tag : Tag) (value : Bytes) :
    (p.shift k).afterTag (k + start) tag value = (p.afterTag start tag value).shift k := by
  unfold afterTag
  split
  · rw [shift_validateTag9AndTag35]
    rfl
  · split <;> rfl

theorem shift_recordTag (start : Nat) (tag : Tag) (value : Bytes) :
    (p.shift k).recordTag specs (k + start) tag value =
      (p.recordTag specs start tag value).shift k := by
  unfold recordTag
  dsimp only
  rw [shift_rejectIf]
  generalize p.rejectIf _ _ = p
  have hcounted : ({ p.shift k with currentTagIndex := (p.shift k).currentTagIndex + 1 } :
      MessageParser) =
      ({ p with currentTagIndex := p.currentTagIndex + 1 } : MessageParser).shift k := rfl
  have hheader : ∀ q : MessageParser, (q.shift k).validateHeaderTagsOrder tag =
      (q.validateHeaderTagsOrder tag).shift k := fun q => q.shift_rejectIf k _ _
  rw [hcounted, hheader, shift_updateRepeatingGroup, shift_setTag, shift_afterTag]

theorem shift_endOfValue (start : Nat) (tag value : Bytes) :
    (p.shift k).endOfValue specs (k + start) tag value =
      (p.endOfValue specs start tag value).shift k := by
  unfold endOfValue
  dsimp only
  rw [shift_rejectIf]
  split
  · exact shift_recordTag specs k _ _ _ _
  · rfl

/-- A message is parsed alike wherever it starts, whatever follows it. -/
theorem parse_shift {p : MessageParser} (index start : Nat) {tag : Bytes}
    {value : Option Bytes} {text : Bytes} {result : MessageParser × Nat}
    (h : (p.shift k).parse specs (k + index) (k + start) tag value text = some result) :
    ∃ q length, result = (q.shift k, k + index + length) ∧
      p.parse specs index start tag value (text.take length) = some (q, index + length) := by
  induction text generalizing p index start tag value with
  | nil => cases h
  | cons c rest ih =>
    -- What the rest of the text gives, for a byte that does not end the message.
    have hnext : ∀ (p' : MessageParser) (start' : Nat) {tag' : Bytes} {value' : Option Bytes},
        (p'.shift k).parse specs (k + index + 1) (k + start') tag' value' rest = some result →
        (∀ text, p.parse specs index start tag value (c :: text) =
          p'.parse specs (index + 1) start' tag' value' text) →
        ∃ q length, result = (q.shift k, k + index + length) ∧
          p.parse specs index start tag value ((c :: rest).take length) =
            some (q, index + length) := by
      intro p' start' tag' value' hrest hstep
      rw [Nat.add_assoc] at hrest
      obtain ⟨q, length, rfl, hparse⟩ := ih _ _ hrest
      refine ⟨q, length + 1, by rw [Nat.add_assoc, Nat.add_assoc, Nat.add_comm 1, Nat.add_assoc],
        ?_⟩
      rw [List.take_succ_cons, hstep, hparse, Nat.add_assoc, Nat.add_comm 1]
    cases value with
    | none =>
      rw [parse] at h
      split at h
      next hequals => exact hnext p start h fun text => by rw [parse]; exact if_pos hequals
      next hequals =>
        split at h
        next hdelimiter =>
          exact hnext (p.reject noEqualsSign) (index + 1) h fun text => by
            rw [parse]
            exact (if_neg hequals).trans (if_pos hdelimiter)
        next hdelimiter =>
          exact hnext p start h fun text => by
            rw [parse]
            exact (if_neg hequals).trans (if_neg hdelimiter)
    | some value =>
      rw [parse] at h
      dsimp only at h
      split at h
      next hdelimiter =>
        rw [shift_endOfValue] at h
        split at h
        next hend =>
          cases h
          refine ⟨_, 1, rfl, ?_⟩
          rw [List.take_succ_cons, parse]
          dsimp only
          rw [if_pos hdelimiter]
          exact if_pos hend
        next hend =>
          exact hnext _ (index + 1) h fun text => by
            rw [parse]
            dsimp only
            rw [if_pos hdelimiter]
            exact if_neg hend
      next hdelimiter =>
        exact hnext p start h fun text => by
          rw [parse]
          exact if_neg hdelimiter

end MessageParser

/-! ## The messages -/

/-- What is handed over is what its bytes are parsed to. -/
def ReceivedMessage.IsParsed (specs : RepeatingGroupSpecs) (m : ReceivedMessage) : Prop :=
  ∃ p, parseMessage specs m.bytes =
      some (p, { message := { tags := m.tags }, buffer := m.bytes,
                 parserRejectCode := m.parserRejectCode }) ∧
    p.repeatingGroups = m.repeatingGroups

namespace LoopVariables

variable (specs : RepeatingGroupSpecs) {buffer : Bytes}

/-- From a begin string, the loop stops where the message ends. -/
theorem innerLoop_messageEnd {bufferReadIndex : Nat} (hindex : bufferReadIndex < buffer.length) :
    (messageEnd [] true (buffer.drop bufferReadIndex) = none ∧
      innerLoop (turn specs buffer) buffer.length buffer.length (.atBeginString bufferReadIndex) =
        none) ∨
    ∃ v length, messageEnd [] true (buffer.drop bufferReadIndex) = some (length + 1) ∧
      innerLoop (turn specs buffer) buffer.length buffer.length (.atBeginString bufferReadIndex) =
        some v ∧
      v.currentTag10DelimiterIndex = some (bufferReadIndex + length) ∧
      ReceivedMessage.IsParsed specs (v.received buffer bufferReadIndex (length + 1)) := by
  have hloop := innerLoop_parse specs buffer buffer.length
    (v := atBeginString bufferReadIndex) rfl
    ⟨Nat.le_refl _, fun hlooking => Bool.noConfusion hlooking⟩ hindex (Nat.le_add_left _ _)
  have hend := MessageParser.parse_messageEnd specs {} rfl bufferReadIndex bufferReadIndex [] none
    (buffer.drop bufferReadIndex)
  have hstart : (atBeginString bufferReadIndex).parseFrom specs buffer =
      MessageParser.parse specs {} bufferReadIndex bufferReadIndex [] none
        (buffer.drop bufferReadIndex) := by
    unfold parseFrom tagRead atBeginString
    dsimp only
    rw [if_pos rfl, Nat.sub_self, List.take_zero]
    rfl
  rw [hstart] at hloop
  rw [Option.isNone_none] at hend
  cases hparse : MessageParser.parse specs {} bufferReadIndex bufferReadIndex [] none
      (buffer.drop bufferReadIndex) with
  | none =>
    rw [hparse] at hloop hend
    exact .inl ⟨Option.map_eq_none_iff.mp hend.symm, Option.map_eq_none_iff.mp hloop⟩
  | some result =>
    obtain ⟨q, length, rfl, halone⟩ := MessageParser.parse_shift specs bufferReadIndex
      (p := {}) 0 0 hparse
    rw [hparse] at hloop hend
    obtain ⟨length', hmessage, heq⟩ := Option.map_eq_some_iff.mp hend.symm
    obtain rfl : length' = length := Nat.add_left_cancel heq
    obtain ⟨v, hv, hresult⟩ := Option.map_eq_some_iff.mp hloop
    obtain ⟨hparser, hdelimiter⟩ := Prod.mk.inj hresult
    cases length' with
    | zero => exact absurd (messageEnd_le hmessage).1 (Nat.lt_irrefl 0)
    | succ length =>
      refine .inr ⟨v, length, hmessage, hv, hdelimiter, q, ?_, ?_⟩
      · unfold parseMessage received
        dsimp only
        rw [halone, Option.map_some, hparser, Nat.zero_add, List.take_take, Nat.min_self]
        rfl
      · show q.repeatingGroups = v.parser.repeatingGroups
        rw [hparser]
        rfl

end LoopVariables

/-- The outer loop makes the messages of the loop over the bytes, and leaves as it does. -/
theorem outerLoop_parseLoop (specs : RepeatingGroupSpecs) (c : RxConnection) (buffer : RxBuffer)
    (final fuel : Nat) {received : List ReceivedMessage}
    (hreceived : ∀ m ∈ received, m.IsParsed specs) (bufferReadIndex : Nat) :
    let result := tcpConnector.outerLoop (LoopVariables.turn specs) buffer final fuel c received
      bufferReadIndex
    let parsed := parseLoop (fun _ => false) buffer.bytes final fuel (received.map (·.bytes))
      bufferReadIndex
    result.1 = c.leave buffer parsed.2 ∧ result.2.map (·.bytes) = parsed.1 ∧
      ∀ m ∈ result.2, m.IsParsed specs := by
  -- The induction is on the turns; each exit of the loop is matched with that of `parseLoop`.
  induction fuel generalizing received bufferReadIndex with
  | zero => exact ⟨rfl, rfl, hreceived⟩
  | succ fuel ih =>
    dsimp only at ih ⊢
    rw [RxTransport.outerLoop]
    cases hbegin : findBeginStringPosition (buffer.bytes.drop bufferReadIndex) with
    | none =>
      rw [parseLoop_noBeginString hbegin]
      exact ⟨rfl, rfl, hreceived⟩
    | some offset =>
      have hindex : bufferReadIndex + offset < buffer.bytes.length := by
        obtain ⟨⟨t, ht⟩, -⟩ := findBeginStringPosition_some hbegin
        rw [List.drop_drop] at ht
        refine Nat.lt_of_not_le fun hbehind => ?_
        rw [List.drop_eq_nil_of_le hbehind] at ht
        cases ht
      dsimp only
      rcases LoopVariables.innerLoop_messageEnd specs hindex with
        ⟨hmessage, hinner⟩ | ⟨v, length, hmessage, hinner, hdelimiter, hparsed⟩
      · rw [parseLoop_incomplete hbegin hmessage, hinner]
        exact ⟨rfl, rfl, hreceived⟩
      · have hall : ∀ m ∈ received ++ [v.received buffer.bytes (bufferReadIndex + offset)
            (length + 1)], m.IsParsed specs := by
          intro m hm
          rcases List.mem_append.mp hm with hm | hm
          · exact hreceived m hm
          · rw [List.mem_singleton.mp hm]
            exact hparsed
        have hle := (messageEnd_le hmessage).2
        rw [List.length_drop] at hle
        rw [parseLoop_message hbegin hmessage, hinner]
        dsimp only
        have hlength : bufferReadIndex + offset + length + 1 - (bufferReadIndex + offset) =
            length + 1 := by
          rw [Nat.add_assoc (bufferReadIndex + offset), Nat.add_sub_cancel_left]
        -- The source compares the index of the last byte, `parseLoop` that of the byte behind it.
        have hatEnd : bufferReadIndex + offset + length = buffer.bytes.length - 1 ↔
            bufferReadIndex + offset + (length + 1) = buffer.bytes.length := by
          omega
        have hnext := ih hall (bufferReadIndex + offset + (length + 1))
        rw [List.map_append] at hnext
        rw [hdelimiter, Option.getD_some, if_neg Bool.false_ne_true, hlength,
          Nat.add_assoc (bufferReadIndex + offset) length 1]
        by_cases hlast : bufferReadIndex + offset + (length + 1) = buffer.bytes.length
        · rw [if_pos hlast, if_pos (hatEnd.mpr hlast)]
          exact ⟨rfl, List.map_append, hall⟩
        · rw [if_neg hlast, if_neg (mt hatEnd.mp hlast)]
          by_cases hfinal : final < bufferReadIndex + offset + (length + 1)
          · rw [if_pos hfinal, if_pos hfinal]
            exact ⟨rfl, List.map_append, hall⟩
          · rw [if_neg hfinal, if_neg hfinal]
            exact hnext

/-- The loop by the indices does what `process_rx_buffer` over the bytes does. -/
theorem clientProcessRxBuffer_eq (specs : RepeatingGroupSpecs) (c : RxConnection)
    (buffer : RxBuffer) :
    (clientProcessRxBuffer specs c buffer).1 =
        (c.processRxBuffer (fun _ => false) buffer).1 ∧
      (clientProcessRxBuffer specs c buffer).2.map (·.bytes) =
        (c.processRxBuffer (fun _ => false) buffer).2.1 ∧
      ∀ m ∈ (clientProcessRxBuffer specs c buffer).2, m.IsParsed specs := by
  have hnone : ∀ m ∈ ([] : List ReceivedMessage), m.IsParsed specs :=
    fun m hm => absurd hm List.not_mem_nil
  unfold clientProcessRxBuffer RxTransport.processRxBuffer RxConnection.processRxBuffer
  cases finalTag10DelimiterIndex buffer.bytes with
  | none => exact ⟨rfl, rfl, hnone⟩
  | some final => exact outerLoop_parseLoop specs c buffer final buffer.bytes.length hnone 0

/-! ## The two builds -/

namespace LoopVariables

variable (specs : RepeatingGroupSpecs) {binary : IncomingFixBinaryFieldSpecs} (buffer : Bytes)

theorem lengthBehind_none (h : binary.specifications = []) (p : MessageParser) (tag value : Bytes)
    (field : BinaryField) : p.lengthBehind binary tag value field = field := by
  rw [MessageParser.lengthBehind, IncomingFixBinaryFieldSpecs.isBinaryDataLengthTag, h,
    List.lookup_nil, Option.isSome_none, Bool.and_false]
  exact if_neg Bool.false_ne_true

theorem lookForEquals_binaryField (v : LoopVariables) (currentChar : UInt8) :
    (v.lookForEquals currentChar).binaryField = v.binaryField := by
  unfold lookForEquals
  split_ifs <;> rfl

theorem endOfValue_binaryField (v : LoopVariables) :
    (v.endOfValue specs buffer).binaryField = v.binaryField := by
  unfold endOfValue
  dsimp only
  split <;> rfl

theorem with_binaryField {v : LoopVariables} {field : BinaryField} (h : v.binaryField = field) :
    { v with binaryField := field } = v := by
  subst h
  rfl

/-- A delimiter is not `=`, so no byte is met by both `if`s. -/
theorem lookForEquals_delimiter {v : LoopVariables} (hlooking : v.lookingForEquals = true)
    {currentChar : UInt8} :
    ¬ ((v.lookForEquals currentChar).lookingForEquals = false ∧ currentChar = fixDelimiter) := by
  rintro ⟨hfound, rfl⟩
  have hstill : (v.lookForEquals fixDelimiter).lookingForEquals = v.lookingForEquals := by
    rw [lookForEquals, if_neg (by decide), if_pos rfl]
  rw [hstill, hlooking] at hfound
  exact Bool.false_ne_true hfound.symm

/-- Without a length, every delimiter ends its value. -/
theorem endOfBinaryValue_eq (h : binary.specifications = []) {v : LoopVariables}
    (hfield : v.binaryField = {}) :
    v.endOfBinaryValue specs binary buffer = v.endOfValue specs buffer := by
  have hopen : (!v.binaryField.isOpen) = true := by rw [hfield]; rfl
  have hclose : v.binaryField.close = {} := by rw [hfield]; rfl
  unfold endOfBinaryValue
  dsimp only
  rw [if_pos hopen, lengthBehind_none h, hclose]
  exact with_binaryField ((endOfValue_binaryField specs buffer v).trans hfield)

/-- The two builds take the same turn, and no length is ever known. -/
theorem turnBinary_eq (h : binary.specifications = []) {v : LoopVariables}
    (hfield : v.binaryField = {}) :
    v.turnBinary specs binary buffer = v.turn specs buffer ∧
      (v.turn specs buffer).binaryField = {} := by
  unfold turnBinary turn
  dsimp only
  generalize buffer.getD v.currentIndex 0 = currentChar
  cases hlooking : v.lookingForEquals with
  | true =>
    have hlook : v.lookOrCount currentChar = v.lookForEquals currentChar := if_pos hlooking
    rw [hlook, if_neg (lookForEquals_delimiter hlooking), if_pos rfl, lookForEquals_binaryField]
    exact ⟨rfl, hfield⟩
  | false =>
    have hcount : v.lookOrCount currentChar = v := by
      rw [lookOrCount, if_neg (by rw [hlooking]; exact Bool.false_ne_true)]
      exact with_binaryField (by rw [hfield]; rfl)
    rw [hcount, if_neg Bool.false_ne_true]
    split
    next hend =>
      rw [if_pos hend.2, endOfBinaryValue_eq specs buffer h hfield, endOfValue_binaryField]
      exact ⟨rfl, hfield⟩
    next hother =>
      rw [if_neg fun hdelimiter => hother ⟨hlooking, hdelimiter⟩]
      exact ⟨rfl, hfield⟩

/-- Turns that are alike as long as no length is known make the same loop. -/
theorem innerLoop_binary (h : binary.specifications = []) (bufferSize fuel : Nat)
    {v : LoopVariables} (hfield : v.binaryField = {}) :
    innerLoop (turnBinary specs binary buffer) bufferSize fuel v =
      innerLoop (turn specs buffer) bufferSize fuel v := by
  induction fuel generalizing v with
  | zero => rfl
  | succ fuel ih =>
    obtain ⟨hturn, hnext⟩ := turnBinary_eq specs buffer h hfield
    rw [innerLoop, innerLoop, hturn]
    split
    · rfl
    · split
      · rfl
      · exact ih hnext

end LoopVariables

namespace RxTransport

variable {σ τ : Type} {transport : RxTransport σ} {transport' : RxTransport τ}

/-- From every begin string, the inner loops end alike. -/
def FindAlike (turn turn' : Bytes → LoopVariables → LoopVariables) : Prop :=
  ∀ buffer bufferReadIndex,
    LoopVariables.innerLoop (turn' buffer) buffer.length buffer.length
        (.atBeginString bufferReadIndex) =
      LoopVariables.innerLoop (turn buffer) buffer.length buffer.length
        (.atBeginString bufferReadIndex)

/-- Transports that follow each other, and builds that find the same messages. -/
theorem outerLoop_simulates {R : σ → τ → Prop}
    (hset : ∀ s t buffer offset, R s t →
      R (transport.setIncompleteBuffer s buffer offset)
        (transport'.setIncompleteBuffer t buffer offset))
    (hreset : ∀ s t, R s t →
      R (transport.resetIncompleteBuffer s) (transport'.resetIncompleteBuffer t))
    {turn turn' : Bytes → LoopVariables → LoopVariables}
    (hinner : FindAlike turn turn')
    (buffer : RxBuffer) (final fuel : Nat) {s : σ} {t : τ} (h : R s t)
    (received : List ReceivedMessage) (bufferReadIndex : Nat) :
    R (transport.outerLoop turn buffer final fuel s received bufferReadIndex).1
        (transport'.outerLoop turn' buffer final fuel t received bufferReadIndex).1 ∧
      (transport'.outerLoop turn' buffer final fuel t received bufferReadIndex).2 =
        (transport.outerLoop turn buffer final fuel s received bufferReadIndex).2 := by
  induction fuel generalizing received bufferReadIndex with
  | zero => exact ⟨h, rfl⟩
  | succ fuel ih =>
    rw [outerLoop, outerLoop]
    cases findBeginStringPosition (buffer.bytes.drop bufferReadIndex) with
    | none => exact ⟨h, rfl⟩
    | some offset =>
      dsimp only
      rw [hinner]
      cases LoopVariables.innerLoop (turn buffer.bytes) buffer.bytes.length buffer.bytes.length
          (.atBeginString (bufferReadIndex + offset)) with
      | none => exact ⟨hset s t buffer _ h, rfl⟩
      | some v =>
        dsimp only
        split
        · exact ⟨hreset s t h, rfl⟩
        · split
          · exact ⟨hset s t buffer _ h, rfl⟩
          · exact ih _ _

theorem processRxBuffer_simulates {R : σ → τ → Prop}
    (hset : ∀ s t buffer offset, R s t →
      R (transport.setIncompleteBuffer s buffer offset)
        (transport'.setIncompleteBuffer t buffer offset))
    (hreset : ∀ s t, R s t →
      R (transport.resetIncompleteBuffer s) (transport'.resetIncompleteBuffer t))
    {turn turn' : Bytes → LoopVariables → LoopVariables}
    (hinner : FindAlike turn turn')
    (buffer : RxBuffer) {s : σ} {t : τ} (h : R s t) :
    R (transport.processRxBuffer turn s buffer).1 (transport'.processRxBuffer turn' t buffer).1 ∧
      (transport'.processRxBuffer turn' t buffer).2 =
        (transport.processRxBuffer turn s buffer).2 := by
  rw [processRxBuffer, processRxBuffer]
  cases finalTag10DelimiterIndex buffer.bytes with
  | none => exact ⟨hset s t buffer 0 h, rfl⟩
  | some final =>
    exact outerLoop_simulates hset hreset hinner buffer final buffer.bytes.length h [] 0

/-- On one transport, such builds do the same. -/
theorem processRxBuffer_congr {turn turn' : Bytes → LoopVariables → LoopVariables}
    (hinner : FindAlike turn turn') (s : σ) (buffer : RxBuffer) :
    transport.processRxBuffer turn' s buffer = transport.processRxBuffer turn s buffer := by
  obtain ⟨hleft, hreceived⟩ := processRxBuffer_simulates (R := Eq)
    (fun _ _ buffer offset h => congrArg (transport.setIncompleteBuffer · buffer offset) h)
    (fun _ _ h => congrArg transport.resetIncompleteBuffer h) hinner buffer (Eq.refl s)
  exact Prod.ext hleft.symm hreceived

end RxTransport

/-! ## The client and the server -/

/-- The connections of the reactor are those before, but for one. -/
def Follows (connectors : Nat → RxConnection) (peerIndex : Nat) (c : RxConnection)
    (connectors' : Nat → RxConnection) : Prop :=
  connectors' = Function.update connectors peerIndex c

theorem tcpReactor_follows (connectors : Nat → RxConnection) (peerIndex : Nat) :
    (∀ c connectors' buffer offset, Follows connectors peerIndex c connectors' →
      Follows connectors peerIndex (tcpConnector.setIncompleteBuffer c buffer offset)
        ((tcpReactor peerIndex).setIncompleteBuffer connectors' buffer offset)) ∧
    ∀ c connectors', Follows connectors peerIndex c connectors' →
      Follows connectors peerIndex (tcpConnector.resetIncompleteBuffer c)
        ((tcpReactor peerIndex).resetIncompleteBuffer connectors') := by
  constructor
  · rintro c connectors' buffer offset rfl
    show Function.update _ _ _ = Function.update _ _ _
    rw [Function.update_self, Function.update_idem]
    rfl
  · rintro c connectors' rfl
    show Function.update _ _ _ = Function.update _ _ _
    rw [Function.update_self, Function.update_idem]
    rfl

/-- For every buffer, the four loops hand over the same messages with the same tags, groups and
reject codes, and leave the connection alike; the reactor's other connections stay as they are. -/
theorem receiveLoops_agree (specs : RepeatingGroupSpecs) {binary : IncomingFixBinaryFieldSpecs}
    (hbinary : binary.specifications = []) (connectors : Nat → RxConnection) (peerIndex : Nat)
    (buffer : RxBuffer) :
    clientProcessRxBufferBinary specs binary (connectors peerIndex) buffer =
        clientProcessRxBuffer specs (connectors peerIndex) buffer ∧
      (serverProcessRxBuffer specs peerIndex connectors buffer).2 =
        (clientProcessRxBuffer specs (connectors peerIndex) buffer).2 ∧
      (serverProcessRxBuffer specs peerIndex connectors buffer).1 =
        Function.update connectors peerIndex
          (clientProcessRxBuffer specs (connectors peerIndex) buffer).1 ∧
      serverProcessRxBufferBinary specs binary peerIndex connectors buffer =
        serverProcessRxBuffer specs peerIndex connectors buffer := by
  have hbuilds : RxTransport.FindAlike (LoopVariables.turn specs)
      (LoopVariables.turnBinary specs binary) := fun buffer bufferReadIndex =>
    LoopVariables.innerLoop_binary specs buffer hbinary buffer.length buffer.length rfl
  obtain ⟨hset, hreset⟩ := tcpReactor_follows connectors peerIndex
  obtain ⟨hfollows, hreceived⟩ := RxTransport.processRxBuffer_simulates hset hreset
    (fun buffer bufferReadIndex => rfl) buffer
    (show Follows connectors peerIndex (connectors peerIndex) connectors from
      (Function.update_eq_self peerIndex connectors).symm)
  exact ⟨RxTransport.processRxBuffer_congr hbuilds _ buffer, hreceived, hfollows,
    RxTransport.processRxBuffer_congr hbuilds _ buffer⟩

/-- A delimiter in front of a tag, and a second message that is cut off. -/
def exampleReceived : RxBuffer where
  bytes := text "8=FIX.4.4" ++ joinParts [[], text "9=5", text "35=0", text "10=163", text "8=FIX"]
  inIncomplete := false

theorem receiveLoops_agree_example :
    (clientProcessRxBuffer {} { rxBufferCapacity := 64 } exampleReceived).2.length = 1 ∧
      clientProcessRxBufferBinary {} {} { rxBufferCapacity := 64 } exampleReceived =
        clientProcessRxBuffer {} { rxBufferCapacity := 64 } exampleReceived ∧
      (serverProcessRxBuffer {} 7 (fun _ => { rxBufferCapacity := 64 }) exampleReceived).2 =
        (clientProcessRxBuffer {} { rxBufferCapacity := 64 } exampleReceived).2 ∧
      (serverProcessRxBuffer {} 7 (fun _ => { rxBufferCapacity := 64 }) exampleReceived).1 =
        Function.update (fun _ => { rxBufferCapacity := 64 }) 7
          (clientProcessRxBuffer {} { rxBufferCapacity := 64 } exampleReceived).1 ∧
      serverProcessRxBufferBinary {} {} 7 (fun _ => { rxBufferCapacity := 64 }) exampleReceived =
        serverProcessRxBuffer {} 7 (fun _ => { rxBufferCapacity := 64 }) exampleReceived :=
  ⟨by decide +kernel,
    receiveLoops_agree {} rfl (fun _ => { rxBufferCapacity := 64 }) 7 exampleReceived⟩

end Llfix
