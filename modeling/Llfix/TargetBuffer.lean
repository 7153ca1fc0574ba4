import Llfix.GapFillReplay
import Llfix.Lib.MappedFile

/-!
# Encoding into the target buffer

`encode` as it runs: the length of the body is added up first, then the fields are copied into the
target buffer one text after the other. The target buffer has no end here; every copy is recorded.

Results:
1. `getCharsLengthOfUInt32_eq`: the length that a number is written with.
2. `writeMessage_written`: the bytes that are written are those of the fields.
3. `encodeInto_framed`: tags 9 and 10 are right, and the message is empty afterwards.
-/

namespace Llfix

open MappedFile

/-! ## Numbers -/

/-- `POWERS_OF_TEN`. -/
def powersOfTen : List UInt32 :=
  [0, 10, 100, 1000, 10000, 100000, 1000000, 10000000, 100000000, 1000000000]

/-- `get_chars_length_of_uint32_t`. -/
def getCharsLengthOfUInt32 (value : UInt32) : Nat :=
  let t := (((value ||| 1).toNat.log2 + 1) * 1233) >>> 12
  t - (if value < powersOfTen.getD t 0 then 1 else 0) + 1

/-- The `do ... while` of `unsigned_int_to_chars`, one turn per unit of fuel. `target` is the index
behind the one that is written next. -/
def writeDigits : Nat → Nat → Buffer → Nat → Buffer
  | 0, _, buffer, _ => buffer
  | fuel + 1, n, buffer, target =>
    let buffer := writeAt buffer (target - 1) [UInt8.ofNat (48 + n % 10)]
    if n / 10 = 0 then buffer else writeDigits fuel (n / 10) buffer (target - 1)

/-- The text that `unsigned_int_to_chars` leaves in `buffer`, as long as it returns. -/
def unsignedIntToCharsIn (buffer : Buffer) (number : UInt32) : Bytes :=
  let length := getCharsLengthOfUInt32 number
  readAt (writeDigits 10 number.toNat buffer length) 0 length

/-- A number has as many digits as powers of ten below it. -/
theorem digitsOnto_length {fuel n : Nat} (digits : Nat) (acc : Bytes)
    (hlow : 10 ^ digits ≤ n ∨ digits = 0) (hhigh : n < 10 ^ (digits + 1)) (hfuel : digits < fuel) :
    (digitsOnto fuel n acc).length = digits + 1 + acc.length := by
  induction digits generalizing fuel n acc with
  | zero =>
    obtain ⟨fuel, rfl⟩ := Nat.exists_eq_add_of_lt hfuel
    have hlast : n / 10 = 0 := by omega
    rw [Nat.zero_add, digitsOnto, if_pos hlast, List.length_cons]
    omega
  | succ digits ih =>
    obtain ⟨fuel, rfl⟩ : ∃ more, fuel = more + 1 := ⟨fuel - 1, by omega⟩
    have hge : 10 ^ (digits + 1) ≤ n := hlow.resolve_right (Nat.succ_ne_zero _)
    have hpos : 0 < 10 ^ digits := Nat.pow_pos (by decide)
    rw [pow_succ] at hge
    rw [pow_succ] at hhigh
    have hmore : n / 10 ≠ 0 := by omega
    have hless : 10 ^ digits ≤ n / 10 := by omega
    have hrest := ih (UInt8.ofNat (48 + n % 10) :: acc) (Or.inl hless) (by omega)
      (show digits < fuel by omega)
    rw [digitsOnto, if_neg hmore, hrest, List.length_cons]
    omega

/-- The estimate of `get_chars_length_of_uint32_t` for a number of `bits + 1` bits: the digits are
`t` or `t + 1`. -/
theorem charsLength_estimate :
    ∀ bits < 32, let t := ((bits + 1) * 1233) >>> 12
      t < 10 ∧ (t = 0 ∨ 10 ^ (t - 1) < 2 ^ bits) ∧ 2 ^ (bits + 1) ≤ 10 ^ (t + 1) ∧
        (powersOfTen.getD t 0).toNat = if t = 0 then 0 else 10 ^ t := by
  decide

/-- The lowest bit is all that `value | 1` adds. -/
theorem or_one_bounds (n : Nat) : n ≤ n ||| 1 ∧ n ||| 1 ≤ n + 1 ∧ n ||| 1 ≠ 0 := by
  have hle : n ≤ n ||| 1 := Nat.left_le_or
  have hone : 1 ≤ n ||| 1 := Nat.right_le_or
  have hhalf : (n ||| 1) / 2 = n / 2 := by
    rw [Nat.or_div_two]
    exact Nat.or_zero _
  omega

/-- An estimate of the digits that is right, or one too high, is put right by one comparison. -/
theorem digitsOnto_length_of_estimate {fuel n t : Nat} (ht : t < fuel)
    (hfewer : t = 0 ∨ 10 ^ (t - 1) < 2 ^ (n ||| 1).log2)
    (hmore : 2 ^ ((n ||| 1).log2 + 1) ≤ 10 ^ (t + 1)) :
    t - (if n < (if t = 0 then 0 else 10 ^ t) then 1 else 0) + 1 =
      (digitsOnto fuel n []).length := by
  obtain ⟨hle, hparity, hne⟩ := or_one_bounds n
  have hlow := Nat.log2_self_le hne
  have hhigh := Nat.lt_log2_self (n := n ||| 1)
  cases t with
  | zero =>
    rw [if_pos rfl, if_neg (Nat.not_lt_zero _), digitsOnto_length 0 [] (Or.inr rfl) (by omega) ht]
    rfl
  | succ t =>
    rw [if_neg (Nat.succ_ne_zero t)]
    have hpow : 10 ^ t < 2 ^ (n ||| 1).log2 := hfewer.resolve_left (Nat.succ_ne_zero t)
    rcases Nat.lt_or_ge n (10 ^ (t + 1)) with hlt | hge
    · rw [if_pos hlt, digitsOnto_length t [] (Or.inl (by omega)) hlt (Nat.lt_of_succ_lt ht)]
      rfl
    · rw [if_neg (Nat.not_lt.mpr hge), digitsOnto_length (t + 1) [] (Or.inl hge) (by omega) ht]
      rfl

theorem getCharsLengthOfUInt32_eq (n : UInt32) :
    getCharsLengthOfUInt32 n = (unsignedIntToChars n).length := by
  have hor : (n ||| 1).toNat = n.toNat ||| 1 := UInt32.toNat_or n 1
  obtain ⟨-, -, hne⟩ := or_one_bounds n.toNat
  have hbits : (n.toNat ||| 1).log2 < 32 :=
    (Nat.log2_lt hne).mpr (Nat.or_lt_two_pow n.toNat_lt (by decide))
  obtain ⟨ht, hfewer, hmore, hpower⟩ := charsLength_estimate _ hbits
  rw [unsignedIntToChars, ← digitsOnto_length_of_estimate ht hfewer hmore,
    getCharsLengthOfUInt32]
  simp only [hor, UInt32.lt_iff_toNat_lt, hpower]

/-- The digits are written from the last to the first. -/
theorem writeDigits_eq {fuel n start offset : Nat} (buffer : Buffer) (acc : Bytes)
    (h : offset + (digitsOnto fuel n acc).length = start + acc.length) :
    writeDigits fuel n (writeAt buffer start acc) start =
      writeAt buffer offset (digitsOnto fuel n acc) := by
  induction fuel generalizing n start acc with
  | zero =>
    have hstart : offset = start := by
      rw [digitsOnto] at h
      exact Nat.add_right_cancel h
    rw [hstart, writeDigits, digitsOnto]
  | succ fuel ih =>
    -- a digit has still to be written, so there is room for it
    have hlonger : acc.length < (digitsOnto (fuel + 1) n acc).length := by
      have hacc : (UInt8.ofNat (48 + n % 10) :: acc).length ≤
          (digitsOnto fuel (n / 10) (UInt8.ofNat (48 + n % 10) :: acc)).length :=
        length_le_digitsOnto
      rw [List.length_cons] at hacc
      unfold digitsOnto
      dsimp only
      split
      · exact Nat.lt_succ_self _
      · exact hacc
    obtain ⟨start, rfl⟩ : ∃ before, start = before + 1 := ⟨start - 1, by omega⟩
    have hfront := writeAt_writeAt_front buffer start [UInt8.ofNat (48 + n % 10)] acc
    rw [List.length_singleton, List.singleton_append] at hfront
    rw [writeDigits, Nat.add_sub_cancel, hfront]
    unfold digitsOnto at h ⊢
    dsimp only at h ⊢
    split at h
    next hlast =>
      rw [if_pos hlast, if_pos hlast]
      rw [List.length_cons] at h
      have hstart : offset = start := by omega
      rw [hstart]
    next hlast =>
      rw [if_neg hlast, if_neg hlast]
      refine ih _ ?_
      rw [h, List.length_cons]
      omega

/-- Digits that are given the length of the text fill it, behind `offset` bytes. -/
theorem writeDigits_text (buffer : Buffer) (fuel n offset : Nat) :
    writeDigits fuel n buffer (offset + (digitsOnto fuel n []).length) =
      writeAt buffer offset (digitsOnto fuel n []) := by
  have hwrite := writeDigits_eq buffer []
    (show offset + (digitsOnto fuel n []).length = _ + 0 from rfl)
  rwa [writeAt_nil] at hwrite

/-- The digits fill the length that was computed for them. -/
theorem unsignedIntToCharsIn_eq (buffer : Buffer) (n : UInt32) :
    unsignedIntToCharsIn buffer n = unsignedIntToChars n := by
  unfold unsignedIntToCharsIn
  dsimp only
  have hwrite := writeDigits_text buffer 10 n.toNat 0
  rw [Nat.zero_add] at hwrite
  rw [getCharsLengthOfUInt32_eq, unsignedIntToChars, hwrite]
  exact readAt_writeAt_self buffer 0 _

/-! ## The target buffer -/

/-- The target buffer, `encoded_length`, and where each copy went with its length. -/
structure TargetBuffer where
  bytes : Buffer
  encodedLength : Nat := 0
  writes : List (Nat × Nat) := []

/-- `OutgoingValue` and `OutgoingStaticValue`. -/
structure OutgoingValue where
  tag : Tag
  tagStr : Bytes
  value : Bytes
deriving DecidableEq, Repr

/-- A tag with its number converted into `tag_str`, which held `stale`. -/
def outgoingValue (stale : Buffer) (field : Tag × Bytes) : OutgoingValue where
  tag := field.1
  tagStr := unsignedIntToCharsIn stale field.1
  value := field.2

namespace TargetBuffer

variable (t : TargetBuffer)

/-- `write_to_buffer`. -/
def writeToBuffer (text : Bytes) : TargetBuffer where
  bytes := writeAt t.bytes t.encodedLength text
  encodedLength := t.encodedLength + text.length
  writes := t.writes ++ [(t.encodedLength, text.length)]

/-- The copies for a tag that `encode` knows: its text with the equals sign, and its value. -/
def writeTag (tagText value : Bytes) : TargetBuffer :=
  ((t.writeToBuffer tagText).writeToBuffer value).writeToBuffer [fixDelimiter]

/-- The copies for a tag of a list. -/
def writeValue (v : OutgoingValue) : TargetBuffer :=
  (((t.writeToBuffer v.tagStr).writeToBuffer [fixEquals]).writeToBuffer v.value).writeToBuffer
    [fixDelimiter]

/-- The loop over the tags of a list. -/
def writeValues (values : List OutgoingValue) : TargetBuffer := values.foldl writeValue t

/-- `encode_checksum_simd_avx2` or `encode_checksum_no_simd` over what stands before `10=`. -/
def writeChecksum (settings : FixSessionSettings) : TargetBuffer :=
  t.writeToBuffer (encodedChecksum settings (readAt t.bytes 0 (t.encodedLength - 3)))

end TargetBuffer

/-! ## `encode` -/

/-- An instance with the text of tag 52, which is taken once for a message. -/
structure TimedInstance where
  message : OutgoingFixMessageInstance := {}
  sendTime : Bytes := []
  sendTimeSet : Bool := false

/-- Takes the current time for tag 52, unless that has been done. -/
def TimedInstance.setSendTime (m : TimedInstance) (now : Bytes) : TimedInstance :=
  if m.sendTimeSet = false then { m with sendTime := now, sendTimeSet := true } else m

/-- What the loops over the tags of a list add to the length of the body. -/
def addValues (bodyLength : Int32) (values : List OutgoingValue) : Int32 :=
  values.foldl
    (fun bodyLength v => bodyLength + Int32.ofNat (2 + v.tagStr.length + v.value.length)) bodyLength

section Encode

variable (settings : FixSessionSettings) (encoder : EncoderSettings) (stale : Buffer)
  (incomingSeqNo : UInt32) (m : TimedInstance) (sequenceNo : UInt32)

/-- The second step of `encode`: the length of the body, before anything is written. -/
def computeBodyLength : Int32 :=
  let content := m.message.content
  let seqNo := unsignedIntToCharsIn stale sequenceNo
  let bodyLength : Int32 := 20
  let bodyLength := bodyLength + Int32.ofNat m.sendTime.length
  let bodyLength := bodyLength + Int32.ofNat content.msgType.length
  let bodyLength := bodyLength + Int32.ofNat seqNo.length
  let bodyLength := bodyLength + Int32.ofNat settings.senderCompId.length
  let bodyLength := bodyLength + Int32.ofNat settings.targetCompId.length
  let bodyLength :=
    if encoder.includeLastProcessedSeqnumInHeader then
      bodyLength + Int32.ofNat (5 + (unsignedIntToCharsIn stale incomingSeqNo).length)
    else bodyLength
  let bodyLength := addValues bodyLength (content.header.map (outgoingValue stale))
  let bodyLength := addValues bodyLength (content.body.map (outgoingValue stale))
  let bodyLength := addValues bodyLength (content.trailer.map (outgoingValue stale))
  addValues bodyLength (encoder.additionalStaticHeaderTags.map (outgoingValue stale))

/-- The third step: everything but tag 10 is written. -/
def writeTags (target : Buffer) : TargetBuffer :=
  let content := m.message.content
  let bodyLength := computeBodyLength settings encoder stale incomingSeqNo m sequenceNo
  let t : TargetBuffer := { bytes := target }
  let t := t.writeTag (text "8=") settings.beginString
  let t := t.writeTag (text "9=") (unsignedIntToCharsIn stale bodyLength.toUInt32)
  let t := t.writeTag (text "35=") content.msgType
  let t := t.writeTag (text "34=") (unsignedIntToCharsIn stale sequenceNo)
  let t := t.writeTag (text "49=") settings.senderCompId
  let t := t.writeTag (text "52=") m.sendTime
  let t := t.writeTag (text "56=") settings.targetCompId
  let t :=
    if encoder.includeLastProcessedSeqnumInHeader then
      t.writeTag (text "369=") (unsignedIntToCharsIn stale incomingSeqNo)
    else t
  let t := t.writeValues (encoder.additionalStaticHeaderTags.map (outgoingValue stale))
  let t := t.writeValues (content.header.map (outgoingValue stale))
  let t := t.writeValues (content.body.map (outgoingValue stale))
  t.writeValues (content.trailer.map (outgoingValue stale))

/-- The third step and the fourth: the tags, then the checksum over them. -/
def writeMessage (target : Buffer) : TargetBuffer :=
  let t := writeTags settings encoder stale incomingSeqNo m sequenceNo target
  ((t.writeToBuffer (text "10=")).writeChecksum settings).writeToBuffer [fixDelimiter]

/-- `encode` at the time `now`: the instance behind it, and the target buffer. -/
def encodeInto (now : Bytes) (target : Buffer) : TimedInstance × TargetBuffer :=
  let m := m.setSendTime now
  ({ m with message := m.message.afterEncode, sendTimeSet := false },
    writeMessage settings encoder stale incomingSeqNo m sequenceNo target)

end Encode

/-! ## What is written -/

namespace TargetBuffer

variable (t : TargetBuffer)

/-- The bytes that have been written. -/
def written : Bytes := readAt t.bytes 0 t.encodedLength

theorem length_written : t.written.length = t.encodedLength := length_readAt ..

@[simp] theorem written_writeToBuffer (text : Bytes) :
    (t.writeToBuffer text).written = t.written ++ text := by
  show readAt (writeAt t.bytes t.encodedLength text) 0 (t.encodedLength + text.length) = _
  rw [readAt_add, Nat.zero_add, readAt_writeAt_self,
    readAt_writeAt_disjoint _ (Or.inl (by rw [Nat.zero_add]))]
  rfl

@[simp] theorem written_writeTag (tagText value : Bytes) :
    (t.writeTag tagText value).written = t.written ++ (tagText ++ value ++ [fixDelimiter]) := by
  simp [writeTag]

@[simp] theorem written_writeValues (stale : Buffer) (fields : List (Tag × Bytes)) :
    (t.writeValues (fields.map (outgoingValue stale))).written =
      t.written ++ fields.flatMap encodeField := by
  induction fields generalizing t with
  | nil => exact (List.append_nil _).symm
  | cons field fields ih =>
    rw [List.map_cons, writeValues, List.foldl_cons]
    refine (ih (t.writeValue (outgoingValue stale field))).trans ?_
    simp [writeValue, outgoingValue, unsignedIntToCharsIn_eq, encodeField]

end TargetBuffer

/-! ## The length of the body -/

/-- The number of bytes of fields. -/
def fieldsSize (fields : List (Tag × Bytes)) : Nat :=
  (fields.map fun field => 2 + (unsignedIntToChars field.1).length + field.2.length).sum

theorem fieldsSize_eq (fields : List (Tag × Bytes)) :
    fieldsSize fields = (fields.flatMap encodeField).length := by
  induction fields with
  | nil => rfl
  | cons field fields ih =>
    have hsum : fieldsSize (field :: fields) =
        2 + (unsignedIntToChars field.1).length + field.2.length + fieldsSize fields :=
      List.sum_cons
    rw [hsum, ih, List.flatMap_cons, List.length_append, encodeField]
    simp only [List.length_append, List.length_cons, List.length_nil]
    omega

theorem addValues_eq (bodyLength : Nat) (stale : Buffer) (fields : List (Tag × Bytes)) :
    addValues (Int32.ofNat bodyLength) (fields.map (outgoingValue stale)) =
      Int32.ofNat (bodyLength + fieldsSize fields) := by
  induction fields generalizing bodyLength with
  | nil => rfl
  | cons field fields ih =>
    have hsum : fieldsSize (field :: fields) =
        2 + (unsignedIntToChars field.1).length + field.2.length + fieldsSize fields :=
      List.sum_cons
    have hfirst := ih (bodyLength + (2 + (unsignedIntToChars field.1).length + field.2.length))
    rw [Nat.add_assoc bodyLength, ← hsum] at hfirst
    rw [List.map_cons, addValues, List.foldl_cons, ← hfirst, Int32.ofNat_add bodyLength,
      outgoingValue, unsignedIntToCharsIn_eq]
    rfl

section Size

variable (settings : FixSessionSettings) (encoder : EncoderSettings) (sendingTime : Bytes)
  (incomingSeqNo : UInt32) (m : OutgoingFixMessage) (sequenceNo : UInt32)

/-- The number of bytes from `35=` up to `10=`. -/
def bodySize : Nat :=
  20 + sendingTime.length + m.msgType.length + (unsignedIntToChars sequenceNo).length +
    settings.senderCompId.length + settings.targetCompId.length +
    (if encoder.includeLastProcessedSeqnumInHeader then
      5 + (unsignedIntToChars incomingSeqNo).length else 0) +
    fieldsSize m.header + fieldsSize m.body + fieldsSize m.trailer +
    fieldsSize encoder.additionalStaticHeaderTags

/-- The number of bytes of the message: tag 8, tag 9, the body and tag 10. -/
def messageSize : Nat :=
  let size := bodySize settings encoder sendingTime incomingSeqNo m sequenceNo
  3 + settings.beginString.length + (3 + (unsignedIntToChars size.toUInt32).length) + size + 7

theorem bodySize_eq :
    bodySize settings encoder sendingTime incomingSeqNo m sequenceNo =
      ((bodyFields settings encoder sendingTime incomingSeqNo m sequenceNo).flatMap
        encodeField).length := by
  have hfield : ∀ (tag : Tag) (value : Bytes),
      (encodeField (tag, value)).length = (unsignedIntToChars tag).length + value.length + 2 := by
    intro tag value
    simp [encodeField]
    omega
  -- the constants 20 and 5: the digits of the tags, `=` and the delimiter
  have h35 : (unsignedIntToChars tagMsgType).length = 2 := by decide
  have h34 : (unsignedIntToChars tagMsgSeqNum).length = 2 := by decide
  have h49 : (unsignedIntToChars tagSenderCompId).length = 2 := by decide
  have h52 : (unsignedIntToChars tagSendingTime).length = 2 := by decide
  have h56 : (unsignedIntToChars tagTargetCompId).length = 2 := by decide
  have h369 : (unsignedIntToChars tagLastMsgSeqNumProcessed).length = 3 := by decide
  unfold bodySize bodyFields
  simp only [fieldsSize_eq, List.flatMap_append, List.flatMap_cons, List.flatMap_nil,
    List.length_append, hfield, h35, h34, h49, h52, h56, List.length_nil]
  cases encoder.includeLastProcessedSeqnumInHeader with
  | true =>
    rw [if_pos rfl, if_pos rfl, List.flatMap_singleton, hfield, h369]
    omega
  | false =>
    rw [if_neg Bool.false_ne_true, if_neg Bool.false_ne_true, List.flatMap_nil, List.length_nil]
    omega

end Size

theorem computeBodyLength_eq (settings : FixSessionSettings) (encoder : EncoderSettings)
    (stale : Buffer) (incomingSeqNo : UInt32) (m : TimedInstance) (sequenceNo : UInt32) :
    computeBodyLength settings encoder stale incomingSeqNo m sequenceNo =
      Int32.ofNat (bodySize settings encoder m.sendTime incomingSeqNo m.message.content
        sequenceNo) := by
  have htwenty : (20 : Int32) = Int32.ofNat 20 := rfl
  have hlast : ∀ size : Nat,
      (if encoder.includeLastProcessedSeqnumInHeader then
          Int32.ofNat (size + (5 + (unsignedIntToChars incomingSeqNo).length))
        else Int32.ofNat size) =
        Int32.ofNat (size + if encoder.includeLastProcessedSeqnumInHeader then
          5 + (unsignedIntToChars incomingSeqNo).length else 0) := by
    intro size
    split
    · rfl
    · rfl
  unfold computeBodyLength bodySize
  dsimp only
  simp only [htwenty, unsignedIntToCharsIn_eq, ← Int32.ofNat_add]
  simp only [hlast, addValues_eq]

/-! ## The bytes -/

theorem encodeField_text (tag : Tag) {tagText : Bytes}
    (h : unsignedIntToChars tag ++ [fixEquals] = tagText) (value : Bytes) :
    encodeField (tag, value) = tagText ++ value ++ [fixDelimiter] := by
  rw [← h, encodeField]
  simp

section Bytes

variable (settings : FixSessionSettings) (encoder : EncoderSettings) (stale : Buffer)
  (incomingSeqNo : UInt32) (m : TimedInstance) (sequenceNo : UInt32) (target : Buffer)

theorem writeTags_written :
    (writeTags settings encoder stale incomingSeqNo m sequenceNo target).written =
      (summedFields settings encoder m.sendTime incomingSeqNo m.message.content
        sequenceNo).flatMap encodeField := by
  have hlength : (computeBodyLength settings encoder stale incomingSeqNo m sequenceNo).toUInt32 =
      ((bodyFields settings encoder m.sendTime incomingSeqNo m.message.content
        sequenceNo).flatMap encodeField).length.toUInt32 := by
    rw [computeBodyLength_eq, bodySize_eq]
    rfl
  have hnothing : TargetBuffer.written { bytes := target } = [] := rfl
  unfold writeTags
  dsimp only
  simp only [TargetBuffer.written_writeValues]
  rw [apply_ite TargetBuffer.written]
  simp only [TargetBuffer.written_writeTag, unsignedIntToCharsIn_eq, hlength, hnothing,
    List.nil_append]
  have h8 := encodeField_text tagBeginString (show _ = text "8=" by decide)
  have h9 := encodeField_text tagBodyLength (show _ = text "9=" by decide)
  have h35 := encodeField_text tagMsgType (show _ = text "35=" by decide)
  have h34 := encodeField_text tagMsgSeqNum (show _ = text "34=" by decide)
  have h49 := encodeField_text tagSenderCompId (show _ = text "49=" by decide)
  have h52 := encodeField_text tagSendingTime (show _ = text "52=" by decide)
  have h56 := encodeField_text tagTargetCompId (show _ = text "56=" by decide)
  have h369 := encodeField_text tagLastMsgSeqNumProcessed (show _ = text "369=" by decide)
  unfold summedFields
  dsimp only
  generalize ((bodyFields settings encoder m.sendTime incomingSeqNo m.message.content
    sequenceNo).flatMap encodeField).length.toUInt32 = bodyLength
  unfold bodyFields
  simp only [List.flatMap_cons, List.flatMap_append, List.flatMap_nil, h8, h9, h35, h34, h49, h52,
    h56]
  cases encoder.includeLastProcessedSeqnumInHeader with
  | true =>
    rw [if_pos rfl, if_pos rfl, List.flatMap_singleton, h369]
    simp only [List.append_assoc, List.append_nil]
  | false =>
    rw [if_neg Bool.false_ne_true, if_neg Bool.false_ne_true, List.flatMap_nil]
    simp only [List.append_assoc, List.append_nil]

/-- The copies give the bytes of `encode`. -/
theorem writeMessage_written :
    (writeMessage settings encoder stale incomingSeqNo m sequenceNo target).written =
      encode settings encoder m.sendTime incomingSeqNo m.message.content sequenceNo := by
  have htags := writeTags_written settings encoder stale incomingSeqNo m sequenceNo target
  have h10 := encodeField_text tagChecksum (show _ = text "10=" by decide)
  -- the checksum is over what was written before its tag
  have hsummed : ∀ t : TargetBuffer,
      readAt (t.writeToBuffer (text "10=")).bytes 0
        ((t.writeToBuffer (text "10=")).encodedLength - 3) = t.written := by
    intro t
    have hlength : (t.writeToBuffer (text "10=")).encodedLength - 3 = t.encodedLength := rfl
    rw [hlength]
    exact readAt_writeAt_disjoint _ (Or.inl (by rw [Nat.zero_add]))
  unfold writeMessage TargetBuffer.writeChecksum encode
  dsimp only
  rw [TargetBuffer.written_writeToBuffer, TargetBuffer.written_writeToBuffer,
    TargetBuffer.written_writeToBuffer, hsummed, htags, h10]
  simp only [List.append_assoc]

theorem length_encode (sendingTime : Bytes) (content : OutgoingFixMessage) :
    (encode settings encoder sendingTime incomingSeqNo content sequenceNo).length =
      messageSize settings encoder sendingTime incomingSeqNo content sequenceNo := by
  have h8 := encodeField_text tagBeginString (show _ = text "8=" by decide)
  have h9 := encodeField_text tagBodyLength (show _ = text "9=" by decide)
  have h10 := encodeField_text tagChecksum (show _ = text "10=" by decide)
  have hdigits := fun buffer => (encodedChecksum_spec settings buffer).1
  have htwo : (text "8=").length = 2 ∧ (text "9=").length = 2 ∧ (text "10=").length = 3 := by
    decide
  unfold messageSize encode summedFields
  dsimp only
  rw [bodySize_eq]
  simp only [List.length_append, List.flatMap_cons, h8, h9, h10, hdigits, htwo,
    List.length_singleton]
  omega

end Bytes

/-- What has been written stays in front of `encoded_length`, and the rest of the buffer is as it
was. -/
structure TargetBuffer.Extends (t : TargetBuffer) (target : Buffer) : Prop where
  within : ∀ write ∈ t.writes, write.1 + write.2 ≤ t.encodedLength
  frame : ∀ i, t.encodedLength ≤ i → t.bytes i = target i

namespace TargetBuffer.Extends

variable {t : TargetBuffer} {target : Buffer}

theorem writeToBuffer (h : t.Extends target) (text : Bytes) :
    (t.writeToBuffer text).Extends target := by
  constructor
  · intro write hwrite
    show write.1 + write.2 ≤ t.encodedLength + text.length
    rcases List.mem_append.mp hwrite with hbefore | hlast
    · exact Nat.le_trans (h.within write hbefore) (Nat.le_add_right _ _)
    · rw [List.mem_singleton.mp hlast]
  · intro i hi
    have hle : t.encodedLength + text.length ≤ i := hi
    exact (writeAt_apply_ne _ (Or.inr hle)).trans
      (h.frame i (Nat.le_trans (Nat.le_add_right _ _) hle))

theorem writeTag (h : t.Extends target) (tagText value : Bytes) :
    (t.writeTag tagText value).Extends target :=
  ((h.writeToBuffer tagText).writeToBuffer value).writeToBuffer [fixDelimiter]

theorem writeValues (h : t.Extends target) (values : List OutgoingValue) :
    (t.writeValues values).Extends target := by
  induction values generalizing t with
  | nil => exact h
  | cons v values ih =>
    exact ih ((((h.writeToBuffer v.tagStr).writeToBuffer [fixEquals]).writeToBuffer
      v.value).writeToBuffer [fixDelimiter])

theorem writeMessage (settings : FixSessionSettings) (encoder : EncoderSettings) (stale : Buffer)
    (incomingSeqNo : UInt32) (m : TimedInstance) (sequenceNo : UInt32) (target : Buffer) :
    (writeMessage settings encoder stale incomingSeqNo m sequenceNo target).Extends target := by
  have hnothing : TargetBuffer.Extends { bytes := target } target :=
    ⟨fun write hwrite => absurd hwrite List.not_mem_nil, fun _ _ => rfl⟩
  have hlast : ∀ {t : TargetBuffer}, t.Extends target → ∀ value : Bytes,
      (if encoder.includeLastProcessedSeqnumInHeader then t.writeTag (text "369=") value
        else t).Extends target := by
    intro t h value
    split
    · exact h.writeTag _ _
    · exact h
  have hheader := hlast (((((((hnothing.writeTag (text "8=") settings.beginString).writeTag
    (text "9=") (unsignedIntToCharsIn stale (computeBodyLength settings encoder stale incomingSeqNo
      m sequenceNo).toUInt32)).writeTag (text "35=") m.message.content.msgType).writeTag
    (text "34=") (unsignedIntToCharsIn stale sequenceNo)).writeTag
    (text "49=") settings.senderCompId).writeTag (text "52=") m.sendTime).writeTag
    (text "56=") settings.targetCompId) (unsignedIntToCharsIn stale incomingSeqNo)
  exact (((((((hheader.writeValues _).writeValues _).writeValues _).writeValues _).writeToBuffer
    _).writeToBuffer _).writeToBuffer _)

end TargetBuffer.Extends

/-! ## Framing -/

/-- The bytes are a message with its frame: tags 8, 9 and 35 come first and tag 10 last, tag 9 is
the number of bytes from `35=` up to `10=`, and tag 10 the sum of the bytes up to `10=`. -/
def IsFramed (beginString msgType : Bytes) (fields : List (Tag × Bytes)) (bytes : Bytes) : Prop :=
  ∃ bodyLength checksum : Bytes,
    let body := text "35=" ++ msgType ++ [fixDelimiter] ++ fields.flatMap encodeField
    let front := text "8=" ++ beginString ++ [fixDelimiter] ++
      (text "9=" ++ bodyLength ++ [fixDelimiter]) ++ body
    bytes = front ++ (text "10=" ++ checksum ++ [fixDelimiter]) ∧
      bodyLength.all isDigit = true ∧ decimalValue bodyLength = body.length ∧
      checksum.length = 3 ∧ checksum.all isDigit = true ∧
      decimalValue checksum = byteTotal front % 256

/-- No tag is set, and no time is taken. -/
def TimedInstance.IsEmpty (m : TimedInstance) : Prop :=
  m.message.IsClear ∧ m.message.pointer = 0 ∧ m.sendTimeSet = false

theorem encode_framed (settings : FixSessionSettings) (encoder : EncoderSettings)
    (sendingTime : Bytes) (incomingSeqNo : UInt32) (content : OutgoingFixMessage)
    (sequenceNo : UInt32)
    (h : messageSize settings encoder sendingTime incomingSeqNo content sequenceNo < 2147483648) :
    IsFramed settings.beginString content.msgType
      (sessionFields settings encoder sendingTime incomingSeqNo sequenceNo ++ content.fields)
      (encode settings encoder sendingTime incomingSeqNo content sequenceNo) := by
  have h8 := encodeField_text tagBeginString (show _ = text "8=" by decide)
  have h9 := encodeField_text tagBodyLength (show _ = text "9=" by decide)
  have h10 := encodeField_text tagChecksum (show _ = text "10=" by decide)
  have h35 := encodeField_text tagMsgType (show _ = text "35=" by decide)
  have hrest := restFields_eq settings encoder sendingTime content incomingSeqNo sequenceNo
  have hbody : (bodyFields settings encoder sendingTime incomingSeqNo content
      sequenceNo).flatMap encodeField = text "35=" ++ content.msgType ++ [fixDelimiter] ++
        (sessionFields settings encoder sendingTime incomingSeqNo sequenceNo ++
          content.fields).flatMap encodeField := by
    rw [← h35, ← hrest]
    rfl
  let summed := (summedFields settings encoder sendingTime incomingSeqNo content
    sequenceNo).flatMap encodeField
  obtain ⟨hlength, hdigits, hvalue⟩ := encodedChecksum_spec settings summed
  have hsize := bodySize_eq settings encoder sendingTime incomingSeqNo content sequenceNo
  refine ⟨unsignedIntToChars ((bodyFields settings encoder sendingTime incomingSeqNo content
    sequenceNo).flatMap encodeField).length.toUInt32, encodedChecksum settings summed, ?_,
    unsignedIntToChars_all _, ?_, hlength, hdigits, ?_⟩
  · rw [← hbody, ← h8, ← h9, ← h10]
    simp [encode, summed, summedFields]
  · rw [← hbody, decimalValue_unsignedIntToChars, ← hsize]
    unfold messageSize at h
    dsimp only at h
    show (UInt32.ofNat _).toNat = _
    rw [UInt32.toNat_ofNat']
    omega
  · rw [hvalue, ← hbody, ← h8, ← h9]
    simp [summed, summedFields]

/-- `encode` writes `encoded_length` bytes, which are a message with its frame, and leaves the
message empty. -/
theorem encodeInto_framed (settings : FixSessionSettings) (encoder : EncoderSettings)
    (stale : Buffer) (incomingSeqNo : UInt32) (m : TimedInstance) (sequenceNo : UInt32)
    (now : Bytes) (target : Buffer)
    (h : messageSize settings encoder (m.setSendTime now).sendTime incomingSeqNo
      m.message.content sequenceNo < 2147483648) :
    let result := encodeInto settings encoder stale incomingSeqNo m sequenceNo now target
    IsFramed settings.beginString m.message.content.msgType
        (sessionFields settings encoder (m.setSendTime now).sendTime incomingSeqNo sequenceNo ++
          m.message.content.fields)
        (readAt result.2.bytes 0 result.2.encodedLength) ∧
      (∀ i, result.2.encodedLength ≤ i → result.2.bytes i = target i) ∧
      result.1.IsEmpty := by
  have hcontent : (m.setSendTime now).message = m.message := by
    unfold TimedInstance.setSendTime
    split <;> rfl
  have hwritten := writeMessage_written settings encoder stale incomingSeqNo (m.setSendTime now)
    sequenceNo target
  rw [hcontent] at hwritten
  refine ⟨?_, ?_, ⟨rfl, rfl, rfl⟩, rfl, rfl⟩
  · have hframed := encode_framed settings encoder _ incomingSeqNo _ sequenceNo h
    rw [← hwritten] at hframed
    exact hframed
  · exact (TargetBuffer.Extends.writeMessage settings encoder stale incomingSeqNo
      (m.setSendTime now) sequenceNo target).frame

/-! ## A message -/

theorem encodeInto_framed_order :
    let m : TimedInstance := { message := { content := exampleOrder } }
    let result := encodeInto exampleSettings exampleEncoder zeros 9 m 7 (text "20260101-00:00:00")
      zeros
    IsFramed exampleSettings.beginString exampleOrder.msgType
        (sessionFields exampleSettings exampleEncoder (text "20260101-00:00:00") 9 7 ++
          exampleOrder.fields)
        (readAt result.2.bytes 0 result.2.encodedLength) ∧
      (∀ i, result.2.encodedLength ≤ i → result.2.bytes i = zeros i) ∧
      result.1.IsEmpty :=
  encodeInto_framed exampleSettings exampleEncoder zeros 9
    { message := { content := exampleOrder } } 7 (text "20260101-00:00:00") zeros (by decide)

end Llfix
