import Llfix.TargetBuffer

/-!
# The end of the target buffer

`encode` is given the length of its target buffer and does not compare anything with it.

Results:
1. `encodeWithinBuffer_iff`: the bytes stay in the buffer exactly when the message is not longer,
   sent or replayed.
2. `bodySize_replay`: what a message is longer by when it is replayed.
3. `encodeWithinBuffer_fails`: a message that fills the buffer is replayed over its end.
-/

namespace Llfix

open MappedFile

/-- Every byte that has been written stands in the first `capacity` bytes. -/
def TargetBuffer.WritesWithin (t : TargetBuffer) (capacity : Nat) : Prop :=
  ∀ write ∈ t.writes, ∀ i < write.2, write.1 + i < capacity

instance (t : TargetBuffer) (capacity : Nat) : Decidable (t.WritesWithin capacity) :=
  inferInstanceAs (Decidable (∀ write ∈ t.writes, ∀ i < write.2, write.1 + i < capacity))

/-- The last copy is the delimiter of tag 10, so the copies stay in the buffer exactly when the
message is not longer. -/
theorem writeMessage_writesWithin_iff (settings : FixSessionSettings) (encoder : EncoderSettings)
    (stale : Buffer) (incomingSeqNo : UInt32) (m : TimedInstance) (sequenceNo : UInt32)
    (target : Buffer) (capacity : Nat) :
    (writeMessage settings encoder stale incomingSeqNo m sequenceNo target).WritesWithin capacity ↔
      messageSize settings encoder m.sendTime incomingSeqNo m.message.content sequenceNo ≤
        capacity := by
  have hextends := TargetBuffer.Extends.writeMessage settings encoder stale incomingSeqNo m
    sequenceNo target
  have hlength : (writeMessage settings encoder stale incomingSeqNo m sequenceNo
      target).encodedLength =
        messageSize settings encoder m.sendTime incomingSeqNo m.message.content sequenceNo := by
    rw [← TargetBuffer.length_written, writeMessage_written, length_encode]
  rw [← hlength]
  constructor
  · intro h
    obtain ⟨t, ht⟩ : ∃ t : TargetBuffer,
        writeMessage settings encoder stale incomingSeqNo m sequenceNo target =
          t.writeToBuffer [fixDelimiter] := ⟨_, rfl⟩
    rw [ht] at h ⊢
    exact h (t.encodedLength, 1) (List.mem_append_right _ (List.mem_singleton_self _)) 0
      Nat.one_pos
  · intro h write hwrite i hi
    have hle := hextends.within write hwrite
    omega

/-- One turn of the loop of `resend_messages_to_server`, for a message that `read_message` has put
into the encode buffer. -/
def resendInto (settings : FixSessionSettings) (encoder : EncoderSettings) (includeT97 : Bool)
    (stale : Buffer) (uninitialised : UInt8) (incomingSeqNo : UInt32) (m : TimedInstance)
    (stored : Bytes) (sequenceNo : UInt32) (now : Bytes) (target : Buffer) :
    Option (TimedInstance × TargetBuffer) :=
  (m.message.loadFromBuffer encoder uninitialised stored).map fun loaded =>
    let loaded := (resendTags includeT97).foldl
      (fun m field => m.setTag .header field.1 field.2 uninitialised) loaded
    encodeInto settings encoder stale incomingSeqNo { m with message := loaded } sequenceNo now
      (writeAt target 0 stored)

theorem setSendTime_message (m : TimedInstance) (now : Bytes) :
    (m.setSendTime now).message = m.message := by
  unfold TimedInstance.setSendTime
  split <;> rfl

/-- The bytes that `encode` writes stay in the target buffer exactly when the message is not longer
than it, for every message that is sent and every message that is replayed. -/
theorem encodeWithinBuffer_iff (settings : FixSessionSettings) (encoder : EncoderSettings)
    (stale : Buffer) (incomingSeqNo : UInt32) (m : TimedInstance) (sequenceNo : UInt32)
    (now : Bytes) (target : Buffer) (targetBufferLength : Nat) :
    ((encodeInto settings encoder stale incomingSeqNo m sequenceNo now target).2.WritesWithin
        targetBufferLength ↔
      messageSize settings encoder (m.setSendTime now).sendTime incomingSeqNo m.message.content
        sequenceNo ≤ targetBufferLength) ∧
    ∀ (includeT97 : Bool) (uninitialised : UInt8) (stored : Bytes)
      (loaded : OutgoingFixMessageInstance),
      m.message.loadFromBuffer encoder uninitialised stored = some loaded →
      ∃ result, resendInto settings encoder includeT97 stale uninitialised incomingSeqNo m stored
          sequenceNo now target = some result ∧
        (result.2.WritesWithin targetBufferLength ↔
          messageSize settings encoder (m.setSendTime now).sendTime incomingSeqNo
            (loaded.content.withResendTags includeT97) sequenceNo ≤ targetBufferLength) := by
  have hencode : ∀ (m : TimedInstance) (target : Buffer),
      (encodeInto settings encoder stale incomingSeqNo m sequenceNo now target).2.WritesWithin
          targetBufferLength ↔
        messageSize settings encoder (m.setSendTime now).sendTime incomingSeqNo m.message.content
          sequenceNo ≤ targetBufferLength := by
    intro m target
    have hiff := writeMessage_writesWithin_iff settings encoder stale incomingSeqNo
      (m.setSendTime now) sequenceNo target targetBufferLength
    rwa [setSendTime_message] at hiff
  refine ⟨hencode m target, ?_⟩
  intro includeT97 uninitialised stored loaded hload
  have htime : ∀ message : OutgoingFixMessageInstance,
      (({ m with message := message } : TimedInstance).setSendTime now).sendTime =
        (m.setSendTime now).sendTime := by
    intro message
    unfold TimedInstance.setSendTime
    dsimp only
    split <;> rfl
  refine ⟨_, by rw [resendInto, hload]; rfl, ?_⟩
  rw [hencode, htime]
  dsimp only
  rw [foldl_resendTags]

/-! ## The growth of a replayed message -/

theorem fieldsSize_append (front back : List (Tag × Bytes)) :
    fieldsSize (front ++ back) = fieldsSize front + fieldsSize back := by
  rw [fieldsSize, List.map_append, List.sum_append]
  rfl

/-- The body of a replayed message has tags 122 and 43 in addition, tag 97 with the setting, and
tag 369 once more. -/
theorem bodySize_replay (settings : FixSessionSettings) (encoder : EncoderSettings)
    (includeT97 : Bool) (sendingTime origSendingTime : Bytes) (incomingSeqNo origIncoming : UInt32)
    (original : OutgoingFixMessage) (sequenceNo : UInt32) :
    bodySize settings encoder sendingTime incomingSeqNo
        ((loadedMessage encoder origSendingTime origIncoming original).withResendTags includeT97)
        sequenceNo =
      bodySize settings encoder sendingTime incomingSeqNo original sequenceNo +
        (10 + origSendingTime.length + (if includeT97 then 5 else 0) +
          (if encoder.includeLastProcessedSeqnumInHeader then
            5 + (unsignedIntToChars origIncoming).length else 0)) := by
  have hheader : fieldsSize ((tagOrigSendingTime, origSendingTime) :: resendTags includeT97) =
      10 + origSendingTime.length + if includeT97 then 5 else 0 := by
    have h122 : (unsignedIntToChars tagOrigSendingTime).length = 3 := by decide
    have hcons : fieldsSize ((tagOrigSendingTime, origSendingTime) :: resendTags includeT97) =
        2 + (unsignedIntToChars tagOrigSendingTime).length + origSendingTime.length +
          fieldsSize (resendTags includeT97) := List.sum_cons
    rw [hcons, h122]
    cases includeT97 with
    | true =>
      have htags : fieldsSize (resendTags true) = 10 := by decide
      rw [htags, if_pos rfl]
      omega
    | false =>
      have htags : fieldsSize (resendTags false) = 5 := by decide
      rw [htags, if_neg Bool.false_ne_true]
      omega
  have hlast : ∀ included : Bool, fieldsSize (if included then
      [(tagLastMsgSeqNumProcessed, unsignedIntToChars origIncoming)] else []) =
        if included then 5 + (unsignedIntToChars origIncoming).length else 0 := by
    intro included
    cases included with
    | true =>
      have h369 : (unsignedIntToChars tagLastMsgSeqNumProcessed).length = 3 := by decide
      show 2 + (unsignedIntToChars tagLastMsgSeqNumProcessed).length + _ + 0 = _
      rw [h369, if_pos rfl]
      rfl
    | false => rfl
  unfold bodySize OutgoingFixMessage.withResendTags loadedMessage OutgoingFixMessage.fields
  dsimp only
  rw [List.singleton_append, hheader, fieldsSize_append, hlast, fieldsSize_append,
    fieldsSize_append]
  have hnone : fieldsSize [] = 0 := rfl
  rw [hnone]
  omega

/-! ## A message that fills the buffer -/

/-- The length of the order, sent under number 7. -/
def exampleOrderSize : Nat :=
  messageSize exampleSettings {} (text "20260101-00:00:00") 9 exampleApplicationMessage 7

/-- What the order is loaded as. -/
theorem exampleOrder_loaded :
    ∃ loaded, ({} : OutgoingFixMessageInstance).loadFromBuffer {} 0
        (encode exampleSettings {} (text "20260101-00:00:00") 9 exampleApplicationMessage 7) =
          some loaded ∧
      loaded.content = loadedMessage {} (text "20260101-00:00:00") 9 exampleApplicationMessage := by
  have hsession : EncodableSession exampleSettings {} (text "20260101-00:00:00") :=
    ⟨by decide, by decide, by decide, by decide, by decide, forall_tag_of_all (by decide),
      by decide⟩
  have hmessage : EncodableMessage {} exampleApplicationMessage :=
    ⟨by decide, by decide, forall_tag_of_all (by decide), by decide⟩
  have hclear : ({} : OutgoingFixMessageInstance).IsClear := ⟨rfl, rfl, rfl⟩
  exact Option.map_eq_some_iff.mp
    (loadFromBuffer_encoded hsession hmessage rfl (by decide) 0 hclear 9 7)

theorem encodeWithinBuffer_iff_replay :
    ∃ loaded result, resendInto exampleSettings {} true zeros 0 12 {}
        (encode exampleSettings {} (text "20260101-00:00:00") 9 exampleApplicationMessage 7) 7
        (text "20260101-00:00:09") zeros = some result ∧
      (result.2.WritesWithin 4096 ↔
        messageSize exampleSettings {} (text "20260101-00:00:09") 12
          (OutgoingFixMessage.withResendTags loaded true) 7 ≤ 4096) := by
  obtain ⟨loaded, hloaded, -⟩ := exampleOrder_loaded
  obtain ⟨result, hresult, hiff⟩ := (encodeWithinBuffer_iff exampleSettings {} zeros 12 {} 7
    (text "20260101-00:00:09") zeros 4096).2 true 0 _ loaded hloaded
  exact ⟨loaded.content, result, hresult, hiff⟩

/-- The order fits in a buffer of its length, and its replay is written over the end. -/
theorem encodeWithinBuffer_fails :
    (encodeInto exampleSettings {} zeros 9 { message := { content := exampleApplicationMessage } } 7
        (text "20260101-00:00:00") zeros).2.WritesWithin exampleOrderSize ∧
      ∃ result, resendInto exampleSettings {} false zeros 0 12 {}
          (encode exampleSettings {} (text "20260101-00:00:00") 9 exampleApplicationMessage 7) 7
          (text "20260101-00:00:09") zeros = some result ∧
        ¬ result.2.WritesWithin exampleOrderSize := by
  obtain ⟨loaded, hloaded, hcontent⟩ := exampleOrder_loaded
  refine ⟨(writeMessage_writesWithin_iff ..).mpr (Nat.le_refl _), ?_⟩
  refine ⟨_, by rw [resendInto]; exact congrArg _ hloaded, ?_⟩
  refine mt (writeMessage_writesWithin_iff ..).mp ?_
  show ¬ messageSize exampleSettings {} (text "20260101-00:00:09") 12
    ((resendTags false).foldl (fun m field => m.setTag .header field.1 field.2 0) loaded).content 7
      ≤ exampleOrderSize
  rw [foldl_resendTags, hcontent]
  decide

end Llfix
