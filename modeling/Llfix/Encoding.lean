import Llfix.ReceivedMessage

/-!
# Encoding

`OutgoingFixMessage::encode` of `outgoing_fix_message.h`: the fields a message has on the wire,
in their order, and the message as the parser of the peer hands it over.
-/

namespace Llfix

/-- The settings only the encoder reads. -/
structure EncoderSettings where
  includeLastProcessedSeqnumInHeader : Bool := false
  /-- The tags and values of `additional_static_header_tags`. -/
  additionalStaticHeaderTags : List (Tag × Bytes) := []
deriving DecidableEq, Repr

/-- The checksum that `encode_checksum_simd_avx2` or `encode_checksum_no_simd` writes. -/
def encodedChecksum (settings : FixSessionSettings) (buffer : Bytes) : Bytes :=
  let sum := if settings.enableSimdAvx2 then simdSum buffer else byteSum buffer
  let checksum := (sum % fixChecksumModulo).toNat
  [checksum / 100, checksum / 10 % 10, checksum % 10].map fun digit => UInt8.ofNat (48 + digit)

section Encode

variable (settings : FixSessionSettings) (encoder : EncoderSettings)
  (sendingTime : Bytes) (incomingSeqNo : UInt32) (m : OutgoingFixMessage) (sequenceNo : UInt32)

/-- The fields between the body length and the checksum. -/
def bodyFields : List (Tag × Bytes) :=
  [(tagMsgType, m.msgType), (tagMsgSeqNum, unsignedIntToChars sequenceNo),
    (tagSenderCompId, settings.senderCompId), (tagSendingTime, sendingTime),
    (tagTargetCompId, settings.targetCompId)] ++
  (if encoder.includeLastProcessedSeqnumInHeader then
    [(tagLastMsgSeqNumProcessed, unsignedIntToChars incomingSeqNo)] else []) ++
  encoder.additionalStaticHeaderTags ++ m.header ++ m.body ++ m.trailer

/-- All fields but the checksum. The length in tag 9 is that of the fields behind it. -/
def summedFields : List (Tag × Bytes) :=
  let fields := bodyFields settings encoder sendingTime incomingSeqNo m sequenceNo
  (tagBeginString, settings.beginString) ::
    (tagBodyLength, unsignedIntToChars (fields.flatMap encodeField).length.toUInt32) :: fields

/-- `encode`. -/
def encode : Bytes :=
  let buffer :=
    (summedFields settings encoder sendingTime incomingSeqNo m sequenceNo).flatMap encodeField
  buffer ++ encodeField (tagChecksum, encodedChecksum settings buffer)

/-- The message as the parser of the peer hands it over. -/
def encodedMessage : RxMessage :=
  let fields := summedFields settings encoder sendingTime incomingSeqNo m sequenceNo
  { message :=
      { tags := fields ++ [(tagChecksum, encodedChecksum settings (fields.flatMap encodeField))] }
    buffer := encode settings encoder sendingTime incomingSeqNo m sequenceNo
    parserRejectCode := none }

@[simp] theorem encodedMessage_msgType :
    (encodedMessage settings encoder sendingTime incomingSeqNo m sequenceNo).msgType =
      m.msgType := rfl

end Encode

example : FixSession.validateFixMessage
    { exampleSettings with senderCompId := text "PEER", targetCompId := text "LLFIX" }
    (encodedMessage exampleSettings {} (text "20260101-00:00:00") 0
      (OutgoingFixMessage.setMsgType msgTypeHeartbeat) 7) 0 = .valid := by decide +kernel

end Llfix
