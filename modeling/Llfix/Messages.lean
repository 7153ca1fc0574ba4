import Llfix.FixUtilities

/-!
# Incoming and outgoing messages as the session sees them

An incoming message is the table of its tags (`incoming_fix_message.h`) together with its bytes
and the reject code of the parser. An outgoing message is a message type and lists of tags
(`outgoing_fix_message.h`), before the header, the body length and the checksum are added.
-/

namespace Llfix

/-! ## Incoming -/

/-- The tags of a received message, first occurrence first. -/
structure IncomingFixMessage where
  tags : List (Tag × Bytes) := []
deriving DecidableEq, Repr

namespace IncomingFixMessage

def hasTag (m : IncomingFixMessage) (tag : Tag) : Bool :=
  (m.tags.lookup tag).isSome

/-- The value of a tag; the source calls it behind `has_tag`. -/
def getTagValue (m : IncomingFixMessage) (tag : Tag) : Bytes :=
  (m.tags.lookup tag).getD []

/-- `get_tag_value_as<char>`: the first byte of the value. The value ends at its delimiter, so
an empty value reads the delimiter. -/
def getTagValueAsChar (m : IncomingFixMessage) (tag : Tag) : UInt8 :=
  (m.getTagValue tag).headD fixDelimiter

/-- `get_tag_value_as<uint32_t>`. -/
def getTagValueAsUInt32 (m : IncomingFixMessage) (tag : Tag) : UInt32 :=
  charsToUnsignedInt (m.getTagValue tag)

def isTagValueNumeric (m : IncomingFixMessage) (tag : Tag) : Bool :=
  isNumeric (m.getTagValue tag)

end IncomingFixMessage

/-- What `process_rx_buffer` hands over for one message: the recorded tags, the bytes from `8=`
to the delimiter of tag 10, and the parser's reject code (`none` is `uint32_t(-1)`). -/
structure RxMessage where
  message : IncomingFixMessage
  buffer : Bytes
  parserRejectCode : Option UInt32
deriving DecidableEq, Repr

namespace RxMessage

/-- MsgSeqNum as the sequence check reads it. -/
def seqNum (rx : RxMessage) : UInt32 := rx.message.getTagValueAsUInt32 tagMsgSeqNum

/-- MsgType. -/
def msgType (rx : RxMessage) : Bytes := rx.message.getTagValue tagMsgType

end RxMessage

/-- `FixSession::is_a_hard_sequence_reset_message`. It looks at the first character of MsgType
only. -/
def isAHardSequenceResetMessage (m : IncomingFixMessage) : Bool :=
  m.hasTag tagMsgType &&
  m.getTagValueAsChar tagMsgType = msgTypeSequenceReset &&
  !(m.hasTag tagGapFillFlag && m.getTagValueAsChar tagGapFillFlag = fixBooleanTrue)

/-! ## Outgoing -/

/-- The content an `OutgoingFixMessage` holds when `encode` is called. -/
structure OutgoingFixMessage where
  msgType : Bytes
  header : List (Tag × Bytes) := []
  body : List (Tag × Bytes) := []
  trailer : List (Tag × Bytes) := []
deriving DecidableEq, Repr

namespace OutgoingFixMessage

def setMsgType (c : UInt8) : OutgoingFixMessage := { msgType := [c] }

/-- `set_tag` on the body. -/
def setTag (m : OutgoingFixMessage) (tag : Tag) (value : Bytes) : OutgoingFixMessage :=
  { m with body := m.body ++ [(tag, value)] }

/-- `set_tag` on the body for an unsigned number. -/
def setTagUInt32 (m : OutgoingFixMessage) (tag : Tag) (value : UInt32) : OutgoingFixMessage :=
  m.setTag tag (unsignedIntToChars value)

end OutgoingFixMessage

/-- A message handed to `send_bytes`. `original` is `send_outgoing_message`, the only path that
uses up a sequence number. `control` is a gap fill or a sequence reset. Of a replayed message
only the number it is sent under is kept. -/
inductive Transmission
  | original (message : OutgoingFixMessage) (sequenceNo : UInt32)
  | control (message : OutgoingFixMessage) (sequenceNo : UInt32)
  | replay (sequenceNo : UInt32)
deriving DecidableEq, Repr

/-- The template argument `increment_outgoing_seq_no` of the `send_bytes` that sends it. -/
def Transmission.incrementOutgoingSeqNo : Transmission → Bool
  | .original _ _ => true
  | .control _ _ => false
  | .replay _ => false

end Llfix
