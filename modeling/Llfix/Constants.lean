import Mathlib.Data.List.Basic

/-!
# Constants of the FIX protocol and of the parser

Bytes, tags, message types and error codes under the names of `fix_constants.h` and
`fix_parser_error_codes.h`.
-/

namespace Llfix

/-- A character buffer. -/
abbrev Bytes := List UInt8

/-- A tag number, a `uint32_t` in the source. -/
abbrev Tag := UInt32

/-- The bytes of an ASCII text. -/
def text (s : String) : Bytes := s.toList.map Char.toUInt8

def fixEquals : UInt8 := '='.toUInt8
def fixDelimiter : UInt8 := 1
def fixChecksumModulo : UInt32 := 256
def fixBooleanTrue : UInt8 := 'Y'.toUInt8

/-! ## Session reject codes (tag 373) -/

def fixErrorCodeInvalidTagNumber : UInt32 := 0
def fixErrorCodeTagWithoutValue : UInt32 := 4
def fixErrorCodeValueIncorrectForTag : UInt32 := 5
def fixErrorCodeFormatIncorrectForTag : UInt32 := 6
def fixErrorCodeCompidProblem : UInt32 := 9
def fixErrorCodeSendingTimeAccuracyProblem : UInt32 := 10
def fixErrorCodeTagAppearsMoreThanOnce : UInt32 := 13
/-- `FIX_MAX_ERROR_CODE`: codes above it are internal to the parser and are never sent. -/
def fixMaxErrorCode : UInt32 := 99

/-! ## Errors internal to the parser -/

def wrongBodyLength : UInt32 := 100
def noTag35 : UInt32 := 101
def noTag9 : UInt32 := 102
def invalidTag9 : UInt32 := 103
def noEqualsSign : UInt32 := 104
def outOfOrderHeaderFields : UInt32 := 105

/-! ## Tags -/

def tagBeginString : Tag := 8
def tagBodyLength : Tag := 9
def tagChecksum : Tag := 10
def tagMsgSeqNum : Tag := 34
def tagMsgType : Tag := 35
def tagSenderCompId : Tag := 49
def tagSendingTime : Tag := 52
def tagTargetCompId : Tag := 56
def tagEncryptMethod : Tag := 98
def tagHeartBtInt : Tag := 108
def tagDefaultApplVerId : Tag := 1137
def tagUsername : Tag := 553
def tagPassword : Tag := 554
def tagNewPassword : Tag := 925
def tagResetSeqNumFlag : Tag := 141
def tagNextExpectedSeqNum : Tag := 789
def tagTestReqId : Tag := 112
def tagBeginSeqNo : Tag := 7
def tagEndSeqNo : Tag := 16
def tagNewSeqNo : Tag := 36
def tagGapFillFlag : Tag := 123
def tagText : Tag := 58
def tagRefSeqNum : Tag := 45
def tagRefTag : Tag := 371
def tagRefMsgType : Tag := 372
def tagSessionRejectReason : Tag := 373
def tagLastMsgSeqNumProcessed : Tag := 369
def tagPossDupFlag : Tag := 43
def tagPossResend : Tag := 97
def tagOrigSendingTime : Tag := 122

/-! ## Message types -/

/-- `MAX_SUPPORTED_MESSAGE_TYPE_LENGTH`. -/
def maxSupportedMessageTypeLength : Nat := 4

def msgTypeLogon : UInt8 := 'A'.toUInt8
def msgTypeLogout : UInt8 := '5'.toUInt8
def msgTypeHeartbeat : UInt8 := '0'.toUInt8
def msgTypeTestRequest : UInt8 := '1'.toUInt8
def msgTypeResendRequest : UInt8 := '2'.toUInt8
def msgTypeSequenceReset : UInt8 := '4'.toUInt8
def msgTypeReject : UInt8 := '3'.toUInt8
def msgTypeExecutionReport : UInt8 := '8'.toUInt8
def msgTypeNewOrder : UInt8 := 'D'.toUInt8
def msgTypeOrderCancel : UInt8 := 'F'.toUInt8
def msgTypeOrderCancelReplace : UInt8 := 'G'.toUInt8
def msgTypeOrderCancelReject : UInt8 := '9'.toUInt8
def msgTypeBusinessReject : UInt8 := 'j'.toUInt8

end Llfix
