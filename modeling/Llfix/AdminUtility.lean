import Llfix.FixSession

/-!
# What both engines share around a send and in `process`

`send_bytes` and the `..._if_necessary` functions are written out in `fix_server.h` and again in
`fix_client.h`. The parts that look only at the session are the same and stand here: the
bookkeeping after a send, the tests for the timers, and the decision to replay.
-/

namespace Llfix

/-- How the `send` of a transport ends. `tryCountExhausted` returns `false` with the connection
still up; `connectionLost` has run the disconnect handler of the engine before it returns. -/
inductive SendResult
  | ok
  | tryCountExhausted
  | connectionLost
deriving DecidableEq, Repr

/-- What the environment answers to one send. -/
structure SendOutcome where
  result : SendResult := .ok
  /-- `VDSO::nanoseconds_monotonic()` after it. -/
  timestamp : UInt64 := 0
deriving DecidableEq, Repr

namespace FixSession

/-- The rest of `send_bytes` after the transport returned `ret`: the outgoing number, the
serialised record and the time of the last send. -/
def afterSend (s : FixSession) (incrementOutgoingSeqNo ret : Bool) (timestamp : UInt64) :
    FixSession :=
  let s :=
    if incrementOutgoingSeqNo && ret then
      { s with sequenceStore := s.sequenceStore.incrementOutgoingSeqNo }
    else s
  { s.writeOutgoingRecord s.sequenceStore.outgoingSeqNo with
    lastSentMessageTimestampNanoseconds := timestamp }

/-- A session that waits for a resend terminates after `outgoing_resend_request_expire_secs`. -/
def outgoingResendRequestExpired (s : FixSession) (currentTimestamp : UInt64) : Bool :=
  s.settings.outgoingResendRequestExpireInSecs * 1000000000 ≤
    currentTimestamp - s.outgoingResendRequestTimestampNanoseconds

def outgoingTestRequestDue (s : FixSession) (currentTimestamp : UInt64) : Bool :=
  s.settings.outgoingTestRequestIntervalInNanoseconds ≤
    currentTimestamp - s.lastReceivedMessageTimestampNanoseconds

/-- The peer left a test request unanswered for two heartbeat intervals. -/
def outgoingTestRequestExpired (s : FixSession) (currentTimestamp : UInt64) : Bool :=
  s.settings.heartbeatIntervalInNanoseconds * 2 ≤
    currentTimestamp - s.outgoingTestRequestTimestampNanoseconds

/-- A heartbeat is sent after nine tenths of the interval. -/
def heartbeatDue (s : FixSession) (currentTimestamp : UInt64) : Bool :=
  s.settings.heartbeatIntervalInNanoseconds * 9 / 10 ≤
    currentTimestamp - s.lastSentMessageTimestampNanoseconds

/-- The loop of `respond_to_resend_request_if_necessary` that looks for the messages from `i` to
`last`, for a number of steps. With `last` the largest number it goes on from 0 behind it. -/
def hasMessagesInMemory (s : FixSession) (last : UInt32) : Nat → UInt32 → Bool
  | 0, _ => true
  | steps + 1, i =>
    if i ≤ last then s.hasMessageInMemory i && s.hasMessagesInMemory last steps (i + 1) else true

/-- `will_replay` of `respond_to_resend_request_if_necessary`. A search that has come back to its
first number, after 2^32 steps, would go on for ever with all numbers in memory. -/
def willReplay (s : FixSession) : Bool :=
  let last := s.sequenceStore.outgoingSeqNo
  let begin := s.incomingResendRequestBeginNo
  s.serialisationEnabled && s.settings.replayMessagesOnIncomingResendRequest &&
    (s.incomingResendRequestEndNo = 0 || s.incomingResendRequestEndNo = last) && begin ≤ last &&
    !(begin < last && s.settings.maxResendRange < (last - begin + 1).toNat) &&
    s.hasMessagesInMemory last 4294967296 begin

/-- The numbers of the loop `for (i = begin; i <= last; i++)` that resends the messages. It is
reached only for a `last` below the largest number, since the search in front of it would not end. -/
def replayRange (begin last : UInt32) : List UInt32 :=
  if begin ≤ last then (List.range ((last - begin).toNat + 1)).map (fun n => begin + n.toUInt32)
  else []

/-- The end of `process_outgoing_resend_request_if_necessary` after the send. -/
def resendRequestSent (s : FixSession) (currentTimestamp : UInt64) : FixSession :=
  { { s with outgoingResendRequestTimestampNanoseconds := currentTimestamp }.setState
      .inRetransmissionInitiatedBySelf with
    needsToSendResendRequest := false }

/-- The end of `process_outgoing_test_request_if_necessary` after the send. -/
def testRequestSent (s : FixSession) (currentTimestamp : UInt64) : FixSession :=
  { s with
    outgoingTestRequestTimestampNanoseconds := currentTimestamp
    expectingResponseForOutgoingTestRequest := true }

/-- The end of `respond_to_resend_request_if_necessary`. -/
def resendRequestAnswered (s : FixSession) : FixSession :=
  { s with needsRespondingToIncomingResendRequest := false }.setState .loggedOn

/-- The end of `respond_to_test_request_if_necessary`; a saved id has been cleared. -/
def testRequestAnswered (s : FixSession) : FixSession :=
  { s with incomingTestRequestId := [], needsRespondingToIncomingTestRequest := false }

/-- The test request id to answer with, none when it is empty. -/
def savedTestRequestId (s : FixSession) : Option Bytes :=
  if 0 < s.incomingTestRequestId.length then some s.incomingTestRequestId else none

/-- The first lines of `process_incoming_fix_message`: any message satisfies an outgoing test
request. -/
def messageReceived (s : FixSession) (nowNanoseconds : UInt64) : FixSession :=
  (s.setLastReceivedMessageTimestampNanoseconds
    nowNanoseconds).setExpectingResponseForOutgoingTestRequest false

/-- `reinitialise_outgoing_serialiser`: the records are read back from disc. -/
def reinitialiseOutgoingSerialiser (s : FixSession) (recordsOnDisc : List UInt32) : FixSession :=
  if s.settings.replayMessagesOnIncomingResendRequest then
    { s with outgoingMessageRecords := recordsOnDisc }
  else s

/-- `try_pop` on the queue of admin commands. -/
def tryPopAdminCommand (s : FixSession) : Option (ModifyingAdminCommand × FixSession) :=
  match s.adminCommands with
  | [] => none
  | command :: rest => some (command, { s with adminCommands := rest })

end FixSession

/-- The clock readings and answers one turn of `process` meets, in the order of its steps. -/
structure ProcessEnv where
  /-- The send of an admin command: a logout or a sequence reset. -/
  adminSend : SendOutcome := {}
  /-- The records a promotion finds on disc. -/
  recordsOnDisc : List UInt32 := []
  resendRequestTimestamp : UInt64 := 0
  resendRequestSend : SendOutcome := {}
  testRequestTimestamp : UInt64 := 0
  testRequestSend : SendOutcome := {}
  gapFillSend : SendOutcome := {}
  /-- The answer to the replay of each number. -/
  replaySend : UInt32 → SendOutcome := fun _ => {}
  testResponseSend : SendOutcome := {}
  heartbeatTimestamp : UInt64 := 0
  heartbeatSend : SendOutcome := {}
  /-- `is_now_valid_session_datetime`. -/
  scheduleValid : Bool := true
  scheduleSend : SendOutcome := {}

end Llfix
