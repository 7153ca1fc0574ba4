import Mathlib.Data.List.GetD
import Llfix.Converters
import Llfix.Lib.MappedFile

/-!
# The serialiser of messages

`MessageSerialiser` of `message_serialiser.h`: messages are appended to memory-mapped files
`1.bin`, `2.bin` and so on, each headed by its number of messages, and an index in memory says
where the message of each sequence number stands. `initialise` builds the index again from the
files. Opening a file succeeds here.
-/

namespace Llfix

open MappedFile

/-! ## Sequence numbers in messages -/

/-- The loop of `StringUtilities::split`. A last token without a separator counts, unless it is
empty. -/
def splitOnto (separator : UInt8) : Bytes → Bytes → List Bytes
  | [], token => if token.isEmpty then [] else [token]
  | c :: cs, token =>
    if c = separator then token :: splitOnto separator cs [] else
      splitOnto separator cs (token ++ [c])

theorem splitOnto_separator {separator : UInt8} {front : Bytes} (h : separator ∉ front)
    (rest token : Bytes) :
    splitOnto separator (front ++ separator :: rest) token =
      (token ++ front) :: splitOnto separator rest [] := by
  induction front generalizing token with
  | nil =>
    rw [List.nil_append, splitOnto, if_pos rfl, List.append_nil]
  | cons c front ih =>
    obtain ⟨hc, hfront⟩ := not_or.mp fun hmem => h (List.mem_cons.mpr hmem)
    rw [List.cons_append, splitOnto, if_neg (Ne.symm hc), ih hfront, List.append_assoc]
    rfl

/-- Lines that each end with the separator are the tokens. -/
theorem splitOnto_lines {separator : UInt8} {lines : List Bytes}
    (h : ∀ line ∈ lines, separator ∉ line) :
    splitOnto separator (lines.flatMap (· ++ [separator])) [] = lines := by
  induction lines with
  | nil => rfl
  | cons line lines ih =>
    rw [List.flatMap_cons, List.append_assoc, List.singleton_append,
      splitOnto_separator (h line List.mem_cons_self), List.nil_append,
      ih fun line' hmem => h line' (List.mem_cons_of_mem _ hmem)]

/-- `StringUtilities::split`, which takes its input for a C string. -/
def split (input : Bytes) (separator : UInt8) : List Bytes :=
  splitOnto separator (input.takeWhile (· ≠ 0)) []

/-- `get_sequence_number_value_from_fix_message`. -/
def getSequenceNumberValueFromFixMessage (buffer : Bytes) : UInt32 :=
  match (split buffer fixDelimiter).find? fun pair =>
      3 < pair.length && pair.take 3 = text "34=" with
  | some pair => charsToUnsignedInt (pair.drop 3)
  | none => 0

/-! ## The serialiser -/

structure MessageMemoryRecord where
  offset : Nat
  length : Nat
  serialisedFileNumber : Nat
deriving DecidableEq, Repr

/-- A serialiser that has been initialised. The files before the current one are closed. -/
structure MessageSerialiser where
  keepMessageRecordsInMemory : Bool
  serialisedFileMaxSize : UInt64
  closedFiles : List Buffer := []
  currentMemoryMappingBuffer : Buffer := zeros
  currentMemoryMappingWrittenBytes : Nat := 8
  currentMemoryMappingNoOfMessages : Nat := 0
  messageMemoryRecords : List (UInt32 × MessageMemoryRecord) := []

namespace MessageSerialiser

/-- `m_serialisation_overhead_bytes`: the timestamp, the success flag and the length. -/
def serialisationOverheadBytes : Nat := 17

def currentSerialisedFileNumber (s : MessageSerialiser) : Nat := s.closedFiles.length + 1

/-- `insert` of an `unordered_map`, which keeps the first record of a number. -/
def insertRecord (records : List (UInt32 × MessageMemoryRecord)) (sequenceNo : UInt32)
    (record : MessageMemoryRecord) : List (UInt32 × MessageMemoryRecord) :=
  if (records.lookup sequenceNo).isSome then records else (sequenceNo, record) :: records

/-- `switch_to_next_memory_mapped_file`. -/
def switchToNextMemoryMappedFile (s : MessageSerialiser) : MessageSerialiser :=
  { s with
    closedFiles := s.closedFiles ++ [s.currentMemoryMappingBuffer]
    currentMemoryMappingBuffer := zeros
    currentMemoryMappingWrittenBytes := 8
    currentMemoryMappingNoOfMessages := 0 }

/-- The rest of the current file is too small for a message. The position is at most the maximum
size while that stays the same. -/
def exceedsFile (s : MessageSerialiser) (message : Bytes) : Bool :=
  s.serialisedFileMaxSize.toNat - s.currentMemoryMappingWrittenBytes <
    message.length + serialisationOverheadBytes

/-- The part of `write` behind the choice of the file. -/
def appendMessage (s : MessageSerialiser) (message : Bytes) (successfulTransmission : Bool)
    (sequenceNo : UInt32) (epoch : Nat) : MessageSerialiser :=
  let written := s.currentMemoryMappingWrittenBytes
  let buffer := writeAt s.currentMemoryMappingBuffer written (toLittleEndian 8 epoch)
  let buffer := writeAt buffer (written + 8) [if successfulTransmission then 1 else 0]
  let buffer := writeAt buffer (written + 9) (toLittleEndian 8 message.length)
  let records :=
    if s.keepMessageRecordsInMemory then
      insertRecord s.messageMemoryRecords sequenceNo
        { offset := written + 17, length := message.length,
          serialisedFileNumber := s.currentSerialisedFileNumber }
    else s.messageMemoryRecords
  let buffer := writeAt buffer (written + 17) message
  let buffer := writeAt buffer 0 (toLittleEndian 8 (s.currentMemoryMappingNoOfMessages + 1))
  { s with
    currentMemoryMappingBuffer := buffer
    currentMemoryMappingWrittenBytes := written + 17 + message.length
    currentMemoryMappingNoOfMessages := s.currentMemoryMappingNoOfMessages + 1
    messageMemoryRecords := records }

/-- `write`. A message that does not even fit into a new file is not written. -/
def write (s : MessageSerialiser) (message : Bytes) (successfulTransmission : Bool)
    (sequenceNo : UInt32) (epoch : Nat) : MessageSerialiser :=
  if s.exceedsFile message then
    let s := s.switchToNextMemoryMappedFile
    if s.exceedsFile message then s
    else s.appendMessage message successfulTransmission sequenceNo epoch
  else s.appendMessage message successfulTransmission sequenceNo epoch

/-- `has_message_in_memory`. -/
def hasMessageInMemory (s : MessageSerialiser) (sequenceNo : UInt32) : Bool :=
  s.keepMessageRecordsInMemory && (s.messageMemoryRecords.lookup sequenceNo).isSome

/-- The file that a record names. -/
def recordedFile (s : MessageSerialiser) (record : MessageMemoryRecord) : Buffer :=
  if s.currentSerialisedFileNumber ≠ record.serialisedFileNumber then
    s.closedFiles.getD (record.serialisedFileNumber - 1) zeros
  else s.currentMemoryMappingBuffer

/-- `read_message` into a buffer of the given size. -/
def readMessage (s : MessageSerialiser) (sequenceNo : UInt32) (bufferSize : Nat) : Option Bytes :=
  if s.keepMessageRecordsInMemory then
    match s.messageMemoryRecords.lookup sequenceNo with
    | none => none
    | some record =>
      if bufferSize < record.length then none
      else some (readAt (s.recordedFile record) record.offset record.length)
  else none

/-- What `deserialise` hands to its callback. -/
structure SerialisedMessage where
  timestamp : Nat
  success : Bool
  message : Bytes
  messageOffset : Nat
deriving DecidableEq, Repr

/-- The loop of `deserialise` over the messages that are left: the messages, the bytes read, and
whether all were found. -/
def deserialiseFrom (buffer : Buffer) (bufferSize : Nat) :
    Nat → Nat → List SerialisedMessage × Nat × Bool
  | 0, offset => ([], offset, true)
  | remaining + 1, offset =>
    if bufferSize ≤ offset + 8 then ([], offset + 8, false)
    else if bufferSize ≤ offset + 9 then ([], offset + 9, false)
    else
      let length := ofLittleEndian (readAt buffer (offset + 9) 8)
      let m : SerialisedMessage :=
        { timestamp := ofLittleEndian (readAt buffer offset 8)
          success := buffer (offset + 8) = 1
          message := readAt buffer (offset + 17) length
          messageOffset := offset + 17 }
      if remaining = 0 then ([m], offset + 17 + length, true)
      else if bufferSize ≤ offset + 17 + length then ([m], offset + 17 + length, false)
      else
        let (rest, readBytes, found) :=
          deserialiseFrom buffer bufferSize remaining (offset + 17 + length)
        (m :: rest, readBytes, found)

/-- `deserialise`. -/
def deserialise (buffer : Buffer) (bufferSize : Nat) : List SerialisedMessage × Nat × Bool :=
  deserialiseFrom buffer bufferSize (ofLittleEndian (readAt buffer 0 8)) 8

/-- The handler of `process_existing_buffer`. A message without a number, or with the number
zero, gets no record. -/
def insertSerialised (serialisedFileNumber : Nat)
    (records : List (UInt32 × MessageMemoryRecord)) (m : SerialisedMessage) :
    List (UInt32 × MessageMemoryRecord) :=
  let sequenceNo := getSequenceNumberValueFromFixMessage m.message
  if 0 < sequenceNo then
    insertRecord records sequenceNo
      { offset := m.messageOffset, length := m.message.length, serialisedFileNumber }
  else records

/-- `process_existing_buffer` with records kept in memory; `none` when it fails. -/
def processExistingBuffer (bufferSize : Nat) (records : List (UInt32 × MessageMemoryRecord))
    (file : Buffer × Nat) : Option (List (UInt32 × MessageMemoryRecord)) :=
  let (messages, _, found) := deserialise file.1 bufferSize
  if found then some (messages.foldl (insertSerialised file.2) records) else none

/-- The records of all files, in their order. -/
def processExistingBuffers (bufferSize : Nat) (records : List (UInt32 × MessageMemoryRecord)) :
    List (Buffer × Nat) → Option (List (UInt32 × MessageMemoryRecord))
  | [] => some records
  | file :: files =>
    match processExistingBuffer bufferSize records file with
    | none => none
    | some records => processExistingBuffers bufferSize records files

/-- `initialise` on the files of the folder; `none` when it returns `false`. The files before the
last one are read only for their records. A serialiser that is initialised once more keeps the
records it has. -/
def initialise (serialisedFileMaxSize : UInt64) (keepMessageRecordsInMemory : Bool)
    (messageRecordsInitialSize : Nat) (files : List Buffer)
    (messageMemoryRecords : List (UInt32 × MessageMemoryRecord) := []) :
    Option MessageSerialiser :=
  let size := serialisedFileMaxSize.toNat
  if keepMessageRecordsInMemory && messageRecordsInitialSize = 0 then none
  else if size < 4096 || size % 4096 ≠ 0 then none
  else
    let current := files.getLastD zeros
    let toRead := if keepMessageRecordsInMemory then (files.zipIdx 1) else []
    match processExistingBuffers size messageMemoryRecords toRead with
    | none => none
    | some records =>
      let (_, readBytes, found) := deserialise current size
      if found then
        some
          { keepMessageRecordsInMemory
            serialisedFileMaxSize
            closedFiles := files.dropLast
            currentMemoryMappingBuffer := current
            currentMemoryMappingWrittenBytes := readBytes
            currentMemoryMappingNoOfMessages := ofLittleEndian (readAt current 0 8)
            messageMemoryRecords := records }
      else none

/-- All files, first file first. -/
def files (s : MessageSerialiser) : List Buffer :=
  s.closedFiles ++ [s.currentMemoryMappingBuffer]

end MessageSerialiser

end Llfix
