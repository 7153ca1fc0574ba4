import Llfix.MessageSerialiser

/-!
# Files of serialised messages

What the files of a serialiser hold, and what its index has for each number.

Results:
1. `deserialise_of_holds`: a file that holds messages is read back as these messages.
2. `write_messagesOnDisc`, `write_lookupMessage`: what a write adds to the files and to the index.
3. `initialise_files`: a serialiser initialised from the files finds each number in the first
   message that carries it.
-/

namespace Llfix

open MappedFile

namespace MessageSerialiser

/-! ## Files that hold messages -/

/-- A message and the success flag it was written with. -/
structure WrittenMessage where
  message : Bytes
  success : Bool
deriving DecidableEq, Repr

def SerialisedMessage.written (e : SerialisedMessage) : WrittenMessage := ⟨e.message, e.success⟩

/-- From `offset` to `last` the buffer holds the messages, each behind its head. -/
inductive Holds (buffer : Buffer) : Nat → List WrittenMessage → Nat → Prop
  | nil (offset : Nat) : Holds buffer offset [] offset
  | cons {offset last : Nat} {m : WrittenMessage} {ms : List WrittenMessage} :
      (buffer (offset + 8) = 1 ↔ m.success = true) →
      ofLittleEndian (readAt buffer (offset + 9) 8) = m.message.length →
      readAt buffer (offset + 17) m.message.length = m.message →
      Holds buffer (offset + 17 + m.message.length) ms last →
      Holds buffer offset (m :: ms) last

namespace Holds

variable {buffer buffer' : Buffer} {offset last last' : Nat} {ms ms' : List WrittenMessage}

theorem le (h : Holds buffer offset ms last) : offset + 17 * ms.length ≤ last := by
  induction h with
  | nil offset => simp
  | cons _ _ _ _ ih =>
    rw [List.length_cons]
    omega

theorem append (h : Holds buffer offset ms last) (h' : Holds buffer last ms' last') :
    Holds buffer offset (ms ++ ms') last' := by
  induction h with
  | nil offset => exact h'
  | cons hsuccess hlength hmessage _ ih => exact .cons hsuccess hlength hmessage (ih h')

/-- The first messages end before the last one. -/
theorem take (h : Holds buffer offset ms last) (n : Nat) :
    ∃ last', last' ≤ last ∧ Holds buffer offset (ms.take n) last' := by
  induction h generalizing n with
  | nil offset => exact ⟨offset, Nat.le_refl _, by rw [List.take_nil]; exact .nil offset⟩
  | @cons offset last m ms hsuccess hlength hmessage hrest ih =>
    cases n with
    | zero =>
      have hle := hrest.le
      exact ⟨offset, by omega, .nil offset⟩
    | succ n =>
      obtain ⟨last', hle, htake⟩ := ih n
      exact ⟨last', hle, .cons hsuccess hlength hmessage htake⟩

/-- Only the bytes between the two offsets matter. -/
theorem congr (h : Holds buffer offset ms last)
    (hsame : ∀ offset' length, offset ≤ offset' → offset' + length ≤ last →
      readAt buffer' offset' length = readAt buffer offset' length) :
    Holds buffer' offset ms last := by
  induction h with
  | nil offset => exact .nil offset
  | @cons offset last m ms hsuccess hlength hmessage hrest ih =>
    have hle := hrest.le
    refine .cons ?_ ?_ ?_ (ih fun offset' length hfrom hto => hsame offset' length (by omega) hto)
    · have hflag := hsame (offset + 8) 1 (by omega) (by omega)
      rw [readAt_one, readAt_one] at hflag
      rw [List.singleton_inj.mp hflag, hsuccess]
    · rw [hsame (offset + 9) 8 (by omega) (by omega), hlength]
    · rw [hsame (offset + 17) m.message.length (by omega) (by omega), hmessage]

end Holds

/-- A file of the given size holds the messages, up to the byte `written`. -/
structure FileHolds (size : Nat) (buffer : Buffer) (ms : List WrittenMessage)
    (written : Nat) : Prop where
  count : ofLittleEndian (readAt buffer 0 8) = ms.length
  body : Holds buffer 8 ms written
  fits : written ≤ size

/-- What `deserialise` reports of a file. -/
def recordsOf (size : Nat) (buffer : Buffer) : List WrittenMessage :=
  (deserialise buffer size).1.map (·.written)

/-- The messages of a file. -/
def messagesOf (size : Nat) (buffer : Buffer) : List Bytes :=
  (deserialise buffer size).1.map (·.message)

theorem messagesOf_eq (size : Nat) (buffer : Buffer) :
    messagesOf size buffer = (recordsOf size buffer).map (·.message) := by
  rw [messagesOf, recordsOf, List.map_map]
  rfl

/-- Between `offset` and `last` the buffer has the message of the entry. -/
def EntryBetween (buffer : Buffer) (offset last : Nat) (e : SerialisedMessage) : Prop :=
  offset ≤ e.messageOffset ∧ e.messageOffset + e.message.length ≤ last ∧
    readAt buffer e.messageOffset e.message.length = e.message

theorem deserialiseFrom_of_holds {size : Nat} {buffer : Buffer} {offset last : Nat}
    {ms : List WrittenMessage} (h : Holds buffer offset ms last) (hlast : last ≤ size) :
    ∃ entries, deserialiseFrom buffer size ms.length offset = (entries, last, true) ∧
      entries.map (·.written) = ms ∧ ∀ e ∈ entries, EntryBetween buffer offset last e := by
  induction h with
  | nil offset => exact ⟨[], rfl, rfl, fun e he => absurd he List.not_mem_nil⟩
  | @cons offset last m ms hsuccess hlength hmessage hrest ih =>
    have hle := hrest.le
    obtain ⟨entries, hentries, hmap, hbetween⟩ := ih hlast
    have hwritten : ∀ timestamp, SerialisedMessage.written
        { timestamp, success := buffer (offset + 8) = 1, message := m.message,
          messageOffset := offset + 17 } = m := by
      intro timestamp
      show (⟨m.message, decide (buffer (offset + 8) = 1)⟩ : WrittenMessage) = m
      have hflag : decide (buffer (offset + 8) = 1) = m.success := by
        rw [Bool.eq_iff_iff, decide_eq_true_eq, hsuccess]
      rw [hflag]
    simp only [List.length_cons, deserialiseFrom, hlength, hmessage]
    rw [if_neg (by omega), if_neg (by omega)]
    cases ms with
    | nil =>
      cases hrest
      refine ⟨_, if_pos rfl, by rw [List.map_singleton, hwritten], fun e he => ?_⟩
      obtain rfl := List.mem_singleton.mp he
      exact ⟨Nat.le_add_right _ _, Nat.le_refl _, hmessage⟩
    | cons m' ms =>
      rw [List.length_cons] at hle hentries ⊢
      rw [if_neg (Nat.succ_ne_zero _), if_neg (by omega), hentries]
      refine ⟨_, rfl, by rw [List.map_cons, hmap, hwritten], fun e he => ?_⟩
      rcases List.mem_cons.mp he with rfl | he
      · exact ⟨Nat.le_add_right _ _, by dsimp only; omega, hmessage⟩
      · obtain ⟨hfrom, hto, hread⟩ := hbetween e he
        exact ⟨by omega, hto, hread⟩

theorem deserialise_of_holds {size : Nat} {buffer : Buffer} {ms : List WrittenMessage}
    {written : Nat} (h : FileHolds size buffer ms written) :
    ∃ entries, deserialise buffer size = (entries, written, true) ∧
      entries.map (·.written) = ms ∧ ∀ e ∈ entries, EntryBetween buffer 8 written e := by
  rw [deserialise, h.count]
  exact deserialiseFrom_of_holds h.body h.fits

theorem recordsOf_of_holds {size : Nat} {buffer : Buffer} {ms : List WrittenMessage}
    {written : Nat} (h : FileHolds size buffer ms written) : recordsOf size buffer = ms := by
  obtain ⟨entries, hentries, hmap, -⟩ := deserialise_of_holds h
  rw [recordsOf, hentries, hmap]

/-- A new file holds nothing. -/
theorem zeros_holds {size : Nat} (hsize : 8 ≤ size) : FileHolds size zeros [] 8 :=
  ⟨rfl, .nil 8, hsize⟩

/-! ## Well-formed serialisers -/

/-- The record is of a closed file, or of the part of the current file that is written. -/
def Recorded (noOfClosedFiles written : Nat) (record : MessageMemoryRecord) : Prop :=
  1 ≤ record.serialisedFileNumber ∧
    (record.serialisedFileNumber ≤ noOfClosedFiles ∨
      record.serialisedFileNumber = noOfClosedFiles + 1 ∧ 8 ≤ record.offset ∧
        record.offset + record.length ≤ written)

/-- What `initialise` establishes and `write` keeps: every file holds messages, and every record
points into what has been written. -/
structure WellFormed (s : MessageSerialiser) : Prop where
  size : 8 ≤ s.serialisedFileMaxSize.toNat
  closed : ∀ buffer ∈ s.closedFiles,
    ∃ ms written, FileHolds s.serialisedFileMaxSize.toNat buffer ms written
  current : ∃ ms, FileHolds s.serialisedFileMaxSize.toNat s.currentMemoryMappingBuffer ms
      s.currentMemoryMappingWrittenBytes ∧
    s.currentMemoryMappingNoOfMessages = ms.length
  records : ∀ e ∈ s.messageMemoryRecords,
    Recorded s.closedFiles.length s.currentMemoryMappingWrittenBytes e.2

/-- The message that the index has for a number. -/
def lookupMessage (s : MessageSerialiser) (sequenceNo : UInt32) : Option Bytes :=
  (s.messageMemoryRecords.lookup sequenceNo).map fun record =>
    readAt (s.recordedFile record) record.offset record.length

/-- What `deserialise` reports of all files, first file first. -/
def recordsOnDisc (s : MessageSerialiser) : List WrittenMessage :=
  s.files.flatMap (recordsOf s.serialisedFileMaxSize.toNat)

/-- The messages of all files, in the order in which they were written. -/
def messagesOnDisc (s : MessageSerialiser) : List Bytes :=
  s.files.flatMap (messagesOf s.serialisedFileMaxSize.toNat)

/-- A message fits into a new file. -/
def fitsFile (s : MessageSerialiser) (message : Bytes) : Bool :=
  8 + message.length + serialisationOverheadBytes ≤ s.serialisedFileMaxSize.toNat

theorem messagesOnDisc_eq (s : MessageSerialiser) :
    s.messagesOnDisc = s.recordsOnDisc.map (·.message) := by
  rw [messagesOnDisc, recordsOnDisc, List.map_flatMap]
  exact List.flatMap_congr fun buffer _ => messagesOf_eq _ buffer

theorem hasMessageInMemory_eq (s : MessageSerialiser) (sequenceNo : UInt32) :
    s.hasMessageInMemory sequenceNo =
      (s.keepMessageRecordsInMemory && (s.lookupMessage sequenceNo).isSome) := by
  rw [hasMessageInMemory, lookupMessage, Option.isSome_map]

theorem readMessage_eq {s : MessageSerialiser} (hkeep : s.keepMessageRecordsInMemory = true)
    (sequenceNo : UInt32) (bufferSize : Nat) :
    s.readMessage sequenceNo bufferSize =
      (s.lookupMessage sequenceNo).filter (·.length ≤ bufferSize) := by
  rw [readMessage, if_pos hkeep, lookupMessage]
  cases s.messageMemoryRecords.lookup sequenceNo with
  | none => rfl
  | some record =>
    dsimp only [Option.map_some]
    rw [Option.filter_some, length_readAt]
    by_cases h : bufferSize < record.length
    · rw [if_pos h, if_neg (by simpa using h)]
    · rw [if_neg h, if_pos (by simpa using h)]

/-- Two serialisers read the same bytes for a number exactly when their indexes have the same
message. -/
theorem readMessage_ext {s s' : MessageSerialiser} (hkeep : s.keepMessageRecordsInMemory = true)
    (hkeep' : s'.keepMessageRecordsInMemory = true) (n : UInt32) :
    (∀ bufferSize, s.readMessage n bufferSize = s'.readMessage n bufferSize) ↔
      s.lookupMessage n = s'.lookupMessage n := by
  simp only [readMessage_eq hkeep, readMessage_eq hkeep']
  constructor
  · intro hread
    cases h : s.lookupMessage n with
    | some m =>
      have hm := hread m.length
      rw [h, Option.filter_some, if_pos (decide_eq_true (Nat.le_refl _))] at hm
      exact (Option.filter_eq_some_iff.mp hm.symm).1.symm
    | none =>
      cases h' : s'.lookupMessage n with
      | none => rfl
      | some m =>
        have hm := hread m.length
        rw [h, h', Option.filter_some, if_pos (decide_eq_true (Nat.le_refl _))] at hm
        cases hm
  · intro heq bufferSize
    rw [heq]

/-- The records of a map after an insertion. -/
theorem lookup_insertRecord (records : List (UInt32 × MessageMemoryRecord)) (n k : UInt32)
    (record : MessageMemoryRecord) :
    (insertRecord records k record).lookup n =
      if n = k then (records.lookup n).or (some record) else records.lookup n := by
  unfold insertRecord
  by_cases hn : n = k
  · subst hn
    cases h : records.lookup n with
    | none => simp
    | some r => simp [h]
  · have hne : (n == k) = false := beq_eq_false_iff_ne.mpr hn
    rw [if_neg hn]
    split
    · rfl
    · rw [List.lookup_cons, hne]

theorem insertRecord_subset {records : List (UInt32 × MessageMemoryRecord)} {k : UInt32}
    {record : MessageMemoryRecord} {e : UInt32 × MessageMemoryRecord}
    (h : e ∈ insertRecord records k record) : e ∈ records ∨ e = (k, record) := by
  unfold insertRecord at h
  split at h
  · exact .inl h
  · exact (List.mem_cons.mp h).symm

theorem mem_of_lookup {records : List (UInt32 × MessageMemoryRecord)} {n : UInt32}
    {record : MessageMemoryRecord} (h : records.lookup n = some record) : (n, record) ∈ records := by
  induction records with
  | nil => cases h
  | cons e records ih =>
    obtain ⟨k, r⟩ := e
    rw [List.lookup_cons] at h
    by_cases hn : n = k
    · subst hn
      simp only [beq_self_eq_true] at h
      obtain rfl := Option.some.inj h
      exact List.mem_cons_self
    · have hne : (n == k) = false := beq_eq_false_iff_ne.mpr hn
      rw [hne] at h
      exact List.mem_cons_of_mem _ (ih h)

/-! ### Switching files -/

section Switch

variable {s : MessageSerialiser}

theorem WellFormed.switch (h : s.WellFormed) : s.switchToNextMemoryMappedFile.WellFormed where
  size := h.size
  closed buffer hmem := by
    rcases List.mem_append.mp hmem with hmem | hmem
    · exact h.closed buffer hmem
    · obtain rfl := List.mem_singleton.mp hmem
      obtain ⟨ms, hholds, -⟩ := h.current
      exact ⟨ms, _, hholds⟩
  current := ⟨[], zeros_holds h.size, rfl⟩
  records e hmem := by
    obtain ⟨hpos, hrecord⟩ := h.records e hmem
    refine ⟨hpos, .inl ?_⟩
    show _ ≤ (s.closedFiles ++ [_]).length
    rw [List.length_append, List.length_singleton]
    rcases hrecord with hclosed | ⟨hcurrent, -, -⟩
    · omega
    · omega

/-- A record keeps its file. -/
theorem recordedFile_switch {record : MessageMemoryRecord}
    (hpos : 1 ≤ record.serialisedFileNumber)
    (hle : record.serialisedFileNumber ≤ s.closedFiles.length + 1) :
    s.switchToNextMemoryMappedFile.recordedFile record = s.recordedFile record := by
  have hnumber : s.switchToNextMemoryMappedFile.currentSerialisedFileNumber =
      s.closedFiles.length + 2 := by
    simp [currentSerialisedFileNumber, switchToNextMemoryMappedFile]
  rw [recordedFile, recordedFile, hnumber, if_pos (by omega)]
  show (s.closedFiles ++ [s.currentMemoryMappingBuffer]).getD _ _ = _
  by_cases hcurrent : s.currentSerialisedFileNumber = record.serialisedFileNumber
  · rw [if_neg (not_not.mpr hcurrent), ← hcurrent, currentSerialisedFileNumber]
    simp
  · rw [if_pos hcurrent]
    rw [currentSerialisedFileNumber] at hcurrent
    have hlt : record.serialisedFileNumber - 1 < s.closedFiles.length := by omega
    rw [List.getD_append _ _ _ _ hlt]

theorem lookupMessage_switch (h : s.WellFormed) (n : UInt32) :
    s.switchToNextMemoryMappedFile.lookupMessage n = s.lookupMessage n := by
  show (s.messageMemoryRecords.lookup n).map _ = (s.messageMemoryRecords.lookup n).map _
  cases hlookup : s.messageMemoryRecords.lookup n with
  | none => rfl
  | some record =>
    obtain ⟨hpos, hrecord⟩ := h.records _ (mem_of_lookup hlookup)
    dsimp only at hpos hrecord
    have hle : record.serialisedFileNumber ≤ s.closedFiles.length + 1 := by
      rcases hrecord with hclosed | ⟨hcurrent, -, -⟩
      · omega
      · omega
    rw [Option.map_some, Option.map_some, recordedFile_switch hpos hle]

theorem recordsOnDisc_switch (h : s.WellFormed) :
    s.switchToNextMemoryMappedFile.recordsOnDisc = s.recordsOnDisc := by
  have hnew : recordsOf s.serialisedFileMaxSize.toNat zeros = [] :=
    recordsOf_of_holds (zeros_holds h.size)
  show ((s.closedFiles ++ [_]) ++ [zeros]).flatMap (recordsOf s.serialisedFileMaxSize.toNat) = _
  rw [List.flatMap_append, List.flatMap_singleton, hnew, List.append_nil]
  rfl

end Switch

/-! ### Appending to the current file -/

section Append

variable {s : MessageSerialiser} (m : Bytes) (ok : Bool) (k : UInt32) (epoch : Nat)

/-- What was written before stays. -/
theorem appendMessage_readAt {offset length : Nat} (hfrom : 8 ≤ offset)
    (hto : offset + length ≤ s.currentMemoryMappingWrittenBytes) :
    readAt (s.appendMessage m ok k epoch).currentMemoryMappingBuffer offset length =
      readAt s.currentMemoryMappingBuffer offset length := by
  simp only [appendMessage]
  rw [readAt_writeAt_disjoint _ (by rw [length_toLittleEndian]; omega),
    readAt_writeAt_disjoint _ (by omega), readAt_writeAt_disjoint _ (by omega),
    readAt_writeAt_disjoint _ (by omega), readAt_writeAt_disjoint _ (by omega)]

theorem appendMessage_message (hwritten : 8 ≤ s.currentMemoryMappingWrittenBytes) :
    readAt (s.appendMessage m ok k epoch).currentMemoryMappingBuffer
      (s.currentMemoryMappingWrittenBytes + 17) m.length = m := by
  simp only [appendMessage]
  rw [readAt_writeAt_disjoint _ (by rw [length_toLittleEndian]; omega), readAt_writeAt_self]

theorem appendMessage_success (hwritten : 8 ≤ s.currentMemoryMappingWrittenBytes) :
    (s.appendMessage m ok k epoch).currentMemoryMappingBuffer
      (s.currentMemoryMappingWrittenBytes + 8) = if ok then 1 else 0 := by
  have hread : readAt (s.appendMessage m ok k epoch).currentMemoryMappingBuffer
      (s.currentMemoryMappingWrittenBytes + 8) 1 = [if ok then 1 else 0] := by
    simp only [appendMessage]
    rw [readAt_writeAt_disjoint _ (by rw [length_toLittleEndian]; omega),
      readAt_writeAt_disjoint _ (by omega), readAt_writeAt_disjoint _ (by omega)]
    exact readAt_writeAt_self _ _ [if ok then 1 else 0]
  rw [readAt_one] at hread
  exact List.singleton_inj.mp hread

/-- An append to a file that has the room for it, whatever the maximum size. -/
theorem appendMessage_holds_of_room {size : Nat} {ms : List WrittenMessage}
    (h : FileHolds size s.currentMemoryMappingBuffer ms s.currentMemoryMappingWrittenBytes)
    (hcount : s.currentMemoryMappingNoOfMessages = ms.length) (hsize : size < 2 ^ 64)
    (hroom : s.currentMemoryMappingWrittenBytes + 17 + m.length ≤ size) :
    FileHolds size (s.appendMessage m ok k epoch).currentMemoryMappingBuffer (ms ++ [⟨m, ok⟩])
      (s.appendMessage m ok k epoch).currentMemoryMappingWrittenBytes := by
  have hle := h.body.le
  refine ⟨?_, ?_, hroom⟩
  · simp only [appendMessage]
    rw [ofLittleEndian_readAt_writeAt _ _ (by norm_num; omega), hcount]
    simp
  · refine Holds.append (h.body.congr fun offset' length hfrom hto =>
      appendMessage_readAt m ok k epoch hfrom hto) (.cons ?_ ?_ ?_ (.nil _))
    · rw [appendMessage_success m ok k epoch (by omega)]
      cases ok with
      | true => exact iff_of_true rfl rfl
      | false => exact iff_of_false (by decide) Bool.false_ne_true
    · simp only [appendMessage]
      rw [readAt_writeAt_disjoint _ (by rw [length_toLittleEndian]; omega),
        readAt_writeAt_disjoint _ (by omega),
        ofLittleEndian_readAt_writeAt _ _ (by norm_num; omega)]
    · exact appendMessage_message m ok k epoch (by omega)

theorem appendMessage_holds {ms : List WrittenMessage}
    (h : FileHolds s.serialisedFileMaxSize.toNat s.currentMemoryMappingBuffer ms
      s.currentMemoryMappingWrittenBytes)
    (hcount : s.currentMemoryMappingNoOfMessages = ms.length)
    (hfits : s.exceedsFile m = false) :
    FileHolds s.serialisedFileMaxSize.toNat
      (s.appendMessage m ok k epoch).currentMemoryMappingBuffer (ms ++ [⟨m, ok⟩])
      (s.appendMessage m ok k epoch).currentMemoryMappingWrittenBytes := by
  have hroom := of_decide_eq_false hfits
  rw [serialisationOverheadBytes] at hroom
  have hfit := h.fits
  exact appendMessage_holds_of_room m ok k epoch h hcount s.serialisedFileMaxSize.toNat_lt
    (by omega)

theorem WellFormed.appendMessage (h : s.WellFormed) (hfits : s.exceedsFile m = false) :
    (s.appendMessage m ok k epoch).WellFormed where
  size := h.size
  closed := h.closed
  current := by
    obtain ⟨ms, hholds, hcount⟩ := h.current
    refine ⟨ms ++ [WrittenMessage.mk m ok], appendMessage_holds m ok k epoch hholds hcount hfits, ?_⟩
    simp [MessageSerialiser.appendMessage, hcount]
  records e hmem := by
    obtain ⟨ms, hholds, -⟩ := h.current
    have hle := hholds.body.le
    have hrecords : e ∈ s.messageMemoryRecords ∨ e.2 =
        { offset := s.currentMemoryMappingWrittenBytes + 17, length := m.length,
          serialisedFileNumber := s.currentSerialisedFileNumber } := by
      simp only [MessageSerialiser.appendMessage] at hmem
      split at hmem
      · exact (insertRecord_subset hmem).imp id fun heq => by rw [heq]
      · exact .inl hmem
    simp only [MessageSerialiser.appendMessage]
    rcases hrecords with hold | hnew
    · obtain ⟨hpos, hclosed | ⟨hcurrent, hfrom, hto⟩⟩ := h.records e hold
      · exact ⟨hpos, .inl hclosed⟩
      · exact ⟨hpos, .inr ⟨hcurrent, hfrom, by omega⟩⟩
    · rw [hnew]
      exact ⟨Nat.succ_pos _, .inr ⟨rfl, by dsimp only; omega, by dsimp only; omega⟩⟩

/-- The index after an append: the message is found under its number, unless the number had a
message before. -/
theorem lookupMessage_appendMessage (h : s.WellFormed) (hkeep : s.keepMessageRecordsInMemory = true)
    (n : UInt32) :
    (s.appendMessage m ok k epoch).lookupMessage n =
      if n = k then (s.lookupMessage n).or (some m) else s.lookupMessage n := by
  obtain ⟨ms, hholds, -⟩ := h.current
  have hle := hholds.body.le
  have hold : ∀ record, s.messageMemoryRecords.lookup n = some record →
      readAt ((s.appendMessage m ok k epoch).recordedFile record) record.offset record.length =
        readAt (s.recordedFile record) record.offset record.length := by
    intro record hlookup
    obtain ⟨-, hrecord⟩ := h.records _ (mem_of_lookup hlookup)
    dsimp only at hrecord
    have hnumber : (s.appendMessage m ok k epoch).currentSerialisedFileNumber =
      s.currentSerialisedFileNumber := rfl
    rw [recordedFile, recordedFile, hnumber, currentSerialisedFileNumber]
    rcases hrecord with hclosed | ⟨hcurrent, hfrom, hto⟩
    · rw [if_pos (by omega), if_pos (by omega)]
      rfl
    · rw [if_neg (by omega), if_neg (by omega), appendMessage_readAt m ok k epoch hfrom hto]
  have hrecords : (s.appendMessage m ok k epoch).messageMemoryRecords =
      insertRecord s.messageMemoryRecords k
        { offset := s.currentMemoryMappingWrittenBytes + 17, length := m.length,
          serialisedFileNumber := s.currentSerialisedFileNumber } := by
    simp only [appendMessage, hkeep, if_true]
  rw [lookupMessage, hrecords, lookup_insertRecord, lookupMessage]
  cases hlookup : s.messageMemoryRecords.lookup n with
  | some record =>
    have hsame := hold record hlookup
    split <;> simp [hsame]
  | none =>
    split
    · have hfile : (s.appendMessage m ok k epoch).recordedFile
          { offset := s.currentMemoryMappingWrittenBytes + 17, length := m.length,
            serialisedFileNumber := s.currentSerialisedFileNumber } =
          (s.appendMessage m ok k epoch).currentMemoryMappingBuffer :=
        if_neg (not_not.mpr rfl)
      simp only [Option.none_or, Option.map_some, Option.map_none, hfile]
      rw [appendMessage_message m ok k epoch (by omega)]
    · rfl

theorem recordsOnDisc_appendMessage (h : s.WellFormed) (hfits : s.exceedsFile m = false) :
    (s.appendMessage m ok k epoch).recordsOnDisc = s.recordsOnDisc ++ [⟨m, ok⟩] := by
  obtain ⟨ms, hholds, hcount⟩ := h.current
  have hnew := recordsOf_of_holds (appendMessage_holds m ok k epoch hholds hcount hfits)
  show (s.closedFiles ++ [_]).flatMap (recordsOf s.serialisedFileMaxSize.toNat) =
    (s.closedFiles ++ [_]).flatMap (recordsOf s.serialisedFileMaxSize.toNat) ++ [⟨m, ok⟩]
  rw [List.flatMap_append, List.flatMap_append, List.flatMap_singleton, List.flatMap_singleton,
    hnew, recordsOf_of_holds hholds, List.append_assoc]

end Append

/-! ### Writing -/

section Write

variable {s : MessageSerialiser} (m : Bytes) (ok : Bool) (k : UInt32) (epoch : Nat)

/-- The three ends of `write`. -/
theorem write_cases (h : s.WellFormed) :
    (s.fitsFile m = true ∧ s.exceedsFile m = false ∧
      s.write m ok k epoch = s.appendMessage m ok k epoch) ∨
    (s.fitsFile m = true ∧ s.switchToNextMemoryMappedFile.exceedsFile m = false ∧
      s.write m ok k epoch = s.switchToNextMemoryMappedFile.appendMessage m ok k epoch) ∨
    (s.fitsFile m = false ∧ s.write m ok k epoch = s.switchToNextMemoryMappedFile) := by
  obtain ⟨ms, hholds, -⟩ := h.current
  have hle := hholds.body.le
  have hswitch : s.switchToNextMemoryMappedFile.exceedsFile m = !s.fitsFile m := by
    have hsize := h.size
    have hiff : s.serialisedFileMaxSize.toNat - 8 < m.length + 17 ↔
        ¬ 8 + m.length + 17 ≤ s.serialisedFileMaxSize.toNat := by omega
    rw [fitsFile, ← decide_not]
    exact decide_eq_decide.mpr hiff
  unfold write
  cases hexceeds : s.exceedsFile m with
  | false =>
    have hfits : s.fitsFile m = true := by
      have hroom := of_decide_eq_false hexceeds
      rw [serialisationOverheadBytes] at hroom
      exact decide_eq_true (by rw [serialisationOverheadBytes]; omega)
    exact .inl ⟨hfits, rfl, if_neg Bool.false_ne_true⟩
  | true =>
    rw [if_pos rfl]
    dsimp only
    rw [hswitch]
    cases s.fitsFile m with
    | true => exact .inr (.inl ⟨rfl, rfl, if_neg Bool.false_ne_true⟩)
    | false => exact .inr (.inr ⟨rfl, if_pos rfl⟩)

theorem WellFormed.write (h : s.WellFormed) : (s.write m ok k epoch).WellFormed := by
  rcases write_cases m ok k epoch h with ⟨_, hroom, heq⟩ | ⟨_, hroom, heq⟩ | ⟨_, heq⟩
  · rw [heq]
    exact h.appendMessage m ok k epoch hroom
  · rw [heq]
    exact h.switch.appendMessage m ok k epoch hroom
  · rw [heq]
    exact h.switch

@[simp] theorem write_serialisedFileMaxSize :
    (s.write m ok k epoch).serialisedFileMaxSize = s.serialisedFileMaxSize := by
  unfold MessageSerialiser.write
  split
  · dsimp only
    split <;> rfl
  · rfl

@[simp] theorem write_keepMessageRecordsInMemory :
    (s.write m ok k epoch).keepMessageRecordsInMemory = s.keepMessageRecordsInMemory := by
  unfold MessageSerialiser.write
  split
  · dsimp only
    split <;> rfl
  · rfl

/-- What a write adds to the files. -/
theorem write_recordsOnDisc (h : s.WellFormed) :
    (s.write m ok k epoch).recordsOnDisc =
      s.recordsOnDisc ++ if s.fitsFile m then [⟨m, ok⟩] else [] := by
  rcases write_cases m ok k epoch h with
    ⟨hfits, hroom, heq⟩ | ⟨hfits, hroom, heq⟩ | ⟨hfits, heq⟩
  · rw [heq, recordsOnDisc_appendMessage m ok k epoch h hroom, hfits, if_pos rfl]
  · rw [heq, recordsOnDisc_appendMessage m ok k epoch h.switch hroom, recordsOnDisc_switch h,
      hfits, if_pos rfl]
  · rw [heq, recordsOnDisc_switch h, hfits, if_neg Bool.false_ne_true, List.append_nil]

theorem write_messagesOnDisc (h : s.WellFormed) :
    (s.write m ok k epoch).messagesOnDisc =
      s.messagesOnDisc ++ if s.fitsFile m then [m] else [] := by
  rw [messagesOnDisc_eq, write_recordsOnDisc m ok k epoch h, List.map_append,
    ← messagesOnDisc_eq]
  split <;> rfl

/-- What a write adds to the index. -/
theorem write_lookupMessage (h : s.WellFormed) (hkeep : s.keepMessageRecordsInMemory = true)
    (n : UInt32) :
    (s.write m ok k epoch).lookupMessage n =
      if s.fitsFile m = true ∧ n = k then (s.lookupMessage n).or (some m)
      else s.lookupMessage n := by
  rcases write_cases m ok k epoch h with
    ⟨hfits, _, heq⟩ | ⟨hfits, _, heq⟩ | ⟨hfits, heq⟩
  · rw [heq, lookupMessage_appendMessage m ok k epoch h hkeep]
    simp only [hfits, true_and]
  · rw [heq, lookupMessage_appendMessage m ok k epoch h.switch hkeep, lookupMessage_switch h]
    simp only [hfits, true_and]
  · rw [heq, lookupMessage_switch h]
    simp [hfits]

end Write

/-! ## Initialising from the files -/

/-- The message that carries the number in its tag 34. -/
def carries (n : UInt32) (m : Bytes) : Bool := getSequenceNumberValueFromFixMessage m = n

/-- The message that a record names among numbered files. -/
def messageAt (file : Nat → Buffer) (record : MessageMemoryRecord) : Bytes :=
  readAt (file record.serialisedFileNumber) record.offset record.length

section Reading

variable {file : Nat → Buffer} {n : UInt32}

theorem foldl_insertSerialised (hn : 0 < n) {number : Nat} {entries : List SerialisedMessage}
    (hentries : ∀ e ∈ entries, readAt (file number) e.messageOffset e.message.length = e.message)
    (records : List (UInt32 × MessageMemoryRecord)) :
    ((entries.foldl (insertSerialised number) records).lookup n).map (messageAt file) =
      ((records.lookup n).map (messageAt file)).or
        ((entries.map (·.message)).find? (carries n)) := by
  induction entries generalizing records with
  | nil => simp
  | cons e entries ih =>
    rw [List.foldl_cons, ih fun e' he' => hentries e' (List.mem_cons_of_mem _ he'),
      List.map_cons, List.find?_cons]
    have hmessage := hentries e List.mem_cons_self
    by_cases hcarries : getSequenceNumberValueFromFixMessage e.message = n
    · have hinsert : insertSerialised number records e = insertRecord records n
          { offset := e.messageOffset, length := e.message.length,
            serialisedFileNumber := number } := by
        rw [insertSerialised, hcarries]
        exact if_pos hn
      have htrue : carries n e.message = true := decide_eq_true hcarries
      rw [hinsert, lookup_insertRecord, if_pos rfl, htrue]
      cases records.lookup n with
      | some record => simp
      | none => exact congrArg some hmessage
    · have hfalse : carries n e.message = false := decide_eq_false hcarries
      have hsame : (insertSerialised number records e).lookup n = records.lookup n := by
        unfold insertSerialised
        dsimp only
        split
        · rw [lookup_insertRecord, if_neg (Ne.symm hcarries)]
        · rfl
      rw [hsame, hfalse]

theorem mem_foldl_insertSerialised {number : Nat} {entries : List SerialisedMessage}
    {records : List (UInt32 × MessageMemoryRecord)} {e : UInt32 × MessageMemoryRecord}
    (h : e ∈ entries.foldl (insertSerialised number) records) :
    e ∈ records ∨ e.2.serialisedFileNumber = number ∧
      ∃ entry ∈ entries, e.2.offset = entry.messageOffset ∧
        e.2.length = entry.message.length := by
  induction entries generalizing records with
  | nil => exact .inl h
  | cons entry entries ih =>
    rcases ih h with hinsert | ⟨hnumber, entry', hmem, hrecord⟩
    · unfold insertSerialised at hinsert
      dsimp only at hinsert
      split at hinsert
      · rcases insertRecord_subset hinsert with hold | rfl
        · exact .inl hold
        · exact .inr ⟨rfl, entry, List.mem_cons_self, rfl, rfl⟩
      · exact .inl hinsert
    · exact .inr ⟨hnumber, entry', List.mem_cons_of_mem _ hmem, hrecord⟩

/-- The record points to a message of one of the numbered files. -/
def PointsInto (size : Nat) (files : List (Buffer × Nat)) (record : MessageMemoryRecord) : Prop :=
  ∃ buffer ms written, (buffer, record.serialisedFileNumber) ∈ files ∧
    FileHolds size buffer ms written ∧ 8 ≤ record.offset ∧
    record.offset + record.length ≤ written

/-- The records of files that hold messages: each number is found in the first message that
carries it. -/
theorem processExistingBuffers_holds {size : Nat} {files : List Buffer} {number : Nat}
    (hfiles : ∀ e ∈ files.zipIdx number, file e.2 = e.1)
    (hholds : ∀ buffer ∈ files, ∃ ms written, FileHolds size buffer ms written)
    (records : List (UInt32 × MessageMemoryRecord)) :
    ∃ records', processExistingBuffers size records (files.zipIdx number) = some records' ∧
      (∀ n, 0 < n → (records'.lookup n).map (messageAt file) =
        ((records.lookup n).map (messageAt file)).or
          ((files.flatMap (messagesOf size)).find? (carries n))) ∧
      ∀ e ∈ records', e ∈ records ∨ PointsInto size (files.zipIdx number) e.2 := by
  induction files generalizing number records with
  | nil => exact ⟨records, rfl, fun n _ => by simp, fun e he => .inl he⟩
  | cons buffer files ih =>
    rw [List.zipIdx_cons] at hfiles ⊢
    obtain ⟨ms, written, hfile⟩ := hholds buffer List.mem_cons_self
    obtain ⟨entries, hentries, hmap, hbetween⟩ := deserialise_of_holds hfile
    have hbuffer : file number = buffer := hfiles _ List.mem_cons_self
    obtain ⟨records', hrecords', hlookup, hpoints⟩ := ih
      (fun e he => hfiles e (List.mem_cons_of_mem _ he))
      (fun b hb => hholds b (List.mem_cons_of_mem _ hb))
      (entries.foldl (insertSerialised number) records)
    refine ⟨records', ?_, fun n hn => ?_, fun e he => ?_⟩
    · rw [processExistingBuffers, processExistingBuffer, hentries]
      exact hrecords'
    · have hread : ∀ e ∈ entries,
          readAt (file number) e.messageOffset e.message.length = e.message := by
        rw [hbuffer]
        exact fun e he => (hbetween e he).2.2
      have hmessages : messagesOf size buffer = entries.map (·.message) := by
        rw [messagesOf, hentries]
      rw [hlookup n hn, foldl_insertSerialised hn hread, List.flatMap_cons, hmessages,
        List.find?_append, Option.or_assoc]
    · rcases hpoints e he with hread | ⟨b, ms', written', hmem, hrest⟩
      · rcases mem_foldl_insertSerialised hread with hold | ⟨hnumber, entry, hentry, hoffset, hlength⟩
        · exact .inl hold
        · obtain ⟨hfrom, hto, -⟩ := hbetween entry hentry
          refine .inr ⟨buffer, ms, written, ?_, hfile, by rwa [hoffset], by rwa [hoffset, hlength]⟩
          rw [hnumber]
          exact List.mem_cons_self
      · exact .inr ⟨b, ms', written', List.mem_cons_of_mem _ hmem, hrest⟩

end Reading

/-- The file of a number. -/
def fileNumbered (s : MessageSerialiser) (number : Nat) : Buffer :=
  if s.currentSerialisedFileNumber ≠ number then s.closedFiles.getD (number - 1) zeros
  else s.currentMemoryMappingBuffer

theorem fileNumbered_files (s : MessageSerialiser) :
    ∀ e ∈ s.files.zipIdx 1, s.fileNumbered e.2 = e.1 := by
  rintro ⟨buffer, number⟩ hmem
  obtain ⟨hle, hlt, hget⟩ := List.mem_zipIdx hmem
  dsimp only
  have hlt' : number < 1 + (s.closedFiles.length + 1) := by
    simpa [files] using hlt
  rw [hget, fileNumbered, currentSerialisedFileNumber]
  by_cases hcurrent : s.closedFiles.length + 1 = number
  · subst hcurrent
    rw [if_neg (not_not.mpr rfl)]
    simp [files]
  · rw [if_pos hcurrent]
    have hclosed : number - 1 < s.closedFiles.length := by omega
    simp only [files]
    rw [List.getD_eq_getElem _ _ hclosed, List.getElem_append_left hclosed]

theorem WellFormed.files_hold {s : MessageSerialiser} (h : s.WellFormed) :
    ∀ buffer ∈ s.files,
      ∃ ms written, FileHolds s.serialisedFileMaxSize.toNat buffer ms written := by
  intro buffer hmem
  rcases List.mem_append.mp hmem with hmem | hmem
  · exact h.closed buffer hmem
  · obtain rfl := List.mem_singleton.mp hmem
    obtain ⟨ms, hholds, -⟩ := h.current
    exact ⟨ms, _, hholds⟩

/-- What `initialise` makes of files that hold messages: a well-formed serialiser that finds
every number in the first message that carries it. -/
structure InitialisedFrom (size : UInt64) (files : List Buffer) (s : MessageSerialiser) : Prop where
  wellFormed : s.WellFormed
  size_eq : s.serialisedFileMaxSize = size
  keeps : s.keepMessageRecordsInMemory = true
  records : s.recordsOnDisc = files.flatMap (recordsOf size.toNat)
  lookup : ∀ n, 0 < n → s.lookupMessage n = s.messagesOnDisc.find? (carries n)

/-- The sizes that `initialise` accepts. -/
structure ValidSizes (size : UInt64) (keep : Bool) (initialSize : Nat) : Prop where
  large : 4096 ≤ size.toNat
  pages : size.toNat % 4096 = 0
  records : keep = true → 0 < initialSize

section Initialise

variable {size : UInt64} {keep : Bool} {initialSize : Nat}

theorem validSizes_of_initialise {files : List Buffer}
    {records : List (UInt32 × MessageMemoryRecord)} {s : MessageSerialiser}
    (h : initialise size keep initialSize files records = some s) :
    ValidSizes size keep initialSize := by
  unfold initialise at h
  dsimp only at h
  split at h
  next => cases h
  next hrecords =>
    split at h
    next => cases h
    next hsize =>
      simp only [Bool.and_eq_true, decide_eq_true_eq, not_and] at hrecords
      simp only [Bool.or_eq_true, decide_eq_true_eq, not_or] at hsize
      exact ⟨by omega, by omega, fun hkeep => Nat.pos_of_ne_zero (hrecords hkeep)⟩

/-- The checks of `initialise` are passed. -/
theorem ValidSizes.checks (h : ValidSizes size keep initialSize) :
    (keep && decide (initialSize = 0)) = false ∧
      (decide (size.toNat < 4096) || decide (size.toNat % 4096 ≠ 0)) = false := by
  have hlarge := h.large
  have hpages := h.pages
  constructor
  · cases keep with
    | false => rfl
    | true => exact decide_eq_false (Nat.pos_iff_ne_zero.mp (h.records rfl))
  · rw [Bool.or_eq_false_iff, decide_eq_false_iff_not, decide_eq_false_iff_not]
    omega

/-- A new serialiser, of an empty folder. -/
theorem initialise_nil (h : ValidSizes size keep initialSize) :
    initialise size keep initialSize [] =
      some { keepMessageRecordsInMemory := keep, serialisedFileMaxSize := size } := by
  obtain ⟨hrecords, hsize⟩ := h.checks
  unfold initialise
  dsimp only
  rw [if_neg (by rw [hrecords]; exact Bool.false_ne_true),
    if_neg (by rw [hsize]; exact Bool.false_ne_true)]
  cases keep <;> rfl

theorem wellFormed_new (h : ValidSizes size keep initialSize) :
    WellFormed { keepMessageRecordsInMemory := keep, serialisedFileMaxSize := size } := by
  have hsize : 8 ≤ size.toNat := Nat.le_trans (by decide) h.large
  exact ⟨hsize, fun _ hmem => absurd hmem List.not_mem_nil, ⟨[], zeros_holds hsize, rfl⟩,
    fun _ hmem => absurd hmem List.not_mem_nil⟩

theorem recordsOnDisc_new (h : ValidSizes size keep initialSize) :
    recordsOnDisc { keepMessageRecordsInMemory := keep, serialisedFileMaxSize := size } = [] := by
  have hsize : 8 ≤ size.toNat := Nat.le_trans (by decide) h.large
  show [zeros].flatMap (recordsOf size.toNat) = []
  rw [List.flatMap_singleton, recordsOf_of_holds (zeros_holds hsize)]

/-- `initialise` on files that hold messages, the last one up to the byte `written`. -/
theorem initialise_concat (h : ValidSizes size keep initialSize) {closed : List Buffer}
    {current : Buffer} {ms : List WrittenMessage} {written : Nat}
    (hclosed : ∀ buffer ∈ closed, ∃ ms written, FileHolds size.toNat buffer ms written)
    (hcurrent : FileHolds size.toNat current ms written)
    {records₀ : List (UInt32 × MessageMemoryRecord)}
    (hrecords₀ : ∀ e ∈ records₀, Recorded closed.length written e.2) :
    ∃ s, initialise size keep initialSize (closed ++ [current]) records₀ = some s ∧
      s.WellFormed ∧ s.serialisedFileMaxSize = size ∧ s.keepMessageRecordsInMemory = keep ∧
      s.files = closed ++ [current] ∧
      (keep = true → records₀ = [] →
        ∀ n, 0 < n → s.lookupMessage n = s.messagesOnDisc.find? (carries n)) := by
  have hlarge := h.large
  obtain ⟨hcheck, hchecks⟩ := h.checks
  obtain ⟨entries, hentries, -, -⟩ := deserialise_of_holds hcurrent
  have hholds : ∀ buffer ∈ closed ++ [current],
      ∃ ms written, FileHolds size.toNat buffer ms written := by
    intro buffer hmem
    rcases List.mem_append.mp hmem with hmem | hmem
    · exact hclosed buffer hmem
    · obtain rfl := List.mem_singleton.mp hmem
      exact ⟨ms, written, hcurrent⟩
  let s₀ : MessageSerialiser :=
    { keepMessageRecordsInMemory := keep
      serialisedFileMaxSize := size
      closedFiles := closed
      currentMemoryMappingBuffer := current
      currentMemoryMappingWrittenBytes := written
      currentMemoryMappingNoOfMessages := ofLittleEndian (readAt current 0 8) }
  -- A record points into a closed file, or into the current one up to its written bytes.
  have hpointed : ∀ e : UInt32 × MessageMemoryRecord,
      PointsInto size.toNat (s₀.files.zipIdx 1) e.2 → Recorded closed.length written e.2 := by
    rintro e ⟨buffer, ms', written', hmem, hfile, hfrom, hto⟩
    obtain ⟨hle, hlt, hget⟩ := List.mem_zipIdx hmem
    have hlt' : e.2.serialisedFileNumber < 1 + (closed.length + 1) := by
      simpa [s₀, files] using hlt
    refine ⟨hle, ?_⟩
    by_cases hnumber : e.2.serialisedFileNumber = closed.length + 1
    · have hbuffer : buffer = current := by
        rw [hget]
        simp [s₀, MessageSerialiser.files, hnumber]
      rw [hbuffer] at hfile
      obtain ⟨entries', hentries', -, -⟩ := deserialise_of_holds hfile
      have hwritten : written' = written := by
        rw [hentries'] at hentries
        exact (Prod.mk.inj (Prod.mk.inj hentries).2).1
      rw [hwritten] at hto
      exact .inr ⟨hnumber, hfrom, hto⟩
    · exact .inl (by omega)
  -- Without records in memory nothing is read, with them all files are.
  have hread : ∃ records, processExistingBuffers size.toNat records₀
        (if keep then (closed ++ [current]).zipIdx 1 else []) = some records ∧
      (∀ e ∈ records, Recorded closed.length written e.2) ∧
      (keep = true → records₀ = [] → ∀ n, 0 < n →
        (records.lookup n).map (messageAt s₀.fileNumbered) =
          ((closed ++ [current]).flatMap (messagesOf size.toNat)).find? (carries n)) := by
    cases keep with
    | false => exact ⟨records₀, rfl, hrecords₀, fun hkeep => absurd hkeep Bool.false_ne_true⟩
    | true =>
      obtain ⟨records, hrecords, hlookup, hpoints⟩ :=
        processExistingBuffers_holds (fileNumbered_files s₀) hholds records₀
      refine ⟨records, hrecords, fun e he => ?_, fun _ hnil n hn => ?_⟩
      · exact (hpoints e he).elim (hrecords₀ e) (hpointed e)
      · rw [hlookup n hn, hnil]
        rfl
  obtain ⟨records, hrecords, hrecorded, hlookup⟩ := hread
  let s : MessageSerialiser := { s₀ with messageMemoryRecords := records }
  have hsize : 8 ≤ s.serialisedFileMaxSize.toNat := by
    show 8 ≤ size.toNat
    omega
  refine ⟨s, ?_, ⟨hsize, hclosed, ⟨ms, hcurrent, hcurrent.count⟩, hrecorded⟩, rfl, rfl, rfl,
    hlookup⟩
  unfold initialise
  dsimp only
  rw [if_neg (by rw [hcheck]; exact Bool.false_ne_true),
    if_neg (by rw [hchecks]; exact Bool.false_ne_true)]
  have hlast : (closed ++ [current]).getLastD zeros = current := by simp
  rw [hrecords, hlast]
  dsimp only
  rw [hentries, List.dropLast_concat]
  rfl

theorem initialise_files (h : ValidSizes size true initialSize) {files : List Buffer}
    (hholds : ∀ buffer ∈ files, ∃ ms written, FileHolds size.toNat buffer ms written) :
    ∃ s, initialise size true initialSize files = some s ∧ InitialisedFrom size files s := by
  rcases List.eq_nil_or_concat files with rfl | ⟨closed, current, hconcat⟩
  · have hnone := recordsOnDisc_new h
    refine ⟨_, initialise_nil h, wellFormed_new h, rfl, rfl, hnone, fun n _ => ?_⟩
    rw [messagesOnDisc_eq, hnone]
    rfl
  · rw [List.concat_eq_append] at hconcat
    subst hconcat
    obtain ⟨ms, written, hcurrent⟩ := hholds current
      (List.mem_append_right _ List.mem_cons_self)
    obtain ⟨s, hinitialise, hwell, hsize, hkeep, hfiles, hlookup⟩ := initialise_concat h
      (fun buffer hmem => hholds buffer (List.mem_append_left _ hmem)) hcurrent
      fun _ (hmem : _ ∈ ([] : List (UInt32 × MessageMemoryRecord))) =>
        absurd hmem List.not_mem_nil
    refine ⟨s, hinitialise, hwell, hsize, hkeep, ?_, hlookup rfl rfl⟩
    rw [recordsOnDisc, hfiles, hsize]

/-- A serialiser that is initialised on the files of another one, with some of its records. -/
theorem WellFormed.reinitialise {s : MessageSerialiser} (hwell : s.WellFormed)
    (h : ValidSizes s.serialisedFileMaxSize keep initialSize)
    {records : List (UInt32 × MessageMemoryRecord)}
    (hrecords : ∀ e ∈ records, e ∈ s.messageMemoryRecords) :
    ∃ s', initialise s.serialisedFileMaxSize keep initialSize s.files records = some s' ∧
      s'.WellFormed ∧ s'.serialisedFileMaxSize = s.serialisedFileMaxSize ∧
      s'.recordsOnDisc = s.recordsOnDisc := by
  obtain ⟨ms, hcurrent, -⟩ := hwell.current
  obtain ⟨s', hinitialise, hwell', hsize, -, hfiles, -⟩ :=
    initialise_concat h hwell.closed hcurrent fun e he => hwell.records e (hrecords e he)
  refine ⟨s', hinitialise, hwell', hsize, ?_⟩
  rw [recordsOnDisc, hfiles, hsize]
  rfl

end Initialise

end MessageSerialiser

end Llfix
