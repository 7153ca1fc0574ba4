import Llfix.SerialisedFiles

/-!
# Record files of other sizes

The maximum size of a record file is a setting, and a file keeps its size when the setting becomes
smaller. `MemoryMappedFile::open` maps the larger of the two, while `write` tests the room against
the setting, in unsigned arithmetic.

Results:
1. `FileHolds.openWith`: a file that is opened with another size holds the same messages.
2. `initialise_held`: what `initialise` makes of files of any sizes.
3. `write_serialiser`: up to the setting, a write is the one of `MessageSerialiser`.
4. `sizedWrites_iff`: when all writes after a restart stay inside of the mapping.
5. `sizedWrites_fails`: behind a restart with a smaller setting a write leaves it.
-/

namespace Llfix

open MappedFile MessageSerialiser

/-! ## Files with sizes -/

/-- A record file on disc. -/
structure SizedFile where
  buffer : Buffer := zeros
  size : Nat := 0

namespace SizedFile

/-- `MemoryMappedFile::open`: a file that is smaller than the size asked for is filled up with
zeros, a larger one is mapped as it is. -/
def openWith (file : SizedFile) (size : UInt64) : SizedFile where
  buffer i := if i < file.size then file.buffer i else 0
  size := max file.size size.toNat

/-- The file holds messages, all inside of it. -/
def Held (file : SizedFile) : Prop :=
  file.size < 2 ^ 64 ∧ ∃ ms written, FileHolds file.size file.buffer ms written

/-- The bytes up to the end of the last record. -/
def recordBytes (file : SizedFile) : Nat :=
  8 + ((recordsOf file.size file.buffer).map fun m => 17 + m.message.length).sum

end SizedFile

/-- A call of `write`. What is written is an object in memory, far shorter than `2^64`. -/
structure WriteCall where
  message : Bytes
  successfulTransmission : Bool := true
  sequenceNo : UInt32 := 0
  epoch : Nat := 0
  length_lt : message.length + 17 < 2 ^ 64

/-- A serialiser with the sizes of its files and of its mapping. -/
structure SizedSerialiser where
  serialiser : MessageSerialiser
  closedFiles : List SizedFile
  closedFiles_eq : serialiser.closedFiles = closedFiles.map (·.buffer)
  mappedSize : Nat

namespace SizedSerialiser

def written (s : SizedSerialiser) : Nat := s.serialiser.currentMemoryMappingWrittenBytes

def maxSize (s : SizedSerialiser) : UInt64 := s.serialiser.serialisedFileMaxSize

/-- The files of the folder, in their order. -/
def folder (s : SizedSerialiser) : List SizedFile :=
  s.closedFiles ++ [⟨s.serialiser.currentMemoryMappingBuffer, s.mappedSize⟩]

/-- The test for the room in the current file, as the code computes it. -/
def exceedsFile (s : SizedSerialiser) (message : Bytes) : Bool :=
  s.maxSize - UInt64.ofNat s.written < UInt64.ofNat message.length + 17

/-- `switch_to_next_memory_mapped_file`. The next file is a new one. -/
def switchToNextMemoryMappedFile (s : SizedSerialiser) : SizedSerialiser where
  serialiser := s.serialiser.switchToNextMemoryMappedFile
  closedFiles := s.folder
  closedFiles_eq := by
    show s.serialiser.closedFiles ++ [_] = (s.closedFiles ++ [_]).map SizedFile.buffer
    rw [s.closedFiles_eq, List.map_append]
    rfl
  mappedSize := s.maxSize.toNat

/-- The part of `write` behind the choice of the file. -/
def appendMessage (s : SizedSerialiser) (c : WriteCall) : SizedSerialiser :=
  { s with
    serialiser :=
      s.serialiser.appendMessage c.message c.successfulTransmission c.sequenceNo c.epoch
    closedFiles_eq := s.closedFiles_eq }

/-- The ranges of the mapping that `appendMessage` stores to, by offset and length. -/
def stores (s : SizedSerialiser) (message : Bytes) : List (Nat × Nat) :=
  [(s.written, 8), (s.written + 8, 1), (s.written + 9, 8), (s.written + 17, message.length), (0, 8)]

/-- `write`, with what it stores to the mapping that is current then. -/
def write (s : SizedSerialiser) (c : WriteCall) : SizedSerialiser × List (Nat × Nat) :=
  if s.exceedsFile c.message then
    let s := s.switchToNextMemoryMappedFile
    if s.exceedsFile c.message then (s, []) else (s.appendMessage c, s.stores c.message)
  else (s.appendMessage c, s.stores c.message)

/-- The write stores inside of the mapping and leaves the position inside of it. -/
def StaysInside (s : SizedSerialiser) (c : WriteCall) : Prop :=
  (∀ r ∈ (s.write c).2, r.1 + r.2 ≤ (s.write c).1.mappedSize) ∧
    (s.write c).1.written ≤ (s.write c).1.mappedSize

/-- All writes do. -/
def InBounds (s : SizedSerialiser) : List WriteCall → Prop
  | [] => True
  | c :: calls => s.StaysInside c ∧ InBounds (s.write c).1 calls

/-- The serialiser behind writes. -/
def after (s : SizedSerialiser) (calls : List WriteCall) : SizedSerialiser :=
  calls.foldl (fun s c => (s.write c).1) s

/-- The records of the files, in their order. -/
def processExistingFiles (records : List (UInt32 × MessageMemoryRecord)) :
    List (SizedFile × Nat) → Option (List (UInt32 × MessageMemoryRecord))
  | [] => some records
  | file :: files =>
    match processExistingBuffer file.1.size records (file.1.buffer, file.2) with
    | none => none
    | some records => processExistingFiles records files

/-- The part of `initialise` behind the opening of the files. -/
def initialiseOpened (serialisedFileMaxSize : UInt64) (keepMessageRecordsInMemory : Bool)
    (closed : List SizedFile) (current : SizedFile)
    (messageMemoryRecords : List (UInt32 × MessageMemoryRecord)) : Option SizedSerialiser :=
  let toRead := if keepMessageRecordsInMemory then (closed ++ [current]).zipIdx 1 else []
  match processExistingFiles messageMemoryRecords toRead with
  | none => none
  | some records =>
    let (_, readBytes, found) := deserialise current.buffer current.size
    if found then
      some
        { serialiser :=
            { keepMessageRecordsInMemory
              serialisedFileMaxSize
              closedFiles := closed.map (·.buffer)
              currentMemoryMappingBuffer := current.buffer
              currentMemoryMappingWrittenBytes := readBytes
              currentMemoryMappingNoOfMessages := ofLittleEndian (readAt current.buffer 0 8)
              messageMemoryRecords := records }
          closedFiles := closed
          closedFiles_eq := rfl
          mappedSize := current.size }
    else none

/-- `initialise` on the files of the folder. The files before the last one are opened only for
their records. -/
def initialise (serialisedFileMaxSize : UInt64) (keepMessageRecordsInMemory : Bool)
    (messageRecordsInitialSize : Nat) (files : List SizedFile)
    (messageMemoryRecords : List (UInt32 × MessageMemoryRecord)) : Option SizedSerialiser :=
  if keepMessageRecordsInMemory && messageRecordsInitialSize = 0 then none
  else if serialisedFileMaxSize.toNat < 4096 || serialisedFileMaxSize.toNat % 4096 ≠ 0 then none
  else
    initialiseOpened serialisedFileMaxSize keepMessageRecordsInMemory
      (if keepMessageRecordsInMemory then files.dropLast.map (·.openWith serialisedFileMaxSize)
        else files.dropLast)
      ((files.getLastD {}).openWith serialisedFileMaxSize) messageMemoryRecords

end SizedSerialiser

open SizedSerialiser

/-- The folders that runs leave, each with its own settings. A run whose writes leave the mapping
has no defined result. -/
inductive Produced : List SizedFile → Prop
  | empty : Produced []
  | run {files : List SizedFile} {maxSize : UInt64} {keep : Bool} {initialSize : Nat}
      {records : List (UInt32 × MessageMemoryRecord)} {s : SizedSerialiser}
      (calls : List WriteCall) :
      Produced files → SizedSerialiser.initialise maxSize keep initialSize files records = some s →
      s.InBounds calls → Produced (s.after calls).folder

/-- The bytes of the last file up to the end of its records; a new file starts with its count. -/
def filledBytes (files : List SizedFile) : Nat :=
  match files.getLast? with
  | none => 8
  | some file => file.recordBytes

/-! ## Files that hold messages -/

namespace MessageSerialiser

theorem Holds.last_eq {buffer : Buffer} {offset last : Nat} {ms : List WrittenMessage}
    (h : Holds buffer offset ms last) :
    last = offset + (ms.map fun m => 17 + m.message.length).sum := by
  induction h with
  | nil offset => simp
  | cons _ _ _ _ ih =>
    rw [ih, List.map_cons, List.sum_cons]
    omega

/-- A file that is opened with another size holds the same messages. -/
theorem FileHolds.openWith {file : SizedFile} {ms : List WrittenMessage} {written : Nat}
    (h : FileHolds file.size file.buffer ms written) (size : UInt64) :
    FileHolds (file.openWith size).size (file.openWith size).buffer ms written := by
  have hle := h.body.le
  have hfits := h.fits
  have hsame : ∀ offset length, offset + length ≤ written →
      readAt (file.openWith size).buffer offset length = readAt file.buffer offset length := by
    intro offset length hto
    refine List.map_congr_left fun i hi => ?_
    have hlt : i < length := List.mem_range.mp hi
    exact if_pos (by omega)
  refine ⟨?_, h.body.congr fun offset length _ hto => hsame offset length hto,
    Nat.le_trans hfits (Nat.le_max_left _ _)⟩
  rw [hsame 0 8 (by omega)]
  exact h.count

theorem recordBytes_of_holds {file : SizedFile} {ms : List WrittenMessage} {written : Nat}
    (h : FileHolds file.size file.buffer ms written) : file.recordBytes = written := by
  rw [SizedFile.recordBytes, recordsOf_of_holds h]
  exact h.body.last_eq.symm

end MessageSerialiser

namespace SizedFile

theorem Held.openWith {file : SizedFile} (h : file.Held) (size : UInt64) :
    (file.openWith size).Held := by
  obtain ⟨hlt, ms, written, hholds⟩ := h
  exact ⟨Nat.max_lt.mpr ⟨hlt, size.toNat_lt⟩, ms, written, hholds.openWith size⟩

/-- A new file. -/
theorem openWith_new {size : UInt64} (hsize : 8 ≤ size.toNat) :
    FileHolds (openWith {} size).size (openWith {} size).buffer [] 8 := by
  have hbuffer : (openWith {} size).buffer = zeros := by
    funext i
    show (if i < 0 then zeros i else 0) = zeros i
    exact if_neg (Nat.not_lt_zero i)
  have hnew : (openWith {} size).size = size.toNat := Nat.zero_max _
  rw [hbuffer, hnew]
  exact zeros_holds hsize

end SizedFile

namespace SizedSerialiser

/-! ## What a serialiser holds -/

/-- All files hold messages, the current one up to the position, and the mapping has at least the
size of the setting. -/
structure Held (s : SizedSerialiser) : Prop where
  closed : ∀ file ∈ s.closedFiles, file.Held
  current : ∃ ms, FileHolds s.mappedSize s.serialiser.currentMemoryMappingBuffer ms s.written ∧
    s.serialiser.currentMemoryMappingNoOfMessages = ms.length
  mapped_lt : s.mappedSize < 2 ^ 64
  max_le : s.maxSize.toNat ≤ s.mappedSize
  large : 4096 ≤ s.maxSize.toNat

theorem Held.folder {s : SizedSerialiser} (h : s.Held) : ∀ file ∈ s.folder, file.Held := by
  intro file hfile
  rcases List.mem_append.mp hfile with hfile | hfile
  · exact h.closed file hfile
  · obtain rfl := List.mem_singleton.mp hfile
    obtain ⟨ms, hholds, -⟩ := h.current
    exact ⟨h.mapped_lt, ms, _, hholds⟩

theorem Held.written_le {s : SizedSerialiser} (h : s.Held) : s.written ≤ s.mappedSize := by
  obtain ⟨ms, hholds, -⟩ := h.current
  exact hholds.fits

theorem Held.eight_le {s : SizedSerialiser} (h : s.Held) : 8 ≤ s.written := by
  obtain ⟨ms, hholds, -⟩ := h.current
  have hle := hholds.body.le
  omega

theorem Held.switch {s : SizedSerialiser} (h : s.Held) : s.switchToNextMemoryMappedFile.Held where
  closed := h.folder
  current := ⟨[], zeros_holds (Nat.le_trans (by decide) h.large), rfl⟩
  mapped_lt := s.maxSize.toNat_lt
  max_le := Nat.le_refl _
  large := h.large

theorem Held.append {s : SizedSerialiser} (h : s.Held) {c : WriteCall}
    (hroom : s.written + 17 + c.message.length ≤ s.mappedSize) : (s.appendMessage c).Held where
  closed := h.closed
  current := by
    obtain ⟨ms, hholds, hcount⟩ := h.current
    refine ⟨ms ++ [WrittenMessage.mk c.message c.successfulTransmission],
      appendMessage_holds_of_room c.message c.successfulTransmission c.sequenceNo c.epoch hholds
        hcount h.mapped_lt hroom, ?_⟩
    show s.serialiser.currentMemoryMappingNoOfMessages + 1 = _
    rw [hcount, List.length_append, List.length_singleton]
  mapped_lt := h.mapped_lt
  max_le := h.max_le
  large := h.large

/-- The three ends of `write`. -/
theorem write_cases (s : SizedSerialiser) (c : WriteCall) :
    (s.exceedsFile c.message = false ∧ s.write c = (s.appendMessage c, s.stores c.message)) ∨
    (s.exceedsFile c.message = true ∧
      let s' := s.switchToNextMemoryMappedFile
      (s'.exceedsFile c.message = true ∧ s.write c = (s', []) ∨
        s'.exceedsFile c.message = false ∧
          s.write c = (s'.appendMessage c, s'.stores c.message))) := by
  unfold write
  cases h : s.exceedsFile c.message with
  | false => exact .inl ⟨rfl, if_neg Bool.false_ne_true⟩
  | true =>
    refine .inr ⟨rfl, ?_⟩
    dsimp only
    rw [if_pos rfl]
    cases h' : s.switchToNextMemoryMappedFile.exceedsFile c.message with
    | true => exact .inl ⟨rfl, if_pos rfl⟩
    | false => exact .inr ⟨rfl, if_neg Bool.false_ne_true⟩

/-- An append needs the room behind the position. -/
theorem appendMessage_inside_iff (s : SizedSerialiser) (h : 8 ≤ s.mappedSize) (c : WriteCall) :
    ((∀ r ∈ s.stores c.message, r.1 + r.2 ≤ (s.appendMessage c).mappedSize) ∧
      (s.appendMessage c).written ≤ (s.appendMessage c).mappedSize) ↔
    s.written + 17 + c.message.length ≤ s.mappedSize := by
  have hwritten : (s.appendMessage c).written = s.written + 17 + c.message.length := rfl
  have hmapped : (s.appendMessage c).mappedSize = s.mappedSize := rfl
  rw [hwritten, hmapped]
  refine ⟨fun hinside => hinside.2, fun hroom => ⟨fun r hr => ?_, hroom⟩⟩
  simp only [stores, List.mem_cons, List.not_mem_nil, or_false] at hr
  rcases hr with rfl | rfl | rfl | rfl | rfl
  · dsimp only
    omega
  · dsimp only
    omega
  · dsimp only
    omega
  · exact hroom
  · exact h

theorem Held.write {s : SizedSerialiser} (h : s.Held) {c : WriteCall} (hinside : s.StaysInside c) :
    (s.write c).1.Held := by
  have hlarge := h.large
  rw [StaysInside] at hinside
  rcases s.write_cases c with ⟨-, hwrite⟩ | ⟨-, ⟨-, hwrite⟩ | ⟨-, hwrite⟩⟩
  · rw [hwrite] at hinside ⊢
    have hsize := Nat.le_trans h.eight_le h.written_le
    exact h.append ((s.appendMessage_inside_iff hsize c).mp hinside)
  · rw [hwrite]
    exact h.switch
  · rw [hwrite] at hinside ⊢
    have hsize := Nat.le_trans h.switch.eight_le h.switch.written_le
    exact h.switch.append ((appendMessage_inside_iff _ hsize c).mp hinside)

theorem Held.after {s : SizedSerialiser} (h : s.Held) {calls : List WriteCall}
    (hinside : s.InBounds calls) : (s.after calls).Held := by
  induction calls generalizing s with
  | nil => exact h
  | cons c calls ih => exact ih (h.write hinside.1) hinside.2

/-! ## `initialise` -/

theorem processExistingFiles_of_held {files : List SizedFile} (h : ∀ file ∈ files, file.Held)
    (number : Nat) (records : List (UInt32 × MessageMemoryRecord)) :
    ∃ records', processExistingFiles records (files.zipIdx number) = some records' := by
  induction files generalizing number records with
  | nil => exact ⟨records, rfl⟩
  | cons file files ih =>
    obtain ⟨-, ms, written, hholds⟩ := h file List.mem_cons_self
    obtain ⟨entries, hentries, -, -⟩ := deserialise_of_holds hholds
    obtain ⟨records', hrecords'⟩ := ih (fun f hf => h f (List.mem_cons_of_mem _ hf)) (number + 1)
      (entries.foldl (insertSerialised number) records)
    refine ⟨records', ?_⟩
    rw [List.zipIdx_cons, processExistingFiles, processExistingBuffer, hentries]
    exact hrecords'

/-- `initialise` succeeds on files that hold messages, and goes on behind the records of the last
one. -/
theorem initialise_held {files : List SizedFile} (hfiles : ∀ file ∈ files, file.Held)
    {maxSize : UInt64} {keep : Bool} {initialSize : Nat} (h : ValidSizes maxSize keep initialSize)
    (records : List (UInt32 × MessageMemoryRecord)) :
    ∃ s, initialise maxSize keep initialSize files records = some s ∧ s.Held ∧
      s.maxSize = maxSize ∧ s.written = filledBytes files := by
  obtain ⟨hcheck, hchecks⟩ := h.checks
  have hlarge := h.large
  have hclosed : ∀ file ∈ (if keep then files.dropLast.map (·.openWith maxSize)
      else files.dropLast), file.Held := by
    intro file hfile
    cases keep with
    | false => exact hfiles file (List.dropLast_subset _ hfile)
    | true =>
      obtain ⟨file', hfile', rfl⟩ := List.mem_map.mp hfile
      exact (hfiles file' (List.dropLast_subset _ hfile')).openWith maxSize
  -- The last file is opened with the new size, which is never below its old one.
  obtain ⟨ms, hcurrent, hlt⟩ : ∃ ms,
      FileHolds ((files.getLastD {}).openWith maxSize).size
        ((files.getLastD {}).openWith maxSize).buffer ms (filledBytes files) ∧
      ((files.getLastD {}).openWith maxSize).size < 2 ^ 64 := by
    rw [filledBytes, List.getLastD_eq_getLast?]
    cases hlast : files.getLast? with
    | none =>
      exact ⟨[], SizedFile.openWith_new (Nat.le_trans (by decide) hlarge),
        Nat.max_lt.mpr ⟨by decide, maxSize.toNat_lt⟩⟩
    | some file =>
      obtain ⟨hlt, ms, written, hholds⟩ := hfiles file (List.mem_of_getLast? hlast)
      rw [Option.getD_some]
      dsimp only
      rw [recordBytes_of_holds hholds]
      exact ⟨ms, hholds.openWith maxSize, Nat.max_lt.mpr ⟨hlt, maxSize.toNat_lt⟩⟩
  obtain ⟨entries, hentries, -, -⟩ := deserialise_of_holds hcurrent
  -- From here on only what the files hold counts, not how they were opened.
  generalize hc : (if keep then files.dropLast.map (·.openWith maxSize)
    else files.dropLast) = closed at hclosed
  generalize hcur : (files.getLastD {}).openWith maxSize = current at hcurrent hlt hentries
  obtain ⟨records', hrecords'⟩ : ∃ records', processExistingFiles records
      (if keep then (closed ++ [current]).zipIdx 1 else []) = some records' := by
    cases keep with
    | false => exact ⟨records, rfl⟩
    | true =>
      refine processExistingFiles_of_held (fun file hfile => ?_) 1 records
      rcases List.mem_append.mp hfile with hfile | hfile
      · exact hclosed file hfile
      · obtain rfl := List.mem_singleton.mp hfile
        exact ⟨hlt, ms, _, hcurrent⟩
  have hmax : maxSize.toNat ≤ current.size := by
    rw [← hcur]
    exact Nat.le_max_right _ _
  let s : SizedSerialiser :=
    { serialiser :=
        { keepMessageRecordsInMemory := keep
          serialisedFileMaxSize := maxSize
          closedFiles := closed.map (·.buffer)
          currentMemoryMappingBuffer := current.buffer
          currentMemoryMappingWrittenBytes := filledBytes files
          currentMemoryMappingNoOfMessages := ofLittleEndian (readAt current.buffer 0 8)
          messageMemoryRecords := records' }
      closedFiles := closed
      closedFiles_eq := rfl
      mappedSize := current.size }
  refine ⟨s, ?_, ⟨hclosed, ⟨ms, hcurrent, hcurrent.count⟩, hlt, hmax, hlarge⟩, rfl, rfl⟩
  rw [initialise, if_neg (by rw [hcheck]; exact Bool.false_ne_true),
    if_neg (by rw [hchecks]; exact Bool.false_ne_true), hc, hcur, initialiseOpened]
  dsimp only
  rw [hrecords']
  dsimp only
  rw [hentries]
  exact if_pos rfl

theorem validSizes_of_initialise {files : List SizedFile} {maxSize : UInt64} {keep : Bool}
    {initialSize : Nat} {records : List (UInt32 × MessageMemoryRecord)} {s : SizedSerialiser}
    (h : initialise maxSize keep initialSize files records = some s) :
    ValidSizes maxSize keep initialSize := by
  unfold initialise at h
  split at h
  next => cases h
  next hrecords =>
    split at h
    next => cases h
    next hsize =>
      simp only [Bool.and_eq_true, decide_eq_true_eq, not_and] at hrecords
      simp only [Bool.or_eq_true, decide_eq_true_eq, not_or] at hsize
      exact ⟨by omega, by omega, fun hkeep => Nat.pos_of_ne_zero (hrecords hkeep)⟩

/-- Every folder that runs leave holds messages. -/
theorem held_of_produced {files : List SizedFile} (h : Produced files) :
    ∀ file ∈ files, file.Held := by
  induction h with
  | empty => exact fun file hfile => absurd hfile List.not_mem_nil
  | @run files maxSize keep initialSize records s calls _ hinitialise hinside ih =>
    have hsizes := SizedSerialiser.validSizes_of_initialise hinitialise
    obtain ⟨s', hs', hheld, -, -⟩ := initialise_held ih hsizes records
    obtain rfl := Option.some.inj (hs'.symm.trans hinitialise)
    exact (hheld.after hinside).folder

/-! ## Writes behind a restart -/

theorem toNat_uint64 {n : Nat} (h : n < 2 ^ 64) : (UInt64.ofNat n).toNat = n := by
  rw [UInt64.toNat_ofNat']
  exact Nat.mod_eq_of_lt h

theorem toNat_uint64_overhead {n : Nat} (h : n + 17 < 2 ^ 64) :
    (UInt64.ofNat n + 17).toNat = n + 17 := by
  have hoverhead : (17 : UInt64).toNat = 17 := rfl
  rw [UInt64.toNat_add, toNat_uint64 (Nat.lt_of_le_of_lt (Nat.le_add_right n 17) h), hoverhead]
  exact Nat.mod_eq_of_lt h

/-- Up to the setting the unsigned difference is the room that is left. -/
theorem exceedsFile_iff {s : SizedSerialiser} (h : s.written ≤ s.maxSize.toNat) (c : WriteCall) :
    s.exceedsFile c.message = true ↔ s.maxSize.toNat < s.written + 17 + c.message.length := by
  have hmax := s.maxSize.toNat_lt
  have hwritten := toNat_uint64 (Nat.lt_of_le_of_lt h hmax)
  have hroom : (s.maxSize - UInt64.ofNat s.written).toNat = s.maxSize.toNat - s.written := by
    rw [UInt64.toNat_sub_of_le _ _ (UInt64.le_iff_toNat_le.mpr (by rw [hwritten]; exact h)), hwritten]
  rw [exceedsFile, decide_eq_true_eq, UInt64.lt_iff_toNat_lt, hroom,
    toNat_uint64_overhead c.length_lt]
  omega

/-- Up to the setting, a write is the one of the serialiser whose files have the maximum size. -/
theorem write_serialiser {s : SizedSerialiser} (hlarge : 4096 ≤ s.maxSize.toNat)
    (h : s.written ≤ s.maxSize.toNat) (c : WriteCall) :
    (s.write c).1.serialiser =
      s.serialiser.write c.message c.successfulTransmission c.sequenceNo c.epoch := by
  have hexceeds : ∀ t : SizedSerialiser, t.written ≤ t.maxSize.toNat →
      t.serialiser.exceedsFile c.message = t.exceedsFile c.message := by
    intro t ht
    rw [Bool.eq_iff_iff, exceedsFile_iff ht, MessageSerialiser.exceedsFile, decide_eq_true_eq,
      serialisationOverheadBytes]
    show t.maxSize.toNat - t.written < _ ↔ _
    omega
  have hswitch : s.switchToNextMemoryMappedFile.written ≤
      s.switchToNextMemoryMappedFile.maxSize.toNat :=
    Nat.le_trans (by decide : 8 ≤ 4096) hlarge
  unfold MessageSerialiser.write
  rw [hexceeds s h]
  rcases s.write_cases c with ⟨hroom, hwrite⟩ | ⟨hexceed, hends⟩
  · rw [hroom, hwrite, if_neg Bool.false_ne_true]
    rfl
  · have hnext : s.serialiser.switchToNextMemoryMappedFile.exceedsFile c.message =
        s.switchToNextMemoryMappedFile.exceedsFile c.message := hexceeds _ hswitch
    rw [hexceed, if_pos rfl]
    dsimp only
    rcases hends with ⟨hexceed', hwrite⟩ | ⟨hroom', hwrite⟩
    · rw [hexceed'] at hnext
      rw [hwrite]
      exact (if_pos hnext).symm
    · rw [hroom'] at hnext
      rw [hwrite]
      exact (if_neg (by rw [hnext]; exact Bool.false_ne_true)).symm

/-- A write keeps the position up to the setting. -/
theorem stays_of_le {s : SizedSerialiser} (hheld : s.Held) (h : s.written ≤ s.maxSize.toNat)
    (c : WriteCall) :
    s.StaysInside c ∧ (s.write c).1.written ≤ (s.write c).1.maxSize.toNat := by
  have happend : ∀ t : SizedSerialiser, t.Held → t.written ≤ t.maxSize.toNat →
      t.exceedsFile c.message = false →
      ((∀ r ∈ t.stores c.message, r.1 + r.2 ≤ (t.appendMessage c).mappedSize) ∧
        (t.appendMessage c).written ≤ (t.appendMessage c).mappedSize) ∧
      (t.appendMessage c).written ≤ (t.appendMessage c).maxSize.toNat := by
    intro t ht hle hroom
    have hfits : t.written + 17 + c.message.length ≤ t.maxSize.toNat := by
      rw [← Bool.not_eq_true, exceedsFile_iff hle] at hroom
      omega
    have hmax := ht.max_le
    have hsize := Nat.le_trans ht.eight_le ht.written_le
    exact ⟨(t.appendMessage_inside_iff hsize c).mpr (Nat.le_trans hfits hmax), hfits⟩
  have hlarge := hheld.large
  have hswitch : s.switchToNextMemoryMappedFile.written ≤
      s.switchToNextMemoryMappedFile.maxSize.toNat :=
    Nat.le_trans (by decide : 8 ≤ 4096) hlarge
  rw [StaysInside]
  rcases s.write_cases c with ⟨hroom, hwrite⟩ | ⟨-, ⟨-, hwrite⟩ | ⟨hroom, hwrite⟩⟩
  · rw [hwrite]
    exact happend s hheld h hroom
  · rw [hwrite]
    exact ⟨⟨fun r hr => absurd hr List.not_mem_nil, hheld.switch.written_le⟩, hswitch⟩
  · rw [hwrite]
    exact happend _ hheld.switch hswitch hroom

theorem inBounds_of_le {s : SizedSerialiser} (hheld : s.Held) (h : s.written ≤ s.maxSize.toNat)
    (calls : List WriteCall) : s.InBounds calls := by
  induction calls generalizing s with
  | nil => trivial
  | cons c calls ih =>
    obtain ⟨hinside, hle⟩ := stays_of_le hheld h c
    exact ⟨hinside, ih (hheld.write hinside) hle⟩

/-- Beyond the setting the unsigned difference wraps: a message that is as long as the rest of the
mapping is appended to it. -/
theorem leaves_of_lt {s : SizedSerialiser} (hheld : s.Held) (h : s.maxSize.toNat < s.written) :
    ∃ c, ¬ s.StaysInside c := by
  have hlarge := hheld.large
  have hmapped := hheld.mapped_lt
  have hle := hheld.written_le
  let c : WriteCall :=
    { message := List.replicate (s.mappedSize - s.written) 0
      length_lt := by
        rw [List.length_replicate]
        omega }
  have hlength : c.message.length = s.mappedSize - s.written := List.length_replicate
  have hwritten := toNat_uint64 (Nat.lt_of_le_of_lt hle hmapped)
  have hroom : s.exceedsFile c.message = false := by
    rw [exceedsFile, decide_eq_false_iff_not, UInt64.lt_iff_toNat_lt,
      toNat_uint64_overhead c.length_lt, hlength, UInt64.toNat_sub, hwritten]
    omega
  refine ⟨c, fun hinside => ?_⟩
  rcases s.write_cases c with ⟨-, hwrite⟩ | ⟨hexceeds, -⟩
  · rw [StaysInside, hwrite] at hinside
    have hsize := Nat.le_trans hheld.eight_le hle
    have hfits := (s.appendMessage_inside_iff hsize c).mp hinside
    omega
  · exact Bool.false_ne_true (hroom.symm.trans hexceeds)

/-- After a restart on any folder that runs have left, all writes of all sizes stay inside of the
mapping exactly when the last file is not filled beyond the new setting. -/
theorem sizedWrites_iff {files : List SizedFile} (hfiles : Produced files) {maxSize : UInt64}
    {keep : Bool} {initialSize : Nat} (h : ValidSizes maxSize keep initialSize)
    (records : List (UInt32 × MessageMemoryRecord)) :
    ∃ s, initialise maxSize keep initialSize files records = some s ∧
      ((∀ calls, s.InBounds calls) ↔ filledBytes files ≤ maxSize.toNat) := by
  obtain ⟨s, hs, hheld, hmax, hwritten⟩ := initialise_held (held_of_produced hfiles) h records
  refine ⟨s, hs, ?_⟩
  rw [← hmax, ← hwritten]
  refine ⟨fun hall => ?_, fun hle calls => inBounds_of_le hheld hle calls⟩
  by_contra hlt
  obtain ⟨c, hleaves⟩ := leaves_of_lt hheld (Nat.lt_of_not_le hlt)
  exact hleaves (hall [c]).1

theorem filledBytes_folder {s : SizedSerialiser} (h : s.Held) : filledBytes s.folder = s.written := by
  obtain ⟨ms, hholds, -⟩ := h.current
  rw [filledBytes, folder, List.getLast?_concat]
  show (SizedFile.mk s.serialiser.currentMemoryMappingBuffer s.mappedSize).recordBytes = s.written
  exact recordBytes_of_holds hholds

/-- A message of 8000 bytes. -/
def exampleWrite : WriteCall where
  message := List.replicate 8000 0
  length_lt := by
    rw [List.length_replicate]
    decide

theorem exampleSizes (size : UInt64) (hlarge : 4096 ≤ size.toNat)
    (hpages : size.toNat % 4096 = 0) : ValidSizes size false 0 :=
  ⟨hlarge, hpages, fun hkeep => absurd hkeep Bool.false_ne_true⟩

/-- A folder with one file of 8192 bytes and the message in it. -/
theorem exampleFolder : ∃ files, Produced files ∧ filledBytes files = 8025 := by
  obtain ⟨s, hs, hheld, hmax, hwritten⟩ := initialise_held
    (fun file hfile => absurd hfile List.not_mem_nil) (exampleSizes 8192 (by decide) (by decide)) []
  have hnew : s.written = 8 := hwritten
  have hsize : s.maxSize.toNat = 8192 := by
    rw [hmax]
    rfl
  have hlength : exampleWrite.message.length = 8000 := List.length_replicate
  have hle : s.written ≤ s.maxSize.toNat := by omega
  have hroom : s.exceedsFile exampleWrite.message = false := by
    rw [← Bool.not_eq_true, exceedsFile_iff hle]
    omega
  have hinside := inBounds_of_le hheld hle [exampleWrite]
  refine ⟨(s.after [exampleWrite]).folder, .run [exampleWrite] .empty hs hinside, ?_⟩
  rw [filledBytes_folder (hheld.after hinside)]
  show (s.write exampleWrite).1.written = 8025
  rcases s.write_cases exampleWrite with ⟨-, hwrite⟩ | ⟨hexceeds, -⟩
  · rw [hwrite]
    show s.written + 17 + exampleWrite.message.length = 8025
    omega
  · exact absurd (hroom.symm.trans hexceeds) Bool.false_ne_true

/-- The folder is opened with a smaller setting. -/
theorem sizedWrites_iff_folder :
    ∃ files, filledBytes files = 8025 ∧ ∃ s, initialise 4096 false 0 files [] = some s ∧
      ((∀ calls, s.InBounds calls) ↔ filledBytes files ≤ (4096 : UInt64).toNat) := by
  obtain ⟨files, hproduced, hfilled⟩ := exampleFolder
  exact ⟨files, hfilled,
    sizedWrites_iff hproduced (exampleSizes 4096 (by decide) (by decide)) []⟩

theorem sizedWrites_fails :
    ∃ files, Produced files ∧ ∃ s, initialise 4096 false 0 files [] = some s ∧
      ¬ ∀ calls, s.InBounds calls := by
  obtain ⟨files, hproduced, hfilled⟩ := exampleFolder
  obtain ⟨s, hs, hheld, hmax, hwritten⟩ := initialise_held (held_of_produced hproduced)
    (exampleSizes 4096 (by decide) (by decide)) []
  have hsize : s.maxSize.toNat = 4096 := by
    rw [hmax]
    rfl
  obtain ⟨c, hleaves⟩ := leaves_of_lt hheld (by omega)
  exact ⟨files, hproduced, s, hs, fun hall => hleaves (hall [c]).1⟩

end SizedSerialiser

end Llfix
