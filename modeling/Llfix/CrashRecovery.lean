import Llfix.SerialisedRuns

/-!
# A write that is cut off

The process may end between any two of the byte stores of a write. What it leaves is a file with
the earlier messages and bytes behind them that the count does not cover. The count itself is
stored last; only between its own bytes, and only when they carry, it reads as a smaller number.

Results:
1. `crash_readable`: after any cut the file is readable, and holds the earlier messages, the
   earlier ones and the new one, or, for a count torn at a carry, the first ones of them only.
2. `crashRecovery`: a restart recovers the earlier messages, and later writes follow them.
3. `crash_torn_count`: 255 messages are lost when the count 256 is torn.
-/

namespace Llfix

open MappedFile MessageSerialiser SerialiserCall

namespace MessageSerialiser

/-- The stores of `write` before the count, when the message goes to the current file. -/
def bodyStores (s : MessageSerialiser) (message : Bytes) (successfulTransmission : Bool)
    (epoch : Nat) : List (UInt8 × Nat) :=
  let written := s.currentMemoryMappingWrittenBytes
  (toLittleEndian 8 epoch).zipIdx written ++
    [if successfulTransmission then 1 else 0].zipIdx (written + 8) ++
    (toLittleEndian 8 message.length).zipIdx (written + 9) ++
    message.zipIdx (written + 17)

/-- All stores of `write`, byte for byte: the timestamp, the flag, the length, the message and the
count. -/
def writeStores (s : MessageSerialiser) (message : Bytes) (successfulTransmission : Bool)
    (epoch : Nat) : List (UInt8 × Nat) :=
  s.bodyStores message successfulTransmission epoch ++
    (toLittleEndian 8 (s.currentMemoryMappingNoOfMessages + 1)).zipIdx 0

/-- The current file after the first `cut` stores of a write. -/
def crashedBuffer (s : MessageSerialiser) (message : Bytes) (successfulTransmission : Bool)
    (epoch cut : Nat) : Buffer :=
  store s.currentMemoryMappingBuffer
    ((s.writeStores message successfulTransmission epoch).take cut)

/-- The number of bytes of the count among the first `cut` stores. -/
def countBytes (message : Bytes) (cut : Nat) : Nat := min 8 (cut - (17 + message.length))

/-- The cut falls between the bytes of the count, behind bytes that carry. -/
def TearsCount (s : MessageSerialiser) (message : Bytes) (cut : Nat) : Prop :=
  0 < countBytes message cut ∧ countBytes message cut < 8 ∧
    (s.currentMemoryMappingNoOfMessages + 1) % 256 ^ countBytes message cut = 0

instance (s : MessageSerialiser) (message : Bytes) (cut : Nat) :
    Decidable (s.TearsCount message cut) :=
  inferInstanceAs (Decidable (_ ∧ _ ∧ _))

section Stores

variable {s : MessageSerialiser} (m : Bytes) (ok : Bool) (k : UInt32) (epoch : Nat)

theorem length_bodyStores : (s.bodyStores m ok epoch).length = 17 + m.length := by
  simp only [bodyStores, List.length_append, List.length_zipIdx, length_toLittleEndian,
    List.length_singleton]

/-- The stores are those of `write`. -/
theorem store_writeStores :
    store s.currentMemoryMappingBuffer (s.writeStores m ok epoch) =
      (s.appendMessage m ok k epoch).currentMemoryMappingBuffer := by
  simp only [writeStores, bodyStores, store_append, store_zipIdx, appendMessage]

theorem bodyStores_behind :
    ∀ st ∈ s.bodyStores m ok epoch, s.currentMemoryMappingWrittenBytes ≤ st.2 := by
  intro st hst
  simp only [bodyStores, List.mem_append] at hst
  rcases hst with ((hst | hst) | hst) | hst
  all_goals
    obtain ⟨hle, -, -⟩ := List.mem_zipIdx (x := st.1) (i := st.2) hst
    omega

end Stores

section Crash

variable {s : MessageSerialiser} (m : Bytes) (ok : Bool) (epoch cut : Nat)

/-- A cut before the count leaves the earlier messages. -/
theorem crashedBuffer_body {ms : List WrittenMessage}
    (h : FileHolds s.serialisedFileMaxSize.toNat s.currentMemoryMappingBuffer ms
      s.currentMemoryMappingWrittenBytes) (hcut : cut ≤ 17 + m.length) :
    FileHolds s.serialisedFileMaxSize.toNat (s.crashedBuffer m ok epoch cut) ms
      s.currentMemoryMappingWrittenBytes := by
  have hle := h.body.le
  have hstores : (s.writeStores m ok epoch).take cut = (s.bodyStores m ok epoch).take cut := by
    rw [writeStores, List.take_append_of_le_length (by rw [length_bodyStores]; exact hcut)]
  have hsame : ∀ offset length, offset + length ≤ s.currentMemoryMappingWrittenBytes →
      readAt (s.crashedBuffer m ok epoch cut) offset length =
        readAt s.currentMemoryMappingBuffer offset length := by
    intro offset length hto
    rw [crashedBuffer, hstores]
    refine readAt_store_disjoint (fun st hst => .inr ?_) _
    exact Nat.le_trans hto (bodyStores_behind m ok epoch st (List.mem_of_mem_take hst))
  refine ⟨?_, h.body.congr fun offset length _ hto => hsame offset length hto, h.fits⟩
  rw [hsame 0 8 (by omega), h.count]

/-- A cut behind the body writes over the first bytes of the count. -/
theorem crashedBuffer_eq (hcut : 17 + m.length ≤ cut) :
    s.crashedBuffer m ok epoch cut =
      writeAt (store s.currentMemoryMappingBuffer (s.bodyStores m ok epoch)) 0
        ((toLittleEndian 8 (s.currentMemoryMappingNoOfMessages + 1)).take (countBytes m cut)) := by
  have hbody := length_bodyStores (s := s) m ok epoch
  rw [crashedBuffer, writeStores, List.take_append, List.take_of_length_le (by omega), hbody,
    store_append, take_zipIdx, store_zipIdx, countBytes]
  rcases Nat.le_total 8 (cut - (17 + m.length)) with hall | hpart
  · rw [Nat.min_eq_left hall, List.take_of_length_le (by rwa [length_toLittleEndian]),
      List.take_of_length_le (by rw [length_toLittleEndian])]
  · rw [Nat.min_eq_right hpart]

/-- The number that the count reads as after the cut. -/
theorem crashedBuffer_count {ms : List WrittenMessage}
    (h : FileHolds s.serialisedFileMaxSize.toNat s.currentMemoryMappingBuffer ms
      s.currentMemoryMappingWrittenBytes) (hcount : s.currentMemoryMappingNoOfMessages = ms.length)
    (hcut : 17 + m.length ≤ cut) :
    ofLittleEndian (readAt (s.crashedBuffer m ok epoch cut) 0 8) =
      if (ms.length + 1) % 256 ^ countBytes m cut = 0 then
        ms.length + 1 - 256 ^ countBytes m cut
      else ms.length + 1 := by
  have hle := h.body.le
  have hfits := h.fits
  have hsize := s.serialisedFileMaxSize.toNat_lt
  have hbytes : countBytes m cut ≤ 8 := Nat.min_le_left _ _
  have hlength : ((toLittleEndian 8 (ms.length + 1)).take (countBytes m cut)).length =
      countBytes m cut := by
    rw [List.length_take, length_toLittleEndian, Nat.min_eq_left hbytes]
  have hold : readAt (store s.currentMemoryMappingBuffer (s.bodyStores m ok epoch)) 0 8 =
      toLittleEndian 8 ms.length := by
    rw [readAt_store_disjoint fun st hst => .inr
      (Nat.le_trans (by omega) (bodyStores_behind m ok epoch st hst))]
    have hread := toLittleEndian_ofLittleEndian (readAt s.currentMemoryMappingBuffer 0 8)
    rw [length_readAt, h.count] at hread
    exact hread.symm
  rw [crashedBuffer_eq m ok epoch cut hcut, hcount,
    readAt_writeAt_front _ _ (by rw [hlength]; exact hbytes), hlength, hold,
    torn_increment hbytes (by norm_num; omega)]

/-- A cut behind the body leaves the earlier messages and the new one, without the count. -/
theorem crashedBuffer_holds {ms : List WrittenMessage}
    (h : FileHolds s.serialisedFileMaxSize.toNat s.currentMemoryMappingBuffer ms
      s.currentMemoryMappingWrittenBytes) (hcount : s.currentMemoryMappingNoOfMessages = ms.length)
    (hroom : s.exceedsFile m = false) (hcut : 17 + m.length ≤ cut) :
    ∃ written, written ≤ s.serialisedFileMaxSize.toNat ∧
      Holds (s.crashedBuffer m ok epoch cut) 8 (ms ++ [⟨m, ok⟩]) written := by
  have hafter := appendMessage_holds m ok 0 epoch h hcount hroom
  refine ⟨_, hafter.fits, hafter.body.congr fun offset length hfrom _ => ?_⟩
  rw [crashedBuffer_eq m ok epoch cut hcut, ← store_writeStores m ok 0 epoch, writeStores,
    store_append, store_zipIdx, readAt_writeAt_disjoint _ (.inr ?_),
    readAt_writeAt_disjoint _ (.inr ?_)]
  · rw [length_toLittleEndian]
    omega
  · rw [List.length_take, length_toLittleEndian]
    omega

/-- What a restart finds in the file after a cut. -/
def recovered (ms : List WrittenMessage) (s : MessageSerialiser) (m : Bytes) (ok : Bool)
    (cut : Nat) : List WrittenMessage :=
  if countBytes m cut = 0 then ms
  else if s.TearsCount m cut then ms.take (ms.length + 1 - 256 ^ countBytes m cut)
  else ms ++ [⟨m, ok⟩]

theorem crash_readable {ms : List WrittenMessage}
    (h : FileHolds s.serialisedFileMaxSize.toNat s.currentMemoryMappingBuffer ms
      s.currentMemoryMappingWrittenBytes) (hcount : s.currentMemoryMappingNoOfMessages = ms.length)
    (hroom : s.exceedsFile m = false) :
    ∃ written, FileHolds s.serialisedFileMaxSize.toNat (s.crashedBuffer m ok epoch cut)
      (recovered ms s m ok cut) written := by
  unfold recovered
  split
  next hnone =>
    rw [countBytes] at hnone
    exact ⟨_, crashedBuffer_body m ok epoch cut h (by omega)⟩
  next hsome =>
    have hcut : 17 + m.length ≤ cut := by
      rw [countBytes] at hsome
      omega
    have hpos : 0 < countBytes m cut := Nat.pos_of_ne_zero hsome
    have hread := crashedBuffer_count m ok epoch cut h hcount hcut
    obtain ⟨written, hfits, hholds⟩ := crashedBuffer_holds m ok epoch cut h hcount hroom hcut
    have hlarge : 256 ≤ 256 ^ countBytes m cut :=
      Nat.le_self_pow hsome 256
    split
    next htorn =>
      obtain ⟨-, -, hcarry⟩ := htorn
      rw [hcount] at hcarry
      rw [if_pos hcarry] at hread
      obtain ⟨written', hle, htake⟩ := hholds.take (ms.length + 1 - 256 ^ countBytes m cut)
      rw [List.take_append_of_le_length (by omega)] at htake
      refine ⟨written', ?_, htake, Nat.le_trans hle hfits⟩
      rw [hread, List.length_take, Nat.min_eq_left (by omega)]
    next hwhole =>
      refine ⟨written, ?_, hholds, hfits⟩
      have hcarry : (ms.length + 1) % 256 ^ countBytes m cut ≠ 0 := by
        intro hzero
        have hle := h.body.le
        have hmax := h.fits
        have hsize := s.serialisedFileMaxSize.toNat_lt
        have hbytes : countBytes m cut ≤ 8 := Nat.min_le_left _ _
        rcases Nat.lt_or_eq_of_le hbytes with hlt | heq
        · exact hwhole ⟨hpos, hlt, by rw [hcount]; exact hzero⟩
        · rw [heq] at hzero
          omega
      rw [hread, if_neg hcarry, List.length_append, List.length_singleton]

end Crash

end MessageSerialiser

/-- What `deserialise` reports of files of the given size, first file first. -/
def report (size : UInt64) (files : List Buffer) : List WrittenMessage :=
  files.flatMap (recordsOf size.toNat)

/-- A restart after a write that was cut off. `initialise` succeeds and finds the earlier messages,
and the new one too as soon as its count is there; what is written then follows them. -/
theorem crashRecovery {size : UInt64} {keep : Bool} {initialSize : Nat} {s₀ s : MessageSerialiser}
    (hinitialise : initialise size keep initialSize [] = some s₀)
    (calls : List SerialiserCall) (hvalid : ∀ call ∈ calls, call.Valid size)
    (hrun : calls.foldlM after s₀ = some s)
    (message : Bytes) (ok : Bool) (epoch cut : Nat) (hroom : s.exceedsFile message = false)
    (hcut : ¬ s.TearsCount message cut)
    (keep' : Bool) (initialSize' : Nat) (hkeep : keep' = true → 0 < initialSize')
    (calls' : List SerialiserCall) (hvalid' : ∀ call ∈ calls', call.Valid size) :
    let found := calls.filterMap written ++
      if countBytes message cut = 0 then [] else [⟨message, ok⟩]
    ∃ s' s'', initialise size keep' initialSize'
        (s.closedFiles ++ [s.crashedBuffer message ok epoch cut]) = some s' ∧
      report size s'.files = found ∧ calls'.foldlM after s' = some s'' ∧
      report size s''.files = found ++ calls'.filterMap written := by
  intro found
  have hsizes := validSizes_of_initialise hinitialise
  rw [initialise_nil hsizes] at hinitialise
  obtain rfl := Option.some.inj hinitialise
  obtain ⟨s₁, hrun₁, hwell, hsize, hrecords⟩ :=
    run_spec hsizes.large hsizes.pages calls (wellFormed_new hsizes) rfl hvalid
  rw [hrun] at hrun₁
  obtain rfl := Option.some.inj hrun₁
  rw [recordsOnDisc_new hsizes, List.nil_append] at hrecords
  -- Up to the crash the files hold what was written; the cut record is whole or not there.
  obtain ⟨ms, hcurrent, hcount⟩ := hwell.current
  obtain ⟨last, hcrashed⟩ := crash_readable message ok epoch cut hcurrent hcount hroom
  have hclosed := hwell.closed
  rw [hsize] at hcrashed hclosed hcurrent
  have hnone : ∀ e ∈ ([] : List (UInt32 × MessageMemoryRecord)),
      Recorded s.closedFiles.length last e.2 := fun e he => absurd he List.not_mem_nil
  have hsizes' : ValidSizes size keep' initialSize' := ⟨hsizes.large, hsizes.pages, hkeep⟩
  obtain ⟨s', hrestart, hwell', hsize', -, hfiles', -⟩ :=
    initialise_concat hsizes' hclosed hcrashed hnone
  have hearlier : calls.filterMap written =
      s.closedFiles.flatMap (recordsOf size.toNat) ++ ms := by
    rw [← hrecords, recordsOnDisc, files, hsize, List.flatMap_append, List.flatMap_singleton,
      recordsOf_of_holds hcurrent]
  have hfound' : s'.recordsOnDisc = found := by
    rw [recordsOnDisc, hfiles', hsize', List.flatMap_append, List.flatMap_singleton,
      recordsOf_of_holds hcrashed, recovered]
    show _ = calls.filterMap written ++ _
    rw [hearlier, List.append_assoc]
    split
    · rw [List.append_nil]
    · rfl
  obtain ⟨s'', hrun'', -, hsize'', hrecords''⟩ :=
    run_spec hsizes.large hsizes.pages calls' hwell' hsize' hvalid'
  refine ⟨s', s'', hrestart, ?_, hrun'', ?_⟩
  · rw [← hfound', recordsOnDisc, hsize']
    rfl
  · rw [← hfound', ← hrecords'', recordsOnDisc, hsize'']
    rfl

/-- A serialiser on an empty folder. -/
def emptySerialiser (size : UInt64) : MessageSerialiser :=
  { keepMessageRecordsInMemory := false, serialisedFileMaxSize := size }

/-- The second message is cut off in its length; a third one follows the first. -/
theorem crashRecovery_length :
    ∃ s' s'', initialise 4096 true 1
        [((emptySerialiser 4096).write (text "34=1") true 1 0).crashedBuffer (text "34=2") true 0
          10] = some s' ∧
      report 4096 s'.files = [⟨text "34=1", true⟩] ∧
      [SerialiserCall.write (text "34=3") false 2 0].foldlM after s' = some s'' ∧
      report 4096 s''.files = [⟨text "34=1", true⟩, ⟨text "34=3", false⟩] := by
  have hsizes : ValidSizes 4096 false 0 := ⟨by decide, by decide, nofun⟩
  refine crashRecovery (initialise_nil hsizes) [.write (text "34=1") true 1 0] ?_ rfl
    (text "34=2") true 0 10 (by decide +kernel) (by decide +kernel) true 1 (fun _ => Nat.one_pos)
    [.write (text "34=3") false 2 0] ?_
  · intro call hcall
    obtain rfl := List.mem_singleton.mp hcall
    exact Nat.le_of_ble_eq_true rfl
  · intro call hcall
    obtain rfl := List.mem_singleton.mp hcall
    exact Nat.le_of_ble_eq_true rfl

/-! ## A torn count -/

/-- Messages of four bytes, as long as they fit into the first file. -/
theorem replicate_write (n : Nat) (hfits : 8 + 21 * n ≤ 8192) :
    ∃ s, (List.replicate n (SerialiserCall.write (text "34=1") true 1 0)).foldlM after
        (emptySerialiser 8192) = some s ∧ s.WellFormed ∧
      s.serialisedFileMaxSize = 8192 ∧ s.closedFiles = [] ∧
      s.currentMemoryMappingWrittenBytes = 8 + 21 * n ∧
      s.currentMemoryMappingNoOfMessages = n := by
  induction n with
  | zero =>
    have hsizes : ValidSizes 8192 false 0 := ⟨by decide, by decide, nofun⟩
    exact ⟨_, rfl, wellFormed_new hsizes, rfl, rfl, rfl, rfl⟩
  | succ n ih =>
    obtain ⟨s, hrun, hwell, hsize, hclosed, hwritten, hcount⟩ := ih (by omega)
    have hroom : s.exceedsFile (text "34=1") = false := by
      refine decide_eq_false ?_
      rw [hsize, hwritten]
      show ¬ 8192 - (8 + 21 * n) < 4 + 17
      omega
    refine ⟨s.appendMessage (text "34=1") true 1 0, ?_,
      hwell.appendMessage (text "34=1") true 1 0 hroom, hsize, hclosed, ?_, ?_⟩
    · rw [List.replicate_succ', List.foldlM_append, hrun]
      show (some (s.write (text "34=1") true 1 0) >>= fun s' => some s') = _
      rw [MessageSerialiser.write, hroom]
      rfl
    · show s.currentMemoryMappingWrittenBytes + 17 + 4 = _
      rw [hwritten]
      omega
    · show s.currentMemoryMappingNoOfMessages + 1 = _
      rw [hcount]

/-- A file of 255 messages. Behind the first byte of the count 256 the count reads as zero. -/
theorem torn_at_256 {s : MessageSerialiser} (hwell : s.WellFormed)
    (hsize : s.serialisedFileMaxSize = 8192) (hclosed : s.closedFiles = [])
    (hcount : s.currentMemoryMappingNoOfMessages = 255)
    (hroom : s.exceedsFile (text "34=1") = false) :
    ∃ s', initialise 8192 true 1
        (s.closedFiles ++ [s.crashedBuffer (text "34=1") true 0 22]) = some s' ∧
      report 8192 s'.files = [] := by
  obtain ⟨ms, hcurrent, hlength⟩ := hwell.current
  obtain ⟨last, hcrashed⟩ := crash_readable (text "34=1") true 0 22 hcurrent hlength hroom
  have hbytes : countBytes (text "34=1") 22 = 1 := by decide
  have hcarry : s.TearsCount (text "34=1") 22 := by
    rw [TearsCount, hbytes, hcount]
    decide
  have hnone : recovered ms s (text "34=1") true 22 = [] := by
    rw [recovered, if_pos hcarry, hbytes, ← hlength, hcount]
    rfl
  rw [hnone, hsize] at hcrashed
  have hsizes : ValidSizes 8192 true 1 := ⟨by decide, by decide, fun _ => Nat.one_pos⟩
  obtain ⟨s', hrestart, -, hsize', -, hfiles, -⟩ := initialise_concat hsizes
    (fun buffer hmem => absurd hmem List.not_mem_nil) hcrashed
    (fun e (he : e ∈ ([] : List (UInt32 × MessageMemoryRecord))) => absurd he List.not_mem_nil)
  refine ⟨s', by rw [hclosed]; exact hrestart, ?_⟩
  rw [report, hfiles, List.nil_append, List.flatMap_singleton, recordsOf_of_holds hcrashed]

/-- When the next write to a file of 255 messages is cut off behind the first byte of the count, a
restart finds none of them. -/
theorem crash_torn_count :
    ∃ s s', (List.replicate 255 (SerialiserCall.write (text "34=1") true 1 0)).foldlM after
        (emptySerialiser 8192) = some s ∧
      s.exceedsFile (text "34=1") = false ∧
      initialise 8192 true 1 (s.closedFiles ++ [s.crashedBuffer (text "34=1") true 0 22]) =
        some s' ∧
      report 8192 s'.files = [] := by
  obtain ⟨s, hrun, hwell, hsize, hclosed, hwritten, hcount⟩ := replicate_write 255 (by decide)
  have hroom : s.exceedsFile (text "34=1") = false := by
    refine decide_eq_false ?_
    rw [hsize, hwritten]
    decide
  obtain ⟨s', hrestart, hreport⟩ := torn_at_256 hwell hsize hclosed hcount hroom
  exact ⟨s, s', hrun, hroom, hrestart, hreport⟩

end Llfix
