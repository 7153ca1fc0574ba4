import Llfix.MessageSerialiser

/-!
# The reads of `deserialise`

`deserialise` on a file of any content, with every range of the buffer that it reads. The bounds
are checked behind the reads, and none of the checks covers the bytes of a message.

Results:
1. `runDeserialiseFrom_readable`: on a file whose records can be read the loop is the one of
   `deserialise`.
2. `recordsReadable_of_reads`: a record that cannot be read is read all the same.
3. `deserialise_safe_iff`: when `deserialise` is safe.
4. `deserialise_unsafe`: a file of eight bytes that counts one message is read up to byte 16.
-/

namespace Llfix

open MappedFile

namespace MessageSerialiser

/-- What a call of `deserialise` does: the ranges that it reads (offset and length), the calls of
its callback, and what it returns (the bytes read, and whether all messages were found), or `none`
when an exception leaves it. -/
structure DeserialiseRun where
  reads : List (Nat × Nat) := []
  messages : List SerialisedMessage := []
  result : Option (Nat × Bool) := none

/-- The run goes on behind a message. -/
def DeserialiseRun.behind (run : DeserialiseRun) (reads : List (Nat × Nat))
    (m : SerialisedMessage) : DeserialiseRun :=
  { run with reads := reads ++ run.reads, messages := m :: run.messages }

/-- An addition to `buffer_offset`, a `size_t`. -/
def addOffset (bufferOffset n : Nat) : Nat := (bufferOffset + n) % 2 ^ 64

/-- The loop of `deserialise` over the messages that are left. `reserve` says whether
`std::string::reserve` returns for a length. A byte outside of the buffer may be anything. -/
def runDeserialiseFrom (reserve : Nat → Bool) (buffer : Buffer) (bufferSize : Nat) :
    Nat → Nat → DeserialiseRun
  | 0, offset => { result := some (offset, true) }
  | remaining + 1, offset =>
    let flagOffset := addOffset offset 8
    if bufferSize ≤ flagOffset then
      { reads := [(offset, 8)], result := some (flagOffset, false) }
    else
      let lengthOffset := addOffset flagOffset 1
      if bufferSize ≤ lengthOffset then
        { reads := [(offset, 8), (flagOffset, 1)], result := some (lengthOffset, false) }
      else
        let length := ofLittleEndian (readAt buffer lengthOffset 8)
        let messageOffset := addOffset lengthOffset 8
        let header := [(offset, 8), (flagOffset, 1), (lengthOffset, 8)]
        if reserve length = false then { reads := header }
        else
          let m : SerialisedMessage :=
            { timestamp := ofLittleEndian (readAt buffer offset 8)
              success := buffer flagOffset = 1
              message := readAt buffer messageOffset length
              messageOffset }
          let next := addOffset messageOffset length
          let run : DeserialiseRun :=
            if remaining = 0 then { result := some (next, true) }
            else if bufferSize ≤ next then { result := some (next, false) }
            else runDeserialiseFrom reserve buffer bufferSize remaining next
          run.behind (header ++ [(messageOffset, length)]) m

/-- `deserialise` with its reads. -/
def runDeserialise (reserve : Nat → Bool) (buffer : Buffer) (bufferSize : Nat) : DeserialiseRun :=
  let run :=
    runDeserialiseFrom reserve buffer bufferSize (ofLittleEndian (readAt buffer 0 8)) 8
  { run with reads := (0, 8) :: run.reads }

/-- The call returns, reads inside of the buffer, hands over records inside of the buffer, and says
that all messages were found only when they were. -/
structure DeserialiseSafe (bufferSize messageCount : Nat) (run : DeserialiseRun) : Prop where
  returns : run.result.isSome = true
  reads_inside : ∀ r ∈ run.reads, ∀ i < r.2, r.1 + i < bufferSize
  messages_inside : ∀ m ∈ run.messages,
    17 ≤ m.messageOffset ∧ m.messageOffset + m.message.length ≤ bufferSize
  found : ∀ readBytes, run.result = some (readBytes, true) → run.messages.length = messageCount

/-- The file does not end inside of a number of a header, and no length is more than what is left.
A file that ends behind a timestamp or behind a success flag is recognised as such. -/
def RecordsReadable (buffer : Buffer) (bufferSize : Nat) : Nat → Nat → Prop
  | 0, _ => True
  | remaining + 1, offset =>
    let rest := bufferSize - offset
    let length := ofLittleEndian (readAt buffer (offset + 9) 8)
    rest = 8 ∨ rest = 9 ∨ 17 + length = rest ∨
      17 + length < rest ∧ RecordsReadable buffer bufferSize remaining (offset + 17 + length)

/-! ## Files that can be read -/

theorem addOffset_eq {bufferSize offset n : Nat} (hsize : bufferSize < 2 ^ 64)
    (h : offset + n ≤ bufferSize) : addOffset offset n = offset + n :=
  Nat.mod_eq_of_lt (Nat.lt_of_le_of_lt h hsize)

/-- A range of a positive length lies inside when its end does. -/
theorem range_inside_iff {bufferSize offset n : Nat} (hn : 0 < n) :
    (∀ i < n, offset + i < bufferSize) ↔ offset + n ≤ bufferSize := by
  refine ⟨fun h => ?_, fun h i hi => ?_⟩
  · have hlast := h (n - 1) (by omega)
    omega
  · omega

/-- What the safety of a run asks of its part behind the count. -/
structure RunsInside (bufferSize remaining : Nat) (run : DeserialiseRun) : Prop where
  reads_inside : ∀ r ∈ run.reads, ∀ i < r.2, r.1 + i < bufferSize
  messages_inside : ∀ m ∈ run.messages,
    17 ≤ m.messageOffset ∧ m.messageOffset + m.message.length ≤ bufferSize
  found : ∀ readBytes, run.result = some (readBytes, true) → run.messages.length = remaining

section

variable {reserve : Nat → Bool} {buffer : Buffer} {bufferSize : Nat}

/-- A loop that ends at once. -/
theorem RunsInside.ended {remaining n : Nat} {reads : List (Nat × Nat)}
    (hreads : ∀ r ∈ reads, r.1 + r.2 ≤ bufferSize) :
    RunsInside bufferSize remaining { reads, result := some (n, false) } where
  reads_inside r hr i hi := by
    have hend := hreads r hr
    omega
  messages_inside m hm := absurd hm List.not_mem_nil
  found readBytes hresult := by
    have hfalse := (Prod.mk.inj (Option.some.inj hresult)).2
    exact Bool.noConfusion hfalse

theorem RunsInside.behind {remaining : Nat} {run : DeserialiseRun} {reads : List (Nat × Nat)}
    {m : SerialisedMessage} (hrun : RunsInside bufferSize remaining run)
    (hreads : ∀ r ∈ reads, r.1 + r.2 ≤ bufferSize)
    (hm : 17 ≤ m.messageOffset ∧ m.messageOffset + m.message.length ≤ bufferSize) :
    RunsInside bufferSize (remaining + 1) (run.behind reads m) where
  reads_inside r hr i hi := by
    rcases List.mem_append.mp hr with hr | hr
    · have hend := hreads r hr
      omega
    · exact hrun.reads_inside r hr i hi
  messages_inside m' hm' := by
    rcases List.mem_cons.mp hm' with rfl | hm'
    · exact hm
    · exact hrun.messages_inside m' hm'
  found readBytes hresult := by
    show (m :: run.messages).length = remaining + 1
    rw [List.length_cons, hrun.found readBytes hresult]

/-- On a file whose records can be read, the loop stays inside and does what `deserialise` does. -/
theorem runDeserialiseFrom_readable (hsize : bufferSize < 2 ^ 64)
    (hreserve : ∀ n, n ≤ bufferSize → reserve n = true) {remaining offset : Nat}
    (h : RecordsReadable buffer bufferSize remaining offset) :
    RunsInside bufferSize remaining (runDeserialiseFrom reserve buffer bufferSize remaining offset) ∧
    (runDeserialiseFrom reserve buffer bufferSize remaining offset).messages =
      (deserialiseFrom buffer bufferSize remaining offset).1 ∧
    (runDeserialiseFrom reserve buffer bufferSize remaining offset).result =
      some (deserialiseFrom buffer bufferSize remaining offset).2 := by
  induction remaining generalizing offset with
  | zero =>
    refine ⟨⟨fun r hr => absurd hr List.not_mem_nil, fun m hm => absurd hm List.not_mem_nil,
      fun _ _ => rfl⟩, rfl, rfl⟩
  | succ remaining ih =>
    -- The cases follow the checks of the loop: behind the timestamp, the flag and the message.
    have hflag : offset + 8 ≤ bufferSize := by
      rcases h with h | h | h | h
      · omega
      · omega
      · omega
      · omega
    rw [runDeserialiseFrom, deserialiseFrom, addOffset_eq hsize hflag]
    dsimp only
    by_cases hends : bufferSize ≤ offset + 8
    · rw [if_pos hends, if_pos hends]
      refine ⟨.ended fun r hr => ?_, rfl, rfl⟩
      rw [List.mem_singleton.mp hr]
      exact hflag
    rw [if_neg hends, if_neg hends, addOffset_eq hsize (by omega : offset + 8 + 1 ≤ bufferSize)]
    by_cases hends' : bufferSize ≤ offset + 8 + 1
    · rw [if_pos hends', if_pos hends']
      refine ⟨.ended fun r hr => ?_, rfl, rfl⟩
      rcases List.mem_cons.mp hr with rfl | hr
      · exact hflag
      · rw [List.mem_singleton.mp hr]
        omega
    rw [if_neg hends', if_neg hends']
    have hnine : offset + 8 + 1 = offset + 9 := rfl
    rw [hnine] at hends' ⊢
    obtain ⟨hlength, hnext⟩ : offset + 17 + ofLittleEndian (readAt buffer (offset + 9) 8) ≤
        bufferSize ∧ (offset + 17 + ofLittleEndian (readAt buffer (offset + 9) 8) < bufferSize →
          RecordsReadable buffer bufferSize remaining
            (offset + 17 + ofLittleEndian (readAt buffer (offset + 9) 8))) := by
      rcases h with h | h | h | ⟨hlt, h⟩
      · omega
      · omega
      · refine ⟨by omega, fun hlt => ?_⟩
        omega
      · exact ⟨by omega, fun _ => h⟩
    generalize ofLittleEndian (readAt buffer (offset + 9) 8) = length at hlength hnext ⊢
    have hmessage : offset + 9 + 8 = offset + 17 := rfl
    rw [addOffset_eq hsize (by omega : offset + 9 + 8 ≤ bufferSize), hmessage,
      addOffset_eq hsize hlength, hreserve length (by omega), if_neg Bool.true_eq_false_eq_False]
    have hreads : ∀ r ∈ [(offset, 8), (offset + 8, 1), (offset + 9, 8)] ++ [(offset + 17, length)],
        r.1 + r.2 ≤ bufferSize := by
      intro r hr
      simp only [List.cons_append, List.nil_append, List.mem_cons, List.not_mem_nil, or_false] at hr
      rcases hr with rfl | rfl | rfl | rfl
      · exact hflag
      · omega
      · omega
      · exact hlength
    have hm : ∀ m : SerialisedMessage, m.messageOffset = offset + 17 →
        m.message = readAt buffer (offset + 17) length →
        17 ≤ m.messageOffset ∧ m.messageOffset + m.message.length ≤ bufferSize := by
      intro m hoffset hcontent
      rw [hoffset, hcontent, length_readAt]
      exact ⟨Nat.le_add_left _ _, hlength⟩
    -- The record is inside; what is left is the count of records and the end of the file.
    by_cases hlast : remaining = 0
    · subst hlast
      rw [if_pos rfl, if_pos rfl]
      have hdone : RunsInside bufferSize 0
          { result := some (offset + 17 + length, true) } :=
        ⟨fun r hr => absurd hr List.not_mem_nil, fun m hm => absurd hm List.not_mem_nil,
          fun _ _ => rfl⟩
      exact ⟨hdone.behind hreads (hm _ rfl rfl), rfl, rfl⟩
    rw [if_neg hlast, if_neg hlast]
    by_cases hends'' : bufferSize ≤ offset + 17 + length
    · rw [if_pos hends'', if_pos hends'']
      have hcut : RunsInside bufferSize remaining
          { result := some (offset + 17 + length, false) } :=
        .ended fun r hr => absurd hr List.not_mem_nil
      exact ⟨hcut.behind hreads (hm _ rfl rfl), rfl, rfl⟩
    rw [if_neg hends'', if_neg hends'']
    obtain ⟨hinside, hmessages, hresult⟩ := ih (hnext (by omega))
    refine ⟨hinside.behind hreads (hm _ rfl rfl), ?_, hresult⟩
    show _ :: (runDeserialiseFrom reserve buffer bufferSize remaining _).messages = _
    rw [hmessages]

/-- A record that cannot be read is read all the same, or `reserve` throws. -/
theorem recordsReadable_of_reads (hsize : bufferSize < 2 ^ 64) {remaining offset : Nat}
    (hreturns : (runDeserialiseFrom reserve buffer bufferSize remaining offset).result.isSome = true)
    (hreads : ∀ r ∈ (runDeserialiseFrom reserve buffer bufferSize remaining offset).reads,
      ∀ i < r.2, r.1 + i < bufferSize) :
    RecordsReadable buffer bufferSize remaining offset := by
  induction remaining generalizing offset with
  | zero => trivial
  | succ remaining ih =>
    have hread : ∀ o n, (o, n + 1) ∈
        (runDeserialiseFrom reserve buffer bufferSize (remaining + 1) offset).reads →
        o + (n + 1) ≤ bufferSize :=
      fun o n hmem => (range_inside_iff (Nat.succ_pos n)).mp (hreads _ hmem)
    rw [runDeserialiseFrom] at hreturns hreads hread
    dsimp only at hreturns hreads hread
    -- every branch starts with the timestamp
    have hflag : offset + 8 ≤ bufferSize := by
      refine hread offset 7 ?_
      split_ifs
      · exact List.mem_cons_self
      · exact List.mem_cons_self
      · exact List.mem_cons_self
      · exact List.mem_cons_self
      · exact List.mem_cons_self
      · exact List.mem_cons_self
    rw [addOffset_eq hsize hflag] at hreturns hreads hread
    unfold RecordsReadable
    dsimp only
    by_cases hends : bufferSize ≤ offset + 8
    · exact .inl (by omega)
    rw [if_neg hends, addOffset_eq hsize (by omega : offset + 8 + 1 ≤ bufferSize)]
      at hreturns hreads hread
    by_cases hends' : bufferSize ≤ offset + 8 + 1
    · exact .inr (.inl (by omega))
    have hnine : offset + 8 + 1 = offset + 9 := rfl
    rw [hnine] at hends' hreturns hreads hread
    rw [if_neg hends'] at hreturns hreads hread
    have hlengthRead : offset + 9 + 8 ≤ bufferSize := by
      refine hread (offset + 9) 7 ?_
      split_ifs
      · simp
      · exact List.mem_append_left _ (by simp)
      · exact List.mem_append_left _ (by simp)
      · exact List.mem_append_left _ (by simp)
    have hmessage : offset + 9 + 8 = offset + 17 := rfl
    rw [addOffset_eq hsize hlengthRead, hmessage] at hreturns hreads hread
    rw [hmessage] at hlengthRead
    generalize ofLittleEndian (readAt buffer (offset + 9) 8) = length at hreturns hreads hread ⊢
    cases hreserved : reserve length with
    | false =>
      rw [hreserved, if_pos rfl] at hreturns
      exact Bool.noConfusion hreturns
    | true =>
      rw [hreserved, if_neg Bool.true_eq_false_eq_False] at hreturns hreads hread
      have hlength : offset + 17 + length ≤ bufferSize := by
        cases length with
        | zero => exact hlengthRead
        | succ n => exact hread (offset + 17) n (List.mem_append_left _ (by simp))
      rw [addOffset_eq hsize hlength] at hreturns hreads
      by_cases hends'' : bufferSize ≤ offset + 17 + length
      · exact .inr (.inr (.inl (by omega)))
      refine .inr (.inr (.inr ⟨by omega, ?_⟩))
      by_cases hlast : remaining = 0
      · rw [hlast]
        trivial
      rw [if_neg hlast, if_neg hends''] at hreturns hreads
      exact ih hreturns fun r hr => hreads r (List.mem_append_right _ hr)

theorem runDeserialise_eq (reserve : Nat → Bool) (buffer : Buffer) (bufferSize : Nat) :
    runDeserialise reserve buffer bufferSize =
      { runDeserialiseFrom reserve buffer bufferSize (ofLittleEndian (readAt buffer 0 8)) 8 with
        reads := (0, 8) :: (runDeserialiseFrom reserve buffer bufferSize
          (ofLittleEndian (readAt buffer 0 8)) 8).reads } := rfl

/-- `deserialise` is safe exactly on files whose records can be read, as far as it gets. -/
theorem deserialise_safe_iff (reserve : Nat → Bool) (buffer : Buffer) (bufferSize : UInt64)
    (hsize : 8 ≤ bufferSize.toNat)
    (hreserve : ∀ n, n ≤ bufferSize.toNat → reserve n = true) :
    let count := ofLittleEndian (readAt buffer 0 8)
    DeserialiseSafe bufferSize.toNat count (runDeserialise reserve buffer bufferSize.toNat) ↔
      RecordsReadable buffer bufferSize.toNat count 8 := by
  have hlt : bufferSize.toNat < 2 ^ 64 := bufferSize.toNat_lt
  rw [runDeserialise_eq]
  generalize ofLittleEndian (readAt buffer 0 8) = count
  dsimp only
  refine ⟨fun h => ?_, fun h => ?_⟩
  · exact recordsReadable_of_reads hlt h.returns fun r hr =>
      h.reads_inside r (List.mem_cons_of_mem _ hr)
  · obtain ⟨hinside, -, hresult⟩ := runDeserialiseFrom_readable hlt hreserve h
    refine ⟨?_, fun r hr i hi => ?_, hinside.messages_inside, hinside.found⟩
    · rw [hresult]
      rfl
    · rcases List.mem_cons.mp hr with rfl | hr
      · exact Nat.lt_of_lt_of_le (by omega) hsize
      · exact hinside.reads_inside r hr i hi

end

/-- A file with the messages `8=A` and `9=BC`. -/
def exampleFile : Buffer :=
  writeAt zeros 0 (toLittleEndian 8 2 ++
    (toLittleEndian 8 5 ++ 1 :: (toLittleEndian 8 3 ++ text "8=A")) ++
    (toLittleEndian 8 6 ++ 1 :: (toLittleEndian 8 4 ++ text "9=BC")))

/-- The file is read with strings of up to `2^63 - 1` bytes. -/
theorem deserialise_safe_iff_two :
    DeserialiseSafe 4096 2 (runDeserialise (fun n => n < 2 ^ 63) exampleFile 4096) := by
  have hcount : ofLittleEndian (readAt exampleFile 0 8) = 2 := by decide +kernel
  have hreadable : RecordsReadable exampleFile 4096 2 8 :=
    .inr (.inr (.inr ⟨by decide +kernel, .inr (.inr (.inr ⟨by decide +kernel, trivial⟩))⟩))
  have hsafe := deserialise_safe_iff (fun n => n < 2 ^ 63) exampleFile 4096 (by decide) fun n hn => by
    have hsize : (4096 : UInt64).toNat = 4096 := rfl
    rw [hsize] at hn
    exact decide_eq_true (by omega)
  rw [hcount] at hsafe
  exact hsafe.mpr hreadable

/-- A file of the size of its count says that there is one message: the timestamp is read behind
the end of the file. -/
theorem deserialise_unsafe :
    ¬ DeserialiseSafe 8 1
      (runDeserialise (fun _ => true) (writeAt zeros 0 (toLittleEndian 8 1)) 8) := by
  intro h
  have hmem : (8, 8) ∈
      (runDeserialise (fun _ => true) (writeAt zeros 0 (toLittleEndian 8 1)) 8).reads := by
    decide +kernel
  exact absurd (h.reads_inside _ hmem 0 (by decide)) (by decide)

end MessageSerialiser

end Llfix
