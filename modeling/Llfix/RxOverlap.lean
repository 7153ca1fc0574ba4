import Llfix.RxBounds

/-!
# Copies of the incomplete buffer onto itself

When bytes were retained before, the parser works in the incomplete buffer itself, and what it
retains next is moved to the front of the same buffer with `memcpy`. The only guard compares the
two pointers: the ranges overlap whenever the rest is longer than what stands before it.

Results:
1. `MovesRest.disjoint_iff`: the condition, for any server that moves its rest to the front.
2. `copies_disjoint_iff`: the condition for the engines and for the management server.
3. `copies_overlap`: two reads after which the ranges overlap.
-/

namespace Llfix

open GuardedRun

/-- The source and the destination of the copy have no byte in common. The receive buffer is a
block of its own. -/
def BufferCopy.Disjoint (copy : BufferCopy) : Prop :=
  ∀ source, copy.source = some source →
    source + copy.length ≤ copy.destination ∨ copy.destination + copy.length ≤ source

/-- Every copy so far was between disjoint ranges. -/
def RxConnection.CopiesDisjoint (c : RxConnection) : Prop := ∀ copy ∈ c.copies, copy.Disjoint

/-- Of `length` bytes the ones from `start` on are all of them, or at most as many as stand before
them. -/
def MovesApart (length start : Nat) : Prop := start = 0 ∨ length - start ≤ start

instance (length start : Nat) : Decidable (MovesApart length start) :=
  inferInstanceAs (Decidable (_ ∨ _))

/-! ## Any server -/

/-- The condition on a read, when `restStart` says where the rest of the bytes starts that a server
leaves: bytes that are parsed in the incomplete buffer are moved apart. -/
def KeepsApart (restStart : Read → Bytes → Option Nat) (c : RxConnection) (read : Read) : Prop :=
  c.reads read.received = true → c.incomplete ≠ [] →
    ∀ start, restStart read (c.incomplete ++ read.received) = some start →
      MovesApart (c.incomplete.length + read.received.length) start

/-- The assumptions on a server: a read copies what it has received behind what was retained, and
then only moves its rest to the front. -/
structure MovesRest (afterRead : RxConnection → Read → RxConnection)
    (restStart : Read → Bytes → Option Nat) : Prop where
  unread : ∀ c read, c.reads read.received = false → afterRead c read = c
  copies : ∀ c read, c.reads read.received = true → (afterRead c read).copies =
    match restStart read (c.incomplete ++ read.received) with
    | none => (c.getRxBuffer read.received).1.copies
    | some start => ((c.getRxBuffer read.received).1.setIncompleteBuffer
        (c.getRxBuffer read.received).2 start).copies

namespace RxConnection

variable {c : RxConnection} {received : Bytes}

/-- Copies out of the receive buffer are never in question. -/
theorem getRxBuffer_copiesDisjoint :
    (c.getRxBuffer received).1.CopiesDisjoint ↔ c.CopiesDisjoint := by
  unfold getRxBuffer
  split
  · exact Iff.rfl
  · refine ⟨fun h copy hmem => h copy (List.mem_append_left _ hmem), fun h copy hmem => ?_⟩
    rcases List.mem_append.mp hmem with hmem | hmem
    · exact h copy hmem
    · obtain rfl := List.mem_singleton.mp hmem
      exact fun source hsource => nomatch hsource

theorem setIncompleteBuffer_copiesDisjoint {buffer : RxBuffer} {start : Nat} :
    (c.setIncompleteBuffer buffer start).CopiesDisjoint ↔
      c.CopiesDisjoint ∧
        (buffer.inIncomplete = true → MovesApart buffer.bytes.length start) := by
  unfold setIncompleteBuffer CopiesDisjoint
  dsimp only
  cases hin : buffer.inIncomplete with
  | false =>
    rw [if_neg (by simp)]
    refine ⟨fun h => ⟨fun copy hmem => h copy (List.mem_append_left _ hmem), nofun⟩, ?_⟩
    rintro ⟨h, -⟩ copy hmem
    rcases List.mem_append.mp hmem with hmem | hmem
    · exact h copy hmem
    · obtain rfl := List.mem_singleton.mp hmem
      exact fun source hsource => nomatch hsource
  | true =>
    cases start with
    | zero => exact ⟨fun h => ⟨h, fun _ => .inl rfl⟩, fun h => h.1⟩
    | succ start =>
      rw [if_neg (by simp)]
      have hmoved : BufferCopy.Disjoint
          ⟨0, (buffer.bytes.drop (start + 1)).length, some (start + 1)⟩ ↔
            MovesApart buffer.bytes.length (start + 1) := by
        rw [List.length_drop]
        constructor
        · intro h
          rcases h (start + 1) rfl with hbefore | hbehind
          · dsimp only at hbefore
            omega
          · dsimp only at hbehind
            exact .inr (by omega)
        · rintro (hzero | hapart) source hsource
          · cases hzero
          · obtain rfl := Option.some.inj hsource
            refine .inr ?_
            dsimp only
            omega
      constructor
      · intro h
        exact ⟨fun copy hmem => h copy (List.mem_append_left _ hmem),
          fun _ => hmoved.mp (h _ (List.mem_append_right _ List.mem_cons_self))⟩
      · rintro ⟨h, hapart⟩ copy hmem
        rcases List.mem_append.mp hmem with hmem | hmem
        · exact h copy hmem
        · obtain rfl := List.mem_singleton.mp hmem
          exact hmoved.mpr (hapart rfl)

theorem getRxBuffer_inIncomplete :
    (c.getRxBuffer received).2.inIncomplete = true ↔ c.incomplete ≠ [] := by
  unfold getRxBuffer
  split
  next hzero => exact iff_of_false Bool.false_ne_true (not_not.mpr (List.length_eq_zero_iff.mp hzero))
  next hlength => exact iff_of_true rfl fun hnil => hlength (by rw [hnil]; rfl)

end RxConnection

namespace MovesRest

variable {afterRead : RxConnection → Read → RxConnection} {restStart : Read → Bytes → Option Nat}

/-- One read. -/
theorem afterRead_copiesDisjoint (server : MovesRest afterRead restStart) (c : RxConnection)
    (read : Read) :
    (afterRead c read).CopiesDisjoint ↔ c.CopiesDisjoint ∧ KeepsApart restStart c read := by
  unfold KeepsApart
  cases hreads : c.reads read.received with
  | false =>
    rw [server.unread c read hreads]
    exact ⟨fun h => ⟨h, nofun⟩, fun h => h.1⟩
  | true =>
    rw [RxConnection.CopiesDisjoint, server.copies c read hreads]
    have hlength : (c.getRxBuffer read.received).2.bytes.length =
        c.incomplete.length + read.received.length := by
      rw [c.getRxBuffer_bytes, List.length_append]
    cases restStart read (c.incomplete ++ read.received) with
    | none =>
      refine RxConnection.getRxBuffer_copiesDisjoint.trans ⟨fun h => ⟨h, ?_⟩, fun h => h.1⟩
      exact fun _ _ start hstart => nomatch hstart
    | some start =>
      refine RxConnection.setIncompleteBuffer_copiesDisjoint.trans ?_
      rw [RxConnection.getRxBuffer_copiesDisjoint, RxConnection.getRxBuffer_inIncomplete, hlength]
      refine and_congr_right fun _ => ⟨fun h _ hne start' hstart => ?_, fun h hne => ?_⟩
      · obtain rfl := Option.some.inj hstart
        exact h hne
      · exact h rfl hne start rfl

/-- Along the reads of a new connection every copy is between disjoint ranges exactly when every
read moves its rest apart. -/
theorem disjoint_iff (server : MovesRest afterRead restStart) (capacity : Nat)
    (reads : List Read) :
    (run afterRead { rxBufferCapacity := capacity } reads).CopiesDisjoint ↔
      Guarded afterRead (KeepsApart restStart) { rxBufferCapacity := capacity } reads := by
  refine holds_run_iff (fun _ => True) (fun _ _ _ => trivial) (fun c read _ h => ?_)
    (fun c read _ hdisjoint => ?_) reads trivial fun copy hmem => absurd hmem List.not_mem_nil
  · exact ((server.afterRead_copiesDisjoint c read).mp h).1
  · rw [server.afterRead_copiesDisjoint c read]
    exact ⟨fun h => h.2, fun h => ⟨hdisjoint, h⟩⟩

end MovesRest

/-! ## The FIX engines and the management server -/

/-- Where the rest starts that an engine leaves, if no message disconnects and there is one: at the
message that is not complete yet, while a `10=` is ahead, or else behind the last message. -/
def engineRestStart (read : Read) (bytes : Bytes) : Option Nat :=
  let rest := behindMessages bytes
  if !staysOpen read.disconnects [] (completeMessages bytes) || rest = [] then none
  else if holdsChecksum rest then
    (findBeginStringPosition rest).map (bytes.length - rest.length + ·)
  else some (bytes.length - rest.length)

/-- Behind the last delimiter, when something stands there. -/
def managementRestStart (_ : Read) (bytes : Bytes) : Option Nat :=
  let rest := ManagementServer.behindDelimiters bytes
  if rest = [] then none else some (bytes.length - rest.length)

/-- Where an engine starts again, by the exit of its loop. -/
theorem engineRestStart_of_leaves {read : Read} {bytes : Bytes} (hne : bytes ≠ [])
    {result : List Bytes × RxExit} (h : LeavesFrom read.disconnects bytes [] 0 result) :
    engineRestStart read bytes =
      match result.2 with
      | .noBeginString => none
      | .incompleteMessage offset => some offset
      | .disconnected => none
      | .atEnd => none
      | .remainder offset => some offset := by
  unfold engineRestStart
  dsimp only
  -- A connection that is closed keeps nothing; otherwise each exit is what its bytes say.
  by_cases hexit : result.2 = .disconnected
  · have hopen := mt h.staysOpen_iff.mp (not_not.mpr hexit)
    rw [hexit, Bool.eq_false_iff.mpr hopen]
    rfl
  have hopen := h.staysOpen_iff.mpr hexit
  obtain ⟨-, -, hleaves⟩ := h.eq_completeMessages hexit
  rw [hopen]
  cases hresult : result.2 with
  | noBeginString =>
    rw [hresult] at hleaves
    rw [hleaves.1, hleaves.2]
    simp
  | incompleteMessage offset =>
    rw [hresult] at hleaves
    obtain ⟨hoffset, hdrop, hsome, hchecksum, -⟩ := hleaves
    obtain ⟨o, ho⟩ := Option.isSome_iff_exists.mp hsome
    obtain ⟨⟨t, ht⟩, -⟩ := findBeginStringPosition_some ho
    have hlength := congrArg List.length hdrop
    have hbegin := congrArg List.length ht
    have hsuffix : (behindMessages bytes).length ≤ bytes.length :=
      (restAfter_suffix _ _).length_le
    rw [skipToBeginString_of_some ho] at hlength
    simp only [List.length_drop, List.length_cons] at hlength hbegin
    have hrest : behindMessages bytes ≠ [] := by
      intro hnil
      rw [hnil] at hbegin
      simp at hbegin
    simp only [hchecksum, ho, hrest, Bool.not_true, decide_false, Bool.or_self, Bool.false_eq_true,
      ↓reduceIte, Option.map_some, Option.some.injEq]
    omega
  | disconnected => exact absurd hresult hexit
  | atEnd =>
    rw [hresult] at hleaves
    have hrest : behindMessages bytes = [] := hleaves
    rw [hrest]
    rfl
  | remainder offset =>
    rw [hresult] at hleaves
    obtain ⟨hoffset, hdrop, hchecksum⟩ := hleaves
    have hpos := List.length_pos_iff.mpr hne
    have hlength := congrArg List.length hdrop
    rw [List.length_drop] at hlength
    have hrest : behindMessages bytes ≠ [] := by
      rw [← List.length_pos_iff]
      omega
    simp only [hchecksum, hrest, Bool.not_true, decide_false, Bool.or_self, Bool.false_eq_true,
      ↓reduceIte, Option.some.injEq]
    omega

theorem RxConnection.movesRest : MovesRest RxConnection.afterRead engineRestStart where
  unread c read h := by rw [afterRead, onDataReady, h]; rfl
  copies c read hreads := by
    have hne : c.incomplete ++ read.received ≠ [] := by
      simp only [reads, Bool.and_eq_true, decide_eq_true_eq] at hreads
      rw [← List.length_pos_iff, List.length_append]
      omega
    rw [afterRead_of_reads hreads, receive_connection,
      engineRestStart_of_leaves hne (c.receive_leaves read.disconnects read.received)]
    cases (c.receive read.disconnects read.received).2.2 <;> rfl

/-- The command loop leaves what stands behind the last delimiter. -/
theorem ManagementServer.commandLoop_behindDelimiters (bytes : Bytes) :
    (commandLoop bytes bytes 0 0).2 = bytes.length - (behindDelimiters bytes).length := by
  rw [commandLoop_readIndex]
  split_ifs with hmem
  · rw [Nat.zero_add]
  · rw [behindDelimiters_of_not_mem hmem, Nat.sub_self]

theorem ManagementServer.movesRest :
    MovesRest ManagementServer.afterRead managementRestStart where
  unread c read h := by rw [afterRead, onDataReady, h]; rfl
  copies c read hreads := by
    have hle := behindDelimiters_length_le (c.incomplete ++ read.received)
    rw [afterRead_of_reads hreads]
    unfold processRxBuffer managementRestStart
    rw [c.getRxBuffer_bytes]
    dsimp only
    rw [commandLoop_behindDelimiters, Nat.sub_sub_self hle]
    by_cases hrest : behindDelimiters (c.incomplete ++ read.received) = []
    · rw [if_pos hrest, hrest]
      rfl
    · rw [if_neg hrest, if_pos (List.length_pos_iff.mpr hrest)]

/-- Retaining a rest never copies a range onto itself exactly when every read that finds retained
bytes leaves all bytes as they are or has at least as many bytes before its rest as in it. -/
theorem copies_disjoint_iff (capacity : Nat) (reads : List Read) :
    ((run RxConnection.afterRead { rxBufferCapacity := capacity } reads).CopiesDisjoint ↔
      Guarded RxConnection.afterRead (KeepsApart engineRestStart)
        { rxBufferCapacity := capacity } reads) ∧
    ((run ManagementServer.afterRead { rxBufferCapacity := capacity } reads).CopiesDisjoint ↔
      Guarded ManagementServer.afterRead (KeepsApart managementRestStart)
        { rxBufferCapacity := capacity } reads) :=
  ⟨RxConnection.movesRest.disjoint_iff capacity reads,
    ManagementServer.movesRest.disjoint_iff capacity reads⟩

/-- The begin of a message, then its end and a longer begin of the next one. -/
def overlappingReads : List Read :=
  [{ received := text "8=A\x01" }, { received := text "10=5\x018=BBBBBBBBBBBBBBBB" }]

/-- The begin of a command, then its end and a longer begin of the next one. -/
def overlappingCommands : List Read := [{ received := text "a" }, { received := text "|bbbb" }]

theorem copies_overlap :
    ¬ (run RxConnection.afterRead { rxBufferCapacity := 64 } overlappingReads).CopiesDisjoint ∧
    ¬ (run ManagementServer.afterRead { rxBufferCapacity := 64 }
        overlappingCommands).CopiesDisjoint := by
  constructor
  · intro h
    have hcopies : ⟨0, 18, some 9⟩ ∈
        (run RxConnection.afterRead { rxBufferCapacity := 64 } overlappingReads).copies := by
      decide +kernel
    exact absurd (h _ hcopies 9 rfl) (by decide)
  · intro h
    have hcopies : ⟨0, 4, some 2⟩ ∈
        (run ManagementServer.afterRead { rxBufferCapacity := 64 } overlappingCommands).copies := by
      decide +kernel
    exact absurd (h _ hcopies 2 rfl) (by decide)

end Llfix
