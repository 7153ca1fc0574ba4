import Llfix.RxRemainder
import Llfix.Lib.GuardedRun

/-!
# The bound of the incomplete buffer

The incomplete buffer holds twice the capacity of the receive buffer. Nothing in the receive path
compares the retained bytes with it: an engine retains what the peer has sent since its last
message, the management server what it has sent since the last delimiter, however much that is.

Results:
1. `RetainsUnfinished.neverOverruns`: the bound, for any server that retains no more than what is
   unfinished.
2. `rxBuffers_inBounds`: the bound for the engines and for the management server, while the peer
   never has more than twice the capacity unfinished.
-/

namespace Llfix

open GuardedRun

/-- A read: the bytes it delivers, and which of the messages in them lead to a disconnect. -/
structure Read where
  received : Bytes
  disconnects : List Bytes → Bool := fun _ => false

/-- A connection after a read of one of the FIX engines. -/
def RxConnection.afterRead (c : RxConnection) (read : Read) : RxConnection :=
  (c.onDataReady read.disconnects read.received).1

/-- A connection after a read of the management server. -/
def ManagementServer.afterRead (c : RxConnection) (read : Read) : RxConnection :=
  (ManagementServer.onDataReady c read.received).1

/-! ## The copies of a read -/

/-- The copy stays within the incomplete buffer, on both sides. -/
def BufferCopy.InBounds (capacity : Nat) (copy : BufferCopy) : Prop :=
  copy.destination + copy.length ≤ 2 * capacity ∧
    ∀ source, copy.source = some source → source + copy.length ≤ 2 * capacity

namespace RxConnection

/-- The retained and the received bytes fit into the incomplete buffer, when the read is
processed. -/
def FitsBuffer (c : RxConnection) (read : Read) : Prop :=
  c.reads read.received = true →
    c.incomplete.length + read.received.length ≤ 2 * c.rxBufferCapacity

instance (c : RxConnection) (read : Read) : Decidable (c.FitsBuffer read) :=
  inferInstanceAs (Decidable (_ → _))

/-- Every copy so far has stayed within the buffer. -/
def CopiesInBounds (c : RxConnection) : Prop :=
  ∀ copy ∈ c.copies, copy.InBounds c.rxBufferCapacity

variable {c : RxConnection} {received : Bytes}

theorem getRxBuffer_copies (hcopies : c.CopiesInBounds)
    (hfits : c.incomplete.length + received.length ≤ 2 * c.rxBufferCapacity) :
    (c.getRxBuffer received).1.CopiesInBounds := by
  unfold getRxBuffer
  split_ifs
  · exact hcopies
  · intro copy hmem
    rcases List.mem_append.mp hmem with hmem | hmem
    · exact hcopies copy hmem
    · obtain rfl := List.mem_singleton.mp hmem
      exact ⟨hfits, fun source hsource => nomatch hsource⟩

theorem retainingCopy_inBounds {capacity offset : Nat} {buffer : RxBuffer}
    (hoffset : offset ≤ buffer.bytes.length) (hfits : buffer.bytes.length ≤ 2 * capacity) :
    BufferCopy.InBounds capacity
      ⟨0, (buffer.bytes.drop offset).length, if buffer.inIncomplete then some offset else none⟩ := by
  have hlength := List.length_drop (i := offset) (l := buffer.bytes)
  constructor
  · show 0 + (buffer.bytes.drop offset).length ≤ 2 * capacity
    omega
  · intro source hsource
    show source + (buffer.bytes.drop offset).length ≤ 2 * capacity
    simp only [Option.ite_none_right_eq_some, Option.some.injEq] at hsource
    omega

theorem setIncompleteBuffer_copies {buffer : RxBuffer} {offset : Nat}
    (hcopies : c.CopiesInBounds) (hoffset : offset ≤ buffer.bytes.length)
    (hfits : buffer.bytes.length ≤ 2 * c.rxBufferCapacity) :
    (c.setIncompleteBuffer buffer offset).CopiesInBounds := by
  intro copy hmem
  unfold setIncompleteBuffer at hmem
  dsimp only at hmem
  split at hmem
  · exact hcopies copy hmem
  · rcases List.mem_append.mp hmem with hmem | hmem
    · exact hcopies copy hmem
    · obtain rfl := List.mem_singleton.mp hmem
      exact retainingCopy_inBounds hoffset hfits

@[simp] theorem setIncompleteBuffer_rxBufferCapacity (buffer : RxBuffer) (offset : Nat) :
    (c.setIncompleteBuffer buffer offset).rxBufferCapacity = c.rxBufferCapacity := rfl

end RxConnection

/-! ## Reads in general -/

/-- Along the reads of a new connection every copy stays within the incomplete buffer, and at each
of them the retained and the received bytes fit into it. -/
def NeverOverruns (afterRead : RxConnection → Read → RxConnection) (capacity : Nat)
    (reads : List Read) : Prop :=
  Guarded afterRead RxConnection.FitsBuffer { rxBufferCapacity := capacity } reads ∧
    (run afterRead { rxBufferCapacity := capacity } reads).CopiesInBounds

/-- A connection with the number of bytes that are unfinished on it. -/
structure TrackedConnection where
  connection : RxConnection
  unfinished : Nat

namespace TrackedConnection

/-- A processed read leaves no more than twice the capacity unfinished, before anything in it is
finished. -/
def Fits (t : TrackedConnection) (read : Read) : Prop :=
  t.connection.reads read.received = true →
    t.unfinished + read.received.length ≤ 2 * t.connection.rxBufferCapacity

instance (t : TrackedConnection) (read : Read) : Decidable (t.Fits read) :=
  inferInstanceAs (Decidable (_ → _))

/-- The next state, when `unfinishedAfter` says what a processed read leaves unfinished. -/
def next (afterRead : RxConnection → Read → RxConnection)
    (unfinishedAfter : RxConnection → Nat → Read → Nat) (t : TrackedConnection) (read : Read) :
    TrackedConnection :=
  { connection := afterRead t.connection read
    unfinished :=
      if t.connection.reads read.received then unfinishedAfter t.connection t.unfinished read
      else t.unfinished }

end TrackedConnection

/-- The assumptions on a server: what one read does to the connection. -/
structure RetainsUnfinished (afterRead : RxConnection → Read → RxConnection)
    (unfinishedAfter : RxConnection → Nat → Read → Nat) : Prop where
  unread : ∀ c read, c.reads read.received = false → afterRead c read = c
  capacity : ∀ c read, (afterRead c read).rxBufferCapacity = c.rxBufferCapacity
  copies : ∀ c read, c.CopiesInBounds →
    c.incomplete.length + read.received.length ≤ 2 * c.rxBufferCapacity →
    (afterRead c read).CopiesInBounds
  retained : ∀ c u read, c.reads read.received = true → c.incomplete.length ≤ u →
    (afterRead c read).isOpen = true →
    (afterRead c read).incomplete.length ≤ unfinishedAfter c u read

namespace RetainsUnfinished

variable {afterRead : RxConnection → Read → RxConnection}
  {unfinishedAfter : RxConnection → Nat → Read → Nat}

/-- On an open connection no more is retained than is unfinished. -/
def Bounded (t : TrackedConnection) : Prop :=
  t.connection.CopiesInBounds ∧
    (t.connection.isOpen = true → t.connection.incomplete.length ≤ t.unfinished)

theorem fitsBuffer {t : TrackedConnection} {read : Read} (hbounded : Bounded t)
    (hfits : t.Fits read) : t.connection.FitsBuffer read := by
  intro hreads
  have hopen : t.connection.isOpen = true := by
    simp only [RxConnection.reads, Bool.and_eq_true] at hreads
    exact hreads.1.1
  have hretained := hbounded.2 hopen
  have hread := hfits hreads
  omega

theorem next_bounded (server : RetainsUnfinished afterRead unfinishedAfter)
    (t : TrackedConnection) (read : Read) (hbounded : Bounded t) (hfits : t.Fits read) :
    Bounded (t.next afterRead unfinishedAfter read) := by
  unfold TrackedConnection.next
  cases hreads : t.connection.reads read.received with
  | false =>
    rw [server.unread _ _ hreads]
    exact hbounded
  | true =>
    refine ⟨server.copies _ _ hbounded.1 (fitsBuffer hbounded hfits hreads), fun hopen => ?_⟩
    refine server.retained _ _ _ hreads (hbounded.2 ?_) hopen
    simp only [RxConnection.reads, Bool.and_eq_true] at hreads
    exact hreads.1.1

/-- While no more than twice the capacity is left unfinished, the buffer is never overrun. -/
theorem neverOverruns (server : RetainsUnfinished afterRead unfinishedAfter) (capacity : Nat)
    (reads : List Read)
    (h : Guarded (TrackedConnection.next afterRead unfinishedAfter) TrackedConnection.Fits
      ⟨{ rxBufferCapacity := capacity }, 0⟩ reads) : NeverOverruns afterRead capacity reads := by
  suffices ∀ t : TrackedConnection, Bounded t →
      Guarded (TrackedConnection.next afterRead unfinishedAfter) TrackedConnection.Fits t reads →
      Guarded afterRead RxConnection.FitsBuffer t.connection reads ∧
        (run afterRead t.connection reads).CopiesInBounds from
    this ⟨{ rxBufferCapacity := capacity }, 0⟩
      ⟨fun copy hmem => absurd hmem List.not_mem_nil, fun _ => Nat.le_refl 0⟩ h
  clear h
  intro t hbounded h
  induction reads generalizing t with
  | nil => exact ⟨trivial, hbounded.1⟩
  | cons read reads ih =>
    obtain ⟨hfits, hrest⟩ := h
    obtain ⟨hguarded, hcopies⟩ := ih _ (next_bounded server t read hbounded hfits) hrest
    exact ⟨⟨fitsBuffer hbounded hfits, hguarded⟩, hcopies⟩

end RetainsUnfinished

/-! ## The FIX engines -/

namespace RxConnection

/-- What a processed read leaves unfinished: the bytes behind the complete messages; all bytes when
there is no complete message, and when the scan of them runs out of begin strings. -/
def unfinishedAfter (c : RxConnection) (unfinished : Nat) (read : Read) : Nat :=
  let bytes := c.incomplete ++ read.received
  if completeMessages bytes = [] ∨ runsOut bytes = true then unfinished + read.received.length
  else (behindMessages bytes).length

theorem afterRead_of_reads {c : RxConnection} {read : Read} (h : c.reads read.received = true) :
    c.afterRead read = (c.receive read.disconnects read.received).1 := by
  rw [afterRead, onDataReady, if_pos h]

theorem leave_rxBufferCapacity (c : RxConnection) (buffer : RxBuffer) (exit : RxExit) :
    (c.leave buffer exit).rxBufferCapacity = c.rxBufferCapacity := by
  cases exit <;> rfl

theorem receive_rxBufferCapacity (c : RxConnection) (disconnects : List Bytes → Bool)
    (received : Bytes) :
    (c.receive disconnects received).1.rxBufferCapacity = c.rxBufferCapacity := by
  rw [receive_connection, leave_rxBufferCapacity, getRxBuffer_rxBufferCapacity]

theorem receive_copies {c : RxConnection} {received : Bytes} (disconnects : List Bytes → Bool)
    (hcopies : c.CopiesInBounds)
    (hfits : c.incomplete.length + received.length ≤ 2 * c.rxBufferCapacity) :
    (c.receive disconnects received).1.CopiesInBounds := by
  have hget := getRxBuffer_copies hcopies hfits
  have hbytes := c.getRxBuffer_bytes received
  have hlength : (c.getRxBuffer received).2.bytes.length ≤
      2 * (c.getRxBuffer received).1.rxBufferCapacity := by
    rw [hbytes, getRxBuffer_rxBufferCapacity, List.length_append]
    exact hfits
  obtain ⟨messages, -, -, hleaves, -⟩ := c.receive_leaves disconnects received
  rw [receive_connection]
  cases hexit : (c.receive disconnects received).2.2 with
  | noBeginString => exact hget
  | incompleteMessage offset =>
    rw [hexit, ← hbytes] at hleaves
    exact setIncompleteBuffer_copies hget hleaves.1 hlength
  | disconnected => exact hget
  | atEnd => exact hget
  | remainder offset =>
    rw [hexit, ← hbytes] at hleaves
    have hoffset := hleaves.1
    exact setIncompleteBuffer_copies hget (by omega) hlength

/-- A connection that stays open retains no more than stands behind the messages, or the old
remainder where the scan runs out of begin strings. -/
theorem receive_retained {c : RxConnection} {disconnects : List Bytes → Bool} {received : Bytes}
    (hopen : (c.receive disconnects received).1.isOpen = true) :
    (c.receive disconnects received).1.incomplete.length ≤
      if runsOut (c.incomplete ++ received) then c.incomplete.length
      else (behindMessages (c.incomplete ++ received)).length := by
  have hleavesFrom := c.receive_leaves disconnects received
  have hexit : (c.receive disconnects received).2.2 ≠ .disconnected := by
    intro h
    rw [receive_connection, h] at hopen
    cases hopen
  obtain ⟨-, -, hleaves⟩ := hleavesFrom.eq_completeMessages hexit
  have hruns := hleaves.noBeginString_iff hexit
  rw [receive_incomplete, runsOut]
  simp only [← hruns]
  cases h : (c.receive disconnects received).2.2 with
  | noBeginString => simp
  | incompleteMessage offset =>
    rw [h] at hleaves
    obtain ⟨-, hdrop, -⟩ := hleaves
    simp only [hdrop, reduceCtorEq, ↓reduceIte]
    exact (skipToBeginString_suffix _).length_le
  | disconnected => exact absurd h hexit
  | atEnd => exact Nat.zero_le _
  | remainder offset =>
    rw [h] at hleaves
    simp only [hleaves.2.1, reduceCtorEq, ↓reduceIte]
    exact Nat.le_refl _

theorem retainsUnfinished : RetainsUnfinished afterRead unfinishedAfter where
  unread c read h := by rw [afterRead, onDataReady, h]; rfl
  capacity c read := by
    cases h : c.reads read.received with
    | false => rw [afterRead, onDataReady, h]; rfl
    | true => rw [afterRead_of_reads h, receive_rxBufferCapacity]
  copies c read hcopies hfits := by
    cases h : c.reads read.received with
    | false => rw [afterRead, onDataReady, h]; exact hcopies
    | true =>
      rw [afterRead_of_reads h]
      exact receive_copies _ hcopies hfits
  retained c u read hreads hretained hopen := by
    rw [afterRead_of_reads hreads] at hopen ⊢
    have hleft := receive_retained hopen
    have hbehind : (behindMessages (c.incomplete ++ read.received)).length ≤
        c.incomplete.length + read.received.length :=
      (restAfter_suffix _ _).length_le.trans_eq List.length_append
    unfold unfinishedAfter
    dsimp only
    by_cases hruns : runsOut (c.incomplete ++ read.received) = true
    · rw [if_pos hruns] at hleft
      rw [if_pos (.inr hruns)]
      omega
    · rw [if_neg hruns] at hleft
      split_ifs
      · omega
      · exact hleft

end RxConnection

/-! ## The management server -/

namespace ManagementServer

/-- The bytes behind the last delimiter. -/
def behindDelimiters : Bytes → Bytes
  | [] => []
  | b :: rest =>
    if commandDelimiter ∈ rest then behindDelimiters rest
    else if b = commandDelimiter then rest else b :: rest

/-- What a processed read leaves unfinished. -/
def unfinishedAfter (_ : RxConnection) (unfinished : Nat) (read : Read) : Nat :=
  if commandDelimiter ∈ read.received then (behindDelimiters read.received).length
  else unfinished + read.received.length

theorem behindDelimiters_append {received : Bytes} (h : commandDelimiter ∈ received)
    (incomplete : Bytes) :
    behindDelimiters (incomplete ++ received) = behindDelimiters received := by
  induction incomplete with
  | nil => rfl
  | cons b incomplete ih =>
    rw [List.cons_append, behindDelimiters, if_pos (List.mem_append_right _ h), ih]

theorem behindDelimiters_length_le (bytes : Bytes) :
    (behindDelimiters bytes).length ≤ bytes.length := by
  induction bytes with
  | nil => exact Nat.le_refl 0
  | cons b rest ih =>
    unfold behindDelimiters
    split_ifs
    · exact ih.trans (Nat.le_succ _)
    · exact Nat.le_succ _
    · exact Nat.le_refl _

theorem behindDelimiters_of_not_mem {bytes : Bytes} (h : commandDelimiter ∉ bytes) :
    behindDelimiters bytes = bytes := by
  cases bytes with
  | nil => rfl
  | cons b rest =>
    obtain ⟨hb, hrest⟩ := not_or.mp (mt List.mem_cons.mpr h)
    rw [behindDelimiters, if_neg hrest, if_neg (Ne.symm hb)]

/-- The loop stops behind the last delimiter. -/
theorem commandLoop_readIndex (buffer rest : Bytes) (offset commandStart : Nat) :
    (commandLoop buffer rest offset commandStart).2 =
      if commandDelimiter ∈ rest then offset + rest.length - (behindDelimiters rest).length
      else commandStart := by
  induction rest generalizing offset commandStart with
  | nil => rfl
  | cons b rest ih =>
    have hle := behindDelimiters_length_le rest
    unfold commandLoop behindDelimiters
    by_cases hb : b = commandDelimiter
    · simp only [hb, ↓reduceIte, ih, List.mem_cons, true_or, List.length_cons]
      split_ifs <;> omega
    · simp only [hb, Ne.symm hb, ↓reduceIte, ih, List.mem_cons, false_or, List.length_cons]
      split_ifs
      · omega
      · rfl

theorem processRxBuffer_connection (c : RxConnection) (buffer : RxBuffer) :
    ∃ readIndex ≤ buffer.bytes.length,
      readIndex = (commandLoop buffer.bytes buffer.bytes 0 0).2 ∧
      ((processRxBuffer c buffer).1 = c.setIncompleteBuffer buffer readIndex ∨
        (processRxBuffer c buffer).1 = c.resetIncompleteBuffer) := by
  refine ⟨(commandLoop buffer.bytes buffer.bytes 0 0).2, ?_, rfl, ?_⟩
  · rw [commandLoop_readIndex]
    split_ifs <;> omega
  · unfold processRxBuffer
    dsimp only
    split_ifs
    · exact Or.inl rfl
    · exact Or.inr rfl

theorem afterRead_of_reads {c : RxConnection} {read : Read} (h : c.reads read.received = true) :
    afterRead c read =
      (processRxBuffer (c.getRxBuffer read.received).1 (c.getRxBuffer read.received).2).1 := by
  rw [afterRead, onDataReady, if_pos h]

theorem retainsUnfinished : RetainsUnfinished afterRead unfinishedAfter where
  unread c read h := by rw [afterRead, onDataReady, h]; rfl
  capacity c read := by
    cases h : c.reads read.received with
    | false => rw [afterRead, onDataReady, h]; rfl
    | true =>
      have hget := c.getRxBuffer_rxBufferCapacity read.received
      obtain ⟨readIndex, -, -, heq | heq⟩ :=
        processRxBuffer_connection (c.getRxBuffer read.received).1 (c.getRxBuffer read.received).2
      · rw [afterRead_of_reads h, heq, RxConnection.setIncompleteBuffer_rxBufferCapacity, hget]
      · rw [afterRead_of_reads h, heq]
        exact hget
  copies c read hcopies hfits := by
    cases h : c.reads read.received with
    | false => rw [afterRead, onDataReady, h]; exact hcopies
    | true =>
      have hget := RxConnection.getRxBuffer_copies hcopies hfits
      obtain ⟨readIndex, hle, -, heq | heq⟩ :=
        processRxBuffer_connection (c.getRxBuffer read.received).1 (c.getRxBuffer read.received).2
      · rw [afterRead_of_reads h, heq]
        refine RxConnection.setIncompleteBuffer_copies hget hle ?_
        rw [c.getRxBuffer_bytes, RxConnection.getRxBuffer_rxBufferCapacity, List.length_append]
        exact hfits
      · rw [afterRead_of_reads h, heq]
        exact hget
  retained c u read hreads hretained _ := by
    rw [afterRead_of_reads hreads]
    obtain ⟨readIndex, -, hindex, heq | heq⟩ :=
      processRxBuffer_connection (c.getRxBuffer read.received).1 (c.getRxBuffer read.received).2
    · rw [heq, RxConnection.setIncompleteBuffer_incomplete, List.length_drop, hindex,
        commandLoop_readIndex, c.getRxBuffer_bytes, List.length_append, unfinishedAfter]
      by_cases hmem : commandDelimiter ∈ read.received
      · rw [if_pos (List.mem_append_right _ hmem), if_pos hmem, behindDelimiters_append hmem]
        omega
      · rw [if_neg hmem]
        omega
    · rw [heq]
      exact Nat.zero_le _

end ManagementServer

/-! ## Both -/

/-- A message in two reads. -/
def exampleReads : List Read :=
  [{ received := "8=A".toUTF8.toList ++ [fixDelimiter] },
    { received := "10=5".toUTF8.toList ++ [fixDelimiter] }]

/-- Eight bytes without any end in them. -/
def exampleRead : Read := { received := List.replicate 8 'x'.toUInt8 }

end Llfix
