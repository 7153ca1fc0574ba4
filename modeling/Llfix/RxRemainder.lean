import Llfix.RxScan

/-!
# What a read leaves behind

Every byte of a buffer goes into a message, is skipped in the search for a begin string, or is
retained for the next read. `AccountsFor` says so of the messages and the retained bytes. A byte
may be skipped where no begin string starts; the last byte of the buffer only when it is no `8`,
since the `=` may still be on its way.

Results:
1. `accountsFor_iff_retains`: the account of a buffer is about what stands behind its messages.
2. `losesNothing_iff`: a read accounts for all its bytes unless the scan of them runs out of begin
   strings, where the old remainder stays.
-/

namespace Llfix

/-! ## The account of a buffer -/

/-- `retained` are the bytes of `rest` behind some that were skipped. -/
def Retains (rest retained : Bytes) : Prop :=
  ∃ n, retained = rest.drop n ∧ ∀ p < n, mayBegin (rest.drop p) = false

/-- The bytes are the messages, one after the other, with skipped bytes before each of them, and
then the retained ones. -/
def AccountsFor (retained : Bytes) : Bytes → List Bytes → Prop
  | rest, [] => Retains rest retained
  | rest, message :: messages =>
    ∃ n rest', rest.drop n = message ++ rest' ∧ (∀ p < n, mayBegin (rest.drop p) = false) ∧
      AccountsFor retained rest' messages

/-- Where there is no begin string, all that can be retained is an end of the bytes, and nothing
only when the last of them is no `8`. -/
theorem retains_iff_of_none {rest retained : Bytes} (h : findBeginStringPosition rest = none)
    (hrest : rest ≠ []) :
    Retains rest retained ↔
      retained <:+ rest ∧ (retained = [] → rest.getLast? ≠ some '8'.toUInt8) := by
  have hlast : mayBegin (rest.drop (rest.length - 1)) = false ↔
      rest.getLast? ≠ some '8'.toUInt8 := by
    obtain ⟨init, c, rfl⟩ := List.eq_nil_or_concat rest |>.resolve_left hrest
    simp [mayBegin]
  constructor
  · rintro ⟨n, rfl, hskip⟩
    refine ⟨List.drop_suffix n rest, fun hnil => hlast.mp (hskip _ ?_)⟩
    have hpos := List.length_pos_iff.mpr hrest
    have hn := List.drop_eq_nil_iff.mp hnil
    omega
  · rintro ⟨hsuffix, hnil⟩
    refine ⟨rest.length - retained.length, List.suffix_iff_eq_drop.mp hsuffix, fun p hp => ?_⟩
    by_cases hp' : p + 1 < rest.length
    · exact findBeginStringPosition_none h hp'
    · have hlen := hsuffix.length_le
      have hr : retained = [] := List.length_eq_zero_iff.mp (by omega)
      obtain rfl : p = rest.length - 1 := by omega
      exact hlast.mpr (hnil hr)

/-- A message starts with the begin string it was found at. -/
theorem message_begins {text : Bytes} {length : Nat}
    (h : messageEnd [] true ('8'.toUInt8 :: fixEquals :: text) = some length) :
    ∃ t, ('8'.toUInt8 :: fixEquals :: text).take length = '8'.toUInt8 :: fixEquals :: t := by
  have hstart : messageEnd [] true ('8'.toUInt8 :: fixEquals :: text) =
      ((messageEnd ['8'.toUInt8] false text).map (· + 1)).map (· + 1) := rfl
  rw [hstart] at h
  obtain ⟨l, hl, rfl⟩ := Option.map_eq_some_iff.mp h
  obtain ⟨l', -, rfl⟩ := Option.map_eq_some_iff.mp hl
  exact ⟨text.take l', rfl⟩

/-- The messages of an account stand at the begin strings, so that the account is about what
stands behind the last of them. -/
theorem accountsFor_iff_retains {buffer : Bytes} {messages : List Bytes}
    (h : Complete buffer messages) (retained : Bytes) :
    AccountsFor retained buffer messages ↔ Retains (restAfter buffer messages) retained := by
  induction messages generalizing buffer with
  | nil => exact Iff.rfl
  | cons message messages ih =>
    obtain ⟨-, hend, hprefix, htail⟩ := h
    cases hfind : findBeginStringPosition buffer with
    | none =>
      rw [skipToBeginString_of_none hfind] at hend
      cases hend
    | some o =>
      obtain ⟨⟨u, hu⟩, hskip⟩ := findBeginStringPosition_some hfind
      rw [skipToBeginString_of_some hfind] at hend hprefix
      obtain ⟨t, rfl⟩ : ∃ t, message = '8'.toUInt8 :: fixEquals :: t := by
        rw [List.prefix_iff_eq_take.mp hprefix, hu]
        rw [hu] at hend
        exact message_begins hend
      obtain ⟨rest', hrest'⟩ := hprefix
      rw [restAfter_cons, ← ih htail, skipToBeginString_of_some hfind, ← hrest',
        List.drop_left]
      constructor
      · rintro ⟨n, rest'', heq, hskip', hacc⟩
        -- a begin string at both places, and none before either
        have hn : n = o := by
          rcases Nat.lt_trichotomy n o with hlt | rfl | hlt
          · exact absurd (hskip n hlt) (by simp [heq, mayBegin])
          · rfl
          · exact absurd (hskip' o hlt) (by simp [hu, mayBegin])
        subst hn
        rw [← hrest', List.append_cancel_left_eq] at heq
        exact heq ▸ hacc
      · exact fun hacc => ⟨o, rest', hrest'.symm, hskip, hacc⟩

/-! ## One read -/

namespace RxConnection

variable (c : RxConnection) (disconnects : List Bytes → Bool) (received : Bytes)

theorem getRxBuffer_bytes : (c.getRxBuffer received).2.bytes = c.incomplete ++ received := by
  unfold getRxBuffer
  split_ifs with h
  · rw [List.length_eq_zero_iff.mp h, List.nil_append]
  · rfl

theorem getRxBuffer_incomplete : (c.getRxBuffer received).1.incomplete = c.incomplete := by
  unfold getRxBuffer
  split_ifs <;> rfl

theorem getRxBuffer_isOpen : (c.getRxBuffer received).1.isOpen = c.isOpen := by
  unfold getRxBuffer
  split_ifs <;> rfl

theorem getRxBuffer_rxBufferCapacity :
    (c.getRxBuffer received).1.rxBufferCapacity = c.rxBufferCapacity := by
  unfold getRxBuffer
  split_ifs <;> rfl

@[simp] theorem setIncompleteBuffer_incomplete (buffer : RxBuffer) (offset : Nat) :
    (c.setIncompleteBuffer buffer offset).incomplete = buffer.bytes.drop offset := rfl

/-- The connection is left as the exit says. -/
theorem receive_connection :
    (c.receive disconnects received).1 =
      (c.getRxBuffer received).1.leave (c.getRxBuffer received).2
        (c.receive disconnects received).2.2 := by
  unfold receive processRxBuffer
  dsimp only
  cases finalTag10DelimiterIndex (c.getRxBuffer received).2.bytes with
  | none => rfl
  | some final => rfl

/-- What an exit retains. -/
theorem receive_incomplete :
    (c.receive disconnects received).1.incomplete =
      match (c.receive disconnects received).2.2 with
      | .noBeginString => c.incomplete
      | .incompleteMessage offset => (c.incomplete ++ received).drop offset
      | .disconnected => c.incomplete
      | .atEnd => []
      | .remainder offset => (c.incomplete ++ received).drop offset := by
  rw [receive_connection]
  cases (c.receive disconnects received).2.2 with
  | noBeginString => exact c.getRxBuffer_incomplete received
  | incompleteMessage offset => simp [leave, getRxBuffer_bytes]
  | disconnected => exact c.getRxBuffer_incomplete received
  | atEnd => rfl
  | remainder offset => simp [leave, getRxBuffer_bytes]

/-- The messages of a read stand in the buffer, and the exit says what stands behind them. -/
theorem receive_leaves :
    LeavesFrom disconnects (c.incomplete ++ received) [] 0 (c.receive disconnects received).2 := by
  have hstart : (∃ final, finalTag10DelimiterIndex (c.incomplete ++ received) = some final ∧
      0 ≤ final) ↔ holdsChecksum ((c.incomplete ++ received).drop 0) = true :=
    le_finalTag10DelimiterIndex_iff fun h => absurd h (Nat.lt_irrefl 0)
  unfold receive processRxBuffer
  dsimp only
  rw [c.getRxBuffer_bytes received]
  cases hfinal : finalTag10DelimiterIndex (c.incomplete ++ received) with
  | none =>
    refine .stop ⟨.inl rfl, rfl, ?_⟩ RxExit.noConfusion
    rw [Bool.eq_false_iff, ne_eq, ← hstart, hfinal]
    simp
  | some final =>
    exact parseLoop_leaves disconnects hfinal _ [] 0 (fun h => absurd h (Nat.lt_irrefl 0))
      (Nat.zero_le final) (by omega)

/-- A read that does not end in a disconnect accounts for the old remainder and for what was
received: the messages it has processed, and what it retains. -/
def LosesNothing : Prop :=
  (c.receive disconnects received).2.2 ≠ .disconnected →
    AccountsFor (c.receive disconnects received).1.incomplete (c.incomplete ++ received)
      (c.receive disconnects received).2.1

/-- When no message of the bytes disconnects, and the scan of them runs out of begin strings, then
nothing was retained before the read and the received bytes do not end in an `8`; or what was
retained is not empty, and the bytes happen to end in the same bytes, behind the messages. -/
def RetainsNothingStale : Prop :=
  staysOpen disconnects [] (completeMessages (c.incomplete ++ received)) = true →
    runsOut (c.incomplete ++ received) = true →
    if c.incomplete = [] then received.getLast? ≠ some '8'.toUInt8
    else c.incomplete <:+ c.incomplete ++ received ∧
      c.incomplete.length ≤ (behindMessages (c.incomplete ++ received)).length

end RxConnection

/-- A non-empty end of a list has its last element. -/
theorem getLast?_of_suffix {rest bytes : Bytes} (h : rest <:+ bytes) (hne : rest ≠ []) :
    bytes.getLast? = rest.getLast? := by
  obtain ⟨t, rfl⟩ := h
  rw [List.getLast?_append_of_ne_nil t hne]

/-- Where the scan of a read runs out of begin strings, what was retained before accounts for what
stands behind the messages only when it stands there once more. -/
theorem retains_incomplete_iff {incomplete received : Bytes}
    (hruns : runsOut (incomplete ++ received) = true) :
    Retains (behindMessages (incomplete ++ received)) incomplete ↔
      if incomplete = [] then received.getLast? ≠ some '8'.toUInt8
      else incomplete <:+ incomplete ++ received ∧
        incomplete.length ≤ (behindMessages (incomplete ++ received)).length := by
  obtain ⟨hchecksum, hnone⟩ := Bool.and_eq_true_iff.mp hruns
  have hne : behindMessages (incomplete ++ received) ≠ [] := by
    intro hnil
    rw [hnil] at hchecksum
    cases hchecksum
  have hsuffix : behindMessages (incomplete ++ received) <:+ incomplete ++ received :=
    restAfter_suffix _ _
  rw [retains_iff_of_none (Option.isNone_iff_eq_none.mp hnone) hne,
    ← getLast?_of_suffix hsuffix hne]
  split_ifs with hnil
  · subst hnil
    simp
  · constructor
    · rintro ⟨hretained, -⟩
      exact ⟨hretained.trans hsuffix, hretained.length_le⟩
    · rintro ⟨hretained, hle⟩
      exact ⟨List.suffix_of_suffix_length_le hretained hsuffix hle, fun h => absurd h hnil⟩

/-- Whatever was retained and whatever is received, a read loses no byte and leaves none to be
read again exactly when it retains nothing stale. -/
theorem losesNothing_iff (c : RxConnection) (disconnects : List Bytes → Bool) (received : Bytes) :
    c.LosesNothing disconnects received ↔ c.RetainsNothingStale disconnects received := by
  have hleavesFrom := c.receive_leaves disconnects received
  unfold RxConnection.LosesNothing RxConnection.RetainsNothingStale
  rw [hleavesFrom.staysOpen_iff]
  refine forall_congr' fun hexit => ?_
  obtain ⟨hmessages, hcomplete, hleaves⟩ := hleavesFrom.eq_completeMessages hexit
  have hruns := hleaves.noBeginString_iff hexit
  rw [hmessages, accountsFor_iff_retains hcomplete, c.receive_incomplete]
  show Retains (behindMessages _) _ ↔ _
  rw [runsOut, ← hruns]
  cases h : (c.receive disconnects received).2.2 with
  | disconnected => exact absurd h hexit
  | incompleteMessage offset =>
    rw [h] at hleaves
    obtain ⟨-, hdrop, hsome, -⟩ := hleaves
    obtain ⟨o, ho⟩ := Option.isSome_iff_exists.mp hsome
    refine iff_of_true ⟨o, ?_, (findBeginStringPosition_some ho).2⟩ (by simp)
    rw [← skipToBeginString_of_some ho]
    exact hdrop
  | atEnd =>
    rw [h] at hleaves
    exact iff_of_true ⟨0, hleaves.symm, fun p hp => absurd hp (Nat.not_lt_zero p)⟩ (by simp)
  | remainder offset =>
    rw [h] at hleaves
    exact iff_of_true ⟨0, hleaves.2.1, fun p hp => absurd hp (Nat.not_lt_zero p)⟩ (by simp)
  | noBeginString =>
    rw [h] at hruns
    rw [retains_incomplete_iff (hruns.mp rfl)]
    simp

/-- A connection that has retained the start of a message. -/
def exampleRxConnection : RxConnection :=
  { rxBufferCapacity := 64, incomplete := "8=A".toUTF8.toList ++ [fixDelimiter] }

/-- The bytes `10=5|10=6|` with a letter before the second field. -/
def exampleTrailer : Bytes :=
  "10=5".toUTF8.toList ++ [fixDelimiter] ++ "x10=6".toUTF8.toList ++ [fixDelimiter]

/-- The read completes the message and brings another `10=` behind it, without a begin string.
The start of the message stays retained and will be read again. -/
theorem losesNothing_fails : ¬ exampleRxConnection.LosesNothing (fun _ => false) exampleTrailer := by
  intro h
  have hexit : (exampleRxConnection.receive (fun _ => false) exampleTrailer).2.2 =
      .noBeginString := by decide +kernel
  have hleaves := exampleRxConnection.receive_leaves (fun _ => false) exampleTrailer
  obtain ⟨hmessages, hcomplete, -⟩ := hleaves.eq_completeMessages (by rw [hexit]; decide)
  rw [← hmessages] at hcomplete
  obtain ⟨n, hn, -⟩ := (accountsFor_iff_retains hcomplete _).mp (h (by rw [hexit]; decide))
  have hsuffix : (exampleRxConnection.receive (fun _ => false) exampleTrailer).1.incomplete <:+
      restAfter (exampleRxConnection.incomplete ++ exampleTrailer)
        (exampleRxConnection.receive (fun _ => false) exampleTrailer).2.1 :=
    hn ▸ List.drop_suffix n _
  exact absurd hsuffix (by decide +kernel)

end Llfix
