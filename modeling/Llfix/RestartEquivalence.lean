import Llfix.Lib.GuardedRun
import Llfix.OutgoingCache

/-!
# The resend cache after a restart

The index of a live serialiser is keyed by the outgoing number that is stored after a send. After
a restart it is built from the tag 34 of the messages on disc. Both keep the first message of a
number, but a failed send, a gap fill or a replay is stored under one number and carries another.

Results:
1. `FindsAgain`: what a call must meet so that both find the same message afterwards.
2. `restartEquivalence`: along a run of sends the reloaded serialiser has the same messages
   everywhere exactly when every call meets this.
3. `restart_finds_failed_send`: after a failed send the reloaded serialiser finds the message
   that was never transmitted.
-/

namespace Llfix

open MessageSerialiser GuardedRun

namespace OutgoingCache

/-- The message that a serialiser initialised from the files finds. -/
def reloadedMessage (c : OutgoingCache) (n : UInt32) : Option Bytes :=
  c.serialiser.messagesOnDisc.find? (carries n)

/-- A serialiser initialised from the files left behind reads the same bytes for every number up
to the outgoing one. -/
def SameAfterRestart (messageRecordsInitialSize : Nat) (c : OutgoingCache) : Prop :=
  ∃ s, initialise c.serialiser.serialisedFileMaxSize true messageRecordsInitialSize
      c.serialiser.files = some s ∧
    ∀ n, 0 < n → n ≤ c.outgoingSeqNo → ∀ bufferSize,
      s.readMessage n bufferSize = c.serialiser.readMessage n bufferSize

/-- What keeps the two indexes alike in a call. Under the number stored after it, there is a
message in memory already, or this message is also the first on disc that carries the number.
And it carries no lower number that has had no message so far. -/
def FindsAgain (c : OutgoingCache) (call : SendBytesCall) : Prop :=
  let number := c.seqNoAfter call
  let carried := getSequenceNumberValueFromFixMessage call.buffer
  number = 0 ∨
    (c.serialiser.hasMessageInMemory number = true ∨
      (c.serialiser.messagesOnDisc ++ c.written call).find? (carries number) =
        (c.written call).head?) ∧
    (c.serialiser.fitsFile call.buffer = true → 0 < carried → carried < number →
      c.serialiser.hasMessageInMemory carried = true)

instance (c : OutgoingCache) (call : SendBytesCall) : Decidable (c.FindsAgain call) :=
  inferInstanceAs (Decidable (_ ∨ (_ ∨ _) ∧ (_ → _ → _ → _)))

/-! ## The two indexes -/

/-- A serialiser made by `initialise`, or one that has been written to since. -/
structure Initialised (size : UInt64) (c : OutgoingCache) : Prop where
  wellFormed : c.serialiser.WellFormed
  size_eq : c.serialiser.serialisedFileMaxSize = size
  keeps : c.serialiser.keepMessageRecordsInMemory = true

/-- The live index has no message that the reloaded one has not. -/
structure Live (size : UInt64) (c : OutgoingCache) : Prop extends Initialised size c where
  missing : ∀ n, 0 < n →
    c.serialiser.lookupMessage n = none ∨ c.serialiser.lookupMessage n = c.reloadedMessage n

/-- Up to the outgoing number the two indexes have the same messages. -/
def SameMessages (c : OutgoingCache) : Prop :=
  ∀ n, 0 < n → n ≤ c.outgoingSeqNo → c.serialiser.lookupMessage n = c.reloadedMessage n

variable {size : UInt64} {messageRecordsInitialSize : Nat} {c : OutgoingCache}

theorem Initialised.hasMessageInMemory (h : c.Initialised size) (n : UInt32) :
    c.serialiser.hasMessageInMemory n = (c.serialiser.lookupMessage n).isSome := by
  rw [hasMessageInMemory_eq, h.keeps, Bool.true_and]

theorem sameAfterRestart_iff (hsizes : ValidSizes size true messageRecordsInitialSize)
    (h : c.Initialised size) : c.SameAfterRestart messageRecordsInitialSize ↔ c.SameMessages := by
  have hholds := h.wellFormed.files_hold
  rw [h.size_eq] at hholds
  obtain ⟨s, hinitialise, hs⟩ := initialise_files hsizes hholds
  have hreloaded : ∀ n, 0 < n → s.lookupMessage n = c.reloadedMessage n := by
    intro n hn
    rw [hs.lookup n hn, reloadedMessage, messagesOnDisc_eq, messagesOnDisc_eq, hs.records,
      recordsOnDisc, h.size_eq]
  have hread : ∀ n, 0 < n →
      ((∀ bufferSize, s.readMessage n bufferSize = c.serialiser.readMessage n bufferSize) ↔
        c.serialiser.lookupMessage n = c.reloadedMessage n) := by
    intro n hn
    rw [← hreloaded n hn, eq_comm]
    exact readMessage_ext hs.keeps h.keeps n
  constructor
  · rintro ⟨s', hinitialise', hsame⟩ n hn hle
    rw [h.size_eq, hinitialise] at hinitialise'
    obtain rfl := Option.some.inj hinitialise'
    exact (hread n hn).mp (hsame n hn hle)
  · intro hsame
    refine ⟨s, ?_, fun n hn hle => (hread n hn).mpr (hsame n hn hle)⟩
    rw [h.size_eq, hinitialise]

/-! ## One call -/

section Call

variable (call : SendBytesCall)

theorem Initialised.sendBytes (h : c.Initialised size) : (c.sendBytes call).Initialised size where
  wellFormed := WellFormed.write _ _ _ _ h.wellFormed
  size_eq := (write_serialisedFileMaxSize _ _ _ _).trans h.size_eq
  keeps := (write_keepMessageRecordsInMemory _ _ _ _).trans h.keeps

theorem sendBytes_reloadedMessage (h : c.Initialised size) (n : UInt32) :
    (c.sendBytes call).reloadedMessage n =
      (c.reloadedMessage n).or ((c.written call).find? (carries n)) := by
  rw [reloadedMessage, sendBytes_messagesOnDisc call h.wellFormed, List.find?_append]
  rfl

/-- A number that the message does not carry is found as before. -/
theorem find_written {n : UInt32}
    (hn : c.serialiser.fitsFile call.buffer = true →
      getSequenceNumberValueFromFixMessage call.buffer ≠ n) :
    (c.written call).find? (carries n) = none := by
  unfold written
  split
  next hfits => simp [carries, hn hfits]
  next => rfl

/-- Under the number stored after the call the indexes agree exactly when the first half of
`FindsAgain` holds. -/
theorem sendBytes_same_number (h : c.Live size) (hpos : 0 < c.seqNoAfter call) :
    ((c.sendBytes call).serialiser.lookupMessage (c.seqNoAfter call) =
        (c.sendBytes call).reloadedMessage (c.seqNoAfter call)) ↔
      (c.serialiser.hasMessageInMemory (c.seqNoAfter call) = true ∨
        (c.serialiser.messagesOnDisc ++ c.written call).find? (carries (c.seqNoAfter call)) =
          (c.written call).head?) := by
  have hfind : (c.serialiser.messagesOnDisc ++ c.written call).find?
      (carries (c.seqNoAfter call)) = (c.sendBytes call).reloadedMessage (c.seqNoAfter call) := by
    rw [reloadedMessage, sendBytes_messagesOnDisc call h.wellFormed]
  rw [hfind, h.hasMessageInMemory, sendBytes_lookupMessage call h.wellFormed h.keeps, if_pos rfl]
  cases hlive : c.serialiser.lookupMessage (c.seqNoAfter call) with
  | none =>
    rw [Option.none_or, Option.isSome_none]
    constructor
    · exact fun heq => .inr heq.symm
    · rintro (hfalse | heq)
      · cases hfalse
      · exact heq.symm
  | some m =>
    have hsame := (h.missing _ hpos).resolve_left (by rw [hlive]; exact Option.some_ne_none m)
    rw [sendBytes_reloadedMessage call h.toInitialised, ← hsame, hlive]
    exact iff_of_true rfl (.inl rfl)

/-- Under a lower number they agree exactly when the message does not carry it as the first. -/
theorem sendBytes_same_lower (h : c.Live size) {n : UInt32} (hne : n ≠ c.seqNoAfter call)
    (hsame : c.serialiser.lookupMessage n = c.reloadedMessage n) :
    ((c.sendBytes call).serialiser.lookupMessage n = (c.sendBytes call).reloadedMessage n) ↔
      (c.serialiser.fitsFile call.buffer = true →
        getSequenceNumberValueFromFixMessage call.buffer = n →
          c.serialiser.hasMessageInMemory n = true) := by
  rw [sendBytes_lookupMessage call h.wellFormed h.keeps, if_neg hne,
    sendBytes_reloadedMessage call h.toInitialised, h.hasMessageInMemory, ← hsame]
  cases hlive : c.serialiser.lookupMessage n with
  | some m => exact iff_of_true rfl fun _ _ => rfl
  | none =>
    rw [Option.none_or]
    by_cases hcarries : c.serialiser.fitsFile call.buffer = true ∧
        getSequenceNumberValueFromFixMessage call.buffer = n
    · obtain ⟨hfits, hcarried⟩ := hcarries
      have hfound : (c.written call).find? (carries n) = some call.buffer := by
        rw [written, if_pos hfits]
        simp [carries, hcarried]
      rw [hfound]
      refine iff_of_false (fun hno => ?_) fun himp => ?_
      · cases hno
      · cases himp hfits hcarried
    · rw [find_written call fun hfits hcarried => hcarries ⟨hfits, hcarried⟩]
      exact iff_of_true rfl fun hfits hcarried => absurd ⟨hfits, hcarried⟩ hcarries

theorem sameMessages_sendBytes_iff (h : c.Live size) (hsame : c.SameMessages) :
    (c.sendBytes call).SameMessages ↔ c.FindsAgain call := by
  have hlower : ∀ n, 0 < n → n < c.seqNoAfter call →
      (((c.sendBytes call).serialiser.lookupMessage n = (c.sendBytes call).reloadedMessage n) ↔
        (c.serialiser.fitsFile call.buffer = true →
          getSequenceNumberValueFromFixMessage call.buffer = n →
            c.serialiser.hasMessageInMemory n = true)) :=
    fun n hn hlt => sendBytes_same_lower call h (UInt32.ne_of_lt hlt)
      (hsame n hn (le_of_lt_seqNoAfter call hlt))
  constructor
  · intro hafter
    by_cases hzero : c.seqNoAfter call = 0
    · exact .inl hzero
    · have hpos : 0 < c.seqNoAfter call := UInt32.pos_iff_ne_zero.mpr hzero
      refine .inr ⟨(sendBytes_same_number call h hpos).mp (hafter _ hpos (UInt32.le_refl _)), ?_⟩
      intro hfits hcarried hlt
      exact (hlower _ hcarried hlt).mp (hafter _ hcarried (UInt32.le_of_lt hlt)) hfits rfl
  · rintro (hzero | ⟨hnumber, hcarried⟩) n hn hle
    · have hle' : n ≤ c.seqNoAfter call := hle
      rw [hzero] at hle'
      exact absurd hn (UInt32.not_lt.mpr hle')
    · have hle' : n ≤ c.seqNoAfter call := hle
      rcases UInt32.lt_or_eq_of_le hle' with hlt | rfl
      · refine (hlower n hn hlt).mpr ?_
        rintro hfits rfl
        exact hcarried hfits hn hlt
      · exact (sendBytes_same_number call h hn).mpr hnumber

/-- As long as the indexes agree, the live one has nothing that the reloaded one has not. -/
theorem Live.sendBytes (h : c.Live size) (hafter : (c.sendBytes call).SameMessages) :
    (c.sendBytes call).Live size where
  toInitialised := h.toInitialised.sendBytes call
  missing n hn := by
    by_cases hle : n ≤ c.seqNoAfter call
    · exact .inr (hafter n hn hle)
    · have hne : n ≠ c.seqNoAfter call := fun heq => hle (heq ▸ UInt32.le_refl _)
      rw [sendBytes_lookupMessage call h.wellFormed h.keeps, if_neg hne]
      rcases h.missing n hn with hnone | hsame
      · exact .inl hnone
      · cases hlive : c.serialiser.lookupMessage n with
        | none => exact .inl rfl
        | some m =>
          rw [sendBytes_reloadedMessage call h.toInitialised, ← hsame, hlive]
          exact .inr rfl

end Call

/-! ## Runs of sends -/

/-- A serialiser made by `initialise` and any outgoing number. -/
theorem live_of_initialise {files : List MappedFile.Buffer}
    (hfiles : ∀ buffer ∈ files, ∃ ms written, FileHolds size.toNat buffer ms written)
    {s : MessageSerialiser}
    (hinitialise : initialise size true messageRecordsInitialSize files = some s)
    (outgoingSeqNo : UInt32) :
    Live size ⟨outgoingSeqNo, s⟩ ∧ SameMessages ⟨outgoingSeqNo, s⟩ := by
  obtain ⟨s', hinitialise', hs⟩ :=
    initialise_files (validSizes_of_initialise hinitialise) hfiles
  rw [hinitialise] at hinitialise'
  obtain rfl := Option.some.inj hinitialise'
  have hsame : ∀ n, 0 < n → s.lookupMessage n = reloadedMessage ⟨outgoingSeqNo, s⟩ n := hs.lookup
  exact ⟨⟨⟨hs.wellFormed, hs.size_eq, hs.keeps⟩, fun n hn => .inr (hsame n hn)⟩,
    fun n hn _ => hsame n hn⟩

/-- The reloaded serialiser agrees with the live one after every call exactly when every call
keeps the indexes alike. -/
theorem restartEquivalence {files : List MappedFile.Buffer}
    (hfiles : ∀ buffer ∈ files, ∃ ms written, FileHolds size.toNat buffer ms written)
    {s : MessageSerialiser}
    (hinitialise : initialise size true messageRecordsInitialSize files = some s)
    (outgoingSeqNo : UInt32) (calls : List SendBytesCall) :
    (∀ done, done <+: calls →
        (run sendBytes ⟨outgoingSeqNo, s⟩ done).SameAfterRestart messageRecordsInitialSize) ↔
      Guarded sendBytes FindsAgain ⟨outgoingSeqNo, s⟩ calls := by
  have hsizes := validSizes_of_initialise hinitialise
  obtain ⟨hlive, hsame⟩ := live_of_initialise hfiles hinitialise outgoingSeqNo
  rw [← everywhere_iff (Live size) (fun c call h hafter => h.sendBytes call hafter)
    (fun c call h => sameMessages_sendBytes_iff call h) calls hlive hsame]
  refine forall₂_congr fun done _ => sameAfterRestart_iff hsizes ?_
  exact run_invariant (I := Initialised size) (fun c call h => h.sendBytes call) done
    hlive.toInitialised

/-- A new serialiser with files of one page. -/
def newCache : OutgoingCache :=
  ⟨0, { keepMessageRecordsInMemory := true, serialisedFileMaxSize := 4096 }⟩

/-- A new message. -/
def newMessage (buffer : Bytes) (ret : Bool) : SendBytesCall :=
  { incrementOutgoingSeqNo := true, buffer, ret }

/-- Two messages that are both sent. -/
theorem restartEquivalence_sent :
    (run sendBytes newCache [newMessage (text "34=1\x0158=a\x01") true,
        newMessage (text "34=2\x0158=b\x01") true]).SameAfterRestart 1 :=
  (restartEquivalence (fun _ hmem => absurd hmem List.not_mem_nil)
    (initialise_nil ⟨by decide, by decide, fun _ => Nat.one_pos⟩) 0 _).mpr (by decide +kernel) _
    (List.prefix_refl _)

/-- A message that was not sent is stored under the number before it, and carries its own. The
next message takes this number, but after a restart the first one is found under it. -/
theorem restart_finds_failed_send :
    ¬ (run sendBytes newCache [newMessage (text "34=1\x0158=a\x01") false,
        newMessage (text "34=1\x0158=b\x01") true]).SameAfterRestart 1 := by
  rintro ⟨s, hinitialise, hsame⟩
  have hlive := hsame 1 (by decide) (by decide +kernel) 16
  have hreloaded : (initialise 4096 true 1 (run sendBytes newCache
      [newMessage (text "34=1\x0158=a\x01") false,
        newMessage (text "34=1\x0158=b\x01") true]).serialiser.files).map (·.readMessage 1 16) =
      some (some (text "34=1\x0158=a\x01")) := by decide +kernel
  have hfiles : initialise 4096 true 1 _ = some s := hinitialise
  rw [hfiles, Option.map_some, hlive] at hreloaded
  revert hreloaded
  decide +kernel

end OutgoingCache

end Llfix
