import Llfix.SerialisedFiles

/-!
# Serialised records across files and restarts

Writes fill one file after the other, and between them the serialiser may be closed and
initialised again on its folder, the same object or a new one.

Result: `serialiserRoundTrip`. What `deserialise` reports of the files, first file first, is what
was written, in order.
-/

namespace Llfix

open MessageSerialiser

/-- A call of `write`, or `close` and then `initialise` on the same folder with the same maximum
size. The same object still has its records. -/
inductive SerialiserCall
  | write (message : Bytes) (successfulTransmission : Bool) (sequenceNo : UInt32) (epoch : Nat)
  | restart (keepMessageRecordsInMemory : Bool) (messageRecordsInitialSize : Nat)
      (sameObject : Bool)
deriving DecidableEq, Repr

namespace SerialiserCall

/-- `none` when `initialise` returns `false`. -/
def after (s : MessageSerialiser) : SerialiserCall → Option MessageSerialiser
  | .write message ok sequenceNo epoch => some (s.write message ok sequenceNo epoch)
  | .restart keep initialSize sameObject =>
    initialise s.serialisedFileMaxSize keep initialSize s.files
      (if sameObject then s.messageMemoryRecords else [])

/-- The message fits into a file. A restart that keeps records has room for them. -/
def Valid (size : UInt64) : SerialiserCall → Prop
  | .write message _ _ _ => message.length + 17 ≤ size.toNat - 8
  | .restart keep initialSize _ => keep = true → 0 < initialSize

/-- What a call adds to the files. -/
def written : SerialiserCall → Option WrittenMessage
  | .write message ok _ _ => some ⟨message, ok⟩
  | .restart _ _ _ => none

variable {size : UInt64} {s : MessageSerialiser}

theorem fitsFile_of_valid (hsize : s.serialisedFileMaxSize = size) {message : Bytes}
    (h : message.length + 17 ≤ size.toNat - 8) : s.fitsFile message = true := by
  have hfits : 8 + message.length + 17 ≤ s.serialisedFileMaxSize.toNat := by
    rw [hsize]
    omega
  exact decide_eq_true hfits

/-- One call keeps the serialiser well formed and appends its record. -/
theorem after_spec (hlarge : 4096 ≤ size.toNat) (hpages : size.toNat % 4096 = 0)
    (hwell : s.WellFormed) (hsize : s.serialisedFileMaxSize = size) {call : SerialiserCall}
    (hvalid : call.Valid size) :
    ∃ s', after s call = some s' ∧ s'.WellFormed ∧ s'.serialisedFileMaxSize = size ∧
      s'.recordsOnDisc = s.recordsOnDisc ++ call.written.toList := by
  cases call with
  | write message ok sequenceNo epoch =>
    refine ⟨_, rfl, hwell.write _ _ _ _, (write_serialisedFileMaxSize _ _ _ _).trans hsize, ?_⟩
    rw [write_recordsOnDisc _ _ _ _ hwell, if_pos (fitsFile_of_valid hsize hvalid)]
    rfl
  | restart keep initialSize sameObject =>
    subst hsize
    have hrecords : ∀ e ∈ (if sameObject then s.messageMemoryRecords else []),
        e ∈ s.messageMemoryRecords := by
      intro e he
      cases sameObject with
      | true => exact he
      | false => exact absurd he List.not_mem_nil
    obtain ⟨s', hinitialise, hwell', hsize', hondisc⟩ :=
      hwell.reinitialise ⟨hlarge, hpages, hvalid⟩ hrecords
    exact ⟨s', hinitialise, hwell', hsize', by rw [hondisc, written]; exact (List.append_nil _).symm⟩

theorem run_spec (hlarge : 4096 ≤ size.toNat) (hpages : size.toNat % 4096 = 0)
    (calls : List SerialiserCall) (hwell : s.WellFormed) (hsize : s.serialisedFileMaxSize = size)
    (hvalid : ∀ call ∈ calls, call.Valid size) :
    ∃ s', calls.foldlM after s = some s' ∧ s'.WellFormed ∧ s'.serialisedFileMaxSize = size ∧
      s'.recordsOnDisc = s.recordsOnDisc ++ calls.filterMap written := by
  induction calls generalizing s with
  | nil => exact ⟨s, rfl, hwell, hsize, (List.append_nil _).symm⟩
  | cons call calls ih =>
    obtain ⟨s₁, hafter, hwell₁, hsize₁, hrecords₁⟩ :=
      after_spec hlarge hpages hwell hsize (hvalid call List.mem_cons_self)
    obtain ⟨s', hrun, hwell', hsize', hrecords'⟩ :=
      ih hwell₁ hsize₁ fun c hc => hvalid c (List.mem_cons_of_mem _ hc)
    refine ⟨s', ?_, hwell', hsize', ?_⟩
    · rw [List.foldlM_cons, hafter]
      exact hrun
    · rw [hrecords', hrecords₁, List.append_assoc]
      cases hwritten : call.written with
      | none => rw [List.filterMap_cons_none hwritten]; rfl
      | some m => rw [List.filterMap_cons_some hwritten]; rfl

end SerialiserCall

open SerialiserCall

/-- From an empty folder on, the files give back what was written, none lost, doubled or
split. -/
theorem serialiserRoundTrip {size : UInt64} {keep : Bool} {initialSize : Nat}
    {s₀ : MessageSerialiser} (hinitialise : initialise size keep initialSize [] = some s₀)
    (calls : List SerialiserCall) (hvalid : ∀ call ∈ calls, call.Valid size) :
    ∃ s, calls.foldlM after s₀ = some s ∧
      (∀ file ∈ s.files, (deserialise file size.toNat).2.2 = true) ∧
      (s.files.flatMap fun file => (deserialise file size.toNat).1.map (·.written)) =
        calls.filterMap written := by
  have hsizes := validSizes_of_initialise hinitialise
  rw [initialise_nil hsizes] at hinitialise
  obtain rfl := Option.some.inj hinitialise
  obtain ⟨s, hrun, hwell, hsize, hrecords⟩ :=
    run_spec hsizes.large hsizes.pages calls (wellFormed_new hsizes) rfl hvalid
  refine ⟨s, hrun, fun file hfile => ?_, ?_⟩
  · obtain ⟨ms, written, hholds⟩ := hwell.files_hold file hfile
    rw [hsize] at hholds
    obtain ⟨entries, hentries, -, -⟩ := deserialise_of_holds hholds
    rw [hentries]
  · rw [recordsOnDisc, hsize, recordsOnDisc_new hsizes, List.nil_append] at hrecords
    exact hrecords

/-- Two messages with a restart between them. -/
theorem serialiserRoundTrip_restart :
    ∃ s, [SerialiserCall.write (text "34=1") true 1 0, .restart true 1 false,
        .write (text "34=2") false 1 0].foldlM after
          { keepMessageRecordsInMemory := false, serialisedFileMaxSize := 4096 } = some s ∧
      (∀ file ∈ s.files, (deserialise file (4096 : UInt64).toNat).2.2 = true) ∧
      (s.files.flatMap fun file =>
        (deserialise file (4096 : UInt64).toNat).1.map (·.written)) =
          [⟨text "34=1", true⟩, ⟨text "34=2", false⟩] := by
  have hsizes : ValidSizes 4096 false 0 := ⟨by decide, by decide, nofun⟩
  refine serialiserRoundTrip (initialise_nil hsizes) _ fun call hcall => ?_
  rcases List.mem_cons.mp hcall with rfl | hcall
  · exact Nat.le_of_ble_eq_true rfl
  · rcases List.mem_cons.mp hcall with rfl | hcall
    · exact fun _ => Nat.one_pos
    · obtain rfl := List.mem_singleton.mp hcall
      exact Nat.le_of_ble_eq_true rfl

end Llfix
