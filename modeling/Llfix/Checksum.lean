import Llfix.Decimal
import Llfix.FixSession

/-!
# The checksum

Both checksum loops compute the sum of the bytes modulo 256. The lanes of the vector loop wrap at
`2^16` and the scalar sums at `2^32`, which are multiples of 256.

Results:
1. `simdSum_mod`: the vector loop and the plain one agree.
2. `validateChecksum_iff`: both validators compare with the sum of the bytes modulo 256.
3. `validateFixMessage_valid_iff`: the checks that a message passes when it is found valid.
-/

namespace Llfix

/-- The sum of the bytes of a text. -/
def byteTotal (buffer : Bytes) : Nat := (buffer.map UInt8.toNat).sum

theorem byteTotal_append (front back : Bytes) :
    byteTotal (front ++ back) = byteTotal front + byteTotal back := by
  rw [byteTotal, List.map_append, List.sum_append]
  rfl

theorem byteTotal_take_drop (n : Nat) (buffer : Bytes) :
    byteTotal (buffer.take n) + byteTotal (buffer.drop n) = byteTotal buffer := by
  rw [← byteTotal_append, List.take_append_drop]

/-! ## The plain loop -/

theorem foldl_bytes (buffer : Bytes) (sum : UInt32) :
    (buffer.foldl (fun sum c => sum + c.toUInt32) sum).toNat =
      (sum.toNat + byteTotal buffer) % 4294967296 := by
  induction buffer generalizing sum with
  | nil =>
    have hlt := sum.toNat_lt
    exact (Nat.mod_eq_of_lt hlt).symm
  | cons c buffer ih =>
    have htotal : byteTotal (c :: buffer) = c.toNat + byteTotal buffer := List.sum_cons
    rw [List.foldl_cons, ih, UInt32.toNat_add, UInt8.toNat_toUInt32, htotal]
    omega

theorem byteSum_toNat (buffer : Bytes) :
    (byteSum buffer).toNat = byteTotal buffer % 4294967296 := by
  have hfold := foldl_bytes buffer 0
  rwa [UInt32.toNat_zero, Nat.zero_add] at hfold

/-! ## The vector loop -/

/-- The sum of the lanes. -/
def laneTotal (acc : List UInt16) : Nat := (acc.map UInt16.toNat).sum

theorem sum_getD {α : Type} (weight : α → Nat) (zero : α) (l : List α) :
    ((List.range l.length).map fun i => weight (l.getD i zero)).sum = (l.map weight).sum := by
  congr 1
  refine List.ext_getElem (by simp) fun i hi _ => ?_
  have hlt : i < l.length := by simpa using hi
  simp [hlt]

/-- One block adds its bytes to the lanes. -/
theorem laneTotal_addBlock {acc : List UInt16} {block : Bytes} (hacc : acc.length = 16)
    (hblock : block.length = 32) :
    laneTotal (addBlock acc block) % 256 = (laneTotal acc + byteTotal block) % 256 := by
  have hlanes := sum_getD UInt16.toNat 0 acc
  have hbytes := sum_getD UInt8.toNat 0 block
  rw [hacc] at hlanes
  rw [hblock] at hbytes
  have hlane : ∀ (a : UInt16) (b c : UInt8), (a + b.toUInt16 + c.toUInt16).toNat % 256 =
      (a.toNat + (b.toNat + c.toNat)) % 256 := by
    intro a b c
    rw [UInt16.toNat_add, UInt16.toNat_add, UInt8.toNat_toUInt16, UInt8.toNat_toUInt16]
    omega
  have hsum : ∀ (l : List Nat) (f g : Nat → Nat), (∀ i, f i % 256 = g i % 256) →
      (l.map f).sum % 256 = (l.map g).sum % 256 := by
    intro l f g hfg
    induction l with
    | nil => rfl
    | cons i l ih =>
      have hi := hfg i
      simp only [List.map_cons, List.sum_cons]
      omega
  rw [laneTotal, laneTotal, byteTotal, ← hlanes, ← hbytes, addBlock, List.map_map]
  refine (hsum _ _ _ fun lane => hlane (acc.getD lane 0)
    (block.getD (16 * (lane / 8) + lane % 8) 0)
    (block.getD (16 * (lane / 8) + lane % 8 + 8) 0)).trans ?_
  -- every byte of the block is read by one lane
  simp only [List.range_succ, List.range_zero, List.nil_append, List.map_append, List.map_cons,
    List.map_nil, List.sum_append, List.sum_cons, List.sum_nil, Nat.reduceDiv, Nat.reduceMod,
    Nat.reduceMul, Nat.reduceAdd]
  omega

theorem addBlock_length (acc : List UInt16) (block : Bytes) : (addBlock acc block).length = 16 := by
  rw [addBlock, List.length_map, List.length_range]

/-- The blocks read so far are in the lanes. -/
theorem simdBlocks_total (fuel : Nat) {acc : List UInt16} (hacc : acc.length = 16)
    (buffer : Bytes) :
    (simdBlocks fuel acc buffer).1.length = 16 ∧
      (laneTotal (simdBlocks fuel acc buffer).1 + byteTotal (simdBlocks fuel acc buffer).2) % 256 =
        (laneTotal acc + byteTotal buffer) % 256 := by
  induction fuel generalizing acc buffer with
  | zero => exact ⟨hacc, rfl⟩
  | succ fuel ih =>
    unfold simdBlocks
    split
    next hblock =>
      obtain ⟨hlength, htotal⟩ := ih (addBlock_length acc (buffer.take 32)) (buffer.drop 32)
      refine ⟨hlength, htotal.trans ?_⟩
      have hadded := laneTotal_addBlock hacc (List.length_take_of_le hblock)
      have hsplit := byteTotal_take_drop 32 buffer
      omega
    next => exact ⟨hacc, rfl⟩

/-- The vector loop computes the sum of the bytes modulo 256. -/
theorem simdSum_mod (buffer : Bytes) : (simdSum buffer).toNat % 256 = byteTotal buffer % 256 := by
  obtain ⟨hlength, htotal⟩ := simdBlocks_total buffer.length
    (List.length_replicate : (List.replicate 16 (0 : UInt16)).length = 16) buffer
  have hzero : laneTotal (List.replicate 16 0) = 0 := rfl
  have hfold : ∀ (lanes : List UInt16) (sum : UInt32),
      (lanes.foldl (fun sum lane => sum + lane.toUInt32) sum).toNat % 256 =
        (sum.toNat + laneTotal lanes) % 256 := by
    intro lanes
    induction lanes with
    | nil => exact fun sum => rfl
    | cons lane lanes ih =>
      intro sum
      have hcons : laneTotal (lane :: lanes) = lane.toNat + laneTotal lanes := List.sum_cons
      rw [List.foldl_cons, ih, UInt32.toNat_add, UInt16.toNat_toUInt32, hcons]
      omega
  have hhalves : ∀ acc : List UInt16, acc.length = 16 →
      laneTotal ((List.range 8).map fun j => acc.getD j 0 + acc.getD (j + 8) 0) % 256 =
        laneTotal acc % 256 := by
    intro acc hacc
    have hlanes := sum_getD UInt16.toNat 0 acc
    rw [hacc] at hlanes
    rw [laneTotal, laneTotal, ← hlanes]
    simp only [List.range_succ, List.range_zero, List.nil_append, List.map_append, List.map_cons,
      List.map_nil, List.sum_append, List.sum_cons, List.sum_nil, Nat.reduceAdd, UInt16.toNat_add]
    omega
  rw [hzero, Nat.zero_add] at htotal
  rw [simdSum]
  dsimp only
  rw [UInt32.toNat_add, byteSum_toNat]
  have hlanes := hfold ((List.range 8).map fun j =>
    (simdBlocks buffer.length (List.replicate 16 0) buffer).1.getD j 0 +
      (simdBlocks buffer.length (List.replicate 16 0) buffer).1.getD (j + 8) 0) 0
  rw [UInt32.toNat_zero, Nat.zero_add, hhalves _ hlength] at hlanes
  omega

/-! ## The validators -/

theorem mod_eq_iff (sum actual : UInt32) {total : Nat} (h : sum.toNat % 256 = total % 256) :
    sum % fixChecksumModulo = actual ↔ actual.toNat = total % 256 := by
  have hmodulo : fixChecksumModulo.toNat = 256 := rfl
  rw [← UInt32.toNat_inj, UInt32.toNat_mod, hmodulo, h]
  exact eq_comm

/-- The validator that the setting selects. -/
def validateChecksum (enableSimdAvx2 : Bool) (buffer : Bytes) (actualChecksum : UInt32) : Bool :=
  if enableSimdAvx2 then validateChecksumSimdAvx2 buffer actualChecksum
  else validateChecksumNoSimd buffer actualChecksum

/-- Both validators compare with the sum of the bytes modulo 256. -/
theorem validateChecksum_iff (enableSimdAvx2 : Bool) (buffer : Bytes) (actualChecksum : UInt32) :
    validateChecksum enableSimdAvx2 buffer actualChecksum = true ↔
      actualChecksum.toNat = byteTotal buffer % 256 := by
  have hplain : (byteSum buffer).toNat % 256 = byteTotal buffer % 256 := by
    rw [byteSum_toNat]
    omega
  cases enableSimdAvx2 with
  | true =>
    show validateChecksumSimdAvx2 buffer actualChecksum = true ↔ _
    rw [validateChecksumSimdAvx2, decide_eq_true_eq]
    exact mod_eq_iff _ _ (simdSum_mod buffer)
  | false =>
    show validateChecksumNoSimd buffer actualChecksum = true ↔ _
    rw [validateChecksumNoSimd, decide_eq_true_eq]
    exact mod_eq_iff _ _ hplain

/-! ## Validation -/

namespace FixSession

/-- The checks of `validate_fix_message` but those of tag 10. -/
def passesOtherChecks (settings : FixSessionSettings) (rx : RxMessage) (utcNow : Int) : Bool :=
  let m := rx.message
  m.hasTag tagMsgSeqNum && m.isTagValueNumeric tagMsgSeqNum && rx.parserRejectCode.isNone &&
  m.hasTag tagBeginString && m.getTagValue tagBeginString = settings.beginString &&
  m.hasTag tagSenderCompId && m.getTagValue tagSenderCompId = settings.targetCompId &&
  m.hasTag tagTargetCompId && m.getTagValue tagTargetCompId = settings.senderCompId &&
  m.hasTag tagSendingTime &&
  (settings.maxAllowedMessageAgeSeconds = 0 ||
    (isTimestamp (m.getTagValue tagSendingTime) &&
      !isUtcTimestampStale (m.getTagValue tagSendingTime) utcNow
        settings.maxAllowedMessageAgeSeconds))

theorem dropped_unless (condition : Prop) [Decidable condition] (rest : Verdict) :
    (if condition then .dropped else rest) = .valid ↔ ¬ condition ∧ rest = .valid := by
  split <;> simp [*]

theorem rejected_unless (condition : Prop) [Decidable condition] (code errorTag : UInt32)
    (rest : Verdict) :
    (if condition then .rejected code errorTag else rest) = .valid ↔
      ¬ condition ∧ rest = .valid := by
  split <;> simp [*]

/-- A message is valid when it passes the other checks and the number in tag 10 is the sum of all
its bytes but the last seven, modulo 256. -/
theorem validateFixMessage_valid_iff (settings : FixSessionSettings) (rx : RxMessage)
    (utcNow : Int) :
    validateFixMessage settings rx utcNow = .valid ↔
      passesOtherChecks settings rx utcNow = true ∧
        rx.message.isTagValueNumeric tagChecksum = true ∧
        (rx.message.getTagValueAsUInt32 tagChecksum).toNat =
          byteTotal (rx.buffer.take (rx.buffer.length - 7)) % 256 := by
  rw [← validateChecksum_iff settings.enableSimdAvx2]
  unfold validateFixMessage passesOtherChecks validateChecksum
  dsimp only
  cases rx.parserRejectCode with
  | some code =>
    dsimp only
    have hno : (if fixMaxErrorCode < code then Verdict.dropped else .rejected code 0) ≠ .valid := by
      split <;> exact nofun
    simp only [dropped_unless, hno, Option.isNone_some, Bool.and_false, Bool.false_and, and_false,
      Bool.false_eq_true, false_and]
  | none =>
    dsimp only
    have hage : ∀ (age : Nat) (timestamp stale : Bool),
        (if 0 < age then
            if timestamp = false then
              Verdict.rejected fixErrorCodeFormatIncorrectForTag tagSendingTime
            else if stale then .rejected fixErrorCodeSendingTimeAccuracyProblem 0
            else .valid
          else .valid) = .valid ↔ age = 0 ∨ timestamp = true ∧ stale = false := by
      intro age timestamp stale
      rcases Nat.eq_zero_or_pos age with rfl | hpos
      · simp
      · rw [if_pos hpos, rejected_unless, rejected_unless]
        simp [Nat.ne_of_gt hpos]
    simp only [dropped_unless, rejected_unless, hage, Bool.not_eq_false, not_not,
      Option.isNone_none, Bool.and_eq_true, decide_eq_true_eq, Bool.or_eq_true, Bool.not_eq_true']
    tauto

end FixSession

end Llfix
