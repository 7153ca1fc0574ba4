import Mathlib.Data.List.Basic
import Mathlib.Data.List.GetD
import Mathlib.Tactic.Ring

/-!
# Memory-mapped files

A mapped file is a buffer that starts with zeros. It is written in runs of bytes at an offset and
read back the same way; numbers are stored with their least significant byte first.

Results:
1. `readAt_writeAt_self`, `readAt_writeAt_disjoint`: what a write stores, and what it leaves alone.
2. `ofLittleEndian_toLittleEndian`: a number that fits is read back.
3. `store_zipIdx`: a write is a list of stores of single bytes.
4. `torn_increment`: what is read when only some bytes of a counter have been stored.
-/

namespace MappedFile

/-- The bytes of a mapped file. -/
abbrev Buffer := Nat → UInt8

/-- A new file. -/
def zeros : Buffer := fun _ => 0

/-- `memcpy` into the buffer. -/
def writeAt (buffer : Buffer) (offset : Nat) (bytes : List UInt8) : Buffer := fun i =>
  if offset ≤ i ∧ i < offset + bytes.length then bytes.getD (i - offset) 0 else buffer i

theorem writeAt_nil (buffer : Buffer) (offset : Nat) : writeAt buffer offset [] = buffer :=
  funext fun _ => if_neg fun h => Nat.lt_irrefl _ (Nat.lt_of_lt_of_le h.2 h.1)

/-- `memcpy` out of the buffer. -/
def readAt (buffer : Buffer) (offset length : Nat) : List UInt8 :=
  (List.range length).map fun i => buffer (offset + i)

@[simp] theorem length_readAt (buffer : Buffer) (offset length : Nat) :
    (readAt buffer offset length).length = length := by
  simp [readAt]

theorem readAt_one (buffer : Buffer) (offset : Nat) : readAt buffer offset 1 = [buffer offset] := rfl

theorem readAt_add (buffer : Buffer) (offset length length' : Nat) :
    readAt buffer offset (length + length') =
      readAt buffer offset length ++ readAt buffer (offset + length) length' := by
  rw [readAt, List.range_add, List.map_append, List.map_map]
  congr 1
  refine List.map_congr_left fun i _ => ?_
  rw [Function.comp_apply, Nat.add_assoc]

theorem readAt_writeAt_self (buffer : Buffer) (offset : Nat) (bytes : List UInt8) :
    readAt (writeAt buffer offset bytes) offset bytes.length = bytes := by
  refine List.ext_getElem (by simp) fun i hi _ => ?_
  rw [length_readAt] at hi
  simp [readAt, writeAt, hi]

theorem readAt_writeAt_disjoint (buffer : Buffer) {offset offset' length : Nat}
    {bytes : List UInt8} (h : offset' + length ≤ offset ∨ offset + bytes.length ≤ offset') :
    readAt (writeAt buffer offset bytes) offset' length = readAt buffer offset' length := by
  refine List.map_congr_left fun i hi => ?_
  have hlt : i < length := List.mem_range.mp hi
  exact if_neg (by omega)

/-- A write over the first bytes of what is read. -/
theorem readAt_writeAt_front (buffer : Buffer) (offset : Nat) {length : Nat} {bytes : List UInt8}
    (h : bytes.length ≤ length) :
    readAt (writeAt buffer offset bytes) offset length =
      bytes ++ (readAt buffer offset length).drop bytes.length := by
  refine List.ext_getElem (by simp; omega) fun i hi _ => ?_
  rw [length_readAt] at hi
  by_cases hin : i < bytes.length
  · rw [List.getElem_append_left hin]
    simp [readAt, writeAt, hin]
  · rw [List.getElem_append_right (Nat.le_of_not_lt hin)]
    have hindex : bytes.length + (i - bytes.length) = i := by omega
    simp [readAt, writeAt, hin, hindex]

/-- A write behind another one. -/
theorem writeAt_append (buffer : Buffer) (offset : Nat) (front back : List UInt8) :
    writeAt (writeAt buffer offset front) (offset + front.length) back =
      writeAt buffer offset (front ++ back) := by
  funext i
  unfold writeAt
  rw [List.length_append]
  rcases Nat.lt_or_ge i (offset + front.length) with hfront | hback
  · rw [if_neg (by omega)]
    rcases Nat.lt_or_ge i offset with hbefore | hin
    · rw [if_neg (by omega), if_neg (by omega)]
    · rw [if_pos ⟨hin, hfront⟩, if_pos (by omega), List.getD_append _ _ _ _ (by omega)]
  · have hout : ¬ (offset ≤ i ∧ i < offset + front.length) := by omega
    rw [if_neg hout]
    rcases Nat.lt_or_ge i (offset + front.length + back.length) with hin | hbehind
    · rw [if_pos ⟨hback, hin⟩, if_pos (by omega), List.getD_append_right _ _ _ _ (by omega)]
      congr 1
      omega
    · rw [if_neg (by omega), if_neg (by omega)]

/-- A write in front of another one. -/
theorem writeAt_writeAt_front (buffer : Buffer) (offset : Nat) (front back : List UInt8) :
    writeAt (writeAt buffer (offset + front.length) back) offset front =
      writeAt buffer offset (front ++ back) := by
  rw [← writeAt_append]
  funext i
  unfold writeAt
  rcases Nat.lt_or_ge i (offset + front.length) with hfront | hback
  · have hout : ¬ (offset + front.length ≤ i ∧ i < offset + front.length + back.length) := by omega
    rw [if_neg hout, if_neg hout]
  · have hout : ¬ (offset ≤ i ∧ i < offset + front.length) := by omega
    rw [if_neg hout, if_neg hout]

theorem writeAt_apply_ne (buffer : Buffer) {offset i : Nat} {bytes : List UInt8}
    (h : i < offset ∨ offset + bytes.length ≤ i) : writeAt buffer offset bytes i = buffer i :=
  if_neg (by omega)

/-! ## Numbers -/

/-- The `width` low bytes of a number, the least significant first. -/
def toLittleEndian : Nat → Nat → List UInt8
  | 0, _ => []
  | width + 1, n => UInt8.ofNat n :: toLittleEndian width (n / 256)

def ofLittleEndian : List UInt8 → Nat
  | [] => 0
  | b :: bs => b.toNat + 256 * ofLittleEndian bs

@[simp] theorem length_toLittleEndian (width n : Nat) : (toLittleEndian width n).length = width := by
  induction width generalizing n with
  | zero => rfl
  | succ width ih => simp [toLittleEndian, ih]

theorem ofLittleEndian_toLittleEndian {width n : Nat} (h : n < 256 ^ width) :
    ofLittleEndian (toLittleEndian width n) = n := by
  induction width generalizing n with
  | zero =>
    rw [pow_zero] at h
    simp only [toLittleEndian, ofLittleEndian]
    omega
  | succ width ih =>
    have hdiv : n / 256 < 256 ^ width := by
      rw [pow_succ] at h
      exact Nat.div_lt_of_lt_mul (by rwa [Nat.mul_comm])
    have hbyte : (UInt8.ofNat n).toNat = n % 256 := by simp
    simp only [toLittleEndian, ofLittleEndian]
    rw [ih hdiv, hbyte]
    exact Nat.mod_add_div n 256

/-- Reading back a number. -/
theorem ofLittleEndian_readAt_writeAt (buffer : Buffer) (offset : Nat) {width n : Nat}
    (h : n < 256 ^ width) :
    ofLittleEndian (readAt (writeAt buffer offset (toLittleEndian width n)) offset width) = n := by
  have hread := readAt_writeAt_self buffer offset (toLittleEndian width n)
  rw [length_toLittleEndian] at hread
  rw [hread, ofLittleEndian_toLittleEndian h]

example : ofLittleEndian (toLittleEndian 8 70000) = 70000 := by decide

/-! ## Numbers half overwritten -/

theorem take_toLittleEndian {width k : Nat} (h : k ≤ width) (n : Nat) :
    (toLittleEndian width n).take k = toLittleEndian k n := by
  induction k generalizing width n with
  | zero => rfl
  | succ k ih =>
    cases width with
    | zero => exact absurd h (Nat.not_succ_le_zero k)
    | succ width => simp only [toLittleEndian, List.take_succ_cons, ih (Nat.le_of_succ_le_succ h)]

theorem drop_toLittleEndian {width k : Nat} (h : k ≤ width) (n : Nat) :
    (toLittleEndian width n).drop k = toLittleEndian (width - k) (n / 256 ^ k) := by
  induction k generalizing width n with
  | zero => simp
  | succ k ih =>
    cases width with
    | zero => exact absurd h (Nat.not_succ_le_zero k)
    | succ width =>
      rw [toLittleEndian, List.drop_succ_cons, ih (Nat.le_of_succ_le_succ h), Nat.div_div_eq_div_mul,
        pow_succ', Nat.add_sub_add_right]

theorem ofLittleEndian_append (bs bs' : List UInt8) :
    ofLittleEndian (bs ++ bs') = ofLittleEndian bs + 256 ^ bs.length * ofLittleEndian bs' := by
  induction bs with
  | nil => simp [ofLittleEndian]
  | cons b bs ih =>
    simp only [List.cons_append, ofLittleEndian, ih, List.length_cons]
    ring

theorem ofLittleEndian_lt (bs : List UInt8) : ofLittleEndian bs < 256 ^ bs.length := by
  induction bs with
  | nil => simp [ofLittleEndian]
  | cons b bs ih =>
    have hb := b.toNat_lt
    simp only [ofLittleEndian, List.length_cons, pow_succ]
    omega

theorem toLittleEndian_ofLittleEndian (bs : List UInt8) :
    toLittleEndian bs.length (ofLittleEndian bs) = bs := by
  induction bs with
  | nil => rfl
  | cons b bs ih =>
    have hb := b.toNat_lt
    have hbyte : UInt8.ofNat (b.toNat + 256 * ofLittleEndian bs) = b := by
      rw [← UInt8.toNat_inj, UInt8.toNat_ofNat']
      omega
    have hrest : (b.toNat + 256 * ofLittleEndian bs) / 256 = ofLittleEndian bs := by omega
    simp only [List.length_cons, ofLittleEndian, toLittleEndian, hbyte, hrest, ih]

/-- The places above the bytes are zeros. -/
theorem toLittleEndian_ofLittleEndian_add (bs : List UInt8) (k : Nat) :
    toLittleEndian (bs.length + k) (ofLittleEndian bs) = bs ++ List.replicate k 0 := by
  have hlow := take_toLittleEndian (Nat.le_add_right bs.length k) (ofLittleEndian bs)
  have hhigh := drop_toLittleEndian (Nat.le_add_right bs.length k) (ofLittleEndian bs)
  have hzeros : ∀ width, toLittleEndian width 0 = List.replicate width 0 := by
    intro width
    induction width with
    | zero => rfl
    | succ width ih => exact congrArg (0 :: ·) ih
  rw [toLittleEndian_ofLittleEndian] at hlow
  rw [Nat.add_sub_cancel_left, Nat.div_eq_of_lt (ofLittleEndian_lt bs), hzeros] at hhigh
  rw [← List.take_append_drop bs.length (toLittleEndian (bs.length + k) _), hlow, hhigh]

theorem ofLittleEndian_toLittleEndian_mod (width n : Nat) :
    ofLittleEndian (toLittleEndian width n) = n % 256 ^ width := by
  induction width generalizing n with
  | zero => simp [toLittleEndian, ofLittleEndian, Nat.mod_one]
  | succ width ih =>
    have hbyte : (UInt8.ofNat n).toNat = n % 256 := UInt8.toNat_ofNat'
    simp only [toLittleEndian, ofLittleEndian, ih, hbyte]
    rw [pow_succ', Nat.mod_mul]

/-- The number `n` whose first `k` bytes are those of `n + 1` already. It is `n + 1`, unless the
bytes carry into the ones behind. -/
theorem torn_increment {width k n : Nat} (hk : k ≤ width) (h : n + 1 < 256 ^ width) :
    ofLittleEndian ((toLittleEndian width (n + 1)).take k ++ (toLittleEndian width n).drop k) =
      if (n + 1) % 256 ^ k = 0 then n + 1 - 256 ^ k else n + 1 := by
  have hpos : 0 < 256 ^ k := Nat.pow_pos (by decide)
  have hhigh : n / 256 ^ k < 256 ^ (width - k) := by
    rw [Nat.div_lt_iff_lt_mul hpos, ← pow_add, Nat.sub_add_cancel hk]
    omega
  rw [take_toLittleEndian hk, drop_toLittleEndian hk, ofLittleEndian_append, length_toLittleEndian,
    ofLittleEndian_toLittleEndian_mod, ofLittleEndian_toLittleEndian hhigh]
  have hsucc : (n + 1) / 256 ^ k = _ := Nat.succ_div
  have hdecomp := Nat.div_add_mod (n + 1) (256 ^ k)
  split
  next hzero =>
    rw [if_pos (Nat.dvd_of_mod_eq_zero hzero)] at hsucc
    rw [hsucc, hzero, Nat.mul_add] at hdecomp
    omega
  next hcarry =>
    rw [if_neg fun hdvd => hcarry (Nat.mod_eq_zero_of_dvd hdvd)] at hsucc
    rw [hsucc, Nat.add_zero] at hdecomp
    omega

/-! ## Stores of single bytes -/

/-- Bytes with the places they are stored at, one after the other. -/
def store (buffer : Buffer) (stores : List (UInt8 × Nat)) : Buffer :=
  stores.foldl (fun buffer s => Function.update buffer s.2 s.1) buffer

theorem store_append (buffer : Buffer) (stores stores' : List (UInt8 × Nat)) :
    store buffer (stores ++ stores') = store (store buffer stores) stores' :=
  List.foldl_append

/-- A write is the stores of its bytes. -/
theorem store_zipIdx (buffer : Buffer) (offset : Nat) (bytes : List UInt8) :
    store buffer (bytes.zipIdx offset) = writeAt buffer offset bytes := by
  induction bytes generalizing buffer offset with
  | nil =>
    funext i
    exact (if_neg (by simp)).symm
  | cons b bytes ih =>
    rw [List.zipIdx_cons]
    refine (ih (Function.update buffer offset b) (offset + 1)).trans (funext fun i => ?_)
    rcases Nat.lt_trichotomy i offset with hlt | rfl | hgt
    · rw [writeAt_apply_ne _ (.inl (by omega)), writeAt_apply_ne _ (.inl hlt),
        Function.update_of_ne (by omega)]
    · rw [writeAt_apply_ne _ (.inl (by omega)), Function.update_self]
      simp [writeAt]
    · obtain ⟨d, rfl⟩ : ∃ d, i = offset + 1 + d := ⟨i - (offset + 1), by omega⟩
      simp only [writeAt, List.length_cons]
      by_cases hin : d < bytes.length
      · rw [if_pos (by omega), if_pos (by omega), Nat.add_sub_cancel_left,
          show offset + 1 + d - offset = d + 1 by omega, List.getD_cons_succ]
      · rw [if_neg (by omega), if_neg (by omega), Function.update_of_ne (by omega)]

/-- Bytes that no store is for stay. -/
theorem readAt_store_disjoint {stores : List (UInt8 × Nat)} {offset length : Nat}
    (h : ∀ s ∈ stores, s.2 < offset ∨ offset + length ≤ s.2) (buffer : Buffer) :
    readAt (store buffer stores) offset length = readAt buffer offset length := by
  induction stores generalizing buffer with
  | nil => rfl
  | cons s stores ih =>
    refine (ih (fun s' hs' => h s' (List.mem_cons_of_mem _ hs')) _).trans ?_
    refine List.map_congr_left fun i hi => ?_
    have hlt : i < length := List.mem_range.mp hi
    refine Function.update_of_ne ?_ _ _
    rcases h s List.mem_cons_self with hbefore | hbehind
    · omega
    · omega

theorem take_zipIdx (bytes : List UInt8) (offset k : Nat) :
    (bytes.zipIdx offset).take k = (bytes.take k).zipIdx offset := by
  induction bytes generalizing offset k with
  | nil => simp
  | cons b bytes ih =>
    cases k with
    | zero => rfl
    | succ k => simp [List.zipIdx_cons, ih]

end MappedFile
