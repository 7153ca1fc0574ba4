import Mathlib.Algebra.Order.Field.Rat
import Mathlib.Tactic.FieldSimp
import Llfix.LongIntegers

/-!
# Fixed-point prices

`FixedPoint` keeps a decimal as a 64-bit number of units of its last decimal point. The text that is
written is one of the texts that are read, and a text is read as the number it denotes.

Results:
1. `setFromChars_text`: what is read of a text.
2. `toChars_eq`: the bytes that are written.
3. `fixedPoint_exact`: both for every number of decimal points.
-/

namespace Llfix

open MappedFile

structure FixedPoint where
  rawValue : UInt64 := 0
  decimalPoints : UInt32 := 0
deriving DecidableEq, Repr

namespace FixedPoint

def maxDigits : Nat := 64

def maxAllowedDecimalPoints : Nat := 9

/-- The `POWERS_OF_TEN` of the class, which begin with one. -/
def powersOfTen : List UInt64 :=
  [1, 10, 100, 1000, 10000, 100000, 1000000, 10000000, 100000000, 1000000000]

/-- The locals of `set_from_chars`; `tempBuffer` is as long as `temp_buffer_length` says. -/
structure Scan where
  tempBuffer : Bytes := []
  lengthFractalPart : Nat := 0
  inFractalPart : Bool := false

/-- One turn of the loop of `set_from_chars`; `none` is an assertion that fails. -/
def Scan.step (s : Scan) (currentChar : UInt8) : Option Scan :=
  if currentChar ≠ '.'.toUInt8 then
    if s.tempBuffer.length < maxDigits then
      some { s with
        tempBuffer := s.tempBuffer ++ [currentChar]
        lengthFractalPart :=
          if s.inFractalPart then s.lengthFractalPart + 1 else s.lengthFractalPart }
    else none
  else some { s with inFractalPart := true }

/-- `set_from_chars`; `none` is an assertion that fails. -/
def setFromChars (fp : FixedPoint) (buffer : Bytes) : Option FixedPoint :=
  let decimalPoints := fp.decimalPoints.toNat
  if 0 < decimalPoints ∧ decimalPoints ≤ maxAllowedDecimalPoints ∧ 0 < buffer.length then
    (buffer.foldlM Scan.step {}).bind fun s =>
      if s.lengthFractalPart ≤ decimalPoints ∧ s.lengthFractalPart ≤ maxAllowedDecimalPoints then
        let scale := powersOfTen.getD decimalPoints 0 / powersOfTen.getD s.lengthFractalPart 0
        some { fp with rawValue := charsToUnsignedInt64 s.tempBuffer * scale }
      else none
  else none

/-- The loop of `to_chars` that copies the digits from the last one on. -/
def copyDigitsBack (buffer tempBuffer : Buffer) (maxBufferIndex length : Nat) : Buffer :=
  (List.range length).foldl
    (fun buffer i => writeAt buffer (maxBufferIndex - i) [tempBuffer (length - 1 - i)]) buffer

/-- `to_chars`, with the target buffer and the length that is returned. `none` is an assertion that
fails; `tempBuffer` is not initialised. -/
def toChars (fp : FixedPoint) (tempBuffer buffer : Buffer) : Option (Buffer × Nat) :=
  let decimalPoints := fp.decimalPoints.toNat
  if 0 < decimalPoints ∧ decimalPoints ≤ maxAllowedDecimalPoints then
    let tempBuffer := (unsignedIntToChars64In tempBuffer fp.rawValue).1
    let length := getCharsLengthOfUInt64 fp.rawValue
    if decimalPoints < length then
      if length + 1 < maxDigits then
        let integerPartLength := length - decimalPoints
        let buffer := writeAt buffer 0 (readAt tempBuffer 0 integerPartLength)
        let buffer := writeAt buffer integerPartLength ['.'.toUInt8]
        let buffer := writeAt buffer (integerPartLength + 1)
          (readAt tempBuffer integerPartLength decimalPoints)
        some (buffer, length + 1)
      else none
    else
      if 2 + decimalPoints < maxDigits then
        let buffer := writeAt (writeAt buffer 0 ['0'.toUInt8]) 1 ['.'.toUInt8]
        let buffer := copyDigitsBack buffer tempBuffer (2 + decimalPoints - 1) length
        let buffer := writeAt buffer 2 (List.replicate (decimalPoints - length) '0'.toUInt8)
        some (buffer, 2 + decimalPoints)
      else none
  else none

end FixedPoint

/-! ## Texts of decimals -/

/-- Digits with at most one `'.'`; `fraction` is what stands behind it. -/
structure DecimalText where
  whole : Bytes
  fraction : Option Bytes
  wholeDigits : whole.all isDigit = true
  fractionDigits : (fraction.getD []).all isDigit = true
  nonempty : whole ≠ [] ∨ fraction ≠ none

namespace DecimalText

/-- The bytes of the text. -/
def chars (t : DecimalText) : Bytes :=
  t.whole ++ t.fraction.elim [] fun digits => '.'.toUInt8 :: digits

def digits (t : DecimalText) : Bytes := t.whole ++ t.fraction.getD []

def fractionLength (t : DecimalText) : Nat := (t.fraction.getD []).length

/-- The number that the text denotes. -/
def value (t : DecimalText) : ℚ :=
  decimalValue t.whole + decimalValue (t.fraction.getD []) / 10 ^ t.fractionLength

theorem digits_all (t : DecimalText) : t.digits.all isDigit = true := by
  rw [digits, List.all_append, t.wholeDigits, t.fractionDigits]
  rfl

theorem chars_length_pos (t : DecimalText) : 0 < t.chars.length := by
  rw [List.length_pos_iff, chars]
  intro hnil
  obtain ⟨hwhole, hfraction⟩ := List.append_eq_nil_iff.mp hnil
  rcases t.nonempty with hne | hne
  · exact hne hwhole
  · cases hoption : t.fraction with
    | none => exact hne hoption
    | some digits =>
      rw [hoption] at hfraction
      exact List.cons_ne_nil _ _ hfraction

end DecimalText

theorem decimalValue_append (front back : Bytes) :
    decimalValue (front ++ back) = decimalValue front * 10 ^ back.length + decimalValue back := by
  induction back using List.reverseRecOn with
  | nil => simp [decimalValue]
  | append_singleton back c ih =>
    rw [← List.append_assoc, decimalValue_snoc, ih, decimalValue_snoc, List.length_append,
      List.length_singleton, pow_succ]
    ring

/-- The digits without the point, and the point moved to the right. -/
theorem DecimalText.value_scaled (t : DecimalText) {decimalPoints : Nat}
    (h : t.fractionLength ≤ decimalPoints) :
    t.value * 10 ^ decimalPoints =
      ((decimalValue t.digits * 10 ^ (decimalPoints - t.fractionLength) : Nat) : ℚ) := by
  obtain ⟨more, rfl⟩ := Nat.exists_eq_add_of_le h
  rw [value, digits, decimalValue_append, Nat.add_sub_cancel_left, pow_add, ← fractionLength]
  push_cast
  field_simp

namespace FixedPoint

/-! ## Reading -/

theorem step_digit {s : Scan} {c : UInt8} (hc : isDigit c = true)
    (hroom : s.tempBuffer.length < maxDigits) :
    s.step c = some { s with
      tempBuffer := s.tempBuffer ++ [c]
      lengthFractalPart :=
        if s.inFractalPart then s.lengthFractalPart + 1 else s.lengthFractalPart } := by
  have hpoint : c ≠ '.'.toUInt8 := by
    rintro rfl
    exact absurd hc (by decide)
  rw [Scan.step, if_pos hpoint, if_pos hroom]

/-- A run of digits, in front of the point or behind it. -/
theorem scan_digits {digits : Bytes} (h : digits.all isDigit = true) {s : Scan}
    (hroom : s.tempBuffer.length + digits.length ≤ maxDigits) :
    digits.foldlM Scan.step s = some { s with
      tempBuffer := s.tempBuffer ++ digits
      lengthFractalPart :=
        if s.inFractalPart then s.lengthFractalPart + digits.length
        else s.lengthFractalPart } := by
  induction digits generalizing s with
  | nil =>
    rw [List.append_nil, List.length_nil, Nat.add_zero, ite_self]
    rfl
  | cons c digits ih =>
    rw [List.all_cons, Bool.and_eq_true] at h
    rw [List.length_cons] at hroom
    rw [List.foldlM_cons, step_digit h.1 (by omega)]
    refine (ih h.2 ?_).trans ?_
    · rw [List.length_append, List.length_singleton]
      omega
    · rw [List.append_assoc, List.singleton_append, List.length_cons]
      cases s.inFractalPart with
      | false => rfl
      | true =>
        simp only [if_true]
        rw [Nat.add_assoc, Nat.add_comm 1]

theorem scan_text (t : DecimalText) (hdigits : t.digits.length ≤ maxDigits) :
    ∃ s, t.chars.foldlM Scan.step {} = some s ∧ s.tempBuffer = t.digits ∧
      s.lengthFractalPart = t.fractionLength := by
  rw [DecimalText.digits, List.length_append] at hdigits
  have hwhole := scan_digits t.wholeDigits (s := {})
    (by rw [List.length_nil, Nat.zero_add]; exact Nat.le_trans (Nat.le_add_right _ _) hdigits)
  have hfraction := t.fractionDigits
  rw [DecimalText.chars, List.foldlM_append, hwhole, DecimalText.digits, DecimalText.fractionLength]
  cases hoption : t.fraction with
  | none => exact ⟨_, rfl, (List.append_nil _).symm, rfl⟩
  | some digits =>
    rw [hoption] at hfraction hdigits
    -- the point is not copied
    have hpoint := scan_digits (s := { tempBuffer := t.whole, inFractalPart := true })
      hfraction hdigits
    refine ⟨_, hpoint, rfl, ?_⟩
    exact Nat.zero_add _

/-- The quotient of two powers of ten is one. -/
theorem powersOfTen_div {decimalPoints fraction : Nat}
    (hpoints : decimalPoints ≤ maxAllowedDecimalPoints) (h : fraction ≤ decimalPoints) :
    (powersOfTen.getD decimalPoints 0 / powersOfTen.getD fraction 0).toNat =
      10 ^ (decimalPoints - fraction) := by
  have hall : ∀ points < 10, ∀ fraction < 10, fraction ≤ points →
      (powersOfTen.getD points 0 / powersOfTen.getD fraction 0).toNat =
        10 ^ (points - fraction) := by
    decide
  exact hall _ (Nat.lt_succ_of_le hpoints) _ (Nat.lt_succ_of_le (Nat.le_trans h hpoints)) h

/-- A text is read as its number. -/
theorem setFromChars_text (fp : FixedPoint) (hlow : 0 < fp.decimalPoints.toNat)
    (hhigh : fp.decimalPoints.toNat ≤ maxAllowedDecimalPoints) (t : DecimalText)
    (hfraction : t.fractionLength ≤ fp.decimalPoints.toNat)
    (hdigits : t.digits.length ≤ maxDigits) {raw : Nat}
    (hraw : decimalValue t.digits * 10 ^ (fp.decimalPoints.toNat - t.fractionLength) = raw)
    (hlt : raw < 18446744073709551616) :
    fp.setFromChars t.chars = some { fp with rawValue := UInt64.ofNat raw } := by
  obtain ⟨s, hscan, htemp, hlength⟩ := scan_text t hdigits
  have hscale := powersOfTen_div hhigh hfraction
  rw [setFromChars]
  dsimp only
  rw [if_pos ⟨hlow, hhigh, t.chars_length_pos⟩, hscan, Option.bind_some, hlength,
    if_pos ⟨hfraction, Nat.le_trans hfraction hhigh⟩, htemp]
  have hvalue : charsToUnsignedInt64 t.digits *
      (powersOfTen.getD fp.decimalPoints.toNat 0 / powersOfTen.getD t.fractionLength 0) =
        UInt64.ofNat raw := by
    have hle : decimalValue t.digits ≤ raw := by
      rw [← hraw]
      exact Nat.le_mul_of_pos_right _ (Nat.pow_pos (by decide))
    rw [← UInt64.toNat_inj, UInt64.toNat_mul, charsToUnsignedInt64_digits t.digits_all, hscale,
      Nat.mod_eq_of_lt (Nat.lt_of_le_of_lt hle hlt), hraw, UInt64.toNat_ofNat']
  rw [hvalue]

/-! ## Writing -/

theorem isDigit_zeros {count : Nat} {digits : Bytes} (h : digits.all isDigit = true) :
    (List.replicate count '0'.toUInt8 ++ digits).all isDigit = true := by
  rw [List.all_append, h, Bool.and_true, List.all_replicate]
  cases count with
  | zero => rfl
  | succ count => rfl

theorem decimalValue_zeros (count : Nat) (digits : Bytes) :
    decimalValue (List.replicate count '0'.toUInt8 ++ digits) = decimalValue digits := by
  induction count with
  | zero => rfl
  | succ count ih =>
    have hzero : ('0'.toUInt8).toNat - 48 = 0 := rfl
    rw [List.replicate_succ, List.cons_append, decimalValue_cons, ih, hzero, Nat.zero_mul,
      Nat.zero_add]

/-- The digits of the raw value, with zeros in front so that one stands before the point. -/
def paddedDigits (fp : FixedPoint) : Bytes :=
  let digits := unsignedIntToChars64 fp.rawValue
  List.replicate (fp.decimalPoints.toNat + 1 - digits.length) '0'.toUInt8 ++ digits

variable (fp : FixedPoint)

theorem paddedDigits_all : fp.paddedDigits.all isDigit = true :=
  isDigit_zeros (unsignedIntToChars64_all fp.rawValue)

theorem decimalValue_paddedDigits : decimalValue fp.paddedDigits = fp.rawValue.toNat := by
  rw [paddedDigits, decimalValue_zeros, decimalValue_unsignedIntToChars64]

theorem paddedDigits_length :
    fp.paddedDigits.length =
      max (fp.decimalPoints.toNat + 1) (unsignedIntToChars64 fp.rawValue).length := by
  rw [paddedDigits, List.length_append, List.length_replicate]
  omega

theorem decimalPoints_lt_paddedDigits : fp.decimalPoints.toNat < fp.paddedDigits.length := by
  rw [paddedDigits_length]
  exact Nat.lt_of_lt_of_le (Nat.lt_succ_self _) (Nat.le_max_left _ _)

/-- The text that `to_chars` writes. -/
def toText (fp : FixedPoint) : DecimalText where
  whole := fp.paddedDigits.take (fp.paddedDigits.length - fp.decimalPoints.toNat)
  fraction := some (fp.paddedDigits.drop (fp.paddedDigits.length - fp.decimalPoints.toNat))
  wholeDigits := List.all_eq_true.mpr fun c hc =>
    List.all_eq_true.mp fp.paddedDigits_all c (List.mem_of_mem_take hc)
  fractionDigits := List.all_eq_true.mpr fun c hc =>
    List.all_eq_true.mp fp.paddedDigits_all c (List.mem_of_mem_drop hc)
  nonempty := Or.inr (Option.some_ne_none _)

theorem digits_toText : fp.toText.digits = fp.paddedDigits :=
  List.take_append_drop _ _

theorem fractionLength_toText : fp.toText.fractionLength = fp.decimalPoints.toNat := by
  have hlt := fp.decimalPoints_lt_paddedDigits
  show (fp.paddedDigits.drop _).length = _
  rw [List.length_drop]
  omega

theorem chars_toText_length : fp.toText.chars.length = fp.paddedDigits.length + 1 := by
  show (_ ++ '.'.toUInt8 :: _).length = _
  rw [List.length_append, List.length_cons, ← Nat.add_assoc, ← List.length_append]
  exact congrArg (·.length + 1) fp.digits_toText

/-- What is read over two lengths, in its two parts. -/
theorem readAt_parts {buffer : Buffer} {front back : Nat} {bytes : Bytes}
    (h : readAt buffer 0 (front + back) = bytes) :
    readAt buffer 0 front = bytes.take front ∧ readAt buffer front back = bytes.drop front := by
  rw [readAt_add, Nat.zero_add] at h
  rw [← h]
  exact ⟨(List.take_left' (length_readAt ..)).symm, (List.drop_left' (length_readAt ..)).symm⟩

/-- The loop leaves the digits in front of the byte behind its start. -/
theorem copyDigitsBack_eq (buffer tempBuffer : Buffer) {maxBufferIndex length : Nat}
    (h : length ≤ maxBufferIndex + 1) :
    copyDigitsBack buffer tempBuffer maxBufferIndex length =
      writeAt buffer (maxBufferIndex + 1 - length) (readAt tempBuffer 0 length) := by
  have hturns : ∀ turns ≤ length,
      (List.range turns).foldl
        (fun buffer i => writeAt buffer (maxBufferIndex - i) [tempBuffer (length - 1 - i)])
          buffer =
        writeAt buffer (maxBufferIndex + 1 - turns) (readAt tempBuffer (length - turns) turns) := by
    intro turns hturns
    induction turns with
    | zero => exact (writeAt_nil buffer _).symm
    | succ turns ih =>
      rw [List.range_succ, List.foldl_append, ih (Nat.le_of_succ_le hturns), List.foldl_cons,
        List.foldl_nil]
      have hoffset : maxBufferIndex + 1 - turns = maxBufferIndex - turns +
          [tempBuffer (length - 1 - turns)].length := by
        rw [List.length_singleton]
        omega
      have hfirst : length - 1 - turns = length - (turns + 1) := by omega
      have hbehind : length - turns = length - (turns + 1) + 1 := by omega
      rw [hoffset, writeAt_writeAt_front, Nat.add_sub_add_right, hfirst, hbehind,
        Nat.add_comm turns 1, readAt_add, readAt_one, Nat.add_comm 1 turns]
  rw [copyDigitsBack, hturns length (Nat.le_refl _), Nat.sub_self]

/-- The text is written, and no byte behind it. -/
theorem toChars_eq (hlow : 0 < fp.decimalPoints.toNat)
    (hhigh : fp.decimalPoints.toNat ≤ maxAllowedDecimalPoints) (tempBuffer buffer : Buffer) :
    fp.toChars tempBuffer buffer =
      some (writeAt buffer 0 fp.toText.chars, fp.toText.chars.length) := by
  have hlength := getCharsLengthOfUInt64_eq fp.rawValue
  have hmax : maxDigits = 64 := rfl
  have hle := unsignedIntToChars64_length_le fp.rawValue
  have hpoints : maxAllowedDecimalPoints = 9 := rfl
  have hpadded := fp.paddedDigits_length
  have hchars : fp.toText.chars =
      fp.paddedDigits.take (fp.paddedDigits.length - fp.decimalPoints.toNat) ++
        '.'.toUInt8 :: fp.paddedDigits.drop (fp.paddedDigits.length - fp.decimalPoints.toNat) := rfl
  rw [chars_toText_length, hchars, toChars]
  dsimp only
  rw [if_pos ⟨hlow, hhigh⟩, unsignedIntToChars64In_eq, hlength]
  split
  next hlt =>
    have hdigits : fp.paddedDigits = unsignedIntToChars64 fp.rawValue := by
      rw [paddedDigits, Nat.sub_eq_zero_of_le hlt]
      rfl
    rw [if_pos (by omega), hdigits]
    generalize unsignedIntToChars64 fp.rawValue = digits at hlt
    generalize fp.decimalPoints.toNat = points at hlt
    have hread : readAt (writeAt tempBuffer 0 digits) 0 (digits.length - points + points) =
        digits := by
      rw [Nat.sub_add_cancel (Nat.le_of_lt hlt)]
      exact readAt_writeAt_self tempBuffer 0 digits
    obtain ⟨hwhole, hfraction⟩ := readAt_parts hread
    have hwholeLength : (digits.take (digits.length - points)).length = digits.length - points :=
      List.length_take_of_le (Nat.sub_le _ _)
    rw [hwhole, hfraction]
    -- the three copies stand one behind the other
    have hpoint := writeAt_append buffer 0 (digits.take (digits.length - points)) ['.'.toUInt8]
    have hbehind := writeAt_append buffer 0
      (digits.take (digits.length - points) ++ ['.'.toUInt8])
      (digits.drop (digits.length - points))
    rw [Nat.zero_add, hwholeLength] at hpoint
    rw [Nat.zero_add, List.length_append, hwholeLength, List.length_singleton, List.append_assoc,
      List.singleton_append] at hbehind
    rw [hpoint, hbehind]
  next hge =>
    have hlengths : fp.paddedDigits.length = fp.decimalPoints.toNat + 1 := by omega
    have hzeros : fp.paddedDigits = '0'.toUInt8 ::
        (List.replicate (fp.decimalPoints.toNat - (unsignedIntToChars64 fp.rawValue).length)
          '0'.toUInt8 ++ unsignedIntToChars64 fp.rawValue) := by
      rw [paddedDigits, Nat.succ_sub (Nat.le_of_not_lt hge)]
      rfl
    rw [if_pos (by omega), hlengths, hzeros, Nat.add_sub_cancel_left]
    generalize unsignedIntToChars64 fp.rawValue = digits at hge
    generalize fp.decimalPoints.toNat = points at hge hlow
    have hmaxIndex : 2 + points - 1 + 1 - digits.length =
        2 + (List.replicate (points - digits.length) '0'.toUInt8).length := by
      rw [List.length_replicate]
      omega
    rw [copyDigitsBack_eq _ _ (by omega), hmaxIndex, readAt_writeAt_self, writeAt_writeAt_front]
    have hzeroPoint : writeAt (writeAt buffer 0 ['0'.toUInt8]) 1 ['.'.toUInt8] =
        writeAt buffer 0 ['0'.toUInt8, '.'.toUInt8] := writeAt_append ..
    have hbehind : ∀ bytes, writeAt (writeAt buffer 0 ['0'.toUInt8, '.'.toUInt8]) 2 bytes =
        writeAt buffer 0 ('0'.toUInt8 :: '.'.toUInt8 :: bytes) := fun bytes => writeAt_append ..
    rw [hzeroPoint, hbehind, Nat.add_comm 2]
    rfl

end FixedPoint

/-! ## Exactness -/

/-- A text that a price with so many decimal points can hold. -/
structure DecimalText.Fits (t : DecimalText) (decimalPoints : UInt32) : Prop where
  fraction : t.fractionLength ≤ decimalPoints.toNat
  digits : t.digits.length ≤ FixedPoint.maxDigits
  value : t.value * 10 ^ decimalPoints.toNat < 2 ^ 64

namespace FixedPoint

theorem setFromChars_fits {fp : FixedPoint} (hlow : 0 < fp.decimalPoints)
    (hhigh : fp.decimalPoints ≤ 9) {t : DecimalText} (h : t.Fits fp.decimalPoints) :
    ∃ raw : UInt64, fp.setFromChars t.chars = some { fp with rawValue := raw } ∧
      (raw.toNat : ℚ) = t.value * 10 ^ fp.decimalPoints.toNat := by
  have hvalue := h.value
  rw [t.value_scaled h.fraction] at hvalue ⊢
  have hlt : decimalValue t.digits * 10 ^ (fp.decimalPoints.toNat - t.fractionLength) < 2 ^ 64 := by
    exact_mod_cast hvalue
  refine ⟨_, fp.setFromChars_text hlow hhigh t h.fraction h.digits rfl hlt, ?_⟩
  rw [UInt64.toNat_ofNat', Nat.mod_eq_of_lt hlt]

theorem setFromChars_toText (fp old : FixedPoint) (hlow : 0 < fp.decimalPoints)
    (hhigh : fp.decimalPoints ≤ 9) (hold : old.decimalPoints = fp.decimalPoints) :
    old.setFromChars fp.toText.chars = some fp := by
  have hlength := fp.paddedDigits_length
  have hle := unsignedIntToChars64_length_le fp.rawValue
  have hpoints : fp.decimalPoints.toNat ≤ 9 := hhigh
  have hmax : maxDigits = 64 := rfl
  have hraw : decimalValue fp.toText.digits *
      10 ^ (old.decimalPoints.toNat - fp.toText.fractionLength) = fp.rawValue.toNat := by
    rw [fractionLength_toText, hold, Nat.sub_self, pow_zero, Nat.mul_one, digits_toText,
      decimalValue_paddedDigits]
  rw [old.setFromChars_text (hold ▸ hlow) (hold ▸ hhigh) fp.toText
    (by rw [fractionLength_toText, hold]) (by rw [digits_toText]; omega) hraw
    fp.rawValue.toNat_lt, UInt64.ofNat_toNat, hold]

end FixedPoint

/-- For every number of decimal points that the class allows: what `to_chars` writes of a raw value
is read back as that value, it writes no byte behind the length that it returns and that length
leaves room for a zero; a text that fits is read as exactly the number it denotes; and texts of one
number give one raw value. -/
theorem fixedPoint_exact {decimalPoints : UInt32} (hlow : 0 < decimalPoints)
    (hhigh : decimalPoints ≤ 9) :
    (∀ (raw : UInt64) (fp : FixedPoint) (tempBuffer buffer : Buffer),
      fp.decimalPoints = decimalPoints →
      ∃ written length,
        FixedPoint.toChars { rawValue := raw, decimalPoints := decimalPoints } tempBuffer buffer =
          some (written, length) ∧
        length < FixedPoint.maxDigits ∧ (∀ i, length ≤ i → written i = buffer i) ∧
        fp.setFromChars (readAt written 0 length) =
          some { rawValue := raw, decimalPoints := decimalPoints }) ∧
    (∀ (t : DecimalText) (fp : FixedPoint), t.Fits decimalPoints →
      fp.decimalPoints = decimalPoints →
      ∃ raw : UInt64, fp.setFromChars t.chars =
          some { rawValue := raw, decimalPoints := decimalPoints } ∧
        (raw.toNat : ℚ) = t.value * 10 ^ decimalPoints.toNat) ∧
    ∀ (t t' : DecimalText) (fp fp' : FixedPoint), t.Fits decimalPoints → t'.Fits decimalPoints →
      fp.decimalPoints = decimalPoints → fp'.decimalPoints = decimalPoints → t.value = t'.value →
      fp.setFromChars t.chars = fp'.setFromChars t'.chars := by
  have hread : ∀ (t : DecimalText) (fp : FixedPoint), t.Fits decimalPoints →
      fp.decimalPoints = decimalPoints →
      ∃ raw : UInt64, fp.setFromChars t.chars =
          some { rawValue := raw, decimalPoints := decimalPoints } ∧
        (raw.toNat : ℚ) = t.value * 10 ^ decimalPoints.toNat := by
    rintro t fp ht rfl
    exact FixedPoint.setFromChars_fits hlow hhigh ht
  refine ⟨fun raw fp tempBuffer buffer hfp => ?_, hread, fun t t' fp fp' ht ht' hfp hfp' heq => ?_⟩
  -- What `to_chars` writes is a text of the value, and every such text is read as the value.
  · obtain ⟨price, hprice⟩ :
        ∃ price : FixedPoint, price = { rawValue := raw, decimalPoints := decimalPoints } :=
      ⟨_, rfl⟩
    have hpoints : price.decimalPoints = decimalPoints := by rw [hprice]
    rw [← hpoints] at hlow hhigh hfp
    rw [← hprice]
    have hlength := price.chars_toText_length
    have hpadded := price.paddedDigits_length
    have hle := unsignedIntToChars64_length_le price.rawValue
    have hnine : price.decimalPoints.toNat ≤ 9 := hhigh
    have hmax : FixedPoint.maxDigits = 64 := rfl
    refine ⟨_, _, price.toChars_eq hlow hhigh tempBuffer buffer, by omega, fun i hi => ?_, ?_⟩
    · exact writeAt_apply_ne buffer (Or.inr (by rwa [Nat.zero_add]))
    · rw [readAt_writeAt_self]
      exact FixedPoint.setFromChars_toText price fp hlow hhigh hfp
  · obtain ⟨raw, hraw, hvalue⟩ := hread t fp ht hfp
    obtain ⟨raw', hraw', hvalue'⟩ := hread t' fp' ht' hfp'
    rw [heq, ← hvalue'] at hvalue
    have hsame : raw = raw' := UInt64.toNat_inj.mp (by exact_mod_cast hvalue)
    rw [hraw, hraw', hsame]

/-- `"1.5"`. -/
def oneAndAHalf : DecimalText where
  whole := text "1"
  fraction := some (text "5")
  wholeDigits := by decide
  fractionDigits := by decide
  nonempty := Or.inl (by decide)

/-- `"1.5"` with four decimal points. -/
theorem fixedPoint_exact_half :
    FixedPoint.setFromChars { decimalPoints := 4 } (text "1.5") =
      some { rawValue := 15000, decimalPoints := 4 } := by
  have hscaled : oneAndAHalf.value * 10 ^ (4 : UInt32).toNat = ((15000 : Nat) : ℚ) :=
    oneAndAHalf.value_scaled (show 1 ≤ 4 by decide)
  have hfits : oneAndAHalf.Fits 4 :=
    ⟨show 1 ≤ 4 by decide, show 2 ≤ 64 by decide,
      by rw [hscaled]; exact_mod_cast (show 15000 < 2 ^ 64 by decide)⟩
  obtain ⟨-, hread, -⟩ := @fixedPoint_exact 4 (by decide) (by decide)
  obtain ⟨raw, hset, hraw⟩ := hread oneAndAHalf { decimalPoints := 4 } hfits rfl
  have hvalue : raw = 15000 := by
    rw [hscaled] at hraw
    exact UInt64.toNat_inj.mp (by exact_mod_cast hraw)
  rw [← hvalue]
  exact hset

end Llfix
