import Llfix.IntegerFields
import Mathlib.Data.Nat.Log

/-!
# Canonical decimal texts

The integer conversions of `converters.h` on a buffer that stands anywhere in memory, for the four
types they are instantiated with.

Results:
1. `CanonicalDigits.unique`: a number has one text of digits without leading zeros.
2. `digitsOnto_canonical`: the digits that are written are this text.
3. `integerText_exact`: the conversions write the text of a number, write nothing else, and read the
   number back.
-/

namespace Llfix

open MappedFile

/-! ## The text of a number -/

/-- The digits of a number, without leading zeros. -/
structure CanonicalDigits (n : Nat) (digits : Bytes) : Prop where
  isDigits : digits.all isDigit = true
  value : decimalValue digits = n
  nonempty : digits ≠ []
  leading : digits.head? = some '0'.toUInt8 → digits = ['0'.toUInt8]

/-- The decimal text of a number has a sign only when the number is negative. -/
def IsDecimalText (n : Int) (bytes : Bytes) : Prop :=
  ∃ digits, CanonicalDigits n.natAbs digits ∧ bytes = signedText (n < 0) digits

/-- Texts of digits of one length have different values. -/
theorem decimalValue_inj {a b : Bytes} (ha : a.all isDigit = true) (hb : b.all isDigit = true)
    (hlength : a.length = b.length) (hvalue : decimalValue a = decimalValue b) : a = b := by
  induction a generalizing b with
  | nil => exact (List.length_eq_zero_iff.mp hlength.symm).symm
  | cons c a ih =>
    obtain _ | ⟨d, b⟩ := b
    · cases hlength
    rw [List.all_cons, Bool.and_eq_true] at ha hb
    have hrest : a.length = b.length := Nat.succ.inj hlength
    obtain ⟨hc, -⟩ := (isDigit_iff c).mp ha.1
    obtain ⟨hd, -⟩ := (isDigit_iff d).mp hb.1
    have hlow := decimalValue_lt ha.2
    have hlow' := decimalValue_lt hb.2
    rw [← hrest] at hlow'
    rw [decimalValue_cons, decimalValue_cons, ← hrest] at hvalue
    -- the first digit is the quotient by the power of ten, the others are the remainder
    have hpos : 0 < 10 ^ a.length := Nat.pow_pos (by decide)
    have hfirst : c.toNat - 48 = d.toNat - 48 := by
      have hquotient := congrArg (· / 10 ^ a.length) hvalue
      simp only [Nat.mul_comm _ (10 ^ a.length), Nat.mul_add_div hpos, Nat.div_eq_of_lt hlow,
        Nat.div_eq_of_lt hlow', Nat.add_zero] at hquotient
      exact hquotient
    have heq : c = d := UInt8.toNat_inj.mp (by omega)
    subst heq
    rw [ih ha.2 hb.2 hrest (Nat.add_left_cancel hvalue)]

/-- The number of the digits is that of the number. -/
theorem CanonicalDigits.length_eq {n : Nat} {digits : Bytes} (h : CanonicalDigits n digits) :
    digits.length = Nat.log 10 n + 1 := by
  obtain ⟨hdigits, hvalue, hne, hleading⟩ := h
  obtain _ | ⟨c, rest⟩ := digits
  · exact absurd rfl hne
  have hlt := decimalValue_lt hdigits
  rw [hvalue] at hlt
  rw [decimalValue_cons] at hvalue
  rw [List.length_cons] at hlt ⊢
  congr 1
  by_cases hzero : c = '0'.toUInt8
  · subst hzero
    obtain ⟨-, rfl⟩ := List.cons.inj (hleading rfl)
    have hn : n = 0 := by
      rw [← hvalue]
      rfl
    rw [hn]
    rfl
  · rw [List.all_cons, Bool.and_eq_true] at hdigits
    obtain ⟨hlow, -⟩ := (isDigit_iff c).mp hdigits.1
    have hne48 : c.toNat ≠ 48 := fun heq => hzero (UInt8.toNat_inj.mp heq)
    have hone : 1 ≤ c.toNat - 48 := by omega
    have hmul := Nat.mul_le_mul_right (10 ^ rest.length) hone
    rw [Nat.one_mul] at hmul
    have hpower : 10 ^ rest.length ≤ n := by
      rw [← hvalue]
      exact Nat.le_add_right_of_le hmul
    exact (Nat.log_eq_of_pow_le_of_lt_pow hpower hlt).symm

theorem CanonicalDigits.unique {n : Nat} {a b : Bytes} (ha : CanonicalDigits n a)
    (hb : CanonicalDigits n b) : a = b :=
  decimalValue_inj ha.isDigits hb.isDigits (ha.length_eq.trans hb.length_eq.symm)
    (ha.value.trans hb.value.symm)

theorem IsDecimalText.unique {n : Int} {a b : Bytes} (ha : IsDecimalText n a)
    (hb : IsDecimalText n b) : a = b := by
  obtain ⟨digits, hdigits, rfl⟩ := ha
  obtain ⟨digits', hdigits', rfl⟩ := hb
  rw [hdigits.unique hdigits']

/-! ## The digits that are written -/

theorem digitsOnto_length_log {fuel n : Nat} (hfuel : 0 < fuel) (h : n < 10 ^ fuel) :
    (digitsOnto fuel n []).length = Nat.log 10 n + 1 := by
  refine digitsOnto_length (Nat.log 10 n) [] ?_ (Nat.lt_pow_succ_log_self (by decide) n) ?_
  · by_cases hzero : n = 0
    · rw [hzero]
      exact .inr rfl
    · exact .inl (Nat.pow_log_le_self 10 hzero)
  · exact Nat.log_lt_of_lt_pow' (Nat.ne_of_gt hfuel) h

theorem digitsOnto_canonical {fuel n : Nat} (hfuel : 0 < fuel) (h : n < 10 ^ fuel) :
    CanonicalDigits n (digitsOnto fuel n []) := by
  have hlength := digitsOnto_length_log hfuel h
  have hvalue : decimalValue (digitsOnto fuel n []) = n := by
    rw [decimalValue_digitsOnto h, List.length_nil, pow_zero, Nat.mul_one]
    rfl
  have hdigits : (digitsOnto fuel n []).all isDigit = true := digitsOnto_all rfl
  generalize digitsOnto fuel n [] = digits at hlength hvalue hdigits
  refine ⟨hdigits, hvalue, ?_, fun hleading => ?_⟩
  · rintro rfl
    cases hlength
  · obtain _ | ⟨c, rest⟩ := digits
    · cases hleading
    obtain rfl := Option.some.inj hleading
    rw [List.all_cons, Bool.and_eq_true] at hdigits
    -- without its first digit the number would be too small for its length
    have hrest := decimalValue_lt hdigits.2
    rw [decimalValue_cons] at hvalue
    have hn : decimalValue rest = n := by
      rw [← hvalue]
      exact (Nat.zero_add _).symm.trans (congrArg (· + _) (Nat.zero_mul _).symm)
    rw [hn] at hrest
    rw [Nat.succ.inj hlength] at hrest
    by_cases hzero : n = 0
    · rw [hzero] at hlength
      rw [List.length_eq_zero_iff.mp (Nat.succ.inj hlength)]
    · exact absurd (Nat.pow_log_le_self 10 hzero) (Nat.not_le_of_lt hrest)

/-! ## The conversions in memory -/

/-- `unsigned_int_to_chars<uint32_t>` on the buffer that starts at `start`. -/
def unsignedIntToCharsAt (memory : Buffer) (start : Nat) (number : UInt32) : Buffer × Nat :=
  let length := getCharsLengthOfUInt32 number
  (writeDigits 10 number.toNat memory (start + length), length)

/-- `unsigned_int_to_chars<uint64_t>`. -/
def unsignedIntToChars64At (memory : Buffer) (start : Nat) (number : UInt64) : Buffer × Nat :=
  let length := getCharsLengthOfUInt64 number
  (writeDigits 20 number.toNat memory (start + length), length)

/-- `int_to_chars<int32_t>`. -/
def intToCharsAt (memory : Buffer) (start : Nat) (number : Int32) : Buffer × Nat :=
  let negative := decide (number < 0)
  let absValue := if negative then 0 - number.toUInt32 else number.toUInt32
  intToCharsFrom negative 10 absValue.toNat (getCharsLengthOfUInt32 absValue) memory start

/-- `int_to_chars<int64_t>`. -/
def intToChars64At (memory : Buffer) (start : Nat) (number : Int64) : Buffer × Nat :=
  let negative := decide (number < 0)
  let absValue := if negative then 0 - number.toUInt64 else number.toUInt64
  intToCharsFrom negative 20 absValue.toNat (getCharsLengthOfUInt64 absValue) memory start

/-- `chars_to_int<int64_t>`. -/
def charsToInt64 (buffer : Bytes) : Int64 :=
  let negative := buffer.head? = some '-'.toUInt8
  let digits := if negative ∨ buffer.head? = some '+'.toUInt8 then buffer.tail else buffer
  let result := digits.foldl (fun result c => result * 10 + charDigit64 c) 0
  if negative then (0 - result).toInt64 else result.toInt64

namespace IntegerType

/-- The `*_to_chars` function for a type. -/
def toCharsAt (memory : Buffer) (start : Nat) : (T : IntegerType) → T.Value → Buffer × Nat
  | int32, number => intToCharsAt memory start number
  | int64, number => intToChars64At memory start number
  | uint32, number => unsignedIntToCharsAt memory start number
  | uint64, number => unsignedIntToChars64At memory start number

/-- The `chars_to_*` function for a type. -/
def fromChars (buffer : Bytes) : (T : IntegerType) → T.Value
  | int32 => charsToInt buffer
  | int64 => charsToInt64 buffer
  | uint32 => charsToUnsignedInt buffer
  | uint64 => charsToUnsignedInt64 buffer

/-- The digits that are enough for a type. -/
def fuel : IntegerType → Nat
  | int32 | uint32 => 10
  | int64 | uint64 => 20

end IntegerType

theorem signedText_nat (n : Nat) (digits : Bytes) : signedText ((n : Int) < 0) digits = digits := by
  rw [decide_eq_false (Int.not_lt.mpr (Int.natCast_nonneg n))]
  rfl

/-- The text is written from the start of the buffer on. -/
theorem toCharsAt_eq (T : IntegerType) (memory : Buffer) (start : Nat) (number : T.Value) :
    T.toCharsAt memory start number =
      (writeAt memory start
          (signedText (T.toInt number < 0) (digitsOnto T.fuel (T.toInt number).natAbs [])),
        (signedText (T.toInt number < 0)
          (digitsOnto T.fuel (T.toInt number).natAbs [])).length) := by
  cases T with
  | int32 =>
    show intToCharsAt memory start number = _
    rw [intToCharsAt, getCharsLengthOfUInt32_eq, unsignedIntToChars, toNat_absValue32,
      intToCharsFrom_eq,
      decide_eq_decide.mpr (show number < 0 ↔ number.toInt < 0 from Int32.lt_iff_toInt_lt)]
    rfl
  | int64 =>
    show intToChars64At memory start number = _
    rw [intToChars64At, getCharsLengthOfUInt64_eq, unsignedIntToChars64, toNat_absValue64,
      intToCharsFrom_eq,
      decide_eq_decide.mpr (show number < 0 ↔ number.toInt < 0 from Int64.lt_iff_toInt_lt)]
    rfl
  | uint32 =>
    show unsignedIntToCharsAt memory start number = _
    rw [unsignedIntToCharsAt, getCharsLengthOfUInt32_eq, unsignedIntToChars, writeDigits_text]
    exact congrArg (fun digits : Bytes => (writeAt memory start digits, digits.length))
      (signedText_nat _ _).symm
  | uint64 =>
    show unsignedIntToChars64At memory start number = _
    rw [unsignedIntToChars64At, getCharsLengthOfUInt64_eq, unsignedIntToChars64, writeDigits_text]
    exact congrArg (fun digits : Bytes => (writeAt memory start digits, digits.length))
      (signedText_nat _ _).symm

theorem natAbs_lt_fuel (T : IntegerType) (number : T.Value) :
    (T.toInt number).natAbs < 10 ^ T.fuel := by
  cases T with
  | int32 =>
    have hlow := Int32.le_toInt number
    have hhigh := Int32.toInt_lt number
    show (Int32.toInt number).natAbs < 10 ^ 10
    omega
  | int64 =>
    have hlow := Int64.le_toInt number
    have hhigh := Int64.toInt_lt number
    show (Int64.toInt number).natAbs < 10 ^ 20
    omega
  | uint32 => exact Nat.lt_of_lt_of_le (UInt32.toNat_lt number) (by decide)
  | uint64 => exact Nat.lt_of_lt_of_le (UInt64.toNat_lt number) (by decide)

/-! ## Reading -/

/-- A text with a sign is read as its value modulo `2^64`. -/
theorem charsToInt64_signed (negative : Bool) {digits : Bytes} (h : digits.all isDigit = true) :
    charsToInt64 (signedText negative digits) =
      Int64.ofInt (if negative then -(decimalValue digits : Int) else decimalValue digits) := by
  have hfold : digits.foldl (fun result c => result * 10 + charDigit64 c) 0 =
      UInt64.ofNat (decimalValue digits) := by
    rw [← UInt64.toNat_inj, foldl_charDigit64 h, UInt64.toNat_ofNat']
  cases negative with
  | false =>
    have hminus := head_ne_of_digits h (show isDigit '-'.toUInt8 = false by decide)
    have hplus := head_ne_of_digits h (show isDigit '+'.toUInt8 = false by decide)
    unfold charsToInt64 signedText
    simp only [Bool.false_eq_true, if_false]
    rw [if_neg hminus, if_neg (not_or_intro hminus hplus), hfold]
    exact Int64.ofInt_eq_ofNat.symm
  | true =>
    unfold charsToInt64 signedText
    simp only [if_true, List.head?_cons, true_or, List.tail_cons]
    rw [hfold, Int64.ofInt_neg, UInt64.zero_sub, UInt64.toInt64_neg, Int64.ofInt_eq_ofNat]
    rfl

/-- The text of a number is read as the number. -/
theorem fromChars_text {T : IntegerType} {number : T.Value} {bytes : Bytes}
    (h : IsDecimalText (T.toInt number) bytes) : T.fromChars bytes = number := by
  obtain ⟨digits, hdigits, rfl⟩ := h
  have hsigned := signed_natAbs (T.toInt number)
  rw [← hdigits.value] at hsigned
  cases T with
  | int32 =>
    show charsToInt _ = number
    rw [charsToInt_signed _ hdigits.isDigits, hsigned]
    exact Int32.ofInt_toInt number
  | int64 =>
    show charsToInt64 _ = number
    rw [charsToInt64_signed _ hdigits.isDigits, hsigned]
    exact Int64.ofInt_toInt number
  | uint32 =>
    show charsToUnsignedInt (signedText ((UInt32.toNat number : Int) < 0) digits) = number
    rw [signedText_nat, ← UInt32.toNat_inj, charsToUnsignedInt_digits hdigits.isDigits,
      hdigits.value]
    exact Nat.mod_eq_of_lt (UInt32.toNat_lt number)
  | uint64 =>
    show charsToUnsignedInt64 (signedText ((UInt64.toNat number : Int) < 0) digits) = number
    rw [signedText_nat, ← UInt64.toNat_inj, charsToUnsignedInt64_digits hdigits.isDigits,
      hdigits.value]
    exact Nat.mod_eq_of_lt (UInt64.toNat_lt number)

/-! ## All conversions -/

/-- For every value of each type and every buffer: the bytes of the returned length are the
canonical text, no byte outside of them is written, and the text is read back. The lengths are the
numbers of decimal digits. -/
theorem integerText_exact :
    (∀ (T : IntegerType) (number : T.Value) (memory : Buffer) (start : Nat),
      let written := T.toCharsAt memory start number
      IsDecimalText (T.toInt number) (readAt written.1 start written.2) ∧
      (∀ i, i < start ∨ start + written.2 ≤ i → written.1 i = memory i) ∧
      T.fromChars (readAt written.1 start written.2) = number) ∧
    (∀ value : UInt32, getCharsLengthOfUInt32 value = Nat.log 10 value.toNat + 1) ∧
    ∀ value : UInt64, getCharsLengthOfUInt64 value = Nat.log 10 value.toNat + 1 := by
  refine ⟨fun T number memory start => ?_, fun value => ?_, fun value => ?_⟩
  · have hfuel : 0 < T.fuel := by cases T <;> decide
    have htext : IsDecimalText (T.toInt number) (signedText (T.toInt number < 0)
        (digitsOnto T.fuel (T.toInt number).natAbs [])) :=
      ⟨_, digitsOnto_canonical hfuel (natAbs_lt_fuel T number), rfl⟩
    dsimp only
    rw [toCharsAt_eq]
    dsimp only
    rw [readAt_writeAt_self]
    exact ⟨htext, fun i hi => writeAt_apply_ne memory hi, fromChars_text htext⟩
  · rw [getCharsLengthOfUInt32_eq]
    exact digitsOnto_length_log (by decide) (natAbs_lt_fuel .uint32 value)
  · rw [getCharsLengthOfUInt64_eq]
    exact digitsOnto_length_log (by decide) (natAbs_lt_fuel .uint64 value)

example :
    let written := intToChars64At zeros 3 (-9223372036854775808)
    readAt written.1 3 written.2 = text "-9223372036854775808" := by
  decide +kernel

end Llfix
