import Llfix.TargetBuffer

/-!
# Integers of 64 bits as text

The instances of the integer conversions of `converters.h` that prices and 64-bit tags go through.

Results:
1. `getCharsLengthOfUInt64_eq`: the length that a number is written with.
2. `unsignedIntToChars64In_eq`: the digits are written from the first byte on, and no others.
3. `charsToUnsignedInt64_digits`: a text of digits is read as its value modulo `2^64`.
-/

namespace Llfix

open MappedFile

/-- `POWERS_OF_TEN_64`. -/
def powersOfTen64 : List UInt64 :=
  [0, 10, 100, 1000, 10000, 100000, 1000000, 10000000, 100000000, 1000000000, 10000000000,
    100000000000, 1000000000000, 10000000000000, 100000000000000, 1000000000000000,
    10000000000000000, 100000000000000000, 1000000000000000000, 10000000000000000000]

/-- `get_chars_length_of_uint64_t`. -/
def getCharsLengthOfUInt64 (value : UInt64) : Nat :=
  let t := (((value ||| 1).toNat.log2 + 1) * 1233) >>> 12
  t - (if value < powersOfTen64.getD t 0 then 1 else 0) + 1

/-- The text of a number: twenty digits are enough for 64 bits. -/
def unsignedIntToChars64 (n : UInt64) : Bytes := digitsOnto 20 n.toNat []

/-- `unsigned_int_to_chars<uint64_t>`, with the length that it returns. -/
def unsignedIntToChars64In (buffer : Buffer) (number : UInt64) : Buffer × Nat :=
  let length := getCharsLengthOfUInt64 number
  (writeDigits 20 number.toNat buffer length, length)

/-- `buffer[i] - '0'` converted to `uint64_t`. -/
def charDigit64 (c : UInt8) : UInt64 := UInt64.ofInt (c.toInt8.toInt - 48)

/-- `chars_to_unsigned_int<uint64_t>`. -/
def charsToUnsignedInt64 (buffer : Bytes) : UInt64 :=
  let digits := if buffer.head? = some '+'.toUInt8 then buffer.tail else buffer
  digits.foldl (fun result c => result * 10 + charDigit64 c) 0

/-! ## Writing -/

theorem charsLength_estimate64 :
    ∀ bits < 64, let t := ((bits + 1) * 1233) >>> 12
      t < 20 ∧ (t = 0 ∨ 10 ^ (t - 1) < 2 ^ bits) ∧ 2 ^ (bits + 1) ≤ 10 ^ (t + 1) ∧
        (powersOfTen64.getD t 0).toNat = if t = 0 then 0 else 10 ^ t := by
  decide

theorem getCharsLengthOfUInt64_eq (n : UInt64) :
    getCharsLengthOfUInt64 n = (unsignedIntToChars64 n).length := by
  have hor : (n ||| 1).toNat = n.toNat ||| 1 := UInt64.toNat_or n 1
  obtain ⟨-, -, hne⟩ := or_one_bounds n.toNat
  have hbits : (n.toNat ||| 1).log2 < 64 :=
    (Nat.log2_lt hne).mpr (Nat.or_lt_two_pow n.toNat_lt (by decide))
  obtain ⟨ht, hfewer, hmore, hpower⟩ := charsLength_estimate64 _ hbits
  rw [unsignedIntToChars64, ← digitsOnto_length_of_estimate ht hfewer hmore,
    getCharsLengthOfUInt64]
  simp only [hor, UInt64.lt_iff_toNat_lt, hpower]

theorem unsignedIntToChars64In_eq (buffer : Buffer) (n : UInt64) :
    unsignedIntToChars64In buffer n =
      (writeAt buffer 0 (unsignedIntToChars64 n), (unsignedIntToChars64 n).length) := by
  have hwrite := writeDigits_text buffer 20 n.toNat 0
  rw [Nat.zero_add] at hwrite
  unfold unsignedIntToChars64In
  dsimp only
  rw [getCharsLengthOfUInt64_eq, unsignedIntToChars64, hwrite]

theorem unsignedIntToChars64_all (n : UInt64) : (unsignedIntToChars64 n).all isDigit = true :=
  digitsOnto_all rfl

theorem unsignedIntToChars64_length_le (n : UInt64) : (unsignedIntToChars64 n).length ≤ 20 :=
  digitsOnto_length_le

theorem decimalValue_unsignedIntToChars64 (n : UInt64) :
    decimalValue (unsignedIntToChars64 n) = n.toNat := by
  have hlt : n.toNat < 10 ^ 20 := Nat.lt_of_lt_of_le n.toNat_lt (by decide)
  rw [unsignedIntToChars64, decimalValue_digitsOnto hlt, List.length_nil, pow_zero, Nat.mul_one]
  rfl

/-! ## Reading -/

theorem charDigit64_toNat {c : UInt8} (h : isDigit c = true) :
    (charDigit64 c).toNat = c.toNat - 48 := by
  obtain ⟨hlow, hhigh⟩ := (isDigit_iff c).mp h
  have hall : ∀ n : Fin 58, 48 ≤ n.val →
      (charDigit64 (UInt8.ofNat n.val)).toNat = n.val - 48 := by decide
  have hc := hall ⟨c.toNat, Nat.lt_succ_of_le hhigh⟩ hlow
  rwa [UInt8.ofNat_toNat] at hc

theorem foldl_charDigit64 {digits : Bytes} (h : digits.all isDigit = true) :
    (digits.foldl (fun result c => result * 10 + charDigit64 c) 0).toNat =
      decimalValue digits % 18446744073709551616 := by
  induction digits using List.reverseRecOn with
  | nil => rfl
  | append_singleton digits c ih =>
    rw [List.all_append, Bool.and_eq_true, List.all_cons, List.all_nil, Bool.and_true] at h
    have hten : (10 : UInt64).toNat = 10 := rfl
    rw [List.foldl_append, decimalValue_snoc]
    show (_ * 10 + charDigit64 c).toNat = _
    rw [UInt64.toNat_add, UInt64.toNat_mul, ih h.1, charDigit64_toNat h.2, hten]
    omega

theorem charsToUnsignedInt64_digits {digits : Bytes} (h : digits.all isDigit = true) :
    (charsToUnsignedInt64 digits).toNat = decimalValue digits % 18446744073709551616 := by
  have hplus := head_ne_of_digits h (show isDigit '+'.toUInt8 = false by decide)
  rw [charsToUnsignedInt64, if_neg hplus]
  exact foldl_charDigit64 h

/-- A number that is written is read back. -/
theorem charsToUnsignedInt64_unsignedIntToChars64 (n : UInt64) :
    charsToUnsignedInt64 (unsignedIntToChars64 n) = n := by
  rw [← UInt64.toNat_inj, charsToUnsignedInt64_digits (unsignedIntToChars64_all n),
    decimalValue_unsignedIntToChars64]
  exact Nat.mod_eq_of_lt n.toNat_lt

end Llfix
