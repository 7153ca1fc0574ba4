import Llfix.BinaryFields
import Llfix.LongIntegers

/-!
# Integer values of tags

`set_tag` writes an integer with the conversion for its type, and `get_tag_value_as` reads it back.
The types are told apart by sign and size where a value is written. Where it is read, all signed
types go through `chars_to_int<int>`.

Results:
1. `intToChars_eq`, `intToChars64_eq`: the bytes that are written are the sign and the digits.
2. `charsToInt_signed`: a text with a sign is read modulo `2^32`.
3. `IntegerType.ofChars_toChars_iff`: the values that are read back.
-/

namespace Llfix

open MappedFile

/-! ## The conversions -/

/-- The index behind the one that is written next, when the loop over the digits has ended. -/
def digitsTarget : Nat → Nat → Nat → Nat
  | 0, _, target => target
  | fuel + 1, n, target =>
    if n / 10 = 0 then target - 1 else digitsTarget fuel (n / 10) (target - 1)

/-- `int_to_chars` behind its choice of the length of the absolute value. -/
def intToCharsIn (negative : Bool) (digits absValue length : Nat) (buffer : Buffer) :
    Buffer × Nat :=
  let length := if negative then length + 1 else length
  let target := digitsTarget digits absValue length
  let buffer := writeDigits digits absValue buffer length
  (if negative then writeAt buffer (target - 1) ['-'.toUInt8] else buffer, length)

/-- The same on the buffer that starts at `start`. -/
def intToCharsFrom (negative : Bool) (digits absValue length : Nat) (memory : Buffer)
    (start : Nat) : Buffer × Nat :=
  let length := if negative then length + 1 else length
  let target := digitsTarget digits absValue (start + length)
  let memory := writeDigits digits absValue memory (start + length)
  (if negative then writeAt memory (target - 1) ['-'.toUInt8] else memory, length)

/-- `int_to_chars<int32_t>`. -/
def intToChars (buffer : Buffer) (number : Int32) : Buffer × Nat :=
  let negative := decide (number < 0)
  let absValue := if negative then 0 - number.toUInt32 else number.toUInt32
  intToCharsIn negative 10 absValue.toNat (getCharsLengthOfUInt32 absValue) buffer

/-- `int_to_chars<int64_t>`. -/
def intToChars64 (buffer : Buffer) (number : Int64) : Buffer × Nat :=
  let negative := decide (number < 0)
  let absValue := if negative then 0 - number.toUInt64 else number.toUInt64
  intToCharsIn negative 20 absValue.toNat (getCharsLengthOfUInt64 absValue) buffer

/-- The integer types of `set_tag` and `get_tag_value_as`. -/
inductive IntegerType
  | int32
  | int64
  | uint32
  | uint64
deriving DecidableEq, Repr

namespace IntegerType

abbrev Value : IntegerType → Type
  | int32 => Int32
  | int64 => Int64
  | uint32 => UInt32
  | uint64 => UInt64

/-- The number that a value stands for. -/
def toInt : (T : IntegerType) → T.Value → Int
  | int32, value => Int32.toInt value
  | int64, value => Int64.toInt value
  | uint32, value => (UInt32.toNat value : Int)
  | uint64, value => (UInt64.toNat value : Int)

/-- What `set_tag` writes into the buffer of a `FixString`, and the length that it sets. -/
def writeInteger (buffer : Buffer) : (T : IntegerType) → T.Value → Buffer × Nat
  | int32, value => intToChars buffer value
  | int64, value => intToChars64 buffer value
  | uint32, value =>
    (writeDigits 10 (UInt32.toNat value) buffer (getCharsLengthOfUInt32 value),
      getCharsLengthOfUInt32 value)
  | uint64, value => unsignedIntToChars64In buffer value

/-- The text that `set_tag` stores. -/
def toChars (buffer : Buffer) (T : IntegerType) (value : T.Value) : Bytes :=
  let written := writeInteger buffer T value
  readAt written.1 0 written.2

/-- The conversion of `get_tag_value_as` and `get_repeating_group_tag_value_as`. -/
def ofChars (buffer : Bytes) : (T : IntegerType) → T.Value
  | int32 => charsToInt buffer
  | int64 => (charsToInt buffer).toInt64
  | uint32 => charsToUnsignedInt buffer
  | uint64 => charsToUnsignedInt64 buffer

/-- A value of 64 bits with a sign has to fit into `int`. -/
def FitsInt : (T : IntegerType) → T.Value → Prop
  | int32, _ => True
  | int64, value => -2147483648 ≤ Int64.toInt value ∧ Int64.toInt value ≤ 2147483647
  | uint32, _ => True
  | uint64, _ => True

end IntegerType

/-! ## Writing -/

theorem digitsTarget_eq (fuel n target : Nat) (acc : Bytes) :
    digitsTarget fuel n target = target + acc.length - (digitsOnto fuel n acc).length := by
  induction fuel generalizing n target acc with
  | zero => rw [digitsTarget, digitsOnto, Nat.add_sub_cancel]
  | succ fuel ih =>
    have hlonger : (UInt8.ofNat (48 + n % 10) :: acc).length ≤
        (digitsOnto fuel (n / 10) (UInt8.ofNat (48 + n % 10) :: acc)).length :=
      length_le_digitsOnto
    rw [List.length_cons] at hlonger
    rw [digitsTarget, digitsOnto]
    split
    · rw [List.length_cons]
      omega
    · rw [ih _ _ (UInt8.ofNat (48 + n % 10) :: acc), List.length_cons]
      omega

/-- The text of a number with a sign. -/
def signedText (negative : Bool) (digits : Bytes) : Bytes :=
  if negative then '-'.toUInt8 :: digits else digits

/-- The sign stands in front of the digits. -/
theorem intToCharsFrom_eq (negative : Bool) (digits absValue : Nat) (memory : Buffer)
    (start : Nat) :
    intToCharsFrom negative digits absValue (digitsOnto digits absValue []).length memory start =
      (writeAt memory start (signedText negative (digitsOnto digits absValue [])),
        (signedText negative (digitsOnto digits absValue [])).length) := by
  cases negative with
  | false =>
    rw [intToCharsFrom]
    simp only [Bool.false_eq_true, if_false]
    rw [writeDigits_text memory digits absValue start]
    rfl
  | true =>
    have hwrite := writeDigits_text memory digits absValue (start + 1)
    have hlength : start + ((digitsOnto digits absValue []).length + 1) =
        start + 1 + (digitsOnto digits absValue []).length := by
      rw [Nat.add_assoc, Nat.add_comm 1]
    have htarget := digitsTarget_eq digits absValue
      (start + 1 + (digitsOnto digits absValue []).length) []
    simp only [List.length_nil, Nat.add_zero, Nat.add_sub_cancel] at htarget
    have hsign := writeAt_writeAt_front memory start ['-'.toUInt8] (digitsOnto digits absValue [])
    rw [intToCharsFrom]
    simp only [if_true]
    rw [hlength, hwrite, htarget]
    exact congrArg (fun written => (written, _)) hsign

theorem intToCharsIn_eq (negative : Bool) (digits absValue : Nat) (buffer : Buffer) :
    intToCharsIn negative digits absValue (digitsOnto digits absValue []).length buffer =
      (writeAt buffer 0 (signedText negative (digitsOnto digits absValue [])),
        (signedText negative (digitsOnto digits absValue [])).length) := by
  have hfrom := intToCharsFrom_eq negative digits absValue buffer 0
  simp only [intToCharsFrom, Nat.zero_add] at hfrom
  exact hfrom

/-- The absolute value is taken in the unsigned type, where that of the least value fits. -/
theorem toNat_absValue {w : Nat} (x : BitVec w) :
    (if x.toInt < 0 then 0 - x else x).toNat = x.toInt.natAbs := by
  have hint := x.toInt_eq_toNat_cond
  have hlt := x.isLt
  have hsub : (0 - x).toNat = (2 ^ w - x.toNat + 0) % 2 ^ w := BitVec.toNat_sub 0#w x
  split at hint
  next hsmall =>
    rw [if_neg (by omega), hint]
    rfl
  next hlarge =>
    have hless : 2 ^ w - x.toNat + 0 < 2 ^ w := by omega
    rw [if_pos (by omega), hsub, Nat.mod_eq_of_lt hless, hint]
    omega

theorem toNat_absValue32 (v : Int32) :
    (if decide (v < 0) = true then 0 - v.toUInt32 else v.toUInt32).toNat = v.toInt.natAbs := by
  have hbits := toNat_absValue v.toBitVec
  rw [apply_ite BitVec.toNat] at hbits
  simp only [decide_eq_true_eq, show v < 0 ↔ v.toInt < 0 from Int32.lt_iff_toInt_lt]
  rw [apply_ite UInt32.toNat]
  exact hbits

theorem toNat_absValue64 (v : Int64) :
    (if decide (v < 0) = true then 0 - v.toUInt64 else v.toUInt64).toNat = v.toInt.natAbs := by
  have hbits := toNat_absValue v.toBitVec
  rw [apply_ite BitVec.toNat] at hbits
  simp only [decide_eq_true_eq, show v < 0 ↔ v.toInt < 0 from Int64.lt_iff_toInt_lt]
  rw [apply_ite UInt64.toNat]
  exact hbits

theorem intToChars_eq (buffer : Buffer) (v : Int32) :
    intToChars buffer v =
      (writeAt buffer 0 (signedText (v < 0) (digitsOnto 10 v.toInt.natAbs [])),
        (signedText (v < 0) (digitsOnto 10 v.toInt.natAbs [])).length) := by
  rw [intToChars, getCharsLengthOfUInt32_eq, unsignedIntToChars, toNat_absValue32, intToCharsIn_eq]

theorem intToChars64_eq (buffer : Buffer) (v : Int64) :
    intToChars64 buffer v =
      (writeAt buffer 0 (signedText (v < 0) (digitsOnto 20 v.toInt.natAbs [])),
        (signedText (v < 0) (digitsOnto 20 v.toInt.natAbs [])).length) := by
  rw [intToChars64, getCharsLengthOfUInt64_eq, unsignedIntToChars64, toNat_absValue64,
    intToCharsIn_eq]

/-! ## Reading -/

/-- A text with a sign is read as its value modulo `2^32`. -/
theorem charsToInt_signed (negative : Bool) {digits : Bytes} (h : digits.all isDigit = true) :
    charsToInt (signedText negative digits) =
      Int32.ofInt (if negative then -(decimalValue digits : Int) else decimalValue digits) := by
  have hfold : digits.foldl (fun result c => result * 10 + charDigit c) 0 =
      UInt32.ofNat (decimalValue digits) := by
    rw [← UInt32.toNat_inj, foldl_charDigit h, UInt32.toNat_ofNat']
  cases negative with
  | false =>
    have hminus := head_ne_of_digits h (show isDigit '-'.toUInt8 = false by decide)
    have hplus := head_ne_of_digits h (show isDigit '+'.toUInt8 = false by decide)
    unfold charsToInt signedText
    simp only [Bool.false_eq_true, if_false]
    rw [if_neg hminus, if_neg (not_or_intro hminus hplus), hfold]
    exact Int32.ofInt_eq_ofNat.symm
  | true =>
    unfold charsToInt signedText
    simp only [if_true, List.head?_cons, true_or, List.tail_cons]
    rw [hfold, Int32.ofInt_neg, UInt32.zero_sub, UInt32.toInt32_neg, Int32.ofInt_eq_ofNat]
    rfl

/-- The absolute value with its sign. -/
theorem signed_natAbs (n : Int) : (if decide (n < 0) = true then -(n.natAbs : Int) else n.natAbs) =
    n := by
  split
  next hneg =>
    rw [decide_eq_true_eq] at hneg
    omega
  next hpos =>
    rw [decide_eq_true_eq] at hpos
    omega

/-- What `chars_to_int<int>` reads of a number that was written with its sign. -/
theorem charsToInt_signedText {fuel : Nat} {number : Int} (hfuel : number.natAbs < 10 ^ fuel) :
    charsToInt (signedText (number < 0) (digitsOnto fuel number.natAbs [])) =
      Int32.ofInt number := by
  have hvalue : decimalValue (digitsOnto fuel number.natAbs []) = number.natAbs := by
    rw [decimalValue_digitsOnto hfuel, List.length_nil, pow_zero, Nat.mul_one]
    rfl
  rw [charsToInt_signed _ (digitsOnto_all rfl), hvalue, signed_natAbs]

/-- Read as `int` and widened, a number is itself exactly when it fits. -/
theorem toInt64_ofInt_iff (v : Int64) :
    (Int32.ofInt v.toInt).toInt64 = v ↔ -2147483648 ≤ v.toInt ∧ v.toInt ≤ 2147483647 := by
  have hsize : Int32.size = 4294967296 := rfl
  have hlow := Int.le_bmod (x := v.toInt) (m := 4294967296) (by decide)
  have hhigh := Int.bmod_lt (x := v.toInt) (m := 4294967296) (by decide)
  rw [← Int64.toInt_inj, Int32.toInt_toInt64, Int32.toInt_ofInt, hsize]
  constructor
  · intro heq
    rw [heq] at hlow hhigh
    exact ⟨hlow, Int.le_of_lt_add_one hhigh⟩
  · rintro ⟨hleast, hgreatest⟩
    exact Int.bmod_eq_of_le hleast (Int.lt_add_one_of_le hgreatest)

namespace IntegerType

variable (buffer : Buffer)

theorem toChars_int32 (v : Int32) :
    toChars buffer int32 v = signedText (v.toInt < 0) (digitsOnto 10 v.toInt.natAbs []) := by
  have hneg : v < 0 ↔ v.toInt < 0 := Int32.lt_iff_toInt_lt
  rw [toChars, writeInteger, intToChars_eq, ← decide_eq_decide.mpr hneg]
  exact readAt_writeAt_self buffer 0 _

theorem toChars_int64 (v : Int64) :
    toChars buffer int64 v = signedText (v.toInt < 0) (digitsOnto 20 v.toInt.natAbs []) := by
  have hneg : v < 0 ↔ v.toInt < 0 := Int64.lt_iff_toInt_lt
  rw [toChars, writeInteger, intToChars64_eq, ← decide_eq_decide.mpr hneg]
  exact readAt_writeAt_self buffer 0 _

theorem toChars_uint32 (v : UInt32) : toChars buffer uint32 v = unsignedIntToChars v :=
  unsignedIntToCharsIn_eq buffer v

theorem toChars_uint64 (v : UInt64) : toChars buffer uint64 v = unsignedIntToChars64 v := by
  rw [toChars, writeInteger, unsignedIntToChars64In_eq]
  exact readAt_writeAt_self buffer 0 _

/-- A value is read back exactly when it fits into `int`, or has another type than `int64_t`. -/
theorem ofChars_toChars_iff (T : IntegerType) (v : T.Value) :
    ofChars (toChars buffer T v) T = v ↔ FitsInt T v := by
  cases T with
  | int32 =>
    have hlow := Int32.le_toInt v
    have hhigh := Int32.toInt_lt v
    have hread : ofChars (toChars buffer int32 v) int32 = v := by
      rw [toChars_int32, ofChars, charsToInt_signedText (by omega), Int32.ofInt_toInt]
    exact iff_of_true hread trivial
  | int64 =>
    have hlow := Int64.le_toInt v
    have hhigh := Int64.toInt_lt v
    rw [toChars_int64, ofChars, charsToInt_signedText (by omega)]
    exact toInt64_ofInt_iff v
  | uint32 =>
    rw [toChars_uint32]
    exact iff_of_true (charsToUnsignedInt_unsignedIntToChars v) trivial
  | uint64 =>
    rw [toChars_uint64]
    exact iff_of_true (charsToUnsignedInt64_unsignedIntToChars64 v) trivial

end IntegerType

end Llfix
