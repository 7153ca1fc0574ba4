import Llfix.Converters

/-!
# Checksum and staleness

The parts of `fix_utilities.h` that message validation uses: the two checksum validators and
the staleness test on tag 52.
-/

namespace Llfix

/-! ## Checksum -/

/-- The 32-bit sum of the bytes of a buffer. -/
def byteSum (buffer : Bytes) : UInt32 :=
  buffer.foldl (fun sum c => sum + c.toUInt32) 0

/-- `validate_checksum_no_simd`. -/
def validateChecksumNoSimd (buffer : Bytes) (actualChecksum : UInt32) : Bool :=
  byteSum buffer % fixChecksumModulo = actualChecksum

/-- The sixteen 16-bit lanes of the accumulator after one 32-byte block. Both unpack
instructions work inside each 128-bit half, so lane `j` of half `h` receives the bytes
`16 h + j` and `16 h + 8 + j` of the block. -/
def addBlock (acc : List UInt16) (block : Bytes) : List UInt16 :=
  (List.range 16).map fun lane =>
    let base := 16 * (lane / 8) + lane % 8
    acc.getD lane 0 + (block.getD base 0).toUInt16 + (block.getD (base + 8) 0).toUInt16

/-- The block loop, one block per unit of fuel; returns the lanes and the bytes left over. -/
def simdBlocks : Nat → List UInt16 → Bytes → List UInt16 × Bytes
  | 0, acc, buffer => (acc, buffer)
  | fuel + 1, acc, buffer =>
    if 32 ≤ buffer.length then
      simdBlocks fuel (addBlock acc (buffer.take 32)) (buffer.drop 32)
    else (acc, buffer)

/-- The sum of `validate_checksum_simd_avx2`: the two halves are added lane by lane in 16 bits,
the eight results and the left-over bytes in 32 bits. -/
def simdSum (buffer : Bytes) : UInt32 :=
  let (acc, rest) := simdBlocks buffer.length (List.replicate 16 0) buffer
  let total := (List.range 8).map fun j => acc.getD j 0 + acc.getD (j + 8) 0
  total.foldl (fun sum lane => sum + lane.toUInt32) 0 + byteSum rest

/-- `validate_checksum_simd_avx2`. -/
def validateChecksumSimdAvx2 (buffer : Bytes) (actualChecksum : UInt32) : Bool :=
  simdSum buffer % fixChecksumModulo = actualChecksum

/-! ## Staleness -/

/-- Days from 1970-01-01 to the first of the month, in the proleptic Gregorian calendar. -/
def daysToMonth (year month : Nat) : Int :=
  -- years start in March here, so that the leap day is the last day of a year
  let y : Nat := if month ≤ 2 then year + 399 else year + 400
  let m : Nat := if month ≤ 2 then month + 9 else month - 3
  let era := y / 400
  let yearOfEra := y % 400
  let dayOfEra := yearOfEra * 365 + yearOfEra / 4 - yearOfEra / 100 + (153 * m + 2) / 5
  (era * 146097 + dayOfEra : Nat) - 146097 - 719468

/-- `timegm` on the fields that `is_utc_timestamp_stale` fills in. -/
def utcSeconds (value : Bytes) : Int :=
  let year := twoDigits value 0 * 100 + twoDigits value 2
  let days := daysToMonth year (twoDigits value 4) + twoDigits value 6 - 1
  days * 86400 + twoDigits value 9 * 3600 + twoDigits value 12 * 60 + twoDigits value 15

/-- `is_utc_timestamp_stale`, with the result of `time(nullptr)` as an argument. -/
def isUtcTimestampStale (value : Bytes) (now : Int) (maxAllowedAgeSeconds : Nat) : Bool :=
  utcSeconds value = -1 || maxAllowedAgeSeconds < now - utcSeconds value

/-- A stale time stays stale as the clock moves on. -/
theorem isUtcTimestampStale_mono {value : Bytes} {now later : Int} {age : Nat}
    (h : isUtcTimestampStale value now age = true) (hle : now ≤ later) :
    isUtcTimestampStale value later age = true := by
  simp only [isUtcTimestampStale, Bool.or_eq_true, decide_eq_true_eq] at h ⊢
  omega

example : utcSeconds (text "20260101-00:00:00") = 1767225600 := by decide
example : simdSum (List.replicate 35 200) = byteSum (List.replicate 35 200) := by decide +kernel

end Llfix
