import Llfix.Constants

/-!
# Integer text conversion

The parts of `converters.h` and `fix_string_view.h` that the session logic calls.

`char` is signed, so a byte from `0x80` on is negative when it takes part in an integer
expression; `charDigit` keeps that.
-/

namespace Llfix

/-- `buffer[i] - '0'` converted to `uint32_t`. -/
def charDigit (c : UInt8) : UInt32 := UInt32.ofInt (c.toInt8.toInt - 48)

/-- `Converters::chars_to_unsigned_int<uint32_t>`: a leading `+` is skipped, nothing else is
checked, and the accumulator wraps. -/
def charsToUnsignedInt (buffer : Bytes) : UInt32 :=
  let digits := if buffer.head? = some '+'.toUInt8 then buffer.tail else buffer
  digits.foldl (fun result c => result * 10 + charDigit c) 0

/-- The digits of `n` put in front of `acc`, least significant first; one turn of the
`do ... while` of `unsigned_int_to_chars` per unit of fuel. -/
def digitsOnto : Nat → Nat → Bytes → Bytes
  | 0, _, acc => acc
  | fuel + 1, n, acc =>
    let acc := UInt8.ofNat (48 + n % 10) :: acc
    if n / 10 = 0 then acc else digitsOnto fuel (n / 10) acc

/-- `Converters::unsigned_int_to_chars<uint32_t>`: ten digits are enough for 32 bits. -/
def unsignedIntToChars (n : UInt32) : Bytes := digitsOnto 10 n.toNat []

/-- A byte between `'0'` and `'9'`. -/
def isDigit (c : UInt8) : Bool := '0'.toUInt8 ≤ c && c ≤ '9'.toUInt8

/-- `FixStringView::is_numeric`: an optional sign, then digits only. A sign alone is refused. -/
def isNumeric : Bytes → Bool
  | [] => false
  | first :: rest =>
    if first = '+'.toUInt8 || first = '-'.toUInt8 then
      !rest.isEmpty && rest.all isDigit
    else
      (first :: rest).all isDigit

/-- The two-digit number at `pos`. -/
def twoDigits (buffer : Bytes) (pos : Nat) : Nat :=
  (buffer.getD pos 48 - 48).toNat * 10 + (buffer.getD (pos + 1) 48 - 48).toNat

/-- `FixStringView::is_timestamp`: `YYYYMMDD-HH:MM:SS` with optional subseconds, and the ranges
of the month, the day and the time of day. -/
def isTimestamp (buffer : Bytes) : Bool :=
  17 ≤ buffer.length &&
  buffer.getD 8 0 = '-'.toUInt8 && buffer.getD 11 0 = ':'.toUInt8 &&
  buffer.getD 14 0 = ':'.toUInt8 &&
  [0, 1, 2, 3, 4, 5, 6, 7, 9, 10, 12, 13, 15, 16].all (fun i => isDigit (buffer.getD i 0)) &&
  (buffer.length = 17 ||
    (buffer.getD 17 0 = '.'.toUInt8 && (buffer.drop 18).all isDigit)) &&
  twoDigits buffer 9 ≤ 23 && twoDigits buffer 12 ≤ 59 && twoDigits buffer 15 ≤ 59 &&
  1 ≤ twoDigits buffer 4 && twoDigits buffer 4 ≤ 12 &&
  1 ≤ twoDigits buffer 6 && twoDigits buffer 6 ≤ 31

example : charsToUnsignedInt (text "+042") = 42 := by decide
example : unsignedIntToChars 4294967295 = text "4294967295" := by decide

end Llfix
