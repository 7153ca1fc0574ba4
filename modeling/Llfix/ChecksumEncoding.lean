import Llfix.EncodeParse

/-!
# The two checksum encoders

`encode` and `validate_fix_message` choose between a plain and a vector loop by a setting. The lanes
of the vector loop overflow on long messages.

Results:
1. `encodedChecksum_eq`: `encode` writes what the selected encoder writes.
2. `simdChecksum_eq`: the loops agree on every buffer, in what they write and in what they accept.
3. `validateChecksum_encoded`: what one of them writes, both accept.
-/

namespace Llfix

/-! ## The encoders -/

/-- The three digits that both encoders write at `out`. -/
def checksumDigits (checksum : UInt32) : Bytes :=
  [(48 + checksum / 100).toUInt8, (48 + checksum / 10 % 10).toUInt8, (48 + checksum % 10).toUInt8]

/-- `encode_checksum_no_simd`. -/
def encodeChecksumNoSimd (buffer : Bytes) : Bytes :=
  checksumDigits (byteSum buffer % fixChecksumModulo)

/-- `encode_checksum_simd_avx2`; its block loop is the one of the validator. -/
def encodeChecksumSimdAvx2 (buffer : Bytes) : Bytes :=
  checksumDigits (simdSum buffer % fixChecksumModulo)

theorem checksumDigits_eq (checksum : UInt32) :
    checksumDigits checksum =
      [checksum.toNat / 100, checksum.toNat / 10 % 10, checksum.toNat % 10].map
        fun digit => UInt8.ofNat (48 + digit) := by
  have hdigit : ∀ digit : UInt32, digit.toNat + 48 < 4294967296 →
      (48 + digit).toUInt8 = UInt8.ofNat (48 + digit.toNat) := by
    intro digit hdigit
    apply UInt8.toNat_inj.mp
    rw [UInt32.toNat_toUInt8, UInt32.toNat_add, UInt8.toNat_ofNat']
    have h48 : (48 : UInt32).toNat = 48 := rfl
    rw [h48]
    omega
  have hlt := checksum.toNat_lt
  have hhundred : (checksum / 100).toNat = checksum.toNat / 100 := UInt32.toNat_div checksum 100
  have hten : (checksum / 10 % 10).toNat = checksum.toNat / 10 % 10 := by
    rw [UInt32.toNat_mod, UInt32.toNat_div]
    rfl
  have hone : (checksum % 10).toNat = checksum.toNat % 10 := UInt32.toNat_mod checksum 10
  rw [checksumDigits, hdigit (checksum / 100) (by omega), hdigit (checksum / 10 % 10) (by omega),
    hdigit (checksum % 10) (by omega), hhundred, hten, hone]
  rfl

/-- `encode` writes the digits of the encoder that the setting selects. -/
theorem encodedChecksum_eq (settings : FixSessionSettings) (buffer : Bytes) :
    encodedChecksum settings buffer =
      if settings.enableSimdAvx2 then encodeChecksumSimdAvx2 buffer
      else encodeChecksumNoSimd buffer := by
  rw [encodedChecksum, encodeChecksumSimdAvx2, encodeChecksumNoSimd, checksumDigits_eq,
    checksumDigits_eq]
  cases settings.enableSimdAvx2 with
  | true => rfl
  | false => rfl

/-! ## The loops agree -/

/-- The sums differ, since the lanes lose their carries; their remainders do not. -/
theorem simdSum_modulo (buffer : Bytes) :
    simdSum buffer % fixChecksumModulo = byteSum buffer % fixChecksumModulo := by
  have hplain : (byteSum buffer).toNat % 256 = byteTotal buffer % 256 := by
    rw [byteSum_toNat]
    exact Nat.mod_mod_of_dvd _ (by decide)
  refine (mod_eq_iff _ _ (simdSum_mod buffer)).mpr ?_
  have hmodulo : fixChecksumModulo.toNat = 256 := rfl
  rw [UInt32.toNat_mod, hmodulo, hplain]

/-- On every buffer the encoders write the same digits, and the validators give the same verdict on
every claimed checksum. -/
theorem simdChecksum_eq (buffer : Bytes) :
    encodeChecksumSimdAvx2 buffer = encodeChecksumNoSimd buffer ∧
      ∀ actualChecksum, validateChecksumSimdAvx2 buffer actualChecksum =
        validateChecksumNoSimd buffer actualChecksum := by
  have hmodulo := simdSum_modulo buffer
  constructor
  · rw [encodeChecksumSimdAvx2, encodeChecksumNoSimd, hmodulo]
  · intro actualChecksum
    rw [validateChecksumSimdAvx2, validateChecksumNoSimd, hmodulo]

/-- On 2080 bytes 255 the lanes wrap, and the sums are not the same. -/
example : simdSum (List.replicate 2080 255) ≠ byteSum (List.replicate 2080 255) := by
  decide +kernel

/-- Both validators accept the number that either encoder writes. -/
theorem validateChecksum_encoded (enableSimdAvx2 : Bool) (settings : FixSessionSettings)
    (buffer : Bytes) :
    validateChecksum enableSimdAvx2 buffer
      (UInt32.ofNat (decimalValue (encodedChecksum settings buffer))) = true := by
  obtain ⟨-, -, hvalue⟩ := encodedChecksum_spec settings buffer
  have hlt : byteTotal buffer % 256 < 4294967296 :=
    (Nat.mod_lt _ (by decide)).trans (by decide)
  rw [validateChecksum_iff, hvalue, UInt32.toNat_ofNat', Nat.mod_eq_of_lt hlt]

end Llfix
