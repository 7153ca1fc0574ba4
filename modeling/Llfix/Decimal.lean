import Mathlib.Data.List.Induction
import Mathlib.Tactic.Ring
import Llfix.Converters

/-!
# Decimal texts

What the conversions of `converters.h` mean for texts of digits.

Results:
1. `charsToUnsignedInt_digits`: a text of digits is read as its value modulo `2^32`.
2. `charsToUnsignedInt_unsignedIntToChars`: a number that is written is read back.
-/

namespace Llfix

/-- The value of a text of digits. -/
def decimalValue (digits : Bytes) : Nat :=
  digits.foldl (fun n c => n * 10 + (c.toNat - 48)) 0

theorem isDigit_iff (c : UInt8) : isDigit c = true ↔ 48 ≤ c.toNat ∧ c.toNat ≤ 57 := by
  have hlow : ('0'.toUInt8).toNat = 48 := rfl
  have hhigh : ('9'.toUInt8).toNat = 57 := rfl
  rw [isDigit, Bool.and_eq_true, decide_eq_true_eq, decide_eq_true_eq, UInt8.le_iff_toNat_le,
    UInt8.le_iff_toNat_le, hlow, hhigh]

/-- A digit is worth what it stands for. -/
theorem charDigit_toNat {c : UInt8} (h : isDigit c = true) : (charDigit c).toNat = c.toNat - 48 := by
  obtain ⟨hlow, hhigh⟩ := (isDigit_iff c).mp h
  have hall : ∀ n : Fin 58, 48 ≤ n.val →
      (charDigit (UInt8.ofNat n.val)).toNat = n.val - 48 := by decide
  have hc := hall ⟨c.toNat, by omega⟩ hlow
  rwa [UInt8.ofNat_toNat] at hc

theorem decimalValue_snoc (digits : Bytes) (c : UInt8) :
    decimalValue (digits ++ [c]) = decimalValue digits * 10 + (c.toNat - 48) := by
  rw [decimalValue, List.foldl_append]
  rfl

theorem decimalValue_cons (c : UInt8) (digits : Bytes) :
    decimalValue (c :: digits) = (c.toNat - 48) * 10 ^ digits.length + decimalValue digits := by
  induction digits using List.reverseRecOn with
  | nil => simp [decimalValue]
  | append_singleton digits d ih =>
    rw [← List.cons_append, decimalValue_snoc, ih, decimalValue_snoc, List.length_append,
      List.length_singleton, pow_succ]
    ring

theorem decimalValue_lt {digits : Bytes} (h : digits.all isDigit = true) :
    decimalValue digits < 10 ^ digits.length := by
  induction digits with
  | nil => exact Nat.one_pos
  | cons c digits ih =>
    rw [List.all_cons, Bool.and_eq_true] at h
    obtain ⟨-, hhigh⟩ := (isDigit_iff c).mp h.1
    have hrest := ih h.2
    rw [decimalValue_cons, List.length_cons, pow_succ]
    have hfirst : (c.toNat - 48) * 10 ^ digits.length ≤ 9 * 10 ^ digits.length :=
      Nat.mul_le_mul_right _ (by omega)
    omega

/-- The accumulator of the conversion wraps. -/
theorem foldl_charDigit {digits : Bytes} (h : digits.all isDigit = true) :
    (digits.foldl (fun result c => result * 10 + charDigit c) 0).toNat =
      decimalValue digits % 4294967296 := by
  induction digits using List.reverseRecOn with
  | nil => rfl
  | append_singleton digits c ih =>
    rw [List.all_append, Bool.and_eq_true, List.all_cons, List.all_nil, Bool.and_true] at h
    have hten : (10 : UInt32).toNat = 10 := rfl
    rw [List.foldl_append, decimalValue_snoc]
    show (_ * 10 + charDigit c).toNat = _
    rw [UInt32.toNat_add, UInt32.toNat_mul, ih h.1, charDigit_toNat h.2, hten]
    omega

/-- No other byte stands first in a text of digits. -/
theorem head_ne_of_digits {digits : Bytes} (h : digits.all isDigit = true) {c : UInt8}
    (hc : isDigit c = false) : digits.head? ≠ some c := by
  cases digits with
  | nil => exact (Option.some_ne_none c).symm
  | cons first digits =>
    rw [List.all_cons, Bool.and_eq_true] at h
    intro hhead
    rw [Option.some.inj hhead, hc] at h
    exact Bool.false_ne_true h.1

theorem charsToUnsignedInt_digits {digits : Bytes} (h : digits.all isDigit = true) :
    (charsToUnsignedInt digits).toNat = decimalValue digits % 4294967296 := by
  have hplus := head_ne_of_digits h (show isDigit '+'.toUInt8 = false by decide)
  rw [charsToUnsignedInt, if_neg hplus]
  exact foldl_charDigit h

/-! ## Writing a number -/

theorem isDigit_ofNat {d : Nat} (h : d < 10) : isDigit (UInt8.ofNat (48 + d)) = true := by
  rw [isDigit_iff, UInt8.toNat_ofNat']
  omega

theorem digitsOnto_all {fuel n : Nat} {acc : Bytes} (h : acc.all isDigit = true) :
    (digitsOnto fuel n acc).all isDigit = true := by
  induction fuel generalizing n acc with
  | zero => exact h
  | succ fuel ih =>
    have hacc : (UInt8.ofNat (48 + n % 10) :: acc).all isDigit = true := by
      rw [List.all_cons, isDigit_ofNat (Nat.mod_lt _ (by decide)), h]
      rfl
    unfold digitsOnto
    dsimp only
    split
    · exact hacc
    · exact ih hacc

theorem digitsOnto_length_le {fuel n : Nat} {acc : Bytes} :
    (digitsOnto fuel n acc).length ≤ fuel + acc.length := by
  induction fuel generalizing n acc with
  | zero => simp [digitsOnto]
  | succ fuel ih =>
    unfold digitsOnto
    dsimp only
    split
    · rw [List.length_cons]
      omega
    · refine Nat.le_trans ih ?_
      rw [List.length_cons]
      omega

theorem length_le_digitsOnto {fuel n : Nat} {acc : Bytes} :
    acc.length ≤ (digitsOnto fuel n acc).length := by
  induction fuel generalizing n acc with
  | zero => exact Nat.le_refl _
  | succ fuel ih =>
    unfold digitsOnto
    dsimp only
    split
    · exact Nat.le_succ _
    · refine Nat.le_trans ?_ ih
      exact Nat.le_succ _

theorem decimalValue_digitsOnto {fuel n : Nat} {acc : Bytes} (h : n < 10 ^ fuel) :
    decimalValue (digitsOnto fuel n acc) = n * 10 ^ acc.length + decimalValue acc := by
  induction fuel generalizing n acc with
  | zero =>
    have hzero : n = 0 := by
      rw [pow_zero] at h
      omega
    simp [digitsOnto, hzero]
  | succ fuel ih =>
    have hbyte : (UInt8.ofNat (48 + n % 10)).toNat - 48 = n % 10 := by
      rw [UInt8.toNat_ofNat']
      omega
    have hdecomp := Nat.div_add_mod n 10
    unfold digitsOnto
    dsimp only
    split
    next hlast =>
      rw [decimalValue_cons, hbyte]
      have hn : n % 10 = n := by omega
      rw [hn]
    next =>
      rw [pow_succ] at h
      rw [ih (by omega), decimalValue_cons, hbyte, List.length_cons, pow_succ]
      calc n / 10 * (10 ^ acc.length * 10) + (n % 10 * 10 ^ acc.length + decimalValue acc)
          = (10 * (n / 10) + n % 10) * 10 ^ acc.length + decimalValue acc := by ring
        _ = n * 10 ^ acc.length + decimalValue acc := by rw [hdecomp]

theorem unsignedIntToChars_all (n : UInt32) : (unsignedIntToChars n).all isDigit = true :=
  digitsOnto_all rfl

theorem unsignedIntToChars_length_le (n : UInt32) : (unsignedIntToChars n).length ≤ 10 :=
  digitsOnto_length_le

theorem unsignedIntToChars_ne_nil (n : UInt32) : unsignedIntToChars n ≠ [] := by
  intro hnil
  have hlength : [UInt8.ofNat (48 + n.toNat % 10)].length ≤
      (digitsOnto 9 (n.toNat / 10) [UInt8.ofNat (48 + n.toNat % 10)]).length :=
    length_le_digitsOnto
  unfold unsignedIntToChars digitsOnto at hnil
  dsimp only at hnil
  split at hnil
  · cases hnil
  · rw [hnil] at hlength
    exact Nat.not_succ_le_zero 0 hlength

theorem decimalValue_unsignedIntToChars (n : UInt32) :
    decimalValue (unsignedIntToChars n) = n.toNat := by
  have hlt := n.toNat_lt
  rw [unsignedIntToChars, decimalValue_digitsOnto (by norm_num; omega)]
  simp [decimalValue]

theorem charsToUnsignedInt_unsignedIntToChars (n : UInt32) :
    charsToUnsignedInt (unsignedIntToChars n) = n := by
  have hlt := n.toNat_lt
  rw [← UInt32.toNat_inj, charsToUnsignedInt_digits (unsignedIntToChars_all n),
    decimalValue_unsignedIntToChars]
  omega

theorem isNumeric_of_digits {digits : Bytes} (hne : digits ≠ []) (h : digits.all isDigit = true) :
    isNumeric digits = true := by
  cases digits with
  | nil => exact absurd rfl hne
  | cons c digits =>
    have hc : isDigit c = true := by
      rw [List.all_cons, Bool.and_eq_true] at h
      exact h.1
    have hplus : c ≠ '+'.toUInt8 := fun heq => absurd (heq ▸ hc) (by decide)
    have hminus : c ≠ '-'.toUInt8 := fun heq => absurd (heq ▸ hc) (by decide)
    rw [isNumeric, if_neg (by simp [hplus, hminus])]
    exact h

theorem unsignedIntToChars_isNumeric (n : UInt32) : isNumeric (unsignedIntToChars n) = true :=
  isNumeric_of_digits (unsignedIntToChars_ne_nil n) (unsignedIntToChars_all n)

end Llfix
