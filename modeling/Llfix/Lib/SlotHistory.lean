import Mathlib.Data.List.Basic

/-!
# Slots that are written again and again

Values are written into numbered slots, the `n`-th one into `slotOf n`. A slot holds the last value
that was written into it.

Results:
1. `Keeps.push`, `Keeps.replaceLast`: a write keeps the values of all other slots.
2. `mod_ne_of_near`: in a ring, writes that lie less than the capacity apart do not meet.
3. `toNat_sub_div_mul`: the index of a ring in unsigned arithmetic.
-/

namespace SlotHistory

variable {α : Type} {slotOf : Nat → Nat} {slots history : List α}

/-- Every write that no later one has overwritten is still in its slot. -/
def Keeps (slotOf : Nat → Nat) (slots history : List α) : Prop :=
  ∀ n value, history[n]? = some value →
    (∀ m, n < m → m < history.length → slotOf m ≠ slotOf n) → slots[slotOf n]? = some value

namespace Keeps

theorem nil : Keeps slotOf slots [] := by
  intro n value hvalue
  rw [List.getElem?_nil] at hvalue
  exact absurd hvalue.symm (Option.some_ne_none value)

/-- The next write. -/
theorem push (h : Keeps slotOf slots history) {value : α}
    (hslot : slotOf history.length < slots.length) :
    Keeps slotOf (slots.set (slotOf history.length) value) (history ++ [value]) := by
  intro n v hv hlater
  rw [List.length_append] at hlater
  rcases Nat.lt_trichotomy n history.length with hlt | heq | hgt
  · rw [List.getElem?_append_left hlt] at hv
    have hother : slotOf history.length ≠ slotOf n := hlater _ hlt (Nat.lt_succ_self _)
    rw [List.getElem?_set_ne hother]
    exact h n v hv fun m hm hlt' => hlater m hm (Nat.lt_succ_of_lt hlt')
  · subst heq
    rw [List.getElem?_concat_length] at hv
    rw [List.getElem?_set_self hslot, hv]
  · have hnone : (history ++ [value])[n]? = none := by
      refine List.getElem?_eq_none ?_
      rw [List.length_append]
      exact hgt
    rw [hnone] at hv
    exact absurd hv.symm (Option.some_ne_none v)

/-- The last value is written anew. -/
theorem replaceLast {value last : α} (h : Keeps slotOf slots (history ++ [last]))
    (hslot : slotOf history.length < slots.length) :
    Keeps slotOf (slots.set (slotOf history.length) value) (history ++ [value]) := by
  intro n v hv hlater
  have hlength : (history ++ [value]).length = (history ++ [last]).length := by
    rw [List.length_append, List.length_append]
    rfl
  rcases Nat.lt_or_ge n history.length with hlt | hge
  · have hbefore : (history ++ [last])[n]? = some v := by
      rwa [List.getElem?_append_left hlt] at hv ⊢
    have hother : slotOf history.length ≠ slotOf n := by
      refine hlater _ hlt ?_
      rw [List.length_append]
      exact Nat.lt_succ_self _
    rw [List.getElem?_set_ne hother]
    exact h n v hbefore (hlength ▸ hlater)
  · have hn : n < (history ++ [value]).length := (List.getElem?_eq_some_iff.mp hv).1
    rw [List.length_append] at hn
    have heq : n = history.length := Nat.le_antisymm (Nat.le_of_lt_succ hn) hge
    subst heq
    rw [List.getElem?_concat_length] at hv
    rw [List.getElem?_set_self hslot, hv]

end Keeps

/-- Two numbers less than `capacity` apart have different slots in a ring. -/
theorem mod_ne_of_near {capacity a b : Nat} (hlt : a < b) (hnear : b < a + capacity) :
    b % capacity ≠ a % capacity := by
  intro he
  have hdvd : capacity ∣ b - a := Nat.dvd_of_mod_eq_zero (Nat.sub_mod_eq_zero_of_mod_eq he)
  have hle := Nat.le_of_dvd (Nat.sub_pos_of_lt hlt) hdvd
  omega

/-- The index of a ring as unsigned numbers compute it, without a remainder. -/
theorem toNat_sub_div_mul (a b : UInt64) : (a - a / b * b).toNat = a.toNat % b.toNat := by
  have hdiv := Nat.div_mul_le_self a.toNat b.toNat
  have hproduct : (a / b * b).toNat = a.toNat / b.toNat * b.toNat := by
    rw [UInt64.toNat_mul, UInt64.toNat_div]
    exact Nat.mod_eq_of_lt (Nat.lt_of_le_of_lt hdiv a.toNat_lt)
  have hle : a / b * b ≤ a := by
    rw [UInt64.le_iff_toNat_le, hproduct]
    exact hdiv
  rw [UInt64.toNat_sub_of_le _ _ hle, hproduct, Nat.mod_eq_sub_div_mul]

end SlotHistory
