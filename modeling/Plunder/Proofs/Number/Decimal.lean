import Mathlib.Algebra.Order.Field.Rat
import Mathlib.Algebra.Order.Ring.Cast
import Plunder.Number.Decimal
import Plunder.Proofs.Text.Digit

/-!
# Exact decimal fractions

A quotient with a limited number of significant digits is exact as soon as the divisor is a power of
ten and the limit is not below the digits of the dividend: dividing by ten only moves the point. What
the division leaves behind is the fraction in lowest terms.

Main statements:
- `cutZeros_mul_pow`, `cutZeros_of_lowest`: the lowest terms of a fraction
- `quotient_eq_ofScaled`: a quotient by a power of ten is exact
- `value_ofScaled`: the number that a fraction denotes
-/

namespace Plunder.Decimal

open Plunder.Text

/-! ## Definitions -/

/-- The number that a decimal fraction denotes. -/
def value (d : Decimal) : ℚ := (if d.negative then -1 else 1) * d.coefficient / 10 ^ d.places

/-- Whether the last place of a fraction is not zero, if it has places at all. -/
def IsLowest (coefficient places : Nat) : Prop := places = 0 ∨ coefficient % 10 ≠ 0

/-! ## Lowest terms -/

/-- Zeros that are cut make no difference to the fraction, and none is left to be cut. -/
theorem exists_cutZeros (c p : Nat) : ∃ c' p' k, cutZeros c p = (c', p') ∧ p = p' + k ∧
    c = c' * 10 ^ k ∧ IsLowest c' p' := by
  induction p generalizing c with
  | zero => exact ⟨c, 0, 0, rfl, rfl, (Nat.mul_one c).symm, .inl rfl⟩
  | succ p ih =>
    rw [cutZeros]
    by_cases hc : c % 10 = 0
    · rw [if_pos hc]
      obtain ⟨c', p', k, hcut, hp, hvalue, hlowest⟩ := ih (c / 10)
      refine ⟨c', p', k + 1, hcut, by omega, ?_, hlowest⟩
      calc c = c / 10 * 10 := (Nat.div_mul_cancel (Nat.dvd_of_mod_eq_zero hc)).symm
        _ = c' * 10 ^ k * 10 := by rw [hvalue]
        _ = c' * 10 ^ (k + 1) := by rw [Nat.mul_assoc, ← Nat.pow_succ]
    · rw [if_neg hc]
      exact ⟨c, p + 1, 0, rfl, rfl, (Nat.mul_one c).symm, .inr hc⟩

/-- A fraction that is extended by zeros has the same lowest terms. -/
theorem cutZeros_mul_pow (c p k : Nat) : cutZeros (c * 10 ^ k) (p + k) = cutZeros c p := by
  induction k with
  | zero => simp
  | succ k ih =>
    have hzero : c * 10 ^ (k + 1) % 10 = 0 := by
      rw [Nat.pow_succ, ← Nat.mul_assoc, Nat.mul_mod_left]
    have hdiv : c * 10 ^ (k + 1) / 10 = c * 10 ^ k := by
      rw [Nat.pow_succ, ← Nat.mul_assoc, Nat.mul_div_cancel _ (by decide)]
    rw [← Nat.add_assoc, cutZeros, if_pos hzero, hdiv, ih]

theorem cutZeros_of_lowest {c p : Nat} (h : IsLowest c p) : cutZeros c p = (c, p) := by
  cases p with
  | zero => rfl
  | succ p => rw [cutZeros, if_neg (h.resolve_left (Nat.succ_ne_zero p))]

/-- The same for the fraction as a whole. -/
theorem ofScaled_mul_pow (n : Int) (places k : Nat) :
    ofScaled (n * (10 ^ k : Nat)) (places + k) = ofScaled n places := by
  have hpos : (0 : Int) < (10 ^ k : Nat) := Int.natCast_pos.2 (Nat.pow_pos (by decide))
  have hsign : n * (10 ^ k : Nat) < 0 ↔ n < 0 :=
    lt_iff_lt_of_le_iff_le (mul_nonneg_iff_of_pos_right hpos)
  rw [ofScaled, ofScaled, Int.natAbs_mul, Int.natAbs_natCast, cutZeros_mul_pow]
  simp only [hsign]

/-- **The number that a fraction in lowest terms denotes.** -/
theorem value_ofScaled (n : Int) (places : Nat) : (ofScaled n places).value = n / 10 ^ places := by
  have hsign : (if n < 0 then -1 else 1) * (n.natAbs : ℚ) = n := by
    rw [Nat.cast_natAbs, Int.cast_abs]
    by_cases hn : n < 0
    · rw [if_pos hn, abs_of_neg (Int.cast_lt_zero.2 hn), neg_one_mul, neg_neg]
    · rw [if_neg hn, abs_of_nonneg (Int.cast_nonneg (Int.not_lt.1 hn)), one_mul]
  obtain ⟨c, p, k, hcut, rfl, hvalue, -⟩ := exists_cutZeros n.natAbs places
  have hvalue' : (n.natAbs : ℚ) = c * 10 ^ k := by exact_mod_cast hvalue
  rw [ofScaled, hcut, value]
  simp only [decide_eq_true_eq]
  -- The zeros that were cut are a power of ten, by which the fraction is extended.
  calc (if n < 0 then -1 else 1) * (c : ℚ) / 10 ^ p
      = (if n < 0 then -1 else 1) * (c * 10 ^ k) / (10 ^ p * 10 ^ k) := by
        rw [← mul_assoc, mul_div_mul_right _ _ (pow_ne_zero k (by decide))]
    _ = n / 10 ^ (p + k) := by rw [← hvalue', hsign, ← pow_add]

/-! ## Numbers of digits -/

theorem digitCount_pos (n : Nat) : 0 < digitCount n := List.length_pos_iff.2 (natDigits_ne_nil n)

theorem digitCount_le_iff {n k : Nat} (hk : 0 < k) : digitCount n ≤ k ↔ n < 10 ^ k :=
  Nat.length_toDigits_le_iff (by decide) hk

theorem lt_pow_digitCount (n : Nat) : n < 10 ^ digitCount n :=
  (digitCount_le_iff (digitCount_pos n)).1 (Nat.le_refl _)

theorem digitCount_mono {n m : Nat} (h : n ≤ m) : digitCount n ≤ digitCount m :=
  (digitCount_le_iff (digitCount_pos m)).2 (Nat.lt_of_le_of_lt h (lt_pow_digitCount m))

theorem digitCount_tenPow (k : Nat) : digitCount (tenPow k) = k + 1 := by
  apply Nat.le_antisymm
  · exact (digitCount_le_iff k.succ_pos).2 (Nat.pow_lt_pow_right (by decide) k.lt_succ_self)
  · -- With one digit less it would be below itself.
    by_contra hlt
    cases k with
    | zero => exact hlt (digitCount_pos _)
    | succ k =>
      have hle : digitCount (tenPow (k + 1)) ≤ k + 1 := by omega
      exact Nat.lt_irrefl _ ((digitCount_le_iff k.succ_pos).1 hle)

/-! ## Quotients -/

/-- Nothing is lost by rounding a coefficient whose last digits are zeros. -/
theorem roundTo_eq_self {precision c : Nat} (h : tenPow (digitCount c - precision) ∣ c) :
    roundTo precision c = c := by
  obtain ⟨q, hq⟩ := h
  have hpos : 0 < tenPow (digitCount c - precision) := Nat.pow_pos (by decide)
  rw [roundTo]
  generalize tenPow (digitCount c - precision) = step at hq hpos
  rw [hq]
  have hround : Binary64.roundDiv (step * q) step = q := by
    rw [Binary64.roundDiv, Nat.mul_mod_right, Nat.mul_div_cancel_left q hpos]
    simp [hpos]
  rw [hround, Nat.mul_comm]

/-- A number that has no more digits than are kept stays as it is, whatever zeros follow. -/
theorem roundTo_mul_pow {precision n : Nat} (fits : digitCount n ≤ precision) (k : Nat) :
    roundTo precision (n * 10 ^ k) = n * 10 ^ k := by
  apply roundTo_eq_self
  have hcount : digitCount (n * 10 ^ k) ≤ digitCount n + k := by
    have hpos : 0 < digitCount n + k := Nat.add_pos_left (digitCount_pos n) k
    rw [digitCount_le_iff hpos, Nat.pow_add]
    exact Nat.mul_lt_mul_of_pos_right (lt_pow_digitCount n) (Nat.pow_pos (by decide))
  have hzeros : digitCount (n * 10 ^ k) - precision ≤ k := by omega
  exact Nat.dvd_mul_left_of_dvd (Nat.pow_dvd_pow 10 hzeros) n

/-- **A quotient by a power of ten is exact** if it may have as many significant digits as the
dividend has. -/
theorem quotient_eq_ofScaled {precision : Nat} {n : Int}
    (fits : digitCount n.natAbs ≤ precision) (places : Nat) :
    quotient precision n (tenPow places) = ofScaled n places := by
  -- The dividend gets `places` zeros, which the divisor takes away again, and `k` besides.
  obtain ⟨k, hk⟩ := Nat.exists_eq_add_of_le fits
  have hshift : (digitCount (tenPow places) : Int) + precision + 1 - digitCount n.natAbs =
      (places + (k + 2) : Nat) := by
    rw [digitCount_tenPow]
    omega
  have hnum : n.natAbs * tenPow (places + (k + 2)) = n.natAbs * 10 ^ (k + 2) * tenPow places := by
    show n.natAbs * 10 ^ (places + (k + 2)) = n.natAbs * 10 ^ (k + 2) * 10 ^ places
    rw [Nat.pow_add, Nat.mul_assoc, Nat.mul_comm (10 ^ (k + 2))]
  have hpos : 0 < tenPow places := Nat.pow_pos (by decide)
  have hdiv : n.natAbs * tenPow (places + (k + 2)) / tenPow places = n.natAbs * 10 ^ (k + 2) := by
    rw [hnum, Nat.mul_div_cancel _ hpos]
  have hmod : n.natAbs * tenPow (places + (k + 2)) % tenPow places = 0 := by
    rw [hnum, Nat.mul_mod_left]
  have hsigned : n.sign * ((n.natAbs * 10 ^ (k + 2) : Nat) : Int) = n * (10 ^ (k + 2) : Nat) := by
    rw [Int.natCast_mul, ← Int.mul_assoc, Int.sign_mul_natAbs]
  have hnat : ((places + (k + 2) : Nat) : Int).toNat = places + (k + 2) := Int.toNat_natCast _
  have hneg : (-((places + (k + 2) : Nat) : Int)).toNat = 0 := by omega
  have hone : tenPow 0 = 1 := rfl
  unfold quotient
  simp only [hshift, hnat, hneg, hone, Nat.mul_one, hdiv, hmod, ne_eq, not_true, false_and,
    if_false, roundTo_mul_pow fits]
  rw [hsigned, ofScaled_mul_pow]

/-- With fewer digits than the dividend has, the last ones are lost. -/
example : quotient 28 (tenPow 40 + 1) (tenPow 18) = ofScaled (tenPow 40) 18 := by decide +kernel

end Plunder.Decimal
