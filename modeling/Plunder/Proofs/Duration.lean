import Mathlib.Algebra.Order.Field.Rat
import Mathlib.Tactic.NormNum.Pow
import Mathlib.Tactic.SplitIfs
import Plunder.Duration

/-!
# The length of durations

A duration that is not over has a positive length, if it has a length at all.
-/

namespace Plunder

namespace Binary64

/-- What comes after zero is a positive number, if it is a number. -/
theorem mantissa_pos {x : Binary64} (hx : zero.lt x = true) {negative : Bool} {m : Nat} {e : Int}
    (hf : x.form = .finite negative m e) : negative = false ∧ 0 < m := by
  have hkey : 0 < x.orderKey := by
    have h0 : zero.orderKey = 0 := by decide +kernel
    simp only [lt, Bool.and_eq_true, decide_eq_true_eq, h0] at hx
    exact hx.2
  simp only [orderKey] at hkey
  -- The key of a negative number is not positive, and the key of any other is its bits.
  split at hkey
  · omega
  next hlow =>
    simp only [form, twoPow] at hf hlow
    norm_num at hf hlow
    -- What has a mantissa is a subnormal number that is not zero, or a normal one.
    split_ifs at hf
    · simp only [Form.finite.injEq] at hf
      obtain ⟨rfl, rfl, -⟩ := hf
      refine ⟨?_, ?_⟩
      · simpa using hlow
      · omega
    · simp only [Form.finite.injEq] at hf
      obtain ⟨rfl, rfl, -⟩ := hf
      refine ⟨?_, ?_⟩
      · simpa using hlow
      · omega

end Binary64

namespace Duration

/-- **A duration that is not over takes time.** -/
theorem length_pos {d : Duration} (h : d.isOver = false) {s : Rat} (hs : d.length? = some s) :
    0 < s := by
  cases d with
  | whole n =>
    simp only [isOver, decide_eq_false_iff_not, not_le] at h
    simp only [length?, Option.some.injEq] at hs
    rw [← hs]
    exact_mod_cast h
  | real x =>
    simp only [length?] at hs
    split at hs
    · next negative m e hf =>
      have hx : Binary64.zero.lt x = true := by
        simpa [isOver, Binary64.isNan, hf] using h
      obtain ⟨rfl, hm⟩ := Binary64.mantissa_pos hx hf
      have hpow : ∀ n, (0 : Rat) < (twoPow n : Nat) := by
        intro n
        exact_mod_cast Nat.pow_pos (Nat.succ_pos 1)
      have hm' : (0 : Rat) < m := by exact_mod_cast hm
      simp only [Bool.false_eq_true, if_false, Option.some.injEq] at hs
      rw [← hs]
      split
      · rw [Nat.cast_mul]
        exact mul_pos hm' (hpow _)
      · exact div_pos hm' (hpow _)
    · cases hs

end Duration
end Plunder
