import Mathlib.Data.Rat.Floor
import Plunder.Proofs.Number.Numeral
import Plunder.Proofs.Value.Json

/-!
# Whole numbers out of values

When a whole number is asked for, more is taken than whole numbers and their texts: a truth value
counts as one or zero, and a fraction is cut towards zero without a word.

Main statements:
- `Binary64.truncate?_eq`: the whole number of a double is its value, cut
- `toWhole_eq_ok_iff`: of which values of JSON a whole number is made, and which
-/

namespace Plunder

namespace Binary64

/-! ## Doubles -/

/-- The number that a finite double is. -/
def value? (x : Binary64) : Option ℚ :=
  match x.form with
  | .finite negative m e => some (if negative then -((m : ℚ) * 2 ^ e) else (m : ℚ) * 2 ^ e)
  | _ => none

/-- The whole number next to a fraction, towards zero. -/
def cut (q : ℚ) : Int := if 0 ≤ q then ⌊q⌋ else ⌈q⌉

theorem cut_neg (q : ℚ) : cut (-q) = -cut q := by
  rcases lt_trichotomy q 0 with h | rfl | h
  · rw [cut, if_pos (by linarith), cut, if_neg (by linarith), Int.floor_neg]
  · simp [cut]
  · rw [cut, if_neg (by linarith), cut, if_pos (by linarith), Int.ceil_neg]

/-- What is left of a magnitude when it is cut. -/
theorem cut_magnitude (m : Nat) (e : Int) : cut ((m : ℚ) * 2 ^ e) =
    ((if 0 ≤ e then m * twoPow e.toNat else m / twoPow (-e).toNat : Nat) : Int) := by
  have hnonneg : (0 : ℚ) ≤ (m : ℚ) * 2 ^ e :=
    mul_nonneg (Nat.cast_nonneg m) (zpow_nonneg (by norm_num) e)
  rw [cut, if_pos hnonneg]
  by_cases he : 0 ≤ e
  · obtain ⟨k, rfl⟩ := Int.eq_ofNat_of_zero_le he
    have hwhole : (m : ℚ) * 2 ^ (k : Int) = ((m * twoPow k : Nat) : ℚ) := by
      rw [zpow_natCast, Nat.cast_mul]
      exact congrArg _ (Nat.cast_pow 2 k).symm
    rw [if_pos he, hwhole, Int.floor_natCast, Int.toNat_natCast]
  · obtain ⟨k, rfl⟩ : ∃ k : Nat, e = -(k : Int) := ⟨(-e).toNat, by omega⟩
    have hratio : (m : ℚ) * 2 ^ (-(k : Int)) = (m : ℚ) / ((twoPow k : Nat) : ℚ) := by
      rw [zpow_neg, zpow_natCast, ← div_eq_mul_inv]
      exact congrArg _ (Nat.cast_pow 2 k).symm
    rw [if_neg he, hratio, Rat.floor_natCast_div_natCast, neg_neg, Int.toNat_natCast,
      Int.natCast_ediv]

/-- **The whole number of a double is its value, cut.** -/
theorem truncate?_eq (x : Binary64) : x.truncate? = x.value?.map cut := by
  unfold truncate? value?
  cases x.form with
  | nan => rfl
  | infinity negative => rfl
  | finite negative m e =>
    cases negative with
    | false => exact congrArg some (cut_magnitude m e).symm
    | true => exact congrArg some (by rw [if_pos rfl, if_pos rfl, cut_neg, cut_magnitude])

end Binary64

namespace Value

/-! ## Amounts -/

/-- Whether a value denotes a whole number: it is one, or a text that spells it. -/
inductive Means : Value → Int → Prop where
  | int (n : Int) : Means (.int n) n
  | text {s : String} {n : Int} (spells : Numeral.SpellsInt s n) : Means (.text s) n

/-- Whether a whole number is made of a value: one that it denotes, or one that is put in the place
of a truth value or a fraction. -/
inductive Yields : Value → Int → Prop where
  | meant {v : Value} {n : Int} (means : Means v n) : Yields v n
  | bool (b : Bool) : Yields (.bool b) (if b then 1 else 0)
  | float {x : Binary64} {q : ℚ} (value : x.value? = some q) : Yields (.float x) (Binary64.cut q)

/-- **Of which values of JSON a whole number is made, and which.** -/
theorem toWhole_eq_ok_iff {v : Value} (json : v.isJson = true) {n : Int} :
    v.toWhole.toOption = some n ↔ Yields v n := by
  constructor
  · -- One case for each kind of value; those that JSON does not carry are not among them.
    intro h
    cases v with
    | int m =>
      obtain rfl : m = n := Option.some.inj h
      exact .meant (.int m)
    | bool b =>
      obtain rfl : (if b then 1 else 0) = n := Option.some.inj h
      exact .bool b
    | float x =>
      rw [toWhole, Binary64.truncate?_eq] at h
      cases hx : x.value? with
      | none =>
        rw [hx] at h
        simp only [Option.map_none] at h
        split at h <;> cases h
      | some q =>
        rw [hx] at h
        obtain rfl : Binary64.cut q = n := Option.some.inj h
        exact .float hx
    | text s =>
      apply Yields.meant
      apply Means.text
      rw [← Numeral.parseInt_eq_ok_iff]
      rw [toWhole] at h
      cases hs : Numeral.parseInt s with
      | error f =>
        rw [hs] at h
        cases h
      | ok m =>
        rw [hs] at h
        exact congrArg _ (Option.some.inj h)
    | octets kind bs => cases json
    | tuple xs => cases json
    | null | list _ | object _ => cases h
  · intro h
    cases h with
    | meant means =>
      cases means with
      | int => rfl
      | text spells =>
        rw [toWhole, Numeral.parseInt_eq_ok_iff.2 spells]
        rfl
    | bool b => rfl
    | float value =>
      rw [toWhole, Binary64.truncate?_eq, value]
      rfl

end Value
end Plunder
