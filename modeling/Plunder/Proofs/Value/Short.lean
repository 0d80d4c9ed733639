import Plunder.Value.Show

/-!
# Values without long numbers

A whole number of more than `Numeral.maxDigits` digits has no text, and neither has anything that
holds one. These are the only values that cannot be shown.

Main statements:
- `exists_show`: a value without long numbers is shown
- `isShort_of_get?`: what is found in an object without long numbers
-/

namespace Plunder.Value

/-! ## Definitions -/

/-- Whether a whole number has a text. -/
def IsShortInt (n : Int) : Prop := (Text.natDigits n.natAbs).length ≤ Numeral.maxDigits

instance (n : Int) : Decidable (IsShortInt n) := inferInstanceAs (Decidable (_ ≤ _))

mutual

/-- Whether every whole number in the value has a text. -/
def isShort : Value → Bool
  | int n => IsShortInt n
  | list xs | tuple xs => areShort xs
  | object fs => haveShort fs
  | _ => true

/-- Whether every whole number in the values has a text. -/
def areShort : List Value → Bool
  | [] => true
  | x :: xs => isShort x && areShort xs

/-- Whether every whole number in the fields has a text. -/
def haveShort : List (String × Value) → Bool
  | [] => true
  | (_, v) :: fs => isShort v && haveShort fs

end

/-! ## Parts of values -/

/-- What is found among fields without long numbers holds none. -/
theorem isShort_of_get? {fs : Fields} {name : String} {v : Value} (hfs : haveShort fs = true)
    (hv : fs.get? name = some v) : v.isShort = true := by
  induction fs with
  | nil => simp [Fields.get?] at hv
  | cons f fs ih =>
    obtain ⟨k, w⟩ := f
    rw [haveShort, Bool.and_eq_true] at hfs
    rw [Fields.get?, List.find?_cons] at hv
    by_cases hk : k == name
    · rw [hk] at hv
      cases hv
      exact hfs.1
    · rw [Bool.not_eq_true] at hk
      rw [hk] at hv
      exact ih hfs.2 hv

/-! ## Texts of values -/

theorem intText?_isSome_iff {n : Int} : (Numeral.intText? n).isSome = true ↔ IsShortInt n := by
  unfold Numeral.intText? IsShortInt
  split <;> simp_all

mutual

/-- **A value without long numbers is shown.** -/
theorem exists_show : (v : Value) → v.isShort = true → ∃ t, v.show? = some t
  | null, _ | bool _, _ | float _, _ | text _, _ => ⟨_, rfl⟩
  | octets kind _, _ => by cases kind <;> exact ⟨_, rfl⟩
  | int n, h => Option.isSome_iff_exists.1 (intText?_isSome_iff.2 (of_decide_eq_true h))
  | list xs, h => by
    obtain ⟨ts, hts⟩ := exists_showItems xs h
    simp [show?, hts]
  | tuple xs, h => by
    obtain ⟨ts, hts⟩ := exists_showItems xs h
    simp [show?, hts]
  | object fs, h => by
    obtain ⟨ts, hts⟩ := exists_showFields fs h
    simp [show?, hts]

/-- Items without long numbers are shown. -/
theorem exists_showItems : (xs : List Value) → areShort xs = true → ∃ ts, showItems? xs = some ts
  | [], _ => ⟨[], rfl⟩
  | x :: xs, h => by
    rw [areShort, Bool.and_eq_true] at h
    obtain ⟨t, ht⟩ := exists_show x h.1
    obtain ⟨ts, hts⟩ := exists_showItems xs h.2
    simp [showItems?, ht, hts]

/-- Fields without long numbers are shown. -/
theorem exists_showFields : (fs : List (String × Value)) → haveShort fs = true →
    ∃ ts, showFields? fs = some ts
  | [], _ => ⟨[], rfl⟩
  | (_, v) :: fs, h => by
    rw [haveShort, Bool.and_eq_true] at h
    obtain ⟨t, ht⟩ := exists_show v h.1
    obtain ⟨ts, hts⟩ := exists_showFields fs h.2
    simp [showFields?, ht, hts]

end

end Plunder.Value
