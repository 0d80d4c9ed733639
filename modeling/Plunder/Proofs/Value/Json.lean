import Plunder.Fault

/-!
# Values of JSON

The values that a JSON text can carry: no octets and no tuples, at any depth. Infinite numbers and
numbers that are none are among them, since the reader of JSON lets them through.

Main statements:
- `isKey_eq_false_iff`: of the values of JSON exactly the lists and the objects cannot be keys
- `toWhole_overflow_iff`: exactly the infinite numbers overflow when a whole number is asked for
-/

namespace Plunder.Value

/-! ## Definitions -/

mutual

/-- Whether a JSON text can carry the value. -/
def isJson : Value → Bool
  | octets .. | tuple _ => false
  | list xs => areJson xs
  | object fs => haveJson fs
  | _ => true

/-- Whether a JSON text can carry each of the values. -/
def areJson : List Value → Bool
  | [] => true
  | x :: xs => isJson x && areJson xs

/-- Whether a JSON text can carry each of the fields. -/
def haveJson : List (String × Value) → Bool
  | [] => true
  | (_, v) :: fs => isJson v && haveJson fs

end

/-- Whether the value is a list or an object. -/
def isCollection : Value → Bool
  | list _ | object _ => true
  | _ => false

/-- Whether the value is one of the two infinite numbers. -/
def isInfinite : Value → Bool
  | float x => match x.form with
    | .infinity _ => true
    | _ => false
  | _ => false

/-! ## Fields of an object -/

/-- What is found among fields of JSON is itself of JSON. -/
theorem isJson_of_get? {fs : Fields} {name : String} {v : Value} (hfs : haveJson fs = true)
    (hv : fs.get? name = some v) : v.isJson = true := by
  induction fs with
  | nil => simp [Fields.get?] at hv
  | cons f fs ih =>
    obtain ⟨k, w⟩ := f
    simp only [haveJson, Bool.and_eq_true] at hfs
    simp only [Fields.get?, List.find?_cons] at hv ih
    by_cases hk : k == name
    · simp only [hk, Option.map_some, Option.some.injEq] at hv
      exact hv ▸ hfs.1
    · simp only [hk] at hv
      exact ih hfs.2 hv

theorem areJson_iff {xs : List Value} : areJson xs = true ↔ ∀ x ∈ xs, x.isJson = true := by
  induction xs with
  | nil => simp [areJson]
  | cons x xs ih => simp [areJson, ih]

/-! ## Keys -/

/-- Of the values of JSON exactly the lists and the objects cannot be keys. -/
theorem isKey_eq_false_iff {v : Value} (hv : v.isJson = true) :
    v.isKey = false ↔ v.isCollection = true := by
  cases v with
  | tuple _ => simp [isJson] at hv
  | octets kind _ => simp [isJson] at hv
  | _ => simp [isKey, isCollection]

/-! ## Whole numbers -/

private theorem kind_numeralFault (shown : String) (f : Numeral.Fault) :
    (numeralFault shown f).kind = .value := by
  cases f <;> rfl

private theorem mapError_eq_error {α ε ε' : Type} {x : Except ε α} {f : ε → ε'} {e : ε'}
    (h : x.mapError f = .error e) : ∃ e₀, e = f e₀ := by
  cases x with
  | ok a => cases h
  | error e₀ => cases h; exact ⟨e₀, rfl⟩

/-- Exactly the infinite numbers overflow when a whole number is asked for. -/
theorem toWhole_overflow_iff {v : Value} :
    (∃ f, v.toWhole = .error f ∧ f.kind = .overflow) ↔ v.isInfinite = true := by
  constructor
  · -- Whatever else fails does so with a fault of another kind.
    rintro ⟨f, hf, hk⟩
    cases v with
    | float x =>
      cases hx : x.form with
      | infinity _ => simp [isInfinite, hx]
      | nan =>
        simp only [toWhole, Binary64.truncate?, Binary64.isNan, hx, beq_self_eq_true, if_true,
          Except.error.injEq] at hf
        subst hf
        cases hk
      | finite _ _ _ => simp [toWhole, Binary64.truncate?, hx] at hf
    | text s =>
      obtain ⟨e, rfl⟩ := mapError_eq_error hf
      rw [kind_numeralFault] at hk
      cases hk
    | octets _ bs =>
      obtain ⟨e, rfl⟩ := mapError_eq_error hf
      rw [kind_numeralFault] at hk
      cases hk
    | int n => cases hf
    | bool b => cases hf
    | null | list _ | tuple _ | object _ => cases hf; cases hk
  · intro h
    cases v with
    | float x =>
      cases hx : x.form with
      | infinity b =>
        refine ⟨.overflow "cannot convert float infinity to integer", ?_, rfl⟩
        simp [toWhole, Binary64.truncate?, Binary64.isNan, hx]
      | nan => simp [isInfinite, hx] at h
      | finite _ _ _ => simp [isInfinite, hx] at h
    | _ => simp [isInfinite] at h

end Plunder.Value
