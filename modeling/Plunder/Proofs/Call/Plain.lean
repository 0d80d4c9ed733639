import Plunder.Call
import Plunder.Proofs.Except
import Plunder.Proofs.Value.Json
import Plunder.Proofs.Value.Short

/-!
# Plain forms

A value is hashed and travels in its plain form. It has one unless octets stand in the way, and its
whole numbers are left as they are, however long.

Main statements:
- `exists_plain`, `drawn_of_plain`: which values have a plain form, and what it is like
- `plain_of_isWhole`: a value of JSON without fractions is its own plain form
-/

namespace Plunder.Value

/-! ## Definitions -/

mutual

/-- Whether the octets in the value, if there are any, encode texts and are not held elsewhere. -/
def isEncodable : Value → Bool
  | octets kind bs => kind ≠ .window && (Text.ofUtf8? bs).isSome
  | list xs | tuple xs => areEncodable xs
  | object fs => haveEncodable fs
  | _ => true

def areEncodable : List Value → Bool
  | [] => true
  | x :: xs => isEncodable x && areEncodable xs

def haveEncodable : List (String × Value) → Bool
  | [] => true
  | (_, v) :: fs => isEncodable v && haveEncodable fs

end

mutual

/-- Whether the value is one of JSON without fractions: null, truth values, whole numbers of any
length, texts, lists, and objects that name every field once. -/
def isWhole : Value → Bool
  | null | bool _ | int _ | text _ => true
  | float _ | octets .. | tuple _ => false
  | list xs => areWhole xs
  | object fs => (fs.map (·.1)).Nodup && haveWhole fs

def areWhole : List Value → Bool
  | [] => true
  | x :: xs => isWhole x && areWhole xs

def haveWhole : List (String × Value) → Bool
  | [] => true
  | (_, v) :: fs => isWhole v && haveWhole fs

end

/-! ## Which values have a plain form -/

mutual

/-- **A value whose octets encode texts has a plain form.** -/
theorem exists_plain : (v : Value) → v.isEncodable = true → ∃ w, v.plain = .ok w
  | null, _ | bool _, _ | int _, _ | float _, _ | text _, _ => ⟨_, rfl⟩
  | octets kind bs, h => by
    rw [isEncodable, Bool.and_eq_true, decide_eq_true_eq] at h
    obtain ⟨s, hs⟩ := Option.isSome_iff_exists.1 h.2
    cases kind with
    | window => exact absurd rfl h.1
    | fixed => exact ⟨.text s, by simp only [plain, hs]⟩
    | buffer => exact ⟨.text s, by simp only [plain, hs]⟩
  | list xs, h => by
    obtain ⟨ws, hws⟩ := exists_plainItems xs h
    exact ⟨.list ws, by rw [plain, hws]; rfl⟩
  | tuple xs, h => by
    obtain ⟨ws, hws⟩ := exists_plainItems xs h
    exact ⟨.list ws, by rw [plain, hws]; rfl⟩
  | object fs, h => by
    obtain ⟨gs, hgs⟩ := exists_plainFields fs h
    exact ⟨.object gs, by rw [plain, hgs]; rfl⟩

theorem exists_plainItems : (xs : List Value) → areEncodable xs = true →
    ∃ ws, plainItems xs = .ok ws
  | [], _ => ⟨[], rfl⟩
  | x :: xs, h => by
    rw [areEncodable, Bool.and_eq_true] at h
    obtain ⟨w, hw⟩ := exists_plain x h.1
    obtain ⟨ws, hws⟩ := exists_plainItems xs h.2
    exact ⟨w :: ws, by rw [plainItems, hw, hws]; rfl⟩

theorem exists_plainFields : (fs : List (String × Value)) → haveEncodable fs = true →
    ∃ gs, plainFields fs = .ok gs
  | [], _ => ⟨[], rfl⟩
  | (k, v) :: fs, h => by
    rw [haveEncodable, Bool.and_eq_true] at h
    obtain ⟨w, hw⟩ := exists_plain v h.1
    obtain ⟨gs, hgs⟩ := exists_plainFields fs h.2
    exact ⟨(k, w) :: gs, by rw [plainFields, hw, hgs]; rfl⟩

end

mutual

/-- **What a plain form is like**: a value of JSON, with the whole numbers of the value that it is
drawn from. -/
theorem drawn_of_plain : (v w : Value) → v.plain = .ok w →
    v.isEncodable = true ∧ w.isJson = true ∧ w.isShort = v.isShort
  | null, _, rfl | bool _, _, rfl | int _, _, rfl | text _, _, rfl => ⟨rfl, rfl, rfl⟩
  | float x, w, h => by
    rw [plain, Except.ok.injEq] at h
    subst h
    split <;> exact ⟨rfl, rfl, rfl⟩
  | octets kind bs, w, h => by
    unfold plain at h
    split at h
    · cases h
    · next s hkind hs =>
      cases h
      refine ⟨?_, rfl, rfl⟩
      rw [isEncodable, hs, Bool.and_eq_true, decide_eq_true_eq]
      exact ⟨hkind, rfl⟩
    · cases h
  | list xs, w, h => by
    rw [plain, Except.map_eq_ok_iff] at h
    obtain ⟨ws, hws, rfl⟩ := h
    exact drawn_of_plainItems xs ws hws
  | tuple xs, w, h => by
    rw [plain, Except.map_eq_ok_iff] at h
    obtain ⟨ws, hws, rfl⟩ := h
    exact drawn_of_plainItems xs ws hws
  | object fs, w, h => by
    rw [plain, Except.map_eq_ok_iff] at h
    obtain ⟨gs, hgs, rfl⟩ := h
    exact drawn_of_plainFields fs gs hgs

theorem drawn_of_plainItems : (xs ws : List Value) → plainItems xs = .ok ws →
    areEncodable xs = true ∧ areJson ws = true ∧ areShort ws = areShort xs
  | [], _, rfl => ⟨rfl, rfl, rfl⟩
  | x :: xs, _, h => by
    rw [plainItems] at h
    obtain ⟨w, hw, h⟩ := Except.bind_eq_ok_iff.1 h
    obtain ⟨ws, hws, h⟩ := Except.bind_eq_ok_iff.1 h
    cases h
    obtain ⟨hencodable, hjson, hshort⟩ := drawn_of_plain x w hw
    obtain ⟨hencodables, hjsons, hshorts⟩ := drawn_of_plainItems xs ws hws
    simp [areEncodable, areJson, areShort, *]

theorem drawn_of_plainFields : (fs gs : List (String × Value)) → plainFields fs = .ok gs →
    haveEncodable fs = true ∧ haveJson gs = true ∧ haveShort gs = haveShort fs
  | [], _, rfl => ⟨rfl, rfl, rfl⟩
  | (k, v) :: fs, _, h => by
    rw [plainFields] at h
    obtain ⟨w, hw, h⟩ := Except.bind_eq_ok_iff.1 h
    obtain ⟨gs, hgs, h⟩ := Except.bind_eq_ok_iff.1 h
    cases h
    obtain ⟨hencodable, hjson, hshort⟩ := drawn_of_plain v w hw
    obtain ⟨hencodables, hjsons, hshorts⟩ := drawn_of_plainFields fs gs hgs
    simp [haveEncodable, haveJson, haveShort, *]

end

mutual

/-- A value of JSON holds no octets at all. -/
theorem isEncodable_of_isJson : (v : Value) → v.isJson = true → v.isEncodable = true
  | null, _ | bool _, _ | int _, _ | float _, _ | text _, _ => rfl
  | octets _ _, h => nomatch h
  | tuple _, h => nomatch h
  | list xs, h => areEncodable_of_areJson xs h
  | object fs, h => haveEncodable_of_haveJson fs h

theorem areEncodable_of_areJson : (xs : List Value) → areJson xs = true → areEncodable xs = true
  | [], _ => rfl
  | x :: xs, h => by
    rw [areJson, Bool.and_eq_true] at h
    rw [areEncodable, isEncodable_of_isJson x h.1, areEncodable_of_areJson xs h.2]
    rfl

theorem haveEncodable_of_haveJson : (fs : List (String × Value)) → haveJson fs = true →
    haveEncodable fs = true
  | [], _ => rfl
  | (_, v) :: fs, h => by
    rw [haveJson, Bool.and_eq_true] at h
    rw [haveEncodable, isEncodable_of_isJson v h.1, haveEncodable_of_haveJson fs h.2]
    rfl

end

/-! ## Values that are their own plain form -/

mutual

/-- A value of JSON without fractions is its own plain form. -/
theorem plain_of_isWhole : (v : Value) → v.isWhole = true → v.plain = .ok v
  | null, _ | bool _, _ | int _, _ | text _, _ => rfl
  | float _, h => nomatch h
  | octets _ _, h => nomatch h
  | tuple _, h => nomatch h
  | list xs, h => by
    rw [plain, plainItems_of_areWhole xs h]
    rfl
  | object fs, h => by
    rw [isWhole, Bool.and_eq_true] at h
    rw [plain, plainFields_of_haveWhole fs h.2]
    rfl

theorem plainItems_of_areWhole : (xs : List Value) → areWhole xs = true → plainItems xs = .ok xs
  | [], _ => rfl
  | x :: xs, h => by
    rw [areWhole, Bool.and_eq_true] at h
    rw [plainItems, plain_of_isWhole x h.1, plainItems_of_areWhole xs h.2]
    rfl

theorem plainFields_of_haveWhole : (fs : List (String × Value)) → haveWhole fs = true →
    plainFields fs = .ok fs
  | [], _ => rfl
  | (_, v) :: fs, h => by
    rw [haveWhole, Bool.and_eq_true] at h
    rw [plainFields, plain_of_isWhole v h.1, plainFields_of_haveWhole fs h.2]
    rfl

end

end Plunder.Value
