import Plunder.Proofs.Except
import Plunder.Proofs.Text.Digit
import Plunder.Proofs.Value.Json
import Plunder.Proofs.Value.Short
import Plunder.Value.Json

/-!
# What is read out of JSON

Whatever a text holds, what is read out of it can be written again: it has neither octets nor
tuples, and no whole number that is too long for a text.

Main statements:
- `readable_of_read`: a value that is read out of a text
- `exists_write_of_readable`: such a value has a text
- `isShort_of_write`: what has a text holds no number that is too long
-/

namespace Plunder

/-! ## Definitions -/

/-- Whether a value may come out of a JSON text. -/
structure Value.Readable (v : Value) : Prop where
  json : v.isJson = true
  short : v.isShort = true

/-! ## Parts of values -/

namespace Value

@[simp] theorem readable_null : null.Readable := ⟨rfl, rfl⟩

@[simp] theorem readable_text (s : String) : (text s).Readable := ⟨rfl, rfl⟩

theorem Readable.of_get? {fs : Fields} {name : String} {v : Value} (h : (object fs).Readable)
    (hv : fs.get? name = some v) : v.Readable :=
  ⟨isJson_of_get? h.json hv, isShort_of_get? h.short hv⟩

theorem readable_list {xs : List Value} (h : ∀ x ∈ xs, x.Readable) : (list xs).Readable := by
  induction xs with
  | nil => exact ⟨rfl, rfl⟩
  | cons x xs ih =>
    have hx := h x List.mem_cons_self
    have hxs := ih fun y hy => h y (List.mem_cons_of_mem _ hy)
    exact ⟨Bool.and_eq_true_iff.2 ⟨hx.json, hxs.json⟩, Bool.and_eq_true_iff.2 ⟨hx.short, hxs.short⟩⟩

theorem readable_object {fs : Fields} (h : ∀ f ∈ fs, f.2.Readable) : (object fs).Readable := by
  induction fs with
  | nil => exact ⟨rfl, rfl⟩
  | cons f fs ih =>
    have hf := h f List.mem_cons_self
    have hfs := ih fun g hg => h g (List.mem_cons_of_mem _ hg)
    exact ⟨Bool.and_eq_true_iff.2 ⟨hf.json, hfs.json⟩, Bool.and_eq_true_iff.2 ⟨hf.short, hfs.short⟩⟩

end Value

theorem Fields.readable_set {fs : Fields} {k : String} {v : Value} (hv : v.Readable)
    (h : ∀ f ∈ fs, f.2.Readable) : ∀ f ∈ fs.set k v, f.2.Readable := by
  intro f hf
  unfold Fields.set at hf
  split at hf
  · obtain ⟨g, hg, rfl⟩ := List.mem_map.1 hf
    split
    · exact hv
    · exact h g hg
  · rcases List.mem_append.1 hf with hf | hf
    · exact h f hf
    · rw [List.mem_singleton.1 hf]
      exact hv

namespace Json

open Plunder.Text Plunder.Value

/-! ## Numbers and words -/

/-- So many digits spell a number that has no more of them. -/
theorem length_natDigits_foldDigits {ds : List Nat} (h : ∀ d ∈ ds, d < 10) :
    (natDigits (foldDigits ds)).length ≤ max 1 ds.length := by
  have hlt : foldDigits ds < 10 ^ ds.length := valueIn_lt h
  refine (Nat.length_toDigits_le_iff (by decide) (by omega)).2 (Nat.lt_of_lt_of_le hlt ?_)
  exact Nat.pow_le_pow_right (by decide) (by omega)

/-- Digits that are read as a whole number are not too many. -/
private theorem readable_digits {limit : Nat} {ds : List Nat} (hmax : limit ≤ Numeral.maxDigits)
    (hlength : ¬limit < ds.length) (h : ∀ d ∈ ds, d < 10) (negative : Bool) :
    (int (if negative then -(foldDigits ds : Int) else foldDigits ds)).Readable := by
  have hshort : (natDigits (foldDigits ds)).length ≤ Numeral.maxDigits := by
    have := length_natDigits_foldDigits h
    have hone : 1 ≤ Numeral.maxDigits := by decide
    omega
  cases negative with
  | true => exact ⟨rfl, decide_eq_true (by simpa [IsShortInt] using hshort)⟩
  | false => exact ⟨rfl, decide_eq_true (by simpa [IsShortInt] using hshort)⟩

private theorem readable_number {limit : Nat} (hmax : limit ≤ Numeral.maxDigits)
    {cs rest : List Char} {v : Value} (h : readNumber limit cs = .ok (v, rest)) : v.Readable := by
  have hdigits (cs : List Char) : ∀ d ∈ cs.filterMap asciiDigit?, d < 10 := by
    intro d hd
    obtain ⟨c, -, hc⟩ := List.mem_filterMap.1 hd
    exact asciiDigit?_lt hc
  unfold readNumber at h
  split at h
  split at h
  next _ negative _ _ _ whole _ _ =>
  by_cases hwhole : whole.isEmpty = true
  · rw [if_pos hwhole] at h
    cases h
  · rw [if_neg hwhole] at h
    dsimp only at h
    split at h
    · cases h
      exact ⟨rfl, rfl⟩
    · split at h
      · by_cases hlength : limit < (whole.filterMap asciiDigit?).length
        · rw [if_pos hlength] at h
          cases h
        · rw [if_neg hlength] at h
          cases h
          exact readable_digits hmax hlength (hdigits whole) negative
      · cases h
        exact ⟨rfl, rfl⟩

private theorem readable_word {cs rest : List Char} {v : Value}
    (h : readWord cs = some (v, rest)) : v.Readable := by
  obtain ⟨w, hw, hv⟩ := List.exists_of_findSome?_eq_some h
  split at hv
  · obtain ⟨rfl, -⟩ := Prod.mk.inj (Option.some.inj hv)
    have hwords : ∀ w ∈ words, w.2.isJson = true ∧ w.2.isShort = true := by
      simp [words, isJson, isShort]
    exact ⟨(hwords w hw).1, (hwords w hw).2⟩
  · cases hv

/-! ## Values -/

mutual

/-- **A value that is read** can be written. -/
theorem readable_of_readValue {limit : Nat} (hmax : limit ≤ Numeral.maxDigits) :
    (fuel : Nat) → (cs rest : List Char) → (v : Value) →
      readValue limit fuel cs = .ok (v, rest) → v.Readable
  | 0, _, _, _, h => by cases h
  | fuel + 1, [], _, _, h => by cases h
  | fuel + 1, c :: cs, rest, v, h => by
    rw [readValue] at h
    split at h
    · obtain ⟨⟨s, _⟩, -, h⟩ := Except.bind_eq_ok_iff.1 h
      cases h
      exact ⟨rfl, rfl⟩
    split at h
    · split at h
      · cases h
        exact ⟨rfl, rfl⟩
      · obtain ⟨⟨fs, _⟩, hfs, h⟩ := Except.bind_eq_ok_iff.1 h
        cases h
        exact readable_object (readable_of_readFields hmax fuel [] _ _ fs nofun hfs)
    split at h
    · split at h
      · cases h
        exact ⟨rfl, rfl⟩
      · obtain ⟨⟨xs, _⟩, hxs, h⟩ := Except.bind_eq_ok_iff.1 h
        cases h
        exact readable_list (readable_of_readItems hmax fuel _ _ xs hxs)
    split at h
    · next hword =>
      cases h
      exact readable_word hword
    · exact readable_number hmax h

/-- The items that are read can be written. -/
theorem readable_of_readItems {limit : Nat} (hmax : limit ≤ Numeral.maxDigits) :
    (fuel : Nat) → (cs rest : List Char) → (xs : List Value) →
      readItems limit fuel cs = .ok (xs, rest) → ∀ x ∈ xs, x.Readable
  | 0, _, _, _, h => by cases h
  | fuel + 1, cs, rest, xs, h => by
    rw [readItems] at h
    obtain ⟨⟨x, after⟩, hx, h⟩ := Except.bind_eq_ok_iff.1 h
    have hx := readable_of_readValue hmax fuel _ _ x hx
    dsimp only at h
    split at h
    · cases h
      simpa using hx
    · obtain ⟨⟨ys, _⟩, hys, h⟩ := Except.bind_eq_ok_iff.1 h
      cases h
      exact List.forall_mem_cons.2 ⟨hx, readable_of_readItems hmax fuel _ _ ys hys⟩
    · cases h

/-- The fields that are read, behind those that were read before, can be written. -/
theorem readable_of_readFields {limit : Nat} (hmax : limit ≤ Numeral.maxDigits) :
    (fuel : Nat) → (before : Fields) → (cs rest : List Char) → (fs : Fields) →
      (∀ f ∈ before, f.2.Readable) → readFields limit fuel before cs = .ok (fs, rest) →
        ∀ f ∈ fs, f.2.Readable
  | 0, _, _, _, _, _, h => by cases h
  | fuel + 1, before, cs, rest, fs, hbefore, h => by
    unfold readFields at h
    split at h
    · obtain ⟨⟨k, after⟩, -, h⟩ := Except.bind_eq_ok_iff.1 h
      dsimp only at h
      split at h
      · obtain ⟨⟨v, after⟩, hv, h⟩ := Except.bind_eq_ok_iff.1 h
        have hv := readable_of_readValue hmax fuel _ _ v hv
        have hset := Fields.readable_set (k := String.ofList k) hv hbefore
        dsimp only at h
        split at h
        · cases h
          exact hset
        · exact readable_of_readFields hmax fuel _ _ _ fs hset h
        · cases h
      · cases h
    · cases h

end

/-- **A value that is read out of a text** can be written. -/
theorem readable_of_read {s : String} {v : Value} (h : read s = .ok v) : v.Readable := by
  unfold read readWithin at h
  dsimp only at h
  split at h
  · cases h
  · split at h
    · cases h
    · next hv =>
      split at h
      · cases h
        exact readable_of_readValue (Nat.le_refl _) _ _ _ v hv
      · cases h

theorem readable_of_readMarked {s : String} {v : Value} (h : readMarked s = .ok v) :
    v.Readable := by
  unfold readMarked at h
  split at h
  · exact readable_of_read h
  · exact readable_of_read h

/-! ## Writing -/

mutual

/-- **A value that may come out of a text** has one, in every style. -/
theorem exists_write_of_readable (style : Style) : (v : Value) → v.Readable →
    ∃ cs, write style v = .ok cs
  | .null, _ | .bool _, _ | .float _, _ | .text _, _ => ⟨_, rfl⟩
  | .int n, h => by
    obtain ⟨t, ht⟩ := Option.isSome_iff_exists.1 (intText?_isSome_iff.2 (of_decide_eq_true h.short))
    exact ⟨t.toList, by rw [write, ht]⟩
  | .octets _ _, h => nomatch h.json
  | .tuple _, h => nomatch h.json
  | .list xs, h => by
    obtain ⟨ts, hts⟩ := exists_writeItems_of_readable style xs h.json h.short
    exact ⟨_, by rw [write, hts]; rfl⟩
  | .object fs, h => by
    obtain ⟨ts, hts⟩ := exists_writeFields_of_readable style fs h.json h.short
    exact ⟨_, by rw [write, hts]; rfl⟩

/-- Items that may come out of a text have texts. -/
theorem exists_writeItems_of_readable (style : Style) : (xs : List Value) → areJson xs = true →
    areShort xs = true → ∃ ts, writeItems style xs = .ok ts
  | [], _, _ => ⟨[], rfl⟩
  | x :: xs, hjson, hshort => by
    rw [areJson, Bool.and_eq_true] at hjson
    rw [areShort, Bool.and_eq_true] at hshort
    obtain ⟨t, ht⟩ := exists_write_of_readable style x ⟨hjson.1, hshort.1⟩
    obtain ⟨ts, hts⟩ := exists_writeItems_of_readable style xs hjson.2 hshort.2
    exact ⟨t :: ts, by rw [writeItems, ht, hts]; rfl⟩

/-- Fields that may come out of a text have texts. -/
theorem exists_writeFields_of_readable (style : Style) : (fs : List (String × Value)) →
    haveJson fs = true → haveShort fs = true → ∃ ts, writeFields style fs = .ok ts
  | [], _, _ => ⟨[], rfl⟩
  | (k, v) :: fs, hjson, hshort => by
    rw [haveJson, Bool.and_eq_true] at hjson
    rw [haveShort, Bool.and_eq_true] at hshort
    obtain ⟨t, ht⟩ := exists_write_of_readable style v ⟨hjson.1, hshort.1⟩
    obtain ⟨ts, hts⟩ := exists_writeFields_of_readable style fs hjson.2 hshort.2
    exact ⟨_, by rw [writeFields, ht, hts]; rfl⟩

end

mutual

/-- What has a text holds no whole number that is too long. -/
theorem isShort_of_write {style : Style} : (v : Value) → (cs : List Char) →
    write style v = .ok cs → v.isShort = true
  | .null, _, _ | .bool _, _, _ | .float _, _, _ | .text _, _, _ | .octets _ _, _, _ => rfl
  | .int n, _, h => by
    refine decide_eq_true (intText?_isSome_iff.1 ?_)
    rw [write] at h
    split at h
    · next ht => rw [ht]; rfl
    · cases h
  | .list xs, _, h | .tuple xs, _, h => by
    rw [write] at h
    obtain ⟨ts, hts, -⟩ := Except.bind_eq_ok_iff.1 h
    exact areShort_of_writeItems xs ts hts
  | .object fs, _, h => by
    rw [write] at h
    obtain ⟨ts, hts, -⟩ := Except.bind_eq_ok_iff.1 h
    exact haveShort_of_writeFields fs ts hts

theorem areShort_of_writeItems {style : Style} : (xs : List Value) → (ts : List (List Char)) →
    writeItems style xs = .ok ts → areShort xs = true
  | [], _, _ => rfl
  | x :: xs, _, h => by
    rw [writeItems] at h
    obtain ⟨t, ht, h⟩ := Except.bind_eq_ok_iff.1 h
    obtain ⟨ts, hts, -⟩ := Except.bind_eq_ok_iff.1 h
    rw [areShort, isShort_of_write x t ht, areShort_of_writeItems xs ts hts]
    rfl

theorem haveShort_of_writeFields {style : Style} : (fs : List (String × Value)) →
    (ts : List (List Char)) → writeFields style fs = .ok ts → haveShort fs = true
  | [], _, _ => rfl
  | (_, v) :: fs, _, h => by
    rw [writeFields] at h
    obtain ⟨t, ht, h⟩ := Except.bind_eq_ok_iff.1 h
    obtain ⟨ts, hts, -⟩ := Except.bind_eq_ok_iff.1 h
    rw [haveShort, isShort_of_write v t ht, haveShort_of_writeFields fs ts hts]
    rfl

end

end Json
end Plunder
