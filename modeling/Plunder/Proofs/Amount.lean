import Mathlib.Data.List.TakeWhile
import Plunder.Amount
import Plunder.Proofs.Number.Decimal
import Plunder.Proofs.Value.Short

/-!
# Amounts and their texts

What the ledger counts in base units the user reads and types as a plain decimal. Every number of base
units has one text in plain form, without needless zeros on either side. That is the text which is
shown, and what is read out of it is the number again.

Main statements:
- `exists_ofBase`: base units are scaled down without rounding
- `parse_of_plain`, `format_of_plain`: a text in plain form is read, and shown again
- `exists_plain`: every number of base units has one
- `conversion_exact`: the conversions undo each other
-/

namespace Plunder.Amount

open Plunder.Text Plunder.Value

/-! ## Definitions -/

/-- Whether an amount in plain form has these digits before and behind the point, which together
spell a number. -/
structure Plain (whole fraction : List Char) (m : Nat) : Prop where
  spells : Spells 10 m (whole ++ fraction)
  /-- There is something before the point. -/
  whole_ne : whole ≠ []
  /-- It begins with a zero only if it is nothing else. -/
  leading : whole.head? = some '0' → whole = ['0']
  fits : fraction.length ≤ places
  /-- What is behind the point does not end with a zero. -/
  trailing : fraction.getLast? ≠ some '0'

/-- The text with digits before and behind the point; without a point if nothing is behind it. -/
def joined (whole fraction : List Char) : List Char :=
  if fraction = [] then whole else whole ++ '.' :: fraction

/-- Whether a text is the plain form of a number of base units. -/
def IsPlain (s : String) (n : Nat) : Prop :=
  ∃ whole fraction m, Plain whole fraction m ∧ s = String.ofList (joined whole fraction) ∧
    n = m * 10 ^ (places - fraction.length)

/-! ## Base units as a decimal -/

theorem ofBase_eq {n : Int} (short : IsShortInt n) : ofBase n = .ok (Decimal.ofScaled n places) := by
  have htext : Numeral.intText? n.natAbs = some (String.ofList (natDigits n.natAbs)) :=
    Numeral.intText?_natCast short
  have hfits : Decimal.digitCount n.natAbs ≤
      max leastPrecision ((String.ofList (natDigits n.natAbs)).length + places) := by
    rw [String.length_ofList]
    exact Nat.le_trans (Nat.le_add_right _ places) (Nat.le_max_right _ _)
  rw [ofBase, htext]
  exact congrArg _ (Decimal.quotient_eq_ofScaled hfits places)

/-- **Base units are scaled down without rounding.** -/
theorem exists_ofBase {n : Int} (short : IsShortInt n) :
    ∃ d, ofBase n = .ok d ∧ d.value = n / 10 ^ places :=
  ⟨_, ofBase_eq short, Decimal.value_ofScaled n places⟩

/-! ## Texts in plain form -/

namespace Plain

variable {whole fraction : List Char} {m : Nat}

theorem lowest (h : Plain whole fraction m) : Decimal.IsLowest m fraction.length := by
  rcases List.eq_nil_or_concat fraction with rfl | ⟨cs, c, rfl⟩
  · exact .inl rfl
  · right
    have hspells := h.spells
    have htrailing := h.trailing
    rw [List.concat_eq_append, ← List.append_assoc] at hspells
    rw [Ne, hspells.mod_eq_zero_iff (by decide)]
    rintro rfl
    exact htrailing (by simp)

/-- Digits that do not begin with a zero are those of the number. -/
theorem digits_eq (h : Plain whole fraction m) (hzero : whole.head? ≠ some '0') :
    whole ++ fraction = natDigits m := by
  obtain ⟨c, cs, rfl⟩ := List.exists_cons_of_ne_nil h.whole_ne
  exact h.spells.eq_toDigits (by decide) (List.cons_ne_nil _ _) hzero

/-- The digits are those of the number, with a zero before the point if there are no others. -/
theorem filled_eq (h : Plain whole fraction m) :
    filled 10 (fraction.length + 1) m = whole ++ fraction := by
  by_cases hzero : whole.head? = some '0'
  · have hlength : (whole ++ fraction).length = fraction.length + 1 := by
      rw [h.leading hzero, List.length_append, List.length_singleton, Nat.add_comm]
    have hne : whole ++ fraction ≠ [] := List.append_ne_nil_of_left_ne_nil h.whole_ne fraction
    rw [← hlength]
    exact (h.spells.eq_filled (by decide) hne).symm
  · -- There are enough digits already, and none is filled in.
    have hpos := List.length_pos_iff.2 h.whole_ne
    have hlength : fraction.length + 1 - (natDigits m).length = 0 := by
      rw [← h.digits_eq hzero, List.length_append]
      omega
    show List.replicate (fraction.length + 1 - (natDigits m).length) '0' ++ natDigits m = _
    rw [hlength, ← h.digits_eq hzero]
    rfl

/-- The text in plain form is what is shown of the fraction. -/
theorem fixedChars_eq (h : Plain whole fraction m) :
    Decimal.fixedChars ⟨false, m, fraction.length⟩ = joined whole fraction := by
  have hfilled := h.filled_eq
  unfold Decimal.fixedChars joined
  by_cases hf : fraction = []
  · subst hf
    have hpos := List.length_pos_iff.2 (natDigits_ne_nil m)
    have hone : 0 + 1 - (natDigits m).length = 0 := by omega
    change List.replicate (0 + 1 - (natDigits m).length) '0' ++ natDigits m = _ at hfilled
    rw [hone, List.append_nil] at hfilled
    simpa [Decimal.signChars] using hfilled
  · have hp : fraction.length ≠ 0 := by simpa using hf
    change List.replicate (fraction.length + 1 - (natDigits m).length) '0' ++ natDigits m = _
      at hfilled
    simp only [Decimal.signChars, hp, hf, if_false, Bool.false_eq_true, hfilled]
    simp

/-- There are no zeros behind the point to be cut, nor a point with nothing behind it. -/
theorem cutFraction_eq (h : Plain whole fraction m) :
    cutFraction (joined whole fraction) = joined whole fraction := by
  have hdigits := h.spells.isAsciiDigit
  unfold cutFraction joined
  by_cases hf : fraction = []
  · subst hf
    have hpoint : '.' ∉ whole := fun hmem => by
      have := hdigits '.' (List.mem_append_left _ hmem)
      exact absurd this (by decide)
    simp [hpoint]
  · obtain ⟨cs, c, rfl⟩ := (List.eq_nil_or_concat fraction).resolve_left hf
    have hzero : c ≠ '0' := by simpa using h.trailing
    have hpoint : c ≠ '.' := by
      rintro rfl
      exact absurd (hdigits '.' (by simp)) (by decide)
    simp [hzero, hpoint]

theorem joined_ne_nil (h : Plain whole fraction m) : joined whole fraction ≠ [] := by
  unfold joined
  split
  · exact h.whole_ne
  · simp

/-- No digits, nor a point among them, are cut away as blanks. -/
theorem trimChars_joined (h : Plain whole fraction m) :
    trimChars (joined whole fraction) = joined whole fraction := by
  have hsolid : ∀ c ∈ joined whole fraction, isBlank c = false := by
    intro c hc
    have hcases : c = '.' ∨ c ∈ whole ++ fraction := by
      unfold joined at hc
      split at hc
      · exact .inr (List.mem_append_left _ hc)
      · simp only [List.mem_append, List.mem_cons] at hc ⊢
        tauto
    rcases hcases with rfl | hc
    · decide
    · obtain ⟨d, hd⟩ := Option.isSome_iff_exists.1 (h.spells.isDecimalDigit c hc)
      exact isBlank_of_digitValue? hd
  have hleft : ∀ cs : List Char, (∀ c ∈ cs, isBlank c = false) → trimLeft cs = cs := by
    intro cs hcs
    cases cs with
    | nil => rfl
    | cons c cs => exact List.dropWhile_cons_of_neg (by simp [hcs c List.mem_cons_self])
  rw [trimChars, hleft _ hsolid, hleft _ fun c hc => hsolid c (List.mem_reverse.1 hc),
    List.reverse_reverse]

/-- The digits before the point are no more than those of the number of base units. -/
theorem length_whole_le (h : Plain whole fraction m) :
    whole.length ≤ Decimal.digitCount (m * 10 ^ (places - fraction.length)) := by
  by_cases hzero : whole.head? = some '0'
  · rw [h.leading hzero]
    exact Decimal.digitCount_pos _
  · -- The digits are those of a number that is not greater.
    calc whole.length ≤ (whole ++ fraction).length := by rw [List.length_append]; omega
      _ = Decimal.digitCount m := by rw [h.digits_eq hzero]; rfl
      _ ≤ Decimal.digitCount (m * 10 ^ (places - fraction.length)) :=
          Decimal.digitCount_mono (Nat.le_mul_of_pos_right m (Nat.pow_pos (by decide)))

/-- The parts of a text in plain form are what stands before and behind its point. -/
theorem parse_joined (h : Plain whole fraction m) :
    parse (String.ofList (joined whole fraction)) =
      combine (Quoted.ofText (String.ofList (joined whole fraction))) whole fraction := by
  have hdigits := List.forall_mem_append.1 h.spells.isDecimalDigit
  have hne : whole.isEmpty = false := by simpa using h.whole_ne
  rw [parse, String.toList_ofList, h.trimChars_joined]
  generalize Quoted.ofText (String.ofList (joined whole fraction)) = quoted
  unfold joined
  by_cases hf : fraction = []
  · subst hf
    have htake : whole.takeWhile isDecimalDigit = whole :=
      List.takeWhile_eq_self_iff.2 hdigits.1
    have hdrop : whole.dropWhile isDecimalDigit = [] := List.dropWhile_eq_nil_iff.2 hdigits.1
    simp only [if_true, htake, hdrop, hne, if_false, Bool.false_eq_true]
  · have htake : (whole ++ '.' :: fraction).takeWhile isDecimalDigit = whole := by
      rw [List.takeWhile_append_of_pos hdigits.1]
      simp [show isDecimalDigit '.' = false by decide]
    have hdrop : (whole ++ '.' :: fraction).dropWhile isDecimalDigit = '.' :: fraction := by
      rw [List.dropWhile_append_of_pos hdigits.1]
      simp [show isDecimalDigit '.' = false by decide]
    have hall : fraction.all isDecimalDigit = true := List.all_eq_true.2 hdigits.2
    simp only [hf, if_false, htake, hdrop, hall, hne, Bool.false_and, Bool.not_false,
      Bool.and_self, if_true]

/-- What the parts stand for, if the number of base units is not too long. -/
theorem combine_eq (h : Plain whole fraction m) (quoted : String)
    (short : IsShortInt (m * 10 ^ (places - fraction.length) : Nat)) :
    combine quoted whole fraction = .ok (m * 10 ^ (places - fraction.length)) := by
  obtain ⟨w, f, hw, hf, rfl⟩ := h.spells.split
  have hwhole : digitsValue whole = w := (hw.filterMap_values digitValue?_digitChar).2
  have hfraction : digitsValue fraction = f := (hf.filterMap_values digitValue?_digitChar).2
  have hfits : ¬ places < fraction.length := Nat.not_lt.2 h.fits
  have hlong : ¬ Numeral.maxDigits < whole.length :=
    Nat.not_lt.2 (Nat.le_trans h.length_whole_le short)
  have hunit : unit = 10 ^ fraction.length * 10 ^ (places - fraction.length) := by
    rw [← Nat.pow_add, Nat.add_sub_cancel' h.fits]
    rfl
  have htenPow : tenPow (places - fraction.length) = 10 ^ (places - fraction.length) := rfl
  rw [combine, if_neg hfits, if_neg hlong, hwhole, hfraction, hunit, htenPow, Nat.add_mul,
    Nat.mul_assoc]

end Plain

/-! ## The conversions -/

/-- **A text in plain form is read** as the number of base units whose form it is. -/
theorem parse_of_plain {s : String} {n : Nat} (h : IsPlain s n) (short : IsShortInt n) :
    parse s = .ok n := by
  obtain ⟨whole, fraction, m, hplain, rfl, rfl⟩ := h
  rw [hplain.parse_joined]
  exact hplain.combine_eq _ short

/-- **The text in plain form is the one that is shown.** -/
theorem format_of_plain {s : String} {n : Nat} (h : IsPlain s n) (short : IsShortInt n) :
    format n = .ok s := by
  obtain ⟨whole, fraction, m, hplain, rfl, rfl⟩ := h
  have hplaces : places = fraction.length + (places - fraction.length) :=
    (Nat.add_sub_cancel' hplain.fits).symm
  -- The zeros behind the last digit of the text are cut from the fraction.
  have hdecimal : Decimal.ofScaled (m * 10 ^ (places - fraction.length) : Nat) places =
      ⟨false, m, fraction.length⟩ := by
    have hcut := Decimal.cutZeros_mul_pow m fraction.length (places - fraction.length)
    rw [← hplaces, Decimal.cutZeros_of_lowest hplain.lowest] at hcut
    have hsign : ¬ ((m * 10 ^ (places - fraction.length) : Nat) : Int) < 0 :=
      Int.not_lt.2 (Int.natCast_nonneg _)
    rw [Decimal.ofScaled, Int.natAbs_natCast, hcut, decide_eq_false hsign]
  have hshown : shown ⟨false, m, fraction.length⟩ = String.ofList (joined whole fraction) := by
    rw [shown, hplain.fixedChars_eq, hplain.cutFraction_eq,
      if_neg (by simpa using hplain.joined_ne_nil)]
  rw [format, ofBase_eq short, hdecimal]
  exact congrArg _ hshown

/-- **Every number of base units has a text in plain form.** -/
theorem exists_plain (n : Nat) : ∃ s, IsPlain s n := by
  obtain ⟨c, p, k, -, hp, rfl, hlowest⟩ := Decimal.exists_cutZeros n places
  have hk : k = places - p := by omega
  have hne := natDigits_ne_nil (c / 10 ^ p)
  have hleading : (natDigits (c / 10 ^ p)).head? = some '0' → natDigits (c / 10 ^ p) = ['0'] := by
    intro hhead
    obtain ⟨cs, hcs⟩ := List.head?_eq_some_iff.1 hhead
    rw [eq_zero_of_natDigits hcs]
    rfl
  rcases Nat.eq_zero_or_pos p with rfl | hpos
  · -- There is nothing behind the point.
    have hplain : Plain (natDigits (c / 10 ^ 0)) [] c :=
      ⟨by simpa using spells_natDigits c, hne, hleading, Nat.zero_le _, by simp⟩
    exact ⟨_, _, [], c, hplain, rfl, by rw [hk]; rfl⟩
  · have hlt : c % 10 ^ p < 10 ^ p := Nat.mod_lt _ (Nat.pow_pos (by decide))
    have hlength : (filled 10 p (c % 10 ^ p)).length = p := length_filled (by decide) hpos hlt
    have hspells : Spells 10 c (natDigits (c / 10 ^ p) ++ filled 10 p (c % 10 ^ p)) := by
      have happend := (spells_natDigits (c / 10 ^ p)).append
        (spells_filled (by decide) p (c % 10 ^ p))
      rwa [hlength, Nat.div_add_mod'] at happend
    have htrailing : (filled 10 p (c % 10 ^ p)).getLast? ≠ some '0' := by
      intro hlast
      obtain ⟨cs, hcs⟩ := List.getLast?_eq_some_iff.1 hlast
      rw [hcs, ← List.append_assoc] at hspells
      exact (hlowest.resolve_left (by omega)) ((hspells.mod_eq_zero_iff (by decide)).2 rfl)
    have hplain : Plain (natDigits (c / 10 ^ p)) (filled 10 p (c % 10 ^ p)) c :=
      ⟨hspells, hne, hleading, by omega, htrailing⟩
    exact ⟨_, _, _, c, hplain, rfl, by rw [hk, hlength]⟩

/-- **The conversions are exact both ways**, as long as the number of base units is not too long for a
text: it is scaled down without rounding; its text is read as the number again; and a text in plain
form is shown again as it was typed. -/
theorem conversion_exact :
    (∀ n : Int, IsShortInt n → ∃ d, ofBase n = .ok d ∧ d.value = n / 10 ^ 18) ∧
      (∀ n : Nat, IsShortInt n → ∃ s, format n = .ok s ∧ parse s = .ok n) ∧
        ∀ (s : String) (n : Nat), IsPlain s n → IsShortInt n →
          parse s = .ok n ∧ format n = .ok s := by
  refine ⟨?_, ?_, ?_⟩
  · intro n short
    exact exists_ofBase short
  · intro n short
    obtain ⟨s, hs⟩ := exists_plain n
    exact ⟨s, format_of_plain hs short, parse_of_plain hs short⟩
  · intro s n hs short
    exact ⟨parse_of_plain hs short, format_of_plain hs short⟩

/-- A quarter of a unit: as a debt, as a number of base units, and as a text. -/
theorem conversion_exact_quarter :
    (∃ d, ofBase (-250000000000000000) = .ok d ∧
        d.value = ((-250000000000000000 : Int) : ℚ) / 10 ^ 18) ∧
      (∃ s, format (250000000000000000 : Nat) = .ok s ∧ parse s = .ok 250000000000000000) ∧
        IsPlain "0.25" 250000000000000000 ∧ parse "0.25" = .ok 250000000000000000 ∧
          format (250000000000000000 : Nat) = .ok "0.25" := by
  have hparts : Plain ['0'] ['2', '5'] 25 :=
    ⟨⟨[0, 2, 5], by decide, by decide, by decide⟩, by decide, by decide, by decide, by decide⟩
  have hplain : IsPlain "0.25" 250000000000000000 := ⟨['0'], ['2', '5'], 25, hparts, rfl, rfl⟩
  have hdebt := conversion_exact.1 (-250000000000000000) (by decide)
  have hunits := conversion_exact.2.1 250000000000000000 (by decide)
  exact ⟨hdebt, hunits, hplain, conversion_exact.2.2 _ _ hplain (by decide)⟩

end Plunder.Amount
