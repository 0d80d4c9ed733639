import Mathlib.Data.List.Forall2
import Mathlib.Data.List.TakeWhile
import Mathlib.Tactic.Ring
import Plunder.Proofs.Amount

/-!
# Which texts are amounts

An amount is typed as a plain decimal: digits of any script, with a point among them or at either end,
and blanks around. The text is cut at the blanks, at the first character that is no digit, and behind
the point; what is put together from the pieces is the decimal that was typed, and what does not fall
into such pieces is no amount.

Main statements:
- `isTrimmed_iff`: the core of a text is what is left without the blanks around it
- `parse_of_isDecimal`: the parts of a decimal are found again
- `parse_of_not_isDecimal`: what is no decimal is refused
- `combine_of_fits`: the parts are put together without rounding
- `parse_exact`: exactly the decimals that fit are read, each as the number it denotes
-/

namespace Plunder.Amount

open Plunder.Text

/-! ## Definitions -/

/-- Whether a text consists of a core and blanks around it. -/
structure IsTrimmed (cs core : List Char) : Prop where
  around : ∃ before after, cs = before ++ (core ++ after) ∧ (∀ c ∈ before, isBlank c = true) ∧
    ∀ c ∈ after, isBlank c = true
  /-- The core does not begin with a blank. -/
  head : ∀ c ∈ core.head?, isBlank c = false
  /-- Nor does it end with one. -/
  last : ∀ c ∈ core.getLast?, isBlank c = false

/-- Whether characters are digits of any script, with these values. -/
def Digits (ds : List Nat) (cs : List Char) : Prop :=
  List.Forall₂ (fun d c => digitValue? c = some d) ds cs

/-- Whether a text is a plain decimal, with these digits before and behind the point. -/
inductive IsDecimal : List Nat → List Nat → List Char → Prop where
  | whole {ds : List Nat} {cs : List Char} (ne : ds ≠ []) (before : Digits ds cs) :
      IsDecimal ds [] cs
  | pointed {ds es : List Nat} {cs fs : List Char} (ne : ds ≠ []) (before : Digits ds cs)
      (behind : Digits es fs) : IsDecimal ds es (cs ++ '.' :: fs)
  | fraction {es : List Nat} {fs : List Char} (ne : es ≠ []) (behind : Digits es fs) :
      IsDecimal [] es ('.' :: fs)

/-- What digits behind a point stand for. -/
def fractionIn (es : List Nat) : ℚ := es.foldr (fun (e : Nat) (q : ℚ) => (e + q) / 10) 0

/-- The number that a decimal denotes. -/
def denoted (ds es : List Nat) : ℚ := valueIn 10 ds + fractionIn es

/-! ## Blanks around -/

/-- Blanks are cut from the left up to what begins with none. -/
theorem trimLeft_append {before cs : List Char} (blanks : ∀ c ∈ before, isBlank c = true)
    (head : ∀ c ∈ cs.head?, isBlank c = false) : trimLeft (before ++ cs) = cs := by
  rw [trimLeft, List.dropWhile_append_of_pos blanks]
  cases cs with
  | nil => rfl
  | cons c cs => exact List.dropWhile_cons_of_neg (by simp [head c rfl])

/-- What is left begins with no blank. -/
theorem head_trimLeft (cs : List Char) : ∀ c ∈ (trimLeft cs).head?, isBlank c = false := by
  intro c hc
  have hnot := List.head?_dropWhile_not isBlank cs
  rw [trimLeft] at hc
  rw [hc] at hnot
  exact hnot

theorem exists_trimLeft (cs : List Char) :
    ∃ before, cs = before ++ trimLeft cs ∧ ∀ c ∈ before, isBlank c = true :=
  ⟨_, List.takeWhile_append_dropWhile.symm, fun _ hc => List.mem_takeWhile_imp hc⟩

theorem isTrimmed_trimChars (cs : List Char) : IsTrimmed cs (trimChars cs) := by
  obtain ⟨before, hbefore, hblank⟩ := exists_trimLeft cs
  obtain ⟨after, hafter, hblank'⟩ := exists_trimLeft (trimLeft cs).reverse
  -- The second cut is made from the right, on what the first has left.
  have hleft : trimLeft cs = trimChars cs ++ after.reverse := by
    rw [← List.reverse_reverse (trimLeft cs), hafter, List.reverse_append, trimChars]
  refine ⟨⟨before, after.reverse, ?_, hblank, ?_⟩, ?_, ?_⟩
  · rw [← hleft]
    exact hbefore
  · intro c hc
    exact hblank' c (List.mem_reverse.1 hc)
  · intro c hc
    have hhead := head_trimLeft cs c
    rw [hleft, List.head?_append, Option.mem_def.1 hc] at hhead
    exact hhead rfl
  · intro c hc
    rw [trimChars, List.getLast?_reverse] at hc
    exact head_trimLeft _ c hc

/-- **The core of a text is what is left of it without the blanks around.** -/
theorem isTrimmed_iff {cs core : List Char} : IsTrimmed cs core ↔ core = trimChars cs := by
  constructor
  · rintro ⟨⟨before, after, rfl, hbefore, hafter⟩, head, last⟩
    by_cases hcore : core = []
    · -- There are only blanks.
      have hblank : ∀ c ∈ before ++ after, isBlank c = true :=
        List.forall_mem_append.2 ⟨hbefore, hafter⟩
      have hnone : trimLeft (before ++ after) = [] := List.dropWhile_eq_nil_iff.2 hblank
      rw [hcore, List.nil_append, trimChars, hnone]
      rfl
    · obtain ⟨c, hc⟩ := Option.isSome_iff_exists.1 (List.isSome_head?.2 hcore)
      have hhead : ∀ c ∈ (core ++ after).head?, isBlank c = false := by
        rw [List.head?_append, hc]
        exact fun d hd => head d (hc.trans hd)
      have hlast : ∀ c ∈ core.reverse.head?, isBlank c = false := by
        rw [List.head?_reverse]
        exact last
      have hblank : ∀ c ∈ after.reverse, isBlank c = true := fun c hc =>
        hafter c (List.mem_reverse.1 hc)
      rw [trimChars, trimLeft_append hbefore hhead, List.reverse_append,
        trimLeft_append hblank hlast, List.reverse_reverse]
  · rintro rfl
    exact isTrimmed_trimChars cs

/-! ## Digits -/

namespace Digits

variable {ds : List Nat} {cs : List Char}

theorem length_eq (h : Digits ds cs) : cs.length = ds.length := (List.Forall₂.length_eq h).symm

theorem isDecimalDigit (h : Digits ds cs) : ∀ c ∈ cs, isDecimalDigit c = true := by
  induction h with
  | nil => simp
  | cons hd _ ih =>
    rw [List.forall_mem_cons]
    exact ⟨Option.isSome_iff_exists.2 ⟨_, hd⟩, ih⟩

theorem filterMap_eq (h : Digits ds cs) : cs.filterMap digitValue? = ds := by
  induction h with
  | nil => rfl
  | cons hd _ ih => rw [List.filterMap_cons_some hd, ih]

theorem digitsValue_eq (h : Digits ds cs) : digitsValue cs = valueIn 10 ds := by
  rw [digitsValue, h.filterMap_eq]
  rfl

theorem ne_nil (h : Digits ds cs) (ne : ds ≠ []) : cs ≠ [] := by
  rintro rfl
  exact ne (List.forall₂_nil_right_iff.1 h)

end Digits

theorem exists_digits {cs : List Char} (h : ∀ c ∈ cs, isDecimalDigit c = true) :
    ∃ ds, Digits ds cs := by
  induction cs with
  | nil => exact ⟨[], .nil⟩
  | cons c cs ih =>
    rw [List.forall_mem_cons] at h
    obtain ⟨d, hd⟩ := Option.isSome_iff_exists.1 h.1
    obtain ⟨ds, hds⟩ := ih h.2
    exact ⟨d :: ds, .cons hd hds⟩

theorem isDecimalDigit_point : isDecimalDigit '.' = false := by decide

/-- Digits before a point are read up to it. -/
theorem span_pointed {cs : List Char} (digits : ∀ c ∈ cs, isDecimalDigit c = true)
    (fs : List Char) : (cs ++ '.' :: fs).takeWhile isDecimalDigit = cs ∧
      (cs ++ '.' :: fs).dropWhile isDecimalDigit = '.' :: fs := by
  rw [List.takeWhile_append_of_pos digits, List.dropWhile_append_of_pos digits]
  simp [isDecimalDigit_point]

/-- What digits behind a point stand for, counted in the last of them. -/
theorem fractionIn_mul_pow (es : List Nat) : fractionIn es * 10 ^ es.length = valueIn 10 es := by
  induction es with
  | nil => simp [fractionIn, valueIn]
  | cons e es ih =>
    have hvalue : valueIn 10 (e :: es) = e * 10 ^ es.length + valueIn 10 es := by
      rw [← List.singleton_append, valueIn_append_list]
      simp [valueIn]
    have hfraction : fractionIn (e :: es) = (e + fractionIn es) / 10 := rfl
    calc fractionIn (e :: es) * 10 ^ (e :: es).length
        = e * 10 ^ es.length + fractionIn es * 10 ^ es.length := by
          rw [hfraction, List.length_cons, pow_succ]
          ring
      _ = valueIn 10 (e :: es) := by
          rw [ih, hvalue]
          push_cast
          rfl

/-! ## The parts of a decimal -/

/-- **The parts that make up a decimal are found again.** -/
theorem parse_of_isDecimal {s : String} {ds es : List Nat}
    (h : IsDecimal ds es (trimChars s.toList)) :
    ∃ cs fs, Digits ds cs ∧ Digits es fs ∧ parse s = combine (Quoted.ofText s) cs fs := by
  unfold parse
  generalize trimChars s.toList = core at h
  cases h with
  | whole ne before =>
    have htake := List.takeWhile_eq_self_iff.2 before.isDecimalDigit
    have hdrop := List.dropWhile_eq_nil_iff.2 before.isDecimalDigit
    have hne : core.isEmpty = false := by simpa using before.ne_nil ne
    refine ⟨core, [], before, .nil, ?_⟩
    simp only [htake, hdrop, hne, Bool.false_eq_true, if_false]
  | @pointed _ _ cs fs ne before behind =>
    obtain ⟨htake, hdrop⟩ := span_pointed before.isDecimalDigit fs
    have hall : fs.all isDecimalDigit = true := List.all_eq_true.2 behind.isDecimalDigit
    have hne : cs.isEmpty = false := by simpa using before.ne_nil ne
    refine ⟨cs, fs, before, behind, ?_⟩
    simp only [htake, hdrop, hall, hne, Bool.false_and, Bool.not_false, Bool.and_self, if_true]
  | @fraction _ fs ne behind =>
    obtain ⟨htake, hdrop⟩ : ('.' :: fs).takeWhile isDecimalDigit = [] ∧
      ('.' :: fs).dropWhile isDecimalDigit = '.' :: fs := span_pointed (List.forall_mem_nil _) fs
    have hall : fs.all isDecimalDigit = true := List.all_eq_true.2 behind.isDecimalDigit
    have hne : fs.isEmpty = false := by simpa using behind.ne_nil ne
    refine ⟨[], fs, .nil, behind, ?_⟩
    simp only [htake, hdrop, hall, hne, Bool.and_false, Bool.not_false, Bool.and_self, if_true]

/-- **What is no decimal is refused**: it is missing, or quoted as malformed. -/
theorem parse_of_not_isDecimal {s : String} (h : ∀ ds es, ¬ IsDecimal ds es (trimChars s.toList)) :
    parse s = .error .required ∨ parse s = .error (.malformed (Quoted.ofText s)) := by
  have hcut : (trimChars s.toList).takeWhile isDecimalDigit ++
      (trimChars s.toList).dropWhile isDecimalDigit = trimChars s.toList :=
    List.takeWhile_append_dropWhile
  obtain ⟨ds, hds⟩ := exists_digits fun c hc =>
    List.mem_takeWhile_imp (p := isDecimalDigit) (l := trimChars s.toList) hc
  unfold parse
  dsimp only
  generalize trimChars s.toList = core at *
  generalize core.takeWhile isDecimalDigit = cs at *
  -- The cases are those of what is left behind the digits in front.
  split
  next hrest =>
    rw [hrest, List.append_nil] at hcut
    by_cases hcs : cs = []
    · simp [hcs]
    · -- Digits alone are a decimal.
      have hne : ds ≠ [] := by
        rintro rfl
        exact hcs (List.forall₂_nil_left_iff.1 hds)
      exact absurd (.whole hne (hcut ▸ hds)) (h ds [])
  next fs hrest =>
    rw [hrest] at hcut
    split
    next hall =>
      -- So are digits with a point among them.
      simp only [Bool.and_eq_true, List.all_eq_true, Bool.not_eq_true', Bool.and_eq_false_iff,
        List.isEmpty_eq_false_iff] at hall
      obtain ⟨hdigits, hne⟩ := hall
      obtain ⟨es, hes⟩ := exists_digits hdigits
      rw [← hcut] at h
      by_cases hcs : cs = []
      · have hfs : es ≠ [] := by
          rintro rfl
          exact (hne.resolve_left (absurd hcs)) (List.forall₂_nil_left_iff.1 hes)
        rw [hcs, List.nil_append] at h
        exact absurd (.fraction hfs hes) (h [] es)
      · have hne : ds ≠ [] := by
          rintro rfl
          exact hcs (List.forall₂_nil_left_iff.1 hds)
        exact absurd (.pointed hne hds hes) (h ds es)
    next => exact .inr rfl
  next => exact .inr rfl

/-! ## Putting the parts together -/

section

variable {ds es : List Nat} {cs fs : List Char}

/-- **The parts are put together without rounding.** -/
theorem combine_of_fits (hds : Digits ds cs) (hes : Digits es fs) (quoted : String)
    (fits : es.length ≤ places) (short : ds.length ≤ Numeral.maxDigits) :
    ∃ n : Nat, combine quoted cs fs = .ok n ∧ (n : ℚ) = denoted ds es * 10 ^ places := by
  have hplaces : ¬ places < fs.length := by rw [hes.length_eq]; exact Nat.not_lt.2 fits
  have hlong : ¬ Numeral.maxDigits < cs.length := by rw [hds.length_eq]; exact Nat.not_lt.2 short
  refine ⟨_, by rw [combine, if_neg hplaces, if_neg hlong], ?_⟩
  have hpow : (10 : ℚ) ^ places = 10 ^ es.length * 10 ^ (places - es.length) := by
    rw [← pow_add, Nat.add_sub_cancel' fits]
  have hunit : ((unit : Nat) : ℚ) = 10 ^ places := by
    show ((10 ^ places : Nat) : ℚ) = 10 ^ places
    push_cast
    rfl
  have hzeros : ((tenPow (places - fs.length) : Nat) : ℚ) = 10 ^ (places - es.length) := by
    show ((10 ^ (places - fs.length) : Nat) : ℚ) = 10 ^ (places - es.length)
    rw [hes.length_eq]
    push_cast
    rfl
  -- The digits behind the point are filled up with zeros to all places.
  calc ((digitsValue cs * unit + digitsValue fs * tenPow (places - fs.length) : Nat) : ℚ)
      = valueIn 10 ds * 10 ^ places + valueIn 10 es * 10 ^ (places - es.length) := by
        rw [hds.digitsValue_eq, hes.digitsValue_eq, Nat.cast_add, Nat.cast_mul, Nat.cast_mul, hunit,
          hzeros]
    _ = valueIn 10 ds * 10 ^ places + fractionIn es * 10 ^ places := by
        rw [← fractionIn_mul_pow es, hpow, mul_assoc (fractionIn es)]
    _ = denoted ds es * 10 ^ places := (add_mul _ _ _).symm

theorem combine_of_overflowing (hes : Digits es fs) (quoted : String)
    (overflowing : places < es.length) : combine quoted cs fs = .error (.tooManyPlaces quoted) := by
  rw [combine, if_pos (by rw [hes.length_eq]; exact overflowing)]

theorem combine_of_long (hds : Digits ds cs) (hes : Digits es fs) (quoted : String)
    (fits : es.length ≤ places) (long : Numeral.maxDigits < ds.length) :
    combine quoted cs fs = .error (.tooLong ds.length) := by
  have hplaces : ¬ places < fs.length := by rw [hes.length_eq]; exact Nat.not_lt.2 fits
  rw [combine, if_neg hplaces, if_pos (by rw [hds.length_eq]; exact long), hds.length_eq]

end

/-! ## The grammar -/

section

variable {s : String}

theorem parseValue_text (s : String) : parseValue (.text s) = (parse s).mapError .amount := rfl

theorem parseValue_of_fits {ds es : List Nat} (h : IsDecimal ds es (trimChars s.toList))
    (fits : es.length ≤ places) (short : ds.length ≤ Numeral.maxDigits) :
    ∃ n : Nat, parseValue (.text s) = .ok n ∧ (n : ℚ) = denoted ds es * 10 ^ places := by
  obtain ⟨cs, fs, hds, hes, hparse⟩ := parse_of_isDecimal h
  obtain ⟨n, hn, hdenoted⟩ := combine_of_fits hds hes (Quoted.ofText s) fits short
  refine ⟨n, ?_, hdenoted⟩
  rw [parseValue_text, hparse, hn]
  rfl

theorem parseValue_of_long {ds es : List Nat} (h : IsDecimal ds es (trimChars s.toList))
    (fits : es.length ≤ places) (long : Numeral.maxDigits < ds.length) :
    parseValue (.text s) = .error (.amount (.tooLong ds.length)) := by
  obtain ⟨cs, fs, hds, hes, hparse⟩ := parse_of_isDecimal h
  rw [parseValue_text, hparse, combine_of_long hds hes _ fits long]
  rfl

theorem parseValue_of_overflowing {ds es : List Nat} (h : IsDecimal ds es (trimChars s.toList))
    (overflowing : places < es.length) :
    parseValue (.text s) = .error (.amount (.tooManyPlaces (Quoted.ofText s))) := by
  obtain ⟨cs, fs, -, hes, hparse⟩ := parse_of_isDecimal h
  rw [parseValue_text, hparse, combine_of_overflowing hes _ overflowing]
  rfl

/-- What is no decimal with so few digits behind the point is refused as no amount. -/
theorem parseValue_of_misfit
    (h : ¬ ∃ ds es, IsDecimal ds es (trimChars s.toList) ∧ es.length ≤ places) :
    ∃ f, parseValue (.text s) = .error f ∧ f.kind = .amount := by
  by_cases hdecimal : ∃ ds es, IsDecimal ds es (trimChars s.toList)
  · -- It is a decimal, so it must be one with too many digits behind the point.
    obtain ⟨ds, es, hdecimal⟩ := hdecimal
    have hplaces : places < es.length := Nat.lt_of_not_le fun hle => h ⟨ds, es, hdecimal, hle⟩
    exact ⟨_, parseValue_of_overflowing hdecimal hplaces, rfl⟩
  · rcases parse_of_not_isDecimal fun ds es h => hdecimal ⟨ds, es, h⟩ with hparse | hparse
    · exact ⟨.amount .required, by rw [parseValue_text, hparse]; rfl, rfl⟩
    · exact ⟨.amount (.malformed (Quoted.ofText s)), by rw [parseValue_text, hparse]; rfl, rfl⟩

/-- A decimal that is read fits. -/
theorem fits_of_parseValue {n : Nat} {ds es : List Nat} (hn : parseValue (.text s) = .ok n)
    (h : IsDecimal ds es (trimChars s.toList)) :
    es.length ≤ places ∧ ds.length ≤ Numeral.maxDigits := by
  have hplaces : es.length ≤ places := by
    apply Nat.le_of_not_lt
    intro hoverflowing
    rw [parseValue_of_overflowing h hoverflowing] at hn
    cases hn
  refine ⟨hplaces, Nat.le_of_not_lt fun hlong => ?_⟩
  rw [parseValue_of_long h hplaces hlong] at hn
  cases hn

/-- Whatever is read is a decimal that fits. -/
theorem exists_of_parseValue {n : Nat} (hn : parseValue (.text s) = .ok n) :
    ∃ ds es, IsDecimal ds es (trimChars s.toList) ∧ es.length ≤ places ∧
      ds.length ≤ Numeral.maxDigits := by
  by_contra hnone
  have hmisfit : ¬ ∃ ds es, IsDecimal ds es (trimChars s.toList) ∧ es.length ≤ places := by
    rintro ⟨ds, es, hdecimal, -⟩
    exact hnone ⟨ds, es, hdecimal, fits_of_parseValue hn hdecimal⟩
  obtain ⟨f, hf, -⟩ := parseValue_of_misfit hmisfit
  rw [hf] at hn
  cases hn

/-- **Exactly the decimals that fit are read.** A text has base units if and only if it is, without
the blanks around it, a decimal with at most 18 digits behind the point and at most 4300 before it.
The base units are the number it denotes, scaled up without rounding. What is no decimal, or has
more digits behind the point, is refused as no amount; the only other failure is that of a decimal
with too many digits before the point. -/
theorem parse_exact {core : List Char} (trimmed : IsTrimmed s.toList core) :
    ((∃ n, parseValue (.text s) = .ok n) ↔
        ∃ ds es, IsDecimal ds es core ∧ es.length ≤ 18 ∧ ds.length ≤ 4300) ∧
      (∀ n ds es, parseValue (.text s) = .ok n → IsDecimal ds es core →
        (n : ℚ) = denoted ds es * 10 ^ 18) ∧
      ((¬ ∃ ds es, IsDecimal ds es core ∧ es.length ≤ 18) →
        ∃ f, parseValue (.text s) = .error f ∧ f.kind = .amount) ∧
      ∀ ds es, IsDecimal ds es core → es.length ≤ 18 → 4300 < ds.length →
        parseValue (.text s) = .error (.amount (.tooLong ds.length)) := by
  rw [isTrimmed_iff.1 trimmed]
  refine ⟨⟨?_, ?_⟩, ?_, parseValue_of_misfit, fun ds es => parseValue_of_long⟩
  · rintro ⟨n, hn⟩
    exact exists_of_parseValue hn
  · rintro ⟨ds, es, hdecimal, hplaces, hlength⟩
    obtain ⟨n, hn, -⟩ := parseValue_of_fits hdecimal hplaces hlength
    exact ⟨n, hn⟩
  · intro n ds es hn hdecimal
    obtain ⟨hplaces, hlength⟩ := fits_of_parseValue hn hdecimal
    obtain ⟨m, hm, hdenoted⟩ := parseValue_of_fits hdecimal hplaces hlength
    rw [hn] at hm
    rw [Except.ok.inj hm]
    exact hdenoted

/-- Three and a quarter, the three in Arabic, with blanks around. -/
theorem parse_exact_quarter :
    IsTrimmed " ٣.25\n".toList ['٣', '.', '2', '5'] ∧
      IsDecimal [3] [2, 5] ['٣', '.', '2', '5'] ∧
        ∃ n, parseValue (.text " ٣.25\n") = .ok n ∧ (n : ℚ) = denoted [3] [2, 5] * 10 ^ 18 := by
  have htrimmed : IsTrimmed " ٣.25\n".toList ['٣', '.', '2', '5'] := isTrimmed_iff.2 (by decide)
  have hbefore : Digits [3] ['٣'] := .cons (by decide) .nil
  have hbehind : Digits [2, 5] ['2', '5'] := .cons (by decide) (.cons (by decide) .nil)
  have hdecimal : IsDecimal [3] [2, 5] ['٣', '.', '2', '5'] := .pointed (by decide) hbefore hbehind
  obtain ⟨n, hn⟩ := (parse_exact htrimmed).1.2 ⟨_, _, hdecimal, by decide, by decide⟩
  exact ⟨htrimmed, hdecimal, n, hn, (parse_exact htrimmed).2.1 n _ _ hn hdecimal⟩

end

end Plunder.Amount
