import Mathlib.Algebra.GroupWithZero.Nat
import Mathlib.Data.List.Induction
import Plunder.Number.Numeral
import Plunder.Text.Quoted

/-!
# Digits of numbers

A number written in digits is a list of digits below the base, shown one by one; whoever reads the
digits off the characters and adds them up has the number back. Zeros in front make no difference.

Main statements:
- `spells_toDigits`, `spells_filled`: what the digits of a number are, with zeros in front
- `Spells.eq_filled`, `Spells.eq_toDigits`: there are no other digits of the number
- `isBlank_of_digitValue?`: no digit of any script is a blank
-/

namespace Plunder.Text

/-! ## Definitions -/

/-- The number that digits in a base stand for, the most significant first. -/
def valueIn (b : Nat) (ds : List Nat) : Nat := ds.foldl (fun acc d => acc * b + d) 0

/-- Whether characters are the digits of a number in a base, perhaps with zeros in front. -/
def Spells (b n : Nat) (cs : List Char) : Prop :=
  ∃ ds : List Nat, cs = ds.map Nat.digitChar ∧ (∀ d ∈ ds, d < b) ∧ valueIn b ds = n

/-- A number in digits, filled up with zeros on the left. -/
def filled (b width n : Nat) : List Char :=
  List.replicate (width - (Nat.toDigits b n).length) '0' ++ Nat.toDigits b n

/-! ## Single digits -/

theorem asciiDigit?_digitChar {d : Nat} (hd : d < 10) :
    asciiDigit? (Nat.digitChar d) = some d := by
  have : ∀ k : Fin 10, asciiDigit? (Nat.digitChar k.val) = some k.val := by decide
  exact this ⟨d, hd⟩

theorem asciiDigit?_lt {c : Char} {d : Nat} (h : asciiDigit? c = some d) : d < 10 := by
  unfold asciiDigit? at h
  split at h
  · next hc =>
    obtain ⟨h₁, h₂⟩ := hc
    rw [Char.le_def, UInt32.le_iff_toNat_le] at h₁ h₂
    have hnine : ('9' : Char).val.toNat = 57 := rfl
    have hd : d = c.val.toNat - 48 := (Option.some.inj h).symm
    omega
  · cases h

theorem isAsciiDigit_digitChar {d : Nat} (hd : d < 10) : isAsciiDigit (Nat.digitChar d) = true := by
  have : ∀ k : Fin 10, isAsciiDigit (Nat.digitChar k.val) = true := by decide
  exact this ⟨d, hd⟩

theorem digitValue?_digitChar {d : Nat} (hd : d < 10) :
    digitValue? (Nat.digitChar d) = some d := by
  have : ∀ k : Fin 10, digitValue? (Nat.digitChar k.val) = some k.val := by decide
  exact this ⟨d, hd⟩

theorem hexDigit?_digitChar {d : Nat} (hd : d < 16) : Hex.digit? (Nat.digitChar d) = some d := by
  have : ∀ k : Fin 16, Hex.digit? (Nat.digitChar k.val) = some k.val := by decide
  exact this ⟨d, hd⟩

theorem isDecimalDigit_digitChar {d : Nat} (hd : d < 10) :
    isDecimalDigit (Nat.digitChar d) = true := by
  rw [isDecimalDigit, digitValue?_digitChar hd]
  rfl

/-- A digit of any script is found behind the zero of its script. -/
theorem exists_of_digitValue? {c : Char} {d : Nat} (h : digitValue? c = some d) :
    ∃ z ∈ digitZeros, d < 10 ∧ c = Char.ofNat (z + d) := by
  rw [digitValue?, Option.map_eq_some_iff] at h
  obtain ⟨z, hfind, rfl⟩ := h
  have hmem := List.mem_of_find?_eq_some hfind
  have hspan := List.find?_some hfind
  simp only [Bool.and_eq_true, decide_eq_true_eq] at hspan
  refine ⟨z, hmem, by omega, ?_⟩
  rw [Nat.add_sub_cancel' hspan.1, Char.ofNat_toNat]

/-- A digit of any script is no blank. -/
theorem isBlank_of_digitValue? {c : Char} {d : Nat} (h : digitValue? c = some d) :
    isBlank c = false := by
  have htable : ∀ z ∈ digitZeros, ∀ d < 10, isBlank (Char.ofNat (z + d)) = false := by
    decide +kernel
  obtain ⟨z, hz, hd, rfl⟩ := exists_of_digitValue? h
  exact htable z hz d hd

/-- A digit of any script is no white space. -/
theorem isWhite_of_digitValue? {c : Char} {d : Nat} (h : digitValue? c = some d) :
    isWhite c = false := by
  rw [isWhite, isBlank_of_digitValue? h, Bool.false_and]

theorem isWhite_of_isAsciiDigit {c : Char} (hc : isAsciiDigit c = true) : isWhite c = false := by
  simp only [isAsciiDigit, Bool.and_eq_true, decide_eq_true_eq, Char.le_def,
    UInt32.le_iff_toNat_le] at hc
  simp only [isWhite, isBlank, Char.toNat]
  grind

/-! ## Numbers in digits -/

theorem valueIn_append (b : Nat) (ds : List Nat) (d : Nat) :
    valueIn b (ds ++ [d]) = valueIn b ds * b + d := by
  simp [valueIn]

/-- Digits in front of others count as many times more as the base to the power of their number. -/
theorem valueIn_append_list (b : Nat) (ds es : List Nat) :
    valueIn b (ds ++ es) = valueIn b ds * b ^ es.length + valueIn b es := by
  -- The induction is on the digits behind, from the first to the last.
  induction es using List.reverseRecOn with
  | nil => simp [valueIn]
  | append_singleton es e ih =>
    rw [← List.append_assoc, valueIn_append, ih, valueIn_append, List.length_append,
      List.length_singleton, Nat.pow_succ, Nat.add_mul, Nat.mul_assoc, Nat.add_assoc]

/-- So many digits stand for less than the base to the power of their number. -/
theorem valueIn_lt {b : Nat} {ds : List Nat} (h : ∀ d ∈ ds, d < b) :
    valueIn b ds < b ^ ds.length := by
  -- The induction is on the digits from the last to the first, as they are added up.
  obtain ⟨es, rfl⟩ : ∃ es : List Nat, ds = es.reverse := ⟨ds.reverse, ds.reverse_reverse.symm⟩
  induction es with
  | nil => exact Nat.one_pos
  | cons e es ih =>
    rw [List.reverse_cons] at h ⊢
    have hes : valueIn b es.reverse < b ^ es.length := by
      simpa using ih fun d hd => h d (List.mem_append_left _ hd)
    have he : e < b := h e (by simp)
    rw [valueIn_append, List.length_append, List.length_reverse, List.length_singleton,
      Nat.pow_succ]
    calc valueIn b es.reverse * b + e
        < valueIn b es.reverse * b + b := Nat.add_lt_add_left he _
      _ = (valueIn b es.reverse + 1) * b := (Nat.succ_mul _ _).symm
      _ ≤ b ^ es.length * b := Nat.mul_le_mul_right b hes

/-- **The digits of a number spell it.** -/
theorem spells_toDigits {b : Nat} (hb : 1 < b) (n : Nat) : Spells b n (Nat.toDigits b n) := by
  induction n using Nat.strongRecOn with
  | ind n ih =>
    by_cases hn : n < b
    · refine ⟨[n], ?_, ?_, ?_⟩
      · rw [Nat.toDigits_of_lt_base hn]
        rfl
      · simpa using hn
      · simp [valueIn]
    · have hle : b ≤ n := Nat.le_of_not_lt hn
      obtain ⟨ds, hcs, hlt, hval⟩ := ih (n / b) (Nat.div_lt_self (by omega) hb)
      refine ⟨ds ++ [n % b], ?_, ?_, ?_⟩
      · rw [Nat.toDigits_of_base_le hb hle, hcs, List.map_append]
        rfl
      · intro d hd
        rcases List.mem_append.1 hd with hd | hd
        · exact hlt d hd
        · rw [List.mem_singleton.1 hd]
          exact Nat.mod_lt n (by omega)
      · rw [valueIn_append, hval, Nat.div_add_mod']

theorem Spells.zeros {b n : Nat} {cs : List Char} (hb : 0 < b) (h : Spells b n cs) (k : Nat) :
    Spells b n (List.replicate k '0' ++ cs) := by
  obtain ⟨ds, rfl, hlt, hval⟩ := h
  refine ⟨List.replicate k 0 ++ ds, ?_, ?_, ?_⟩
  · rw [List.map_append, List.map_replicate]
    rfl
  · intro d hd
    rcases List.mem_append.1 hd with hd | hd
    · rw [List.eq_of_mem_replicate hd]
      exact hb
    · exact hlt d hd
  · rw [← hval]
    clear hlt hval
    induction k with
    | zero => rfl
    | succ k ih =>
      rw [← ih]
      simp [List.replicate_succ, valueIn]

/-- Zeros in front make no difference to what the digits spell. -/
theorem spells_filled {b : Nat} (hb : 1 < b) (width n : Nat) : Spells b n (filled b width n) :=
  (spells_toDigits hb n).zeros (by omega) _

theorem length_filled {b width n : Nat} (hb : 1 < b) (hw : 0 < width) (hn : n < b ^ width) :
    (filled b width n).length = width := by
  have hle : (Nat.toDigits b n).length ≤ width := (Nat.length_toDigits_le_iff hb hw).2 hn
  rw [filled, List.length_append, List.length_replicate]
  omega

/-- Digits of one length that stand for one number are the same. -/
theorem valueIn_inj {b : Nat} {ds es : List Nat} (hd : ∀ d ∈ ds, d < b) (he : ∀ e ∈ es, e < b)
    (length_eq : ds.length = es.length) (value_eq : valueIn b ds = valueIn b es) : ds = es := by
  induction ds using List.reverseRecOn generalizing es with
  | nil => exact (List.length_eq_zero_iff.1 length_eq.symm).symm
  | append_singleton ds d ih =>
    rcases List.eq_nil_or_concat es with rfl | ⟨es, e, rfl⟩
    · simp at length_eq
    · rw [List.concat_eq_append] at *
      rw [valueIn_append, valueIn_append] at value_eq
      have hdb : d < b := hd d (by simp)
      have heb : e < b := he e (by simp)
      -- The last digits are what is left over by the base, the others what it goes into.
      have hlast : d = e := by
        have := congrArg (· % b) value_eq
        simpa [Nat.mul_add_mod_self_right, Nat.mod_eq_of_lt hdb, Nat.mod_eq_of_lt heb] using this
      subst hlast
      have hvalue : valueIn b ds = valueIn b es :=
        Nat.eq_of_mul_eq_mul_right (by omega) (Nat.add_right_cancel value_eq)
      rw [ih (fun c hc => hd c (by simp [hc])) (fun c hc => he c (by simp [hc]))
        (by simpa using length_eq) hvalue]

namespace Spells

variable {b n m : Nat} {cs cs' : List Char}

theorem lt_pow (h : Spells b n cs) : n < b ^ cs.length := by
  obtain ⟨ds, rfl, hlt, rfl⟩ := h
  simpa using valueIn_lt hlt

/-- The digits of two numbers, one after the other. -/
theorem append (h : Spells b n cs) (h' : Spells b m cs') :
    Spells b (n * b ^ cs'.length + m) (cs ++ cs') := by
  obtain ⟨ds, rfl, hlt, rfl⟩ := h
  obtain ⟨es, rfl, hlt', rfl⟩ := h'
  refine ⟨ds ++ es, (List.map_append).symm, ?_, ?_⟩
  · exact List.forall_mem_append.2 ⟨hlt, hlt'⟩
  · rw [valueIn_append_list, List.length_map]

/-- The digits of a number, cut into two. -/
theorem split (h : Spells b n (cs ++ cs')) :
    ∃ k m, Spells b k cs ∧ Spells b m cs' ∧ n = k * b ^ cs'.length + m := by
  obtain ⟨ds, hds, hlt, rfl⟩ := h
  obtain ⟨es, fs, rfl, rfl, rfl⟩ := List.append_eq_map_iff.1 hds
  rw [List.forall_mem_append] at hlt
  refine ⟨_, _, ⟨es, rfl, hlt.1, rfl⟩, ⟨fs, rfl, hlt.2, rfl⟩, ?_⟩
  rw [valueIn_append_list, List.length_map]

theorem unique (h : Spells b n cs) (h' : Spells b n cs') (length_eq : cs.length = cs'.length) :
    cs = cs' := by
  obtain ⟨ds, rfl, hlt, hval⟩ := h
  obtain ⟨es, rfl, hlt', hval'⟩ := h'
  rw [List.length_map, List.length_map] at length_eq
  rw [valueIn_inj hlt hlt' length_eq (hval.trans hval'.symm)]

/-- **The digits of a number are those of its length**, filled up with zeros. -/
theorem eq_filled (hb : 1 < b) (h : Spells b n cs) (ne : cs ≠ []) : cs = filled b cs.length n := by
  apply h.unique (spells_filled hb cs.length n)
  exact (length_filled hb (List.length_pos_iff.2 ne) h.lt_pow).symm

/-- Without a zero in front there are no others than the digits of the number itself. -/
theorem eq_toDigits (hb : 1 < b) (h : Spells b n cs) (ne : cs ≠ [])
    (leading : cs.head? ≠ some '0') : cs = Nat.toDigits b n := by
  have hfilled : cs = List.replicate (cs.length - (Nat.toDigits b n).length) '0' ++
      Nat.toDigits b n := h.eq_filled hb ne
  cases hk : cs.length - (Nat.toDigits b n).length with
  | zero =>
    rw [hk] at hfilled
    exact hfilled
  | succ k =>
    -- There would be a zero in front.
    rw [hk] at hfilled
    rw [hfilled] at leading
    exact (leading rfl).elim

/-- The last digit of a number shows whether the base goes into it. -/
theorem mod_eq_zero_iff {c : Char} (hb : b ≤ 10) (h : Spells b n (cs ++ [c])) :
    n % b = 0 ↔ c = '0' := by
  obtain ⟨ds, hds, hlt, rfl⟩ := h
  obtain ⟨es, fs, rfl, rfl, hf⟩ := List.append_eq_map_iff.1 hds
  obtain ⟨d, rfl⟩ : ∃ d, fs = [d] := List.length_eq_one_iff.1 (by simpa using congrArg List.length hf)
  have hd : d < b := hlt d (by simp)
  have hdigit : c = Nat.digitChar d := by simpa using hf.symm
  have hzero : ∀ k : Fin 10, Nat.digitChar k.val = '0' ↔ k.val = 0 := by decide
  rw [valueIn_append, Nat.mul_add_mod_self_right, Nat.mod_eq_of_lt hd, hdigit]
  exact (hzero ⟨d, by omega⟩).symm

end Spells

/-! ## Decimal digits -/

theorem spells_natDigits (n : Nat) : Spells 10 n (natDigits n) := spells_toDigits (by decide) n

theorem natDigits_ne_nil (n : Nat) : natDigits n ≠ [] := Nat.toDigits_ne_nil

/-- No digits of a number begin with a zero, except that of zero itself. -/
theorem eq_zero_of_natDigits {n : Nat} {cs : List Char} (h : natDigits n = '0' :: cs) : n = 0 := by
  induction n using Nat.strongRecOn generalizing cs with
  | ind n ih =>
    rw [natDigits] at h
    by_cases hn : n < 10
    · rw [Nat.toDigits_of_lt_base hn, List.cons.injEq] at h
      have : ∀ k : Fin 10, Nat.digitChar k.val = '0' → k.val = 0 := by decide
      exact this ⟨n, hn⟩ h.1
    · rw [Nat.toDigits_of_base_le (by decide) (Nat.le_of_not_lt hn)] at h
      -- The first digit is already one of the number without its last one.
      obtain ⟨c, ds, hds⟩ := List.exists_cons_of_ne_nil (natDigits_ne_nil (n / 10))
      rw [natDigits] at hds
      rw [hds, List.cons_append, List.cons.injEq] at h
      have hzero : n / 10 = 0 := ih (n / 10) (by omega) (by rw [natDigits, hds, h.1])
      omega

namespace Spells

variable {n : Nat} {cs : List Char}

theorem isAsciiDigit (h : Spells 10 n cs) : ∀ c ∈ cs, isAsciiDigit c = true := by
  obtain ⟨ds, rfl, hlt, -⟩ := h
  intro c hc
  obtain ⟨d, hd, rfl⟩ := List.mem_map.1 hc
  exact isAsciiDigit_digitChar (hlt d hd)

/-- The values of the digits, read off one by one. -/
theorem filterMap_values (h : Spells 10 n cs) {value? : Char → Option Nat}
    (reads : ∀ {d : Nat}, d < 10 → value? (Nat.digitChar d) = some d) :
    (cs.filterMap value?).length = cs.length ∧ foldDigits (cs.filterMap value?) = n := by
  obtain ⟨ds, rfl, hlt, hval⟩ := h
  have hds : (ds.map Nat.digitChar).filterMap value? = ds := by
    clear hval
    induction ds with
    | nil => rfl
    | cons d ds ih =>
      have hd := reads (hlt d List.mem_cons_self)
      rw [List.map_cons, List.filterMap_cons_some hd,
        ih fun d hd => hlt d (List.mem_cons_of_mem _ hd)]
  rw [hds]
  exact ⟨(List.length_map _).symm, hval⟩

theorem filterMap_asciiDigit? (h : Spells 10 n cs) :
    (cs.filterMap asciiDigit?).length = cs.length ∧
      foldDigits (cs.filterMap asciiDigit?) = n :=
  h.filterMap_values asciiDigit?_digitChar

theorem isDecimalDigit (h : Spells 10 n cs) : ∀ c ∈ cs, isDecimalDigit c = true := by
  obtain ⟨ds, rfl, hlt, -⟩ := h
  intro c hc
  obtain ⟨d, hd, rfl⟩ := List.mem_map.1 hc
  exact isDecimalDigit_digitChar (hlt d hd)

theorem takeWhile_append (h : Spells 10 n cs) {rest : List Char}
    (hrest : ∀ c ∈ rest.head?, Text.isAsciiDigit c = false) :
    (cs ++ rest).takeWhile Text.isAsciiDigit = cs ∧
      (cs ++ rest).dropWhile Text.isAsciiDigit = rest := by
  rw [List.takeWhile_append_of_pos h.isAsciiDigit, List.dropWhile_append_of_pos h.isAsciiDigit]
  cases rest with
  | nil => simp
  | cons c rest =>
    have hc : Text.isAsciiDigit c = false := hrest c rfl
    simp [hc]

end Spells
end Text

/-! ## The texts of whole numbers -/

namespace Numeral

open Plunder.Text

theorem intText?_natCast {n : Nat} (h : (natDigits n).length ≤ maxDigits) :
    intText? (n : Int) = some (String.ofList (natDigits n)) := by
  rw [intText?, if_pos (by simpa using h)]
  rfl

end Numeral
end Plunder
