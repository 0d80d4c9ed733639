import Plunder.Proofs.Except
import Plunder.Text.Hex

/-!
# Hexadecimal digits and the gaps between them

Which characters are read as octets. A digit counts the same in either case; two of them make an
octet, the first of which counts sixteen times the second. White space may stand before a pair and
behind it, but not within.

Main statements:
- `isDigit_iff`: what the digits are
- `spelled_encodeChars`: octets are spelled by the digits that are written for them
- `decode_eq_ok_iff`: which characters are read, and as which octets
- `paired_iff_spelled`: without white space these are the digits of the octets, and nothing else
-/

namespace Plunder.Text.Hex

/-! ## Definitions -/

/-- Whether a character is the digit of a value below sixteen, in either case. -/
def IsDigit (d : Nat) (c : Char) : Prop := d < 16 ∧ (c = digitChar d ∨ c = (digitChar d).toUpper)

instance (d : Nat) (c : Char) : Decidable (IsDigit d c) := inferInstanceAs (Decidable (_ ∧ _))

/-- Whether characters are the digits of octets, two for each of them, the more significant first. -/
inductive Spelled : Bytes → List Char → Prop where
  | nil : Spelled [] []
  | cons {b : UInt8} {bs : Bytes} {c d : Char} {cs : List Char} (high : IsDigit (b.toNat / 16) c)
      (low : IsDigit (b.toNat % 16) d) (rest : Spelled bs cs) : Spelled (b :: bs) (c :: d :: cs)

/-- Whether characters are the digits of octets, with white space before, between and behind the
pairs. -/
inductive Paired : Bytes → List Char → Prop where
  | nil : Paired [] []
  | gap {bs : Bytes} {c : Char} {cs : List Char} (blank : isGap c = true) (rest : Paired bs cs) :
      Paired bs (c :: cs)
  | cons {b : UInt8} {bs : Bytes} {c d : Char} {cs : List Char} (high : IsDigit (b.toNat / 16) c)
      (low : IsDigit (b.toNat % 16) d) (rest : Paired bs cs) : Paired (b :: bs) (c :: d :: cs)

/-! ## Digits -/

theorem toNat_lt_of_digit? {d : Nat} {c : Char} (h : digit? c = some d) : c.toNat < 128 := by
  have hle {e : Char} (hce : c ≤ e) (he : e.toNat < 128) : c.toNat < 128 :=
    Nat.lt_of_le_of_lt (UInt32.le_iff_toNat_le.1 (Char.le_def.1 hce)) he
  unfold digit? at h
  split at h
  next hc => exact hle hc.2 (by decide)
  next =>
    split at h
    next hc => exact hle hc.2 (by decide)
    next =>
      split at h
      next hc => exact hle hc.2 (by decide)
      next => cases h

theorem toNat_lt_of_isGap {c : Char} (h : isGap c = true) : c.toNat < 128 := by
  simp only [isGap, Bool.or_eq_true, beq_iff_eq, Bool.and_eq_true, decide_eq_true_eq] at h
  rcases h with rfl | h
  · decide
  · omega

/-- **The digits are the characters that are read as digits.** -/
theorem isDigit_iff {d : Nat} {c : Char} : IsDigit d c ↔ digit? c = some d := by
  constructor
  · rintro ⟨hd, h⟩
    have hlower := digit?_digitChar d hd
    have hupper : ∀ k : Fin 16, digit? (digitChar k.val).toUpper = some k.val := by decide
    rcases h with rfl | rfl
    · exact hlower
    · exact hupper ⟨d, hd⟩
  · intro h
    -- Beyond ASCII there are none.
    have hascii : ∀ n < 128, ∀ d ∈ digit? (Char.ofNat n), IsDigit d (Char.ofNat n) := by decide
    have hchar := hascii c.toNat (toNat_lt_of_digit? h) d
    rw [Char.ofNat_toNat] at hchar
    exact hchar h

theorem IsDigit.not_isGap {d : Nat} {c : Char} (h : IsDigit d c) : isGap c = false := by
  obtain ⟨hd, hc⟩ := h
  have hupper : ∀ k : Fin 16, isGap (digitChar k.val).toUpper = false := by decide
  rcases hc with rfl | rfl
  · exact not_isGap_digitChar d hd
  · exact hupper ⟨d, hd⟩

theorem IsDigit.toNat_lt {d : Nat} {c : Char} (h : IsDigit d c) : c.toNat < 128 :=
  toNat_lt_of_digit? (isDigit_iff.1 h)

/-! ## Octets and their pairs -/

theorem div_lt (b : UInt8) : b.toNat / 16 < 16 := by
  have := b.toNat_lt
  omega

theorem mod_lt (b : UInt8) : b.toNat % 16 < 16 := Nat.mod_lt _ (by decide)

/-- An octet is what its two digits come to. -/
theorem ofNat_pair (b : UInt8) : UInt8.ofNat (16 * (b.toNat / 16) + b.toNat % 16) = b := by
  rw [Nat.div_add_mod, UInt8.ofNat_toNat]

/-- Two digits come to the octet that they are the digits of. -/
theorem isDigit_of_pair {hi lo : Nat} {c d : Char} (hc : IsDigit hi c) (hd : IsDigit lo d) :
    IsDigit ((UInt8.ofNat (16 * hi + lo)).toNat / 16) c ∧
      IsDigit ((UInt8.ofNat (16 * hi + lo)).toNat % 16) d := by
  have hhi := hc.1
  have hlo := hd.1
  have hvalue : (UInt8.ofNat (16 * hi + lo)).toNat = 16 * hi + lo := by
    rw [UInt8.toNat_ofNat', Nat.mod_eq_of_lt (by omega)]
  have hdiv : (16 * hi + lo) / 16 = hi := by omega
  have hmod : (16 * hi + lo) % 16 = lo := by omega
  rw [hvalue, hdiv, hmod]
  exact ⟨hc, hd⟩

/-- **Octets are spelled by the digits that are written for them.** -/
theorem spelled_encodeChars (bs : Bytes) : Spelled bs (encodeChars bs) := by
  induction bs with
  | nil => exact .nil
  | cons b bs ih => exact .cons ⟨div_lt b, .inl rfl⟩ ⟨mod_lt b, .inl rfl⟩ ih

namespace Spelled

variable {bs : Bytes} {cs : List Char}

/-- There are two digits for each octet. -/
theorem length_eq (h : Spelled bs cs) : cs.length = 2 * bs.length := by
  induction h with
  | nil => rfl
  | cons _ _ _ ih =>
    rw [List.length_cons, List.length_cons, List.length_cons, ih]
    omega

theorem isDigit (h : Spelled bs cs) : ∀ c ∈ cs, ∃ d, IsDigit d c := by
  induction h with
  | nil => simp
  | cons high low _ ih =>
    rw [List.forall_mem_cons, List.forall_mem_cons]
    exact ⟨⟨_, high⟩, ⟨_, low⟩, ih⟩

theorem not_isGap (h : Spelled bs cs) : ∀ c ∈ cs, isGap c = false := by
  intro c hc
  obtain ⟨d, hd⟩ := h.isDigit c hc
  exact hd.not_isGap

theorem paired (h : Spelled bs cs) : Paired bs cs := by
  induction h with
  | nil => exact .nil
  | cons high low _ ih => exact .cons high low ih

end Spelled

/-- Any digits, if their number is even, spell some octets. -/
theorem exists_spelled : {cs : List Char} → (digits : ∀ c ∈ cs, ∃ d, IsDigit d c) →
    (even : cs.length % 2 = 0) → ∃ bs, Spelled bs cs
  | [], _, _ => ⟨[], .nil⟩
  | [_], _, even => by cases even
  | c :: d :: cs, digits, even => by
    rw [List.forall_mem_cons, List.forall_mem_cons] at digits
    obtain ⟨⟨hi, hc⟩, ⟨lo, hd⟩, hcs⟩ := digits
    rw [List.length_cons, List.length_cons] at even
    obtain ⟨bs, hbs⟩ := exists_spelled hcs (by omega)
    obtain ⟨high, low⟩ := isDigit_of_pair hc hd
    exact ⟨_, .cons high low hbs⟩

/-- **Without white space, pairs are digits and nothing else.** -/
theorem paired_iff_spelled {bs : Bytes} {cs : List Char} (solid : ∀ c ∈ cs, isGap c = false) :
    Paired bs cs ↔ Spelled bs cs := by
  constructor
  · intro h
    induction h with
    | nil => exact .nil
    | gap blank _ _ =>
      rw [solid _ List.mem_cons_self] at blank
      cases blank
    | cons high low _ ih =>
      rw [List.forall_mem_cons, List.forall_mem_cons] at solid
      exact .cons high low (ih solid.2.2)
  · exact Spelled.paired

/-! ## Reading -/

namespace Paired

variable {bs : Bytes} {c d : Char} {cs : List Char}

theorem nil_iff : Paired bs [] ↔ bs = [] := by
  constructor
  · intro h
    cases h
    rfl
  · rintro rfl
    exact .nil

theorem gap_iff (blank : isGap c = true) : Paired bs (c :: cs) ↔ Paired bs cs := by
  constructor
  · intro h
    cases h with
    | gap _ rest => exact rest
    | cons high _ _ =>
      rw [high.not_isGap] at blank
      cases blank
  · exact .gap blank

/-- A single character that is no white space is no pair. -/
theorem not_singleton (solid : isGap c = false) : ¬ Paired bs [c] := by
  intro h
  cases h with
  | gap blank _ =>
    rw [solid] at blank
    cases blank

theorem cons_iff (solid : isGap c = false) : Paired bs (c :: d :: cs) ↔
    ∃ b bs', bs = b :: bs' ∧ IsDigit (b.toNat / 16) c ∧ IsDigit (b.toNat % 16) d ∧
      Paired bs' cs := by
  constructor
  · intro h
    cases h with
    | gap blank _ =>
      rw [solid] at blank
      cases blank
    | cons high low rest => exact ⟨_, _, rfl, high, low, rest⟩
  · rintro ⟨b, bs', rfl, high, low, rest⟩
    exact .cons high low rest

/-- What is read is of ASCII. -/
theorem toNat_lt (h : Paired bs cs) : ∀ c ∈ cs, c.toNat < 128 := by
  induction h with
  | nil => simp
  | gap blank _ ih => exact List.forall_mem_cons.2 ⟨toNat_lt_of_isGap blank, ih⟩
  | cons high low _ ih =>
    rw [List.forall_mem_cons, List.forall_mem_cons]
    exact ⟨high.toNat_lt, low.toNat_lt, ih⟩

end Paired

/-- The characters that are read from some position on. -/
theorem decodeFrom_eq_ok_iff {pos : Nat} {cs : List Char} {bs : Bytes} :
    decodeFrom pos cs = .ok bs ↔ Paired bs cs := by
  -- The cases are those of the reader, which goes on behind one character or behind two.
  induction pos, cs using decodeFrom.induct generalizing bs with
  | case1 pos => simp [decodeFrom, Paired.nil_iff, eq_comm]
  | case2 pos c blank => simp [decodeFrom, blank, Paired.gap_iff, Paired.nil_iff, eq_comm]
  | case3 pos c solid digit =>
    simp [decodeFrom, solid, digit, Paired.not_singleton (Bool.eq_false_iff.2 solid)]
  | case4 pos c solid other =>
    simp [decodeFrom, solid, other, Paired.not_singleton (Bool.eq_false_iff.2 solid)]
  | case5 pos c d rest blank ih =>
    rw [decodeFrom, if_pos blank, ih, Paired.gap_iff blank]
  | case6 pos c d rest solid hc =>
    rw [decodeFrom, if_neg solid, hc, Paired.cons_iff (Bool.eq_false_iff.2 solid)]
    constructor
    · intro h
      cases h
    · rintro ⟨b, bs', -, high, -⟩
      rw [isDigit_iff.1 high] at hc
      cases hc
  | case7 pos c d rest solid hi hd hc =>
    rw [decodeFrom, if_neg solid, hc, hd, Paired.cons_iff (Bool.eq_false_iff.2 solid)]
    constructor
    · intro h
      cases h
    · rintro ⟨b, bs', -, -, low, -⟩
      rw [isDigit_iff.1 low] at hd
      cases hd
  | case8 pos c d rest solid hi lo hd hc ih =>
    rw [decodeFrom, if_neg solid, hc, hd, Paired.cons_iff (Bool.eq_false_iff.2 solid)]
    constructor
    · intro h
      obtain ⟨bs', hbs', rfl⟩ := Except.map_eq_ok_iff.1 h
      obtain ⟨high, low⟩ := isDigit_of_pair (isDigit_iff.2 hc) (isDigit_iff.2 hd)
      exact ⟨_, bs', rfl, high, low, ih.1 hbs'⟩
    · rintro ⟨b, bs', rfl, high, low, rest⟩
      rw [isDigit_iff.1 high] at hc
      rw [isDigit_iff.1 low] at hd
      rw [← Option.some.inj hc, ← Option.some.inj hd, ih.2 rest]
      exact congrArg (fun b => Except.ok (b :: bs')) (ofNat_pair b)

/-- **Characters are read as octets if they are their digits**, with white space around the pairs. -/
theorem decode_eq_ok_iff {cs : List Char} {bs : Bytes} : decode cs = .ok bs ↔ Paired bs cs := by
  unfold decode
  split
  next i hi =>
    -- A character outside ASCII is neither a digit nor white space.
    obtain ⟨hlt, hlarge, -⟩ := List.findIdx?_eq_some_iff_getElem.1 hi
    constructor
    · nofun
    · intro h
      have hsmall := h.toNat_lt cs[i] (List.getElem_mem hlt)
      exact absurd (of_decide_eq_true hlarge) (Nat.not_le.2 hsmall)
  next => exact decodeFrom_eq_ok_iff

end Plunder.Text.Hex
