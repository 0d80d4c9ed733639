import Plunder.Proofs.Text.Digit
import Plunder.Value.Json

/-!
# Values out of their texts

A value that is written as JSON and read back is the value that was written. This holds of every
value without fractions, octets and tuples whose whole numbers are not too long and whose objects
name every field once, in every style that puts nothing but blanks behind commas and colons.

Main statements:
- `readString_flatMap`: a string out of its escaped characters
- `readValue_write`: a value out of the front of a text
- `exists_write`: a value out of a whole text
-/

namespace Plunder

open Plunder.Text

mutual

/-- Whether the value comes back from its text. Fractions are left out: they are written in their
shortest form, which is another matter. -/
def Value.comesBack : Value → Bool
  | .null | .bool _ | .text _ => true
  | .int n => (natDigits n.natAbs).length ≤ Numeral.maxDigits
  | .float _ | .octets .. | .tuple _ => false
  | .list xs => comeBack xs
  | .object fs => (fs.map (·.1)).Nodup && haveComeBack fs

/-- Whether each of the items comes back. -/
def Value.comeBack : List Value → Bool
  | [] => true
  | x :: xs => x.comesBack && comeBack xs

/-- Whether the value of each of the fields comes back. -/
def Value.haveComeBack : List (String × Value) → Bool
  | [] => true
  | (_, v) :: fs => v.comesBack && haveComeBack fs

end

/-- A field under a new name comes behind the others. -/
theorem Fields.set_of_notMem {fs : Fields} {k : String} (h : k ∉ fs.map (·.1)) (v : Value) :
    fs.set k v = fs ++ [(k, v)] := by
  rw [Fields.set, if_neg]
  simpa using h

namespace Json

/-! ## Definitions -/

/-- Whether a style puts nothing but blanks behind commas and colons. -/
structure Style.Blank (style : Style) : Prop where
  comma : ∀ c ∈ style.afterComma, isGap c = true
  colon : ∀ c ∈ style.afterColon, isGap c = true

theorem Style.blank_spaced : Style.spaced.Blank := by
  constructor <;>
    · intro c hc
      rw [List.mem_singleton.1 hc]
      rfl

/-- Whether what follows a value ends it: nothing, or what stands behind items and fields. -/
def Ends (rest : List Char) : Prop := ∀ c ∈ rest.head?, c = ',' ∨ c = ']' ∨ c = '\x7d'

/-- Whether a text begins as that of a value does. -/
def Begins (cs : List Char) : Prop :=
  ∃ c cs', cs = c :: cs' ∧ isGap c = false ∧ c ≠ ']' ∧ c ≠ '\x7d' ∧ c ≠ '\uFEFF'

/-! ## Blanks -/

theorem skip_cons {c : Char} (hc : isGap c = false) (cs : List Char) :
    skip (c :: cs) = c :: cs := by
  simp [skip, hc]

theorem skip_of_begins {cs : List Char} (h : Begins cs) (rest : List Char) :
    skip (cs ++ rest) = cs ++ rest := by
  obtain ⟨c, cs', rfl, hc, -⟩ := h
  exact skip_cons hc _

theorem skip_append {gap cs : List Char} (hgap : ∀ c ∈ gap, isGap c = true) (h : Begins cs)
    (rest : List Char) : skip (gap ++ (cs ++ rest)) = cs ++ rest := by
  rw [skip, List.dropWhile_append_of_pos hgap]
  exact skip_of_begins h rest

/-! ## Characters of strings -/

/-- The four digits of a unit of sixteen bits are read back. -/
private theorem unitOf?_padHex {n : Nat} (hn : n < 0x10000) :
    ∃ a b c d, Quoted.padHex 4 n = [a, b, c, d] ∧ unitOf? a b c d = some n := by
  have hlen : (Quoted.padHex 4 n).length = 4 := length_filled (by decide) (by decide) hn
  obtain ⟨ds, hds, hlt, hval⟩ : Spells 16 n (Quoted.padHex 4 n) := spells_filled (by decide) 4 n
  rw [hds, List.length_map] at hlen
  match ds, hlen with
  | [a, b, c, d], _ =>
    refine ⟨_, _, _, _, hds, ?_⟩
    simp only [List.mem_cons, List.not_mem_nil, or_false, forall_eq_or_imp, forall_eq] at hlt
    obtain ⟨ha, hb, hc, hd⟩ := hlt
    simp only [unitOf?, hexDigit?_digitChar ha, hexDigit?_digitChar hb, hexDigit?_digitChar hc,
      hexDigit?_digitChar hd, Option.bind_eq_bind, Option.bind_some, ← hval, valueIn,
      List.foldl_cons, List.foldl_nil, Nat.zero_mul, Nat.zero_add]

private theorem charOf_toNat (c : Char) : charOf c.toNat = c := by
  have hv : c.toNat.isValidChar := c.valid
  rw [charOf, if_pos hv]
  exact Char.ofNat_toNat c

/-- The code point of a character is no half of a pair. -/
private theorem toNat_cases (c : Char) :
    c.toNat < 0xD800 ∨ (0xDFFF < c.toNat ∧ c.toNat < 0x110000) := c.valid

section Escapes

variable {start : Nat} {c e : Char} {rest : List Char}

private theorem readEscape_short (h : shortEscape? c = some e) :
    readEscape start (c :: rest) = .ok (e, rest) := by
  have hu : c ≠ 'u' := by
    rintro rfl
    have : shortEscape? 'u' = none := by decide
    rw [this] at h
    cases h
  unfold readEscape
  split
  · next heq => cases heq
  · next heq => exact (hu (List.cons.inj heq).1).elim
  · next heq => exact (hu (List.cons.inj heq).1).elim
  · next heq =>
    obtain ⟨rfl, rfl⟩ := List.cons.inj heq
    rw [h]

/-- An escaped unit that is no half of a pair. -/
private theorem readEscape_unit (hc : c.toNat < 0x10000) (hrest : rest ≠ []) :
    readEscape start ('u' :: Quoted.padHex 4 c.toNat ++ rest) = .ok (c, rest) := by
  obtain ⟨p, q, r, s, hpad, hunit⟩ := unitOf?_padHex hc
  obtain ⟨x, rest, rfl⟩ := List.exists_cons_of_ne_nil hrest
  have hhigh : ¬ (0xD800 ≤ c.toNat ∧ c.toNat ≤ 0xDBFF) := by
    have := toNat_cases c
    omega
  simp only [hpad, List.cons_append, List.nil_append, readEscape, hunit, hhigh, if_false,
    charOf_toNat]
  rfl

/-- The two halves of a pair. -/
private theorem readEscape_pair (hc : 0x10000 ≤ c.toNat) (hrest : rest ≠ []) :
    readEscape start ('u' :: Quoted.padHex 4 (0xD800 + (c.toNat - 0x10000) / 0x400) ++
      (escapeUnit (0xDC00 + (c.toNat - 0x10000) % 0x400) ++ rest)) = .ok (c, rest) := by
  have hlt : c.toNat < 0x110000 := by
    have := toNat_cases c
    omega
  obtain ⟨p, q, r, s, hpad, hhigh⟩ :=
    unitOf?_padHex (n := 0xD800 + (c.toNat - 0x10000) / 0x400) (by omega)
  obtain ⟨p', q', r', s', hpad', hlow⟩ :=
    unitOf?_padHex (n := 0xDC00 + (c.toNat - 0x10000) % 0x400) (by omega)
  obtain ⟨x, rest, rfl⟩ := List.exists_cons_of_ne_nil hrest
  have hishigh : 0xD800 ≤ 0xD800 + (c.toNat - 0x10000) / 0x400 ∧
      0xD800 + (c.toNat - 0x10000) / 0x400 ≤ 0xDBFF := by omega
  have hislow : 0xDC00 ≤ 0xDC00 + (c.toNat - 0x10000) % 0x400 ∧
      0xDC00 + (c.toNat - 0x10000) % 0x400 ≤ 0xDFFF := by omega
  have hsum : 0x10000 + (0xD800 + (c.toNat - 0x10000) / 0x400 - 0xD800) * 0x400 +
      (0xDC00 + (c.toNat - 0x10000) % 0x400 - 0xDC00) = c.toNat := by omega
  simp only [hpad, hpad', escapeUnit, List.cons_append, List.nil_append, readEscape, hhigh,
    hishigh, and_self, if_true, lowHalf?, hlow, hislow, hsum, charOf_toNat]
  rfl

/-- **A character out of its escape**: what is read of the rest of a string is read after the
character as well. -/
theorem readString_escapeChar {fuel : Nat} {s after : List Char} (hrest : rest ≠ [])
    (h : readString start fuel rest = .ok (s, after)) :
    readString start (fuel + 1) (escapeChar c ++ rest) = .ok (c :: s, after) := by
  -- Whatever stands behind a backslash, it is enough to know what the escape stands for.
  have escaped {cs : List Char} (hcs : readEscape start cs = .ok (c, rest)) :
      readString start (fuel + 1) ('\\' :: cs) = .ok (c :: s, after) := by
    simp only [readString, hcs]
    simp [bind, Except.bind, h]
  unfold escapeChar
  split
  · next hq => exact escaped (readEscape_short (by rcases hq with rfl | rfl <;> rfl))
  split
  · next hc => exact escaped (readEscape_short (by rw [hc]; rfl))
  split
  · next hc => exact escaped (readEscape_short (by rw [hc]; rfl))
  split
  · next hc => exact escaped (readEscape_short (by rw [hc]; rfl))
  split
  · next hc => exact escaped (readEscape_short (by rw [hc]; rfl))
  split
  · next hc => exact escaped (readEscape_short (by rw [hc]; rfl))
  rename_i hquote _ _ _ _ _
  split
  · next hc =>
    -- A character that can be shown stands for itself.
    have hvisible : ¬ c.toNat ≤ 0x1F := by
      have := hc.1
      simp only [Char.le_def, UInt32.le_iff_toNat_le] at this
      simp only [Char.toNat]
      have hspace : (' ' : Char).val.toNat = 32 := rfl
      omega
    rw [not_or] at hquote
    simp only [List.cons_append, List.nil_append, readString, hquote.1, hquote.2, hvisible,
      if_false, h]
    rfl
  split
  · next hc => exact escaped (readEscape_unit hc hrest)
  · next hc =>
    rw [List.append_assoc]
    exact escaped (readEscape_pair (Nat.le_of_not_lt hc) hrest)

end Escapes

theorem escapeChar_ne_nil (c : Char) : escapeChar c ≠ [] := by
  unfold escapeChar escapeUnit
  grind

/-- **A string out of its escaped characters.** -/
theorem readString_flatMap (start : Nat) (s rest : List Char) {fuel : Nat} (hf : s.length < fuel) :
    readString start fuel (s.flatMap escapeChar ++ '"' :: rest) = .ok (s, rest) := by
  induction s generalizing fuel with
  | nil =>
    obtain ⟨fuel, rfl⟩ := Nat.exists_eq_add_one_of_ne_zero (Nat.ne_of_gt (Nat.zero_lt_of_lt hf))
    rfl
  | cons c s ih =>
    obtain ⟨fuel, rfl⟩ := Nat.exists_eq_add_one_of_ne_zero (Nat.ne_of_gt (Nat.zero_lt_of_lt hf))
    rw [List.flatMap_cons, List.append_assoc]
    refine readString_escapeChar (by simp) (ih ?_)
    simpa using hf

theorem length_le_flatMap (s : List Char) : s.length ≤ (s.flatMap escapeChar).length := by
  induction s with
  | nil => exact Nat.le_refl 0
  | cons c s ih =>
    have := List.length_pos_iff.2 (escapeChar_ne_nil c)
    rw [List.flatMap_cons, List.length_append, List.length_cons]
    omega

/-- A string that is read as a whole, after its first quotation mark. -/
private theorem readString_quote (s : String) (rest : List Char) :
    readString ((s.toList.flatMap escapeChar ++ '"' :: rest).length + 1)
      ((s.toList.flatMap escapeChar ++ '"' :: rest).length + 1)
      (s.toList.flatMap escapeChar ++ '"' :: rest) = .ok (s.toList, rest) := by
  refine readString_flatMap _ s.toList rest ?_
  have := length_le_flatMap s.toList
  rw [List.length_append, List.length_cons]
  omega

/-! ## Whole numbers -/

/-- What ends a value is no part of a number. -/
private theorem ends_number {rest : List Char} (h : Ends rest) :
    (∀ c ∈ rest.head?, isAsciiDigit c = false) ∧ splitFraction rest = none ∧
      splitExponent rest = none := by
  cases rest with
  | nil => exact ⟨by simp, rfl, rfl⟩
  | cons c rest =>
    rcases h c rfl with rfl | rfl | rfl
    · exact ⟨by simp; decide, rfl, rfl⟩
    · exact ⟨by simp; decide, rfl, rfl⟩
    · exact ⟨by simp; decide, rfl, rfl⟩

/-- The digits of a number come before what ends it. -/
private theorem splitWhole_natDigits (n : Nat) {rest : List Char} (h : Ends rest) :
    splitWhole (natDigits n ++ rest) = (natDigits n, rest) := by
  obtain ⟨htake, hdrop⟩ := (spells_natDigits n).takeWhile_append (ends_number h).1
  unfold splitWhole
  split
  · next more heq =>
    -- Only the digits of zero begin with a zero, and there are no more of them.
    obtain ⟨c, cs, hcs⟩ := List.exists_cons_of_ne_nil (natDigits_ne_nil n)
    rw [hcs, List.cons_append, List.cons.injEq] at heq
    obtain ⟨rfl, rfl⟩ := heq
    obtain rfl := eq_zero_of_natDigits hcs
    have hzero : natDigits 0 = ['0'] := by decide
    rw [hzero, List.cons.injEq] at hcs
    rw [hzero, ← hcs.2]
    rfl
  · rw [htake, hdrop]

/-- A digit begins no word. -/
private theorem readWord_digit {c : Char} (hc : isAsciiDigit c = true) (rest : List Char) :
    readWord (c :: rest) = none ∧ readWord ('-' :: c :: rest) = none := by
  have hne : ∀ w ∈ ['n', 't', 'f', 'N', 'I', '-'], w ≠ c := by
    rintro w hw rfl
    simp only [List.mem_cons, List.not_mem_nil, or_false] at hw
    rcases hw with rfl | rfl | rfl | rfl | rfl | rfl <;> exact absurd hc (by decide)
  simp only [List.mem_cons, List.not_mem_nil, or_false, forall_eq_or_imp, forall_eq] at hne
  constructor <;> simp [readWord, words, hne]

/-- The first character of a number is a digit. -/
private theorem natDigits_eq_cons (n : Nat) :
    ∃ c cs, natDigits n = c :: cs ∧ isAsciiDigit c = true := by
  obtain ⟨c, cs, hcs⟩ := List.exists_cons_of_ne_nil (natDigits_ne_nil n)
  exact ⟨c, cs, hcs, (spells_natDigits n).isAsciiDigit c (by simp [hcs])⟩

/-- What a digit is not. -/
private theorem digit_ne {c : Char} (hc : isAsciiDigit c = true) :
    c ≠ '-' ∧ c ≠ '"' ∧ c ≠ '\x7b' ∧ c ≠ '[' ∧ isGap c = false ∧ c ≠ ']' ∧ c ≠ '\x7d' ∧
      c ≠ '\uFEFF' := by
  have hne : ∀ d, isAsciiDigit d = false → c ≠ d := by
    rintro d hd rfl
    rw [hc] at hd
    cases hd
  refine ⟨hne _ rfl, hne _ rfl, hne _ rfl, hne _ rfl, ?_, hne _ rfl, hne _ rfl, hne _ rfl⟩
  simp [isGap, hne ' ' rfl, hne '\t' rfl, hne '\n' rfl, hne '\r' rfl]

section Numbers

variable {limit n : Nat} {rest : List Char}

private theorem readNumber_natDigits (hn : (natDigits n).length ≤ limit) (hrest : Ends rest) :
    readNumber limit (natDigits n ++ rest) = .ok (.int n, rest) ∧
      readNumber limit ('-' :: natDigits n ++ rest) = .ok (.int (-n), rest) := by
  obtain ⟨c, cs, hcs, hc⟩ := natDigits_eq_cons n
  obtain ⟨hlength, hvalue⟩ := (spells_natDigits n).filterMap_asciiDigit?
  obtain ⟨-, hfraction, hexponent⟩ := ends_number hrest
  have hsplit := splitWhole_natDigits n hrest
  have hlimit : ¬ limit < ((natDigits n).filterMap asciiDigit?).length := by omega
  have hempty : (natDigits n).isEmpty = false := by simp [hcs]
  constructor
  · rw [readNumber]
    · simp only [hsplit, hempty, hfraction, Option.getD_none, hexponent, List.isEmpty_nil, hlimit,
        hvalue, if_true, if_false, Bool.false_eq_true]
    · intro more heq
      rw [hcs, List.cons_append, List.cons.injEq] at heq
      exact (digit_ne hc).1 heq.1
  · rw [List.cons_append, readNumber]
    simp only [hsplit, hempty, hfraction, Option.getD_none, hexponent, List.isEmpty_nil, hlimit,
      hvalue, if_true, if_false, Bool.false_eq_true]

/-- A whole number out of its digits. -/
private theorem readValue_intDigits {n : Int} (hn : (natDigits n.natAbs).length ≤ limit)
    (hrest : Ends rest) (fuel : Nat) :
    readValue limit (fuel + 1) (intDigits n ++ rest) = .ok (.int n, rest) := by
  cases n with
  | ofNat n =>
    obtain ⟨c, cs, hcs, hc⟩ := natDigits_eq_cons n
    obtain ⟨-, hquote, hbrace, hbracket, -⟩ := digit_ne hc
    have hnumber := (readNumber_natDigits (n := n) hn hrest).1
    rw [hcs, List.cons_append] at hnumber
    rw [intDigits, hcs, List.cons_append]
    simp only [readValue, hquote, hbrace, hbracket, if_false, (readWord_digit hc _).1]
    exact hnumber
  | negSucc n =>
    obtain ⟨c, cs, hcs, hc⟩ := natDigits_eq_cons (n + 1)
    have hnumber := (readNumber_natDigits (n := n + 1) hn hrest).2
    rw [hcs, List.cons_append, List.cons_append] at hnumber
    rw [intDigits, hcs, List.cons_append, List.cons_append]
    simp only [readValue, (readWord_digit hc _).2]
    exact hnumber

private theorem begins_intDigits (n : Int) : Begins (intDigits n) := by
  cases n with
  | ofNat n =>
    obtain ⟨c, cs, hcs, hc⟩ := natDigits_eq_cons n
    exact ⟨c, cs, hcs, (digit_ne hc).2.2.2.2⟩
  | negSucc n => exact ⟨'-', natDigits (n + 1), rfl, by decide⟩

end Numbers

/-! ## Values -/

private theorem readWord_words (rest : List Char) :
    readWord ("null".toList ++ rest) = some (.null, rest) ∧
      ∀ b : Bool, readWord ((if b then "true" else "false").toList ++ rest) =
        some (.bool b, rest) := by
  have hnull : "null".length = 4 := by decide
  have htrue : "true".length = 4 := by decide
  have hfalse : "false".length = 5 := by decide
  refine ⟨by simp [readWord, words, hnull], fun b => ?_⟩
  cases b
  · simp [readWord, words, hfalse]
  · simp [readWord, words, htrue]

/-- What is between the brackets of a list or an object is never taken for its end. -/
private theorem begins_join {style : Style} {t : List Char} (h : Begins t) (ts : List (List Char)) :
    Begins (joinItems style (t :: ts)) := by
  obtain ⟨c, cs, rfl, hc⟩ := h
  cases ts with
  | nil => exact ⟨c, cs, rfl, hc⟩
  | cons u us => exact ⟨c, _, rfl, hc⟩

section Values

variable {style : Style}

/-- A field out of its text: its name is new, and so it comes behind those that were read before. -/
private theorem readFields_field (blank : style.Blank) {limit fuel : Nat} {before : Fields}
    {k : String} {v : Value} {t rest : List Char} (hbegins : Begins t)
    (hvalue : readValue limit fuel (t ++ rest) = .ok (v, rest)) (new : k ∉ before.map (·.1)) :
    readFields limit (fuel + 1) before (quote k ++ ':' :: style.afterColon ++ t ++ rest) =
      match skip rest with
      | '\x7d' :: rest => .ok (before ++ [(k, v)], rest)
      | ',' :: rest => readFields limit fuel (before ++ [(k, v)]) (skip rest)
      | rest => .error (.flawed .comma rest.length) := by
  simp only [quote, List.cons_append, List.append_assoc, List.nil_append, readFields,
    readString_quote]
  simp only [bind, Except.bind, skip_cons (c := ':') rfl, skip_append blank.colon hbegins, hvalue,
    String.ofList_toList]
  exact Fields.set_of_notMem new v ▸ rfl

mutual

/-- **A value out of the front of a text.** -/
theorem readValue_write (blank : style.Blank) : (v : Value) → v.comesBack = true →
    ∃ cs, write style v = .ok cs ∧ Begins cs ∧ ∀ rest fuel, Ends rest → 2 * cs.length ≤ fuel →
      readValue Numeral.maxDigits fuel (cs ++ rest) = .ok (v, rest)
  | .null, _ => by
    refine ⟨_, rfl, ⟨'n', ['u', 'l', 'l'], by simp, by decide⟩, fun rest fuel _ hf => ?_⟩
    obtain ⟨fuel, rfl⟩ : ∃ f, fuel = f + 1 := ⟨fuel - 1, by simp at hf; omega⟩
    have hword := (readWord_words rest).1
    simp only [String.reduceToList, List.cons_append, List.nil_append] at hword ⊢
    simp [readValue, hword]
  | .bool b, _ => by
    refine ⟨_, rfl, ?_, fun rest fuel _ hf => ?_⟩
    · cases b
      · exact ⟨'f', ['a', 'l', 's', 'e'], by simp, by decide⟩
      · exact ⟨'t', ['r', 'u', 'e'], by simp, by decide⟩
    · have hword := (readWord_words rest).2 b
      obtain ⟨fuel, rfl⟩ : ∃ f, fuel = f + 1 := ⟨fuel - 1, by cases b <;> simp at hf <;> omega⟩
      cases b <;> simp [readValue] at hword ⊢ <;> simp [hword]
  | .int n, h => by
    have hn : (natDigits n.natAbs).length ≤ Numeral.maxDigits := by
      simpa [Value.comesBack] using h
    refine ⟨intDigits n, ?_, begins_intDigits n, fun rest fuel hrest hf => ?_⟩
    · simp [write, Numeral.intText?, hn]
    · obtain ⟨c, cs, hcs, -⟩ := begins_intDigits n
      obtain ⟨fuel, rfl⟩ : ∃ f, fuel = f + 1 := ⟨fuel - 1, by simp [hcs] at hf; omega⟩
      exact readValue_intDigits hn hrest fuel
  | .text s, _ => by
    refine ⟨quote s, rfl, ⟨'"', _, rfl, by decide⟩, fun rest fuel _ hf => ?_⟩
    obtain ⟨fuel, rfl⟩ : ∃ f, fuel = f + 1 := ⟨fuel - 1, by simp [quote] at hf; omega⟩
    simp only [quote, List.cons_append, List.append_assoc, List.nil_append, readValue, if_true,
      readString_quote]
    simp [bind, Except.bind]
  | .list xs, h => by
    obtain ⟨ts, hts, hlength, hitems⟩ := readItems_write blank xs h
    refine ⟨'[' :: joinItems style ts ++ [']'], ?_, ⟨'[', _, rfl, by decide⟩, ?_⟩
    · simp [write, hts, bind, Except.bind]
    intro rest fuel _ hf
    obtain ⟨fuel, rfl⟩ : ∃ f, fuel = f + 1 := ⟨fuel - 1, by simp at hf; omega⟩
    simp only [List.cons_append, List.append_assoc, List.nil_append, readValue]
    cases xs with
    | nil =>
      obtain rfl : ts = [] := List.length_eq_zero_iff.1 hlength
      simp [joinItems, skip, isGap]
    | cons x xs =>
      obtain ⟨hbegins, hread⟩ := hitems (by simp)
      have hjoin := hread rest fuel (by simp at hf ⊢; omega)
      obtain ⟨c, cs, hcs, -, hbracket, -⟩ := id hbegins
      rw [skip_of_begins hbegins]
      simp only [hcs, List.cons_append] at hjoin ⊢
      simp [hbracket, hjoin, bind, Except.bind]
  | .object fs, h => by
    rw [Value.comesBack, Bool.and_eq_true, decide_eq_true_eq] at h
    obtain ⟨ts, hts, hlength, hfields⟩ := readFields_write blank fs h.2
    refine ⟨'\x7b' :: joinItems style ts ++ ['\x7d'], ?_, ⟨'\x7b', _, rfl, by decide⟩, ?_⟩
    · simp [write, hts, bind, Except.bind]
    intro rest fuel _ hf
    obtain ⟨fuel, rfl⟩ : ∃ f, fuel = f + 1 := ⟨fuel - 1, by simp at hf; omega⟩
    simp only [List.cons_append, List.append_assoc, List.nil_append, readValue]
    cases fs with
    | nil =>
      obtain rfl : ts = [] := List.length_eq_zero_iff.1 hlength
      simp [joinItems, skip, isGap]
    | cons f fs =>
      obtain ⟨hbegins, hread⟩ := hfields (by simp)
      have hjoin := hread [] rest fuel (by simpa using h.1) (by simp at hf ⊢; omega)
      obtain ⟨c, cs, hcs, -, -, hbrace, -⟩ := id hbegins
      rw [skip_of_begins hbegins]
      simp only [hcs, List.cons_append, List.nil_append] at hjoin ⊢
      simp [hbrace, hjoin, bind, Except.bind]
  | .float _, h => by simp [Value.comesBack] at h
  | .octets _ _, h => by simp [Value.comesBack] at h
  | .tuple _, h => by simp [Value.comesBack] at h

/-- The items of a list out of the text between its brackets. -/
theorem readItems_write (blank : style.Blank) : (xs : List Value) → Value.comeBack xs = true →
    ∃ ts, writeItems style xs = .ok ts ∧ ts.length = xs.length ∧
      (xs ≠ [] → Begins (joinItems style ts) ∧
        ∀ rest fuel, 2 * (joinItems style ts).length + 3 ≤ fuel →
          readItems Numeral.maxDigits fuel (joinItems style ts ++ ']' :: rest) = .ok (xs, rest))
  | [], _ => ⟨[], rfl, rfl, fun h => (h rfl).elim⟩
  | x :: xs, h => by
    rw [Value.comeBack, Bool.and_eq_true] at h
    obtain ⟨t, ht, hbegins, hvalue⟩ := readValue_write blank x h.1
    obtain ⟨ts, hts, hlength, hitems⟩ := readItems_write blank xs h.2
    refine ⟨t :: ts, ?_, by simp [hlength], fun _ => ⟨begins_join hbegins ts, ?_⟩⟩
    · simp [writeItems, ht, hts, bind, Except.bind]
    intro rest fuel hf
    obtain ⟨fuel, rfl⟩ : ∃ f, fuel = f + 1 := ⟨fuel - 1, by omega⟩
    cases xs with
    | nil =>
      obtain rfl : ts = [] := List.length_eq_zero_iff.1 hlength
      -- The last item is followed by the closing bracket.
      have hends : Ends (']' :: rest) := by simp [Ends]
      have hlast := hvalue (']' :: rest) fuel hends (by simp only [joinItems] at hf; omega)
      simp only [joinItems, readItems, hlast]
      simp [bind, Except.bind, skip_cons (c := ']') rfl]
    | cons y ys =>
      obtain ⟨u, us, rfl⟩ : ∃ u us, ts = u :: us :=
        List.exists_cons_of_ne_nil (by rintro rfl; cases hlength)
      obtain ⟨hbegins', hread⟩ := hitems (by simp)
      -- Every other item is followed by a comma, blanks, and the items behind it.
      have hsize : (joinItems style (t :: u :: us)).length =
          t.length + (style.afterComma.length + 1) + (joinItems style (u :: us)).length := by
        simp [joinItems]
        omega
      have hends : Ends
          (',' :: (style.afterComma ++ (joinItems style (u :: us) ++ ']' :: rest))) := by
        simp [Ends]
      have hfirst := hvalue _ fuel hends (by omega)
      have hothers := hread rest fuel (by omega)
      simp only [joinItems, List.append_assoc, List.cons_append, readItems, hfirst]
      simp only [bind, Except.bind, skip_cons (c := ',') rfl, skip_append blank.comma hbegins',
        hothers]

/-- The fields of an object out of the text between its braces. -/
theorem readFields_write (blank : style.Blank) : (fs : List (String × Value)) →
    Value.haveComeBack fs = true →
    ∃ ts, writeFields style fs = .ok ts ∧ ts.length = fs.length ∧
      (fs ≠ [] → Begins (joinItems style ts) ∧
        ∀ before rest fuel, ((before ++ fs).map (·.1)).Nodup →
          2 * (joinItems style ts).length + 3 ≤ fuel →
            readFields Numeral.maxDigits fuel before (joinItems style ts ++ '\x7d' :: rest) =
              .ok (before ++ fs, rest))
  | [], _ => ⟨[], rfl, rfl, fun h => (h rfl).elim⟩
  | (k, v) :: fs, h => by
    rw [Value.haveComeBack, Bool.and_eq_true] at h
    obtain ⟨t, ht, hbegins, hvalue⟩ := readValue_write blank v h.1
    obtain ⟨ts, hts, hlength, hfields⟩ := readFields_write blank fs h.2
    have hname : Begins (quote k ++ ':' :: style.afterColon ++ t) := ⟨'"', _, rfl, by decide⟩
    refine ⟨(quote k ++ ':' :: style.afterColon ++ t) :: ts, ?_, by simp [hlength],
      fun _ => ⟨begins_join hname ts, ?_⟩⟩
    · simp [writeFields, ht, hts, bind, Except.bind]
    intro before rest fuel hdistinct hf
    obtain ⟨fuel, rfl⟩ : ∃ f, fuel = f + 1 := ⟨fuel - 1, by omega⟩
    have hnew : k ∉ before.map (·.1) := by
      rw [List.map_append, List.map_cons, List.nodup_append] at hdistinct
      exact fun hk => hdistinct.2.2 k hk k List.mem_cons_self rfl
    cases fs with
    | nil =>
      obtain rfl : ts = [] := List.length_eq_zero_iff.1 hlength
      have hends : Ends ('\x7d' :: rest) := by simp [Ends]
      have hlast := hvalue ('\x7d' :: rest) fuel hends (by simp [joinItems] at hf; omega)
      rw [joinItems, readFields_field blank hbegins hlast hnew, skip_cons rfl]
      rfl
    | cons g gs =>
      obtain ⟨u, us, rfl⟩ : ∃ u us, ts = u :: us :=
        List.exists_cons_of_ne_nil (by rintro rfl; cases hlength)
      obtain ⟨hbegins', hread⟩ := hfields (by simp)
      have hsize : (joinItems style ((quote k ++ ':' :: style.afterColon ++ t) :: u :: us)).length =
          (quote k).length + (style.afterColon.length + 1) + t.length +
            (style.afterComma.length + 1) + (joinItems style (u :: us)).length := by
        simp [joinItems]
        omega
      -- The fields behind the comma are read on top of this one.
      have hsplit : joinItems style ((quote k ++ ':' :: style.afterColon ++ t) :: u :: us) ++
          '\x7d' :: rest = quote k ++ ':' :: style.afterColon ++ t ++
            ',' :: (style.afterComma ++ (joinItems style (u :: us) ++ '\x7d' :: rest)) := by
        simp only [joinItems, List.append_assoc, List.cons_append]
      have hfirst := hvalue (',' :: (style.afterComma ++ (joinItems style (u :: us) ++
        '\x7d' :: rest))) fuel (by simp [Ends]) (by omega)
      have hothers := hread (before ++ [(k, v)]) rest fuel (by simpa using hdistinct) (by omega)
      rw [hsplit, readFields_field blank hbegins hfirst hnew, skip_cons rfl]
      simp only [skip_append blank.comma hbegins', hothers, List.append_assoc,
        List.singleton_append]

end

/-- **A value out of a whole text.** -/
theorem exists_write (blank : style.Blank) {v : Value} (h : v.comesBack = true) :
    ∃ cs, write style v = .ok cs ∧ read (String.ofList cs) = .ok v ∧
      readMarked (String.ofList cs) = .ok v := by
  obtain ⟨cs, hcs, hbegins, hvalue⟩ := readValue_write blank v h
  have hread : read (String.ofList cs) = .ok v := by
    have hall := hvalue [] (2 * cs.length + 2) (by simp [Ends]) (by omega)
    have hskip := skip_of_begins hbegins []
    rw [List.append_nil] at hall hskip
    obtain ⟨c, cs', rfl, -, -, -, hmark⟩ := hbegins
    simp only [read, readWithin, String.toList_ofList, List.head?_cons, Option.some.injEq, hmark,
      if_false, hskip, hall]
    rfl
  refine ⟨cs, hcs, hread, ?_⟩
  obtain ⟨c, cs', rfl, -, -, -, hmark⟩ := hbegins
  rw [readMarked, String.toList_ofList]
  split
  · next heq => exact (hmark (List.cons.inj heq).1).elim
  · exact hread

/-- A text is read as the value that it was written from. -/
theorem read_of_write (blank : style.Blank) {v : Value} (h : v.comesBack = true) {text : String}
    (written : (write style v).toOption = some text.toList) :
    read text = .ok v ∧ readMarked text = .ok v := by
  obtain ⟨cs, hcs, hread⟩ := exists_write blank h
  rw [hcs] at written
  obtain rfl := Option.some.inj written
  rwa [String.ofList_toList] at hread

end Values

end Json
end Plunder
