import Mathlib.Data.List.TakeWhile
import Plunder.Proofs.Text.Digit

/-!
# The texts of whole numbers

Which texts are read as a whole number, and as which: digits of any script with single underscores
between them, a sign in front or none, white space around. There may be no more digits than a
conversion allows, and nothing else.

Main statements:
- `parseInt_eq_ok_iff`: a text is read as a whole number exactly when it spells it
- `parseInt_natDigits`: a whole number out of its own text
-/

namespace Plunder.Numeral

open Plunder.Text

/-! ## Definitions -/

/-- Digits of any script, with their values; between two of them there may be an underscore. -/
inductive Grouped : List Nat → List Char → Prop where
  | last {d : Nat} {c : Char} (digit : digitValue? c = some d) : Grouped [d] [c]
  | next {d : Nat} {c : Char} {ds : List Nat} {cs : List Char} (digit : digitValue? c = some d)
      (rest : Grouped ds cs) : Grouped (d :: ds) (c :: cs)
  | gap {d : Nat} {c : Char} {ds : List Nat} {cs : List Char} (digit : digitValue? c = some d)
      (rest : Grouped ds cs) : Grouped (d :: ds) (c :: '_' :: cs)

/-- What may stand in front of the digits, and whether it makes the number negative. -/
inductive Sign : Bool → List Char → Prop where
  | bare : Sign false []
  | plus : Sign false ['+']
  | minus : Sign true ['-']

/-- A whole number with these digits. -/
def ofDigits (negative : Bool) (ds : List Nat) : Int :=
  if negative then -(foldDigits ds : Int) else foldDigits ds

/-- Whether a text spells a whole number. -/
def SpellsInt (s : String) (n : Int) : Prop :=
  ∃ before sign body after negative ds, s.toList = before ++ (sign ++ (body ++ after)) ∧
    (∀ c ∈ before, isWhite c = true) ∧ Sign negative sign ∧ Grouped ds body ∧
      (∀ c ∈ after, isWhite c = true) ∧ ds.length ≤ maxDigits ∧ n = ofDigits negative ds

/-! ## Digits and underscores -/

theorem digitValue?_underscore : digitValue? '_' = none := by decide

namespace Grouped

variable {ds : List Nat} {body rest : List Char}

theorem ne_nil (h : Grouped ds body) : ds ≠ [] := by
  cases h <;> exact List.cons_ne_nil _ _

/-- There is a digit in front. -/
theorem exists_head (h : Grouped ds body) :
    ∃ c cs d, body = c :: cs ∧ digitValue? c = some d := by
  cases h with
  | last digit => exact ⟨_, _, _, rfl, digit⟩
  | next digit _ => exact ⟨_, _, _, rfl, digit⟩
  | gap digit _ => exact ⟨_, _, _, rfl, digit⟩

end Grouped

/-- Digits without underscores are a group. -/
theorem grouped_digits {ds : List Nat} (ne : ds ≠ []) (digits : ∀ d ∈ ds, d < 10) :
    Grouped ds (ds.map Nat.digitChar) := by
  induction ds with
  | nil => exact absurd rfl ne
  | cons d ds ih =>
    have hd := digitValue?_digitChar (digits d List.mem_cons_self)
    by_cases hds : ds = []
    · rw [hds]
      exact .last hd
    · exact .next hd (ih hds fun e he => digits e (List.mem_cons_of_mem d he))

theorem scanDigits_digit {c : Char} {d : Nat} (h : digitValue? c = some d) (afterDigit : Bool)
    (cs : List Char) : scanDigits digitValue? afterDigit (c :: cs) =
      (d :: (scanDigits digitValue? true cs).1, (scanDigits digitValue? true cs).2) := by
  simp only [scanDigits, h]

/-- An underscore must stand behind a digit and in front of one. -/
theorem scanDigits_underscore (afterDigit : Bool) (cs : List Char) :
    scanDigits digitValue? afterDigit ('_' :: cs) =
      ((scanDigits digitValue? false cs).1,
        (scanDigits digitValue? false cs).2.1 && afterDigit &&
          cs.head?.any (fun c => (digitValue? c).isSome),
        (scanDigits digitValue? false cs).2.2) := by
  cases cs <;> simp [scanDigits, digitValue?_underscore]

/-- Nothing is read of what begins with neither a digit nor an underscore. -/
theorem scanDigits_of_stop {rest : List Char}
    (stop : ∀ c ∈ rest.head?, digitValue? c = none ∧ c ≠ '_') (afterDigit : Bool) :
    scanDigits digitValue? afterDigit rest = ([], true, rest) := by
  cases rest with
  | nil => rfl
  | cons c rest =>
    obtain ⟨hvalue, hne⟩ := stop c rfl
    simp only [scanDigits, hvalue, hne, if_false]

/-- The digits of a group are read up to its end. -/
theorem Grouped.scanDigits_eq {ds : List Nat} {body rest : List Char} (h : Grouped ds body)
    (stop : ∀ c ∈ rest.head?, digitValue? c = none ∧ c ≠ '_') (afterDigit : Bool) :
    scanDigits digitValue? afterDigit (body ++ rest) = (ds, true, rest) := by
  induction h generalizing afterDigit with
  | last digit => rw [List.singleton_append, scanDigits_digit digit, scanDigits_of_stop stop]
  | next digit _ ih => rw [List.cons_append, scanDigits_digit digit, ih]
  | gap digit group ih =>
    -- The underscore stands between this digit and the first of the rest.
    obtain ⟨c, cs, d, hbody, hvalue⟩ := group.exists_head
    rw [List.cons_append, List.cons_append, scanDigits_digit digit, scanDigits_underscore, ih, hbody]
    simp [hvalue]

/-- What is read is nothing or a group, which may stand behind an underscore if there is a digit in
front of that. -/
theorem scanDigits_cases {afterDigit : Bool} {cs : List Char}
    (h : (scanDigits digitValue? afterDigit cs).2.1 = true) :
    ((scanDigits digitValue? afterDigit cs).1 = [] ∧
        (scanDigits digitValue? afterDigit cs).2.2 = cs) ∨
      ∃ body, Grouped (scanDigits digitValue? afterDigit cs).1 body ∧
        (cs = body ++ (scanDigits digitValue? afterDigit cs).2.2 ∨
          afterDigit = true ∧ cs = '_' :: (body ++ (scanDigits digitValue? afterDigit cs).2.2)) := by
  -- The induction is on the characters. Behind a digit the rest may begin with an underscore, behind
  -- an underscore it may not, so it is for both at once.
  induction cs generalizing afterDigit with
  | nil => exact .inl ⟨rfl, rfl⟩
  | cons c cs ih =>
    cases hvalue : digitValue? c with
    | some d =>
      rw [scanDigits_digit hvalue] at h ⊢
      right
      rcases ih h with ⟨hnone, hrest⟩ | ⟨body, group, hcs | ⟨-, hcs⟩⟩
      · refine ⟨[c], ?_, .inl (congrArg (c :: ·) hrest.symm)⟩
        rw [hnone]
        exact .last hvalue
      · exact ⟨c :: body, .next hvalue group, .inl (congrArg (c :: ·) hcs)⟩
      · exact ⟨c :: '_' :: body, .gap hvalue group, .inl (congrArg (c :: ·) hcs)⟩
    | none =>
      by_cases hunderscore : c = '_'
      · subst hunderscore
        rw [scanDigits_underscore] at h ⊢
        simp only [Bool.and_eq_true] at h
        obtain ⟨⟨hok, hafter⟩, hfollowed⟩ := h
        right
        rcases ih hok with ⟨hnone, -⟩ | ⟨body, group, hcs | ⟨hno, -⟩⟩
        · -- A digit follows the underscore, and it would have been read.
          cases cs with
          | nil => cases hfollowed
          | cons e es =>
            obtain ⟨d, hd⟩ := Option.isSome_iff_exists.1 hfollowed
            rw [scanDigits_digit hd] at hnone
            cases hnone
        · exact ⟨body, group, .inr ⟨hafter, congrArg ('_' :: ·) hcs⟩⟩
        · cases hno
      · have hstop : ∀ e ∈ (c :: cs).head?, digitValue? e = none ∧ e ≠ '_' := by
          rintro _ ⟨⟩
          exact ⟨hvalue, hunderscore⟩
        rw [scanDigits_of_stop hstop]
        exact .inl ⟨rfl, rfl⟩

/-! ## Signs -/

/-- The sign is split off from what begins with a digit. -/
theorem Sign.splitSign_eq {negative : Bool} {sign rest : List Char} (h : Sign negative sign)
    (digit : ∃ c cs d, rest = c :: cs ∧ digitValue? c = some d) :
    splitSign (sign ++ rest) = (negative, rest) := by
  cases h with
  | plus => rfl
  | minus => rfl
  | bare =>
    obtain ⟨c, cs, d, rfl, hvalue⟩ := digit
    have hminus : digitValue? '-' = none := by decide
    have hplus : digitValue? '+' = none := by decide
    rw [List.nil_append]
    unfold splitSign
    split <;> simp_all

theorem exists_sign (cs : List Char) :
    ∃ sign, Sign (splitSign cs).1 sign ∧ cs = sign ++ (splitSign cs).2 := by
  unfold splitSign
  split
  · exact ⟨['-'], .minus, rfl⟩
  · exact ⟨['+'], .plus, rfl⟩
  · exact ⟨[], .bare, rfl⟩

/-- A sign is no white space. -/
theorem Sign.isWhite_eq_false {negative : Bool} {sign : List Char} (h : Sign negative sign) :
    ∀ c ∈ sign, isWhite c = false := by
  cases h with
  | bare => exact List.forall_mem_nil _
  | plus => exact List.forall_mem_singleton.2 (by decide)
  | minus => exact List.forall_mem_singleton.2 (by decide)

/-! ## Whole numbers -/

/-- **A text is read as a whole number exactly when it spells it.** -/
theorem parseInt_eq_ok_iff {s : String} {n : Int} : parseInt s = .ok n ↔ SpellsInt s n := by
  constructor
  · -- Every check that is passed gives one part of the text.
    intro h
    obtain ⟨sign, hsign, hsplit⟩ := exists_sign (s.toList.dropWhile isWhite)
    rw [parseInt, parseIntWith] at h
    simp only at h
    split at h
    · cases h
    · next hread =>
      split at h
      · cases h
      · next hlength =>
        split at h
        · next hwhite =>
          simp only [Bool.or_eq_true, List.isEmpty_iff, Bool.not_eq_true', not_or,
            Bool.not_eq_false] at hread
          obtain ⟨hne, hok⟩ := hread
          rcases scanDigits_cases hok with ⟨hnone, -⟩ | ⟨body, group, hbody | ⟨hno, -⟩⟩
          · exact absurd hnone hne
          · refine ⟨s.toList.takeWhile isWhite, sign, body, _, _, _, ?_, ?_, hsign, group,
              List.all_eq_true.1 hwhite, Nat.le_of_not_lt hlength, (Except.ok.inj h).symm⟩
            · rw [← hbody, ← hsplit, List.takeWhile_append_dropWhile]
            · exact fun c hc => List.mem_takeWhile_imp hc
          · cases hno
        · cases h
  · rintro ⟨before, sign, body, after, negative, ds, hs, hbefore, hsign, group, hafter, hlength, rfl⟩
    have hhead : ∃ c cs d, body ++ after = c :: cs ∧ digitValue? c = some d := by
      obtain ⟨c, cs, d, rfl, hvalue⟩ := group.exists_head
      exact ⟨c, cs ++ after, d, rfl, hvalue⟩
    -- The white space in front ends at the sign, or at the first digit.
    have hdrop : s.toList.dropWhile isWhite = sign ++ (body ++ after) := by
      rw [hs, List.dropWhile_append_of_pos hbefore]
      obtain ⟨c, cs, d, hbody, hvalue⟩ := hhead
      have hsolid := hsign.isWhite_eq_false
      cases sign with
      | nil =>
        rw [List.nil_append, hbody]
        exact List.dropWhile_cons_of_neg (by simp [isWhite_of_digitValue? hvalue])
      | cons e es =>
        exact List.dropWhile_cons_of_neg (by simp [hsolid e List.mem_cons_self])
    have hstop : ∀ c ∈ after.head?, digitValue? c = none ∧ c ≠ '_' := by
      intro c hc
      have hwhite := hafter c (List.mem_of_mem_head? hc)
      constructor
      · cases hvalue : digitValue? c with
        | none => rfl
        | some d =>
          rw [isWhite_of_digitValue? hvalue] at hwhite
          cases hwhite
      · rintro rfl
        exact absurd hwhite (by decide)
    have hempty : ds.isEmpty = false := by simpa using group.ne_nil
    have hall : after.all isWhite = true := List.all_eq_true.2 hafter
    rw [parseInt, parseIntWith, hdrop, hsign.splitSign_eq hhead]
    simp only [group.scanDigits_eq hstop, hempty, Nat.not_lt.2 hlength, hall, if_true, if_false,
      Bool.not_true, Bool.or_self, Bool.false_eq_true]
    rfl

/-- **A whole number out of its own text**, as long as the text is no longer than a conversion may
be. -/
theorem parseInt_natDigits {n : Nat} (h : (natDigits n).length ≤ maxDigits) :
    parseInt (String.ofList (natDigits n)) = .ok (n : Int) := by
  obtain ⟨ds, hds, hlt, hval⟩ := spells_natDigits n
  have hne : ds ≠ [] := by
    rintro rfl
    exact natDigits_ne_nil n hds
  apply parseInt_eq_ok_iff.2
  refine ⟨[], [], natDigits n, [], false, ds, ?_, List.forall_mem_nil _, .bare, ?_,
    List.forall_mem_nil _, ?_, ?_⟩
  · simp
  · rw [hds]
    exact grouped_digits hne hlt
  · rwa [hds, List.length_map] at h
  · exact congrArg _ hval.symm

end Plunder.Numeral
